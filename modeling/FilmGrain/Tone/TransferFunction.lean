/-
**The registered transfer functions.**

A transfer function is one of the five curves that an image can be encoded with.  Each is known by
a name, by its code among the transfer characteristics that a video stream carries, and by the
mid-tone: the light, relative to the peak of the curve, that a correctly exposed mid-grey has.

A code is looked up by its numeric value, so that a real number or a truth value equal to a code
selects it.  A name is looked up without regard to white space around it and to case.  The error of
a code that is none shows the code, so an integer in it must be one that may be written.

Main definitions:

* `FilmGrain.Characteristic` — a code of the list of transfer characteristics;
* `FilmGrain.TransferFunction` — the registered curves, with `name`, `characteristic`, `midTone`
  and `curve`;
* `TransferFunction.ofCode`, `TransferFunction.ofName` — the two lookups, with
  `TransferFunction.LookupError` for what is not registered;
* `TransferFunction.ofSetting` — the lookup of a name that may be no text.

Main results:

* `TransferFunction.mem_all` — every transfer function is in the registry;
* `TransferFunction.name_injective` — **a name belongs to one transfer function**.
-/

import FilmGrain.Setting
import FilmGrain.Text.LowerCase
import FilmGrain.Tone.Curve

set_option autoImplicit false

namespace FilmGrain

/-! ### Characteristics -/

/-- A transfer characteristic, by its code. -/
abbrev Characteristic : Type := Fin 19

namespace Characteristic

/-- The labels of the characteristics in the order of their codes. -/
def labels : Vector String 19 := #v[
  "RESERVED_0", "BT_709", "UNSPECIFIED", "RESERVED_3", "BT_470_M", "BT_470_B_G", "BT_601",
  "SMPTE_240", "LINEAR", "LOG_100", "LOG_100_SQRT10", "IEC_61966", "BT_1361", "SRGB",
  "BT_2020_10_BIT", "BT_2020_12_BIT", "SMPTE_2084", "SMPTE_428", "HLG"]

/-- The label of a characteristic. -/
def label (c : Characteristic) : String := labels[c]

/-- All characteristics in the order of their codes. -/
def all : List Characteristic := List.finRange 19

/-- The characteristic whose code is the numeric value of a setting. -/
def ofSetting? (code : Setting) : Option Characteristic :=
  code.toRat?.bind fun value => all.find? fun c => decide ((c.val : Rat) = value)

end Characteristic

/-! ### Transfer functions -/

/-- A registered transfer function. -/
inductive TransferFunction where
  /-- The power law of exponent 2.2. -/
  | bt470m
  /-- The power law of exponent 2.8. -/
  | bt470bg
  /-- The curve of standard displays. -/
  | srgb
  /-- The perceptual quantizer. -/
  | smpte2084
  /-- Hybrid log-gamma. -/
  | hlg
deriving DecidableEq

namespace TransferFunction

/-- The registry, in the order of the codes. -/
def all : List TransferFunction := [bt470m, bt470bg, srgb, smpte2084, hlg]

theorem mem_all (t : TransferFunction) : t ∈ all := by
  cases t <;> decide

/-- The name that a transfer function is selected by. -/
def name : TransferFunction → String
  | bt470m => "bt470m"
  | bt470bg => "bt470bg"
  | srgb => "srgb"
  | smpte2084 => "smpte2084"
  | hlg => "hlg"

/-- **A name belongs to one transfer function.** -/
theorem name_injective {s t : TransferFunction} (h : s.name = t.name) : s = t := by
  revert h
  cases s <;> cases t <;> decide

/-- The characteristic of a transfer function. -/
def characteristic : TransferFunction → Characteristic
  | bt470m => 4
  | bt470bg => 5
  | srgb => 13
  | smpte2084 => 16
  | hlg => 18

/-- The light of the mid-tone, relative to the peak.  On displays of high dynamic range the
mid-tone is at 26 candela per square metre, of ten thousand and of one thousand at the peak. -/
def midTone : TransferFunction → Rat
  | bt470m => 0.18
  | bt470bg => 0.18
  | srgb => 0.18
  | smpte2084 => 26 / 10000
  | hlg => 26 / 1000

/-- The conversions of a transfer function. -/
def curve {α : Type} [Arith α] : TransferFunction → ToneCurve α
  | bt470m => .powerLaw 2.2
  | bt470bg => .powerLaw 2.8
  | srgb => .srgb
  | smpte2084 => .perceptualQuantizer
  | hlg => .hybridLogGamma

/-- The transfer function of images whose encoding is not stated. -/
def default : TransferFunction := srgb

/-! ### Lookup -/

/-- Why no transfer function was found. -/
inductive LookupError where
  /-- The code is not that of a characteristic. -/
  | unknownCode (code : Setting)
  /-- The characteristic has no registered curve. -/
  | notRegistered (characteristic : Characteristic)
  /-- The name is not registered. -/
  | unknownName (name : String)
  /-- What is given as a name is not a text. -/
  | notText (given : Setting)
  /-- An integer in the error is too long to be written. -/
  | overlong (error : Overlong)
deriving DecidableEq

/-- The names of the registry, as messages list them. -/
def nameList : String := ", ".intercalate (all.map fun t => Text.quoted t.name)

/-- The sentence that names what is registered. -/
def LookupError.available : String := "Available: [" ++ nameList ++ "]"

/-- The message of a failed lookup. -/
def LookupError.message : LookupError → String
  | unknownCode code => "unknown transfer characteristic " ++ code.display
  | notRegistered c =>
      "unimplemented transfer function " ++ c.label ++ " (" ++ toString c.val ++ "). " ++ available
  | unknownName name => "unknown transfer function '" ++ name ++ "'. " ++ available
  | notText given => "'" ++ given.kind ++ "' object has no attribute 'strip'"
  | overlong error => error.message

/-- **The transfer function of a code.** -/
def ofCode (limit : DigitLimit) (code : Setting) : Except LookupError TransferFunction :=
  match Characteristic.ofSetting? code with
  | none => .error (limit.raised .overlong code.integers (.unknownCode code))
  | some c =>
      match all.find? fun t => t.characteristic = c with
      | none => .error (.notRegistered c)
      | some t => .ok t

/-- A name without white space around it and in lower case. -/
def normalName (name : String) : List Char :=
  Text.lowerCase (Text.trim Text.isBlank name.toList)

/-- **The transfer function of a name.** -/
def ofName (name : String) : Except LookupError TransferFunction :=
  match all.find? fun t => t.name.toList = normalName name with
  | none => .error (.unknownName name)
  | some t => .ok t

/-- The transfer function of a value that is given as a name. -/
def ofSetting (given : Setting) : Except LookupError TransferFunction :=
  match given.toText? with
  | some name => ofName name
  | none => .error (.notText given)

end TransferFunction

end FilmGrain
