/-
**The settings of the camera that is modelled.**

The settings are the size of the image in pixels, the exposure index of a camera with a sensor of
36 by 24 millimetres, and the transfer function of the image.  They are checked in this order, and
the first that is not valid is the one that is reported.  The report shows the value, so an integer
in it must be one that may be written.  The exposure index is a number of double precision; it is
kept as its exact value.

Main definitions:

* `FilmGrain.CameraSettings` — settings that have passed every check;
* `CameraSettings.check` — the checks, with `FilmGrain.SettingsError` for what they refuse;
* `CameraSettings.pixelArea`, `CameraSettings.midToneExposure` — the derived quantities.

Main results:

* `CameraSettings.check_eq_ok_iff` — what is accepted does not depend on the limit on integers;
* `CameraSettings.pixels_pos` — an image has at least one pixel.
-/

import FilmGrain.Number.Integral
import FilmGrain.Tone.TransferFunction

set_option autoImplicit false

namespace FilmGrain

open Number

/-! ### Faults -/

/-- One side of an image. -/
inductive Side where
  | width
  | height
deriving DecidableEq

/-- The name of a side. -/
def Side.name : Side → String
  | width => "width"
  | height => "height"

/-- Why settings are refused, or cannot be computed with. -/
inductive SettingsError where
  /-- A side is not a positive integer. -/
  | notPositiveInteger (side : Side) (given : Setting)
  /-- The exposure index is not a positive, finite number. -/
  | notPositiveNumber (given : Setting)
  /-- The transfer function is a value of another kind. -/
  | notTransferFunction (given : Setting)
  /-- An integer is beyond the numbers of double precision. -/
  | integerTooLarge
  /-- An integer in the message of another fault is too long to be written. -/
  | overlong (error : Overlong)
deriving DecidableEq

/-- The message of a fault. -/
def SettingsError.message : SettingsError → String
  | notPositiveInteger side given =>
      side.name ++ " must be a positive integer, got " ++ given.display
  | notPositiveNumber given => "iso_setting must be a positive number, got " ++ given.display
  | notTransferFunction given =>
      "transfer_function must be a TransferFunction, got " ++ given.kind
  | integerTooLarge => "int too large to convert to float"
  | overlong error => error.message

/-- The integers in the message of a fault. -/
def SettingsError.integers : SettingsError → List Int
  | notPositiveInteger _ given | notPositiveNumber given => given.integers
  | notTransferFunction _ | integerTooLarge | overlong _ => []

/-! ### Settings -/

/-- What is given in the place of a transfer function. -/
inductive GivenFunction where
  /-- A registered transfer function. -/
  | registered (function : TransferFunction)
  /-- A value of another kind. -/
  | other (value : Setting)
deriving DecidableEq

/-- Settings of the camera that are valid. -/
structure CameraSettings where
  /-- The width of the image in pixels. -/
  width : Nat
  /-- The height of the image in pixels. -/
  height : Nat
  /-- The exposure index, referred to a sensor of 36 by 24 millimetres. -/
  iso : Rat
  /-- The transfer function of the image. -/
  function : TransferFunction
  /-- The image has a column. -/
  width_pos : 0 < width
  /-- The image has a row. -/
  height_pos : 0 < height
  /-- The exposure index is positive. -/
  iso_pos : 0 < iso

namespace CameraSettings

/-- The side of an image, if the given value is a positive integer. -/
def checkSide (side : Side) (given : Setting) : Except SettingsError { n : Nat // 0 < n } :=
  match given with
  | .integer n =>
      if h : 0 < n.toNat then .ok ⟨n.toNat, h⟩ else .error (.notPositiveInteger side given)
  | _ => .error (.notPositiveInteger side given)

/-- A number of double precision as an exposure index, if it is finite and positive. -/
def checkPositive (given : Setting) (x : Double) : Except SettingsError { q : Rat // 0 < q } :=
  match x.toRat with
  | some q => if h : 0 < q then .ok ⟨q, h⟩ else .error (.notPositiveNumber given)
  | none => .error (.notPositiveNumber given)

/-- The exposure index, if the given value is a positive, finite number.  An integer is taken as the
nearest number of double precision, of which there must be one. -/
def checkIso (given : Setting) : Except SettingsError { q : Rat // 0 < q } :=
  match given with
  | .integer n =>
      -- a fault still shows the integer as it was given
      match (Binary.ofInt? n : Option Double) with
      | some x => checkPositive given x
      | none => .error .integerTooLarge
  | .real x => checkPositive given x
  | _ => .error (.notPositiveNumber given)

/-- The transfer function, if one is given. -/
def checkFunction : GivenFunction → Except SettingsError TransferFunction
  | .registered function => .ok function
  | .other value => .error (.notTransferFunction value)

/-- The settings, if every given value is valid; else the fault of the first that is not. -/
def checkAll (width height iso : Setting) (function : GivenFunction) :
    Except SettingsError CameraSettings := do
  let width ← checkSide .width width
  let height ← checkSide .height height
  let iso ← checkIso iso
  let function ← checkFunction function
  return ⟨width.val, height.val, iso.val, function, width.property, height.property, iso.property⟩

/-- **The settings, if every given value is valid**; else the fault of the first that is not, or the
refusal of an integer in its message. -/
def check (limit : DigitLimit) (width height iso : Setting) (function : GivenFunction) :
    Except SettingsError CameraSettings :=
  (checkAll width height iso function).mapError fun error =>
    limit.raised .overlong error.integers error

/-- Which settings are accepted does not depend on what may be written. -/
theorem check_eq_ok_iff {limit : DigitLimit} {width height iso : Setting}
    {function : GivenFunction} {s : CameraSettings} :
    check limit width height iso function = .ok s ↔ checkAll width height iso function = .ok s := by
  rw [check]
  cases checkAll width height iso function with
  | ok => rfl
  | error => exact iff_of_false nofun nofun

/-- The number of pixels of the image. -/
def pixels (s : CameraSettings) : Nat := s.width * s.height

/-- An image has at least one pixel. -/
theorem pixels_pos (s : CameraSettings) : 0 < s.pixels :=
  Nat.mul_pos s.width_pos s.height_pos

/-! ### Derived quantities -/

/-- The width of the sensor in micrometres. -/
def sensorWidth : Rat := 36000

/-- The height of the sensor in micrometres. -/
def sensorHeight : Rat := 24000

/-- The number of pixels in double precision, if it has one. -/
def pixelCount (s : CameraSettings) : Except SettingsError Double :=
  match (Binary.ofInt? s.pixels : Option Double) with
  | some count => .ok count
  | none => .error .integerTooLarge

/-- The area of one pixel of the image on the sensor, in square micrometres. -/
def pixelArea (s : CameraSettings) : Except SettingsError Double := do
  let count ← s.pixelCount
  return (Arith.const sensorWidth * Arith.const sensorHeight) / count

/-- The exposure of a mid-grey in the focal plane, in lux seconds. -/
def midToneExposure (s : CameraSettings) : Double := Arith.const 10 / Arith.const s.iso

end CameraSettings

end FilmGrain
