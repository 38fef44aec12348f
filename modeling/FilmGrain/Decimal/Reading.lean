/-
**Numbers read from text.**

White space around a number is ignored, its digits may be those of any script, and a single
underscore may stand between two digits.  An integer is a sign and digits, as many as the limit on
integers allows.  A real number has digits, a point and an exponent, or is one of the words for
infinity and the undefined number; it is rounded once, from its exact value, to double precision.

Main definitions:

* `Decimal.takeDigits` — the digits at the start of a text, and the rest;
* `Decimal.readInteger?`, `Decimal.readReal?` — the readers;
* `Decimal.nearestDouble` — a decimal rounded to double precision.
-/

import FilmGrain.Decimal.Limit
import FilmGrain.Number.Arithmetic
import FilmGrain.Text.Blank
import FilmGrain.Text.DecimalDigit

set_option autoImplicit false

namespace FilmGrain

open Number Text

namespace Decimal

/-! ### Digits -/

/-- Whether a text starts with a digit. -/
def startsWithDigit : List Char → Bool
  | [] => false
  | c :: _ => (digitValue? c).isSome

/-- The values of the digits at the start of a text, and the rest of it.  An underscore is passed
over after a digit and before another. -/
def takeDigits (afterDigit : Bool) : List Char → List Nat × List Char
  | [] => ([], [])
  | c :: rest =>
      match digitValue? c with
      | some digit =>
          let (digits, others) := takeDigits true rest
          (digit :: digits, others)
      | none =>
          if afterDigit && c == '_' && startsWithDigit rest then takeDigits false rest
          else ([], c :: rest)

/-- The number that digits stand for. -/
def ofDigits (digits : List Nat) : Nat := digits.foldl (fun n digit => 10 * n + digit) 0

/-- Whether a text begins with a minus sign, and the text without its sign. -/
def takeSign : List Char → Bool × List Char
  | '-' :: rest => (true, rest)
  | '+' :: rest => (false, rest)
  | text => (false, text)

/-! ### Integers -/

/-- **The integer that a text stands for**, if it has no more digits than the limit. -/
def readInteger? (limit : DigitLimit) (text : List Char) : Option Int :=
  let (negative, body) := takeSign (trim isLayout text)
  let (digits, rest) := takeDigits false body
  if digits.isEmpty || !rest.isEmpty || !limit.allows digits.length then none
  else some (if negative then -(ofDigits digits : Int) else ofDigits digits)

/-! ### Real numbers -/

/-- The number of double precision nearest to `digits * 10 ^ exponent`.  Outside of the orders of
magnitude of the format the power of ten is not computed. -/
def nearestDouble (negative : Bool) (digits : Nat) (exponent : Int) : Double :=
  let order : Int := digitCount digits + exponent
  -- the number is at least ten to the power `order - 1` and below ten to the power `order`
  if digits = 0 ∨ order < -330 then .zero negative
  else if 310 < order then .infinite negative
  else .round negative ((digits : Rat) * (10 : Rat) ^ exponent)

/-- The exponent at the end of a number: zero if there is none, nothing if it has no digits or is
followed by anything else. -/
def readExponent? (text : List Char) : Option Int :=
  match text with
  | [] => some 0
  | mark :: rest =>
      if mark = 'e' ∨ mark = 'E' then
        let (negative, body) := takeSign rest
        let (digits, others) := takeDigits false body
        if digits.isEmpty || !others.isEmpty then none
        else some (if negative then -(ofDigits digits : Int) else ofDigits digits)
      else none

/-- The number written by digits, a point and an exponent. -/
def readDigits? (negative : Bool) (text : List Char) : Option Double :=
  let (whole, rest) := takeDigits false text
  let (places, rest) :=
    match rest with
    | '.' :: others => takeDigits false others
    | _ => ([], rest)
  if whole.isEmpty && places.isEmpty then none
  else
    (readExponent? rest).map fun exponent =>
      nearestDouble negative (ofDigits (whole ++ places)) (exponent - places.length)

/-- **The number of double precision that a text stands for.** -/
def readReal? (text : List Char) : Option Double :=
  let (negative, body) := takeSign (trim isLayout text)
  let word := String.ofList (body.map Char.toLower)
  if word = "inf" ∨ word = "infinity" then some (.infinite negative)
  else if word = "nan" then some .nan
  else readDigits? negative body

end Decimal

end FilmGrain
