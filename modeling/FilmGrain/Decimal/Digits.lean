/-
**Binary numbers written with a given number of decimal digits.**

The digits are those of the exact value, rounded to the nearest, a tie going to the even last
digit.  Three layouts are built on them: scientific and positional, both with a given number of
places, and the shorter of the two at six significant digits.

Main definitions:

* `FilmGrain.Decimal.significant` — a number of significant digits and the order of the first;
* `Decimal.scientific`, `Decimal.positional`, `Decimal.general` — the layouts.
-/

import FilmGrain.Number.Arithmetic

set_option autoImplicit false

namespace FilmGrain

open Number

namespace Decimal

/-! ### Digits -/

/-- The first `n` digits of `x`, for `x` not negative, and the exponent of the power of ten that
the first of them stands for.  Rounding may carry into the next power of ten. -/
def significant (n : Nat) (x : Rat) : Nat × Int :=
  if x = 0 then (0, 0)
  else
    let order := decimalOrder x
    let digits := (nearest (x / (10 : Rat) ^ (order - n + 1))).toNat
    -- a run of nines may be rounded up to the next power of ten
    if digits = Nat.pow 10 n then (digits / 10, order + 1) else (digits, order)

/-- The decimal digits of a number, with zeros in front up to a given width. -/
def padded (width n : Nat) : List Char :=
  let digits := Nat.toDigits 10 n
  List.replicate (width - digits.length) '0' ++ digits

/-- Digits with a decimal point before the last `places` of them; no point if there are none. -/
def pointed (places : Nat) (digits : List Char) : String :=
  let whole := digits.take (digits.length - places)
  let rest := digits.drop (digits.length - places)
  String.ofList (if rest.isEmpty then whole else whole ++ '.' :: rest)

/-- An exponent with its sign and at least two digits. -/
def exponentMark (order : Int) : String :=
  (if order < 0 then "e-" else "e+") ++ String.ofList (padded 2 order.natAbs)

/-- A text behind the sign of a number. -/
def signed (negative : Bool) (text : String) : String :=
  if negative then "-" ++ text else text

/-! ### Layouts -/

variable {f : Format}

/-- Scientific notation with a given number of places after the point. -/
def scientific (places : Nat) : Binary f → String
  | .nan => "nan"
  | .infinite negative => signed negative "inf"
  | .finite negative p =>
      let (digits, order) := significant (places + 1) (f.magnitude p)
      signed negative (pointed places (padded (places + 1) digits) ++ exponentMark order)

/-- Positional notation with a given number of places after the point. -/
def positional (places : Nat) : Binary f → String
  | .nan => "nan"
  | .infinite negative => signed negative "inf"
  | .finite negative p =>
      let scaled := (nearest (f.magnitude p * (10 : Rat) ^ places)).toNat
      signed negative (pointed places (padded (places + 1) scaled))

/-- Digits without the zeros at their end; the first digit stays. -/
def trimmed (digits : List Char) : List Char :=
  match digits with
  | [] => []
  | first :: rest => first :: (rest.reverse.dropWhile (· == '0')).reverse

/-- Six significant digits without zeros at the end: positional where the first digit stands for a
power of ten from the minus fourth to the fifth, scientific elsewhere. -/
def general : Binary f → String
  | .nan => "nan"
  | .infinite negative => signed negative "inf"
  | .finite negative p =>
      let (digits, order) := significant 6 (f.magnitude p)
      let kept := trimmed (padded 6 digits)
      signed negative <|
        if order < -4 ∨ 6 ≤ order then
          pointed (kept.length - 1) kept ++ exponentMark order
        else if order < 0 then
          let zeros := List.replicate (-order).toNat '0'
          pointed (kept.length + (-order).toNat - 1) (zeros ++ kept)
        else
          let width := order.toNat + 1
          let filled := kept ++ List.replicate (width - kept.length) '0'
          pointed (filled.length - width) filled

end Decimal

end FilmGrain
