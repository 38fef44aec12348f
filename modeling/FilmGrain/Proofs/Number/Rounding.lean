/-
**Values of rounded operations.**

Each operation of a format is the exact result followed by one rounding (`Format.rounded`).  The
rounding keeps the order and the numbers of the format, so a result that lies between two of them is
finite and stays between them.  Most of what can be said about a computation follows from these two
facts, without a bound on the error of any step.

Main definitions:

* `Format.rounded` — the value a number is rounded to, were there no last magnitude;
* `Format.Represents`, `Format.InRange` — the numbers of a format, and those rounded to one;
* `Format.HasUnits` — formats with a half, and with the whole numbers that a significand holds.

Main results:

* `Format.rounded_mono`, `Format.rounded_eq_self` — **rounding keeps the order and the numbers of
  the format**;
* `Format.inRange_of_between`, `Format.rounded_between` — what lies between two of them stays there;
* `Binary.toRat_add`, `Binary.toRat_mul`, `Binary.toRat_div`, `Binary.toRat_convert` — **the rounded
  operations**.
-/

import FilmGrain.Number.Arithmetic
import FilmGrain.Proofs.Number.Magnitude
import Mathlib.Algebra.Order.Group.Abs
import Mathlib.Order.Monotone.Odd

set_option autoImplicit false

namespace FilmGrain

namespace Number

theorem rat_abs (x : Rat) : x.abs = |x| := by
  rcases le_total 0 x with h | h
  · rw [Rat.abs_of_nonneg h, abs_of_nonneg h]
  · rw [Rat.abs_of_nonpos h, abs_of_nonpos h]

/-- A magnitude with a sign. -/
def signed (negative : Bool) (m : Rat) : Rat := if negative then -m else m

theorem abs_signed (negative : Bool) {m : Rat} (hm : 0 ≤ m) : |signed negative m| = m := by
  cases negative <;> simp [signed, abs_of_nonneg hm]

theorem signed_mul (a b : Bool) (m n : Rat) :
    signed a m * signed b n = signed (a != b) (m * n) := by
  cases a <;> cases b <;> simp [signed]

theorem signed_div (a b : Bool) (m n : Rat) :
    signed a m / signed b n = signed (a != b) (m / n) := by
  cases a <;> cases b <;> simp [signed, neg_div, div_neg]

/-! ### The rounding of a format -/

namespace Format

variable (f : Format)

/-- The value that a number is rounded to, were there no last magnitude. -/
def rounded (x : Rat) : Rat := signed (decide (x < 0)) (f.magnitude (f.position |x|))

/-- A number is the value of a finite number of the format. -/
def Represents (x : Rat) : Prop := ∃ p < f.count, |x| = f.magnitude p

/-- A number is rounded to a finite number of the format. -/
def InRange (x : Rat) : Prop := f.position |x| < f.count

/-- A number of the format is at its own position. -/
theorem represents_iff {x : Rat} :
    f.Represents x ↔ f.position |x| < f.count ∧ |x| = f.magnitude (f.position |x|) := by
  constructor
  · rintro ⟨p, hlt, hp⟩
    rw [hp, position_magnitude]
    exact ⟨hlt, rfl⟩
  · rintro ⟨hlt, hx⟩
    exact ⟨_, hlt, hx⟩

instance (x : Rat) : Decidable (f.Represents x) := decidable_of_iff _ f.represents_iff.symm

theorem rounded_of_nonneg {x : Rat} (h : 0 ≤ x) : f.rounded x = f.magnitude (f.position x) := by
  simp [rounded, signed, not_lt.2 h, abs_of_nonneg h]

theorem rounded_neg (x : Rat) : f.rounded (-x) = -f.rounded x := by
  rcases lt_trichotomy x 0 with h | rfl | h
  · simp [rounded, signed, h, h.le]
  · simp [rounded, signed, position]
  · simp [rounded, signed, h, h.le]

theorem rounded_signed (negative : Bool) {m : Rat} (hm : 0 ≤ m) :
    f.rounded (signed negative m) = signed negative (f.magnitude (f.position m)) := by
  cases negative with
  | false => exact f.rounded_of_nonneg hm
  | true => rw [signed, if_pos rfl, rounded_neg, f.rounded_of_nonneg hm, signed, if_pos rfl]

/-- **Rounding keeps the order.** -/
theorem rounded_mono : Monotone f.rounded := by
  refine monotone_of_odd_of_monotoneOn_nonneg f.rounded_neg ?_
  intro x hx y hy h
  rw [f.rounded_of_nonneg hx, f.rounded_of_nonneg hy]
  exact f.magnitude_strictMono.monotone (f.position_mono hx h)

variable {f}

/-- **Numbers of the format are kept.** -/
theorem rounded_eq_self {x : Rat} (h : f.Represents x) : f.rounded x = x := by
  obtain ⟨p, -, hp⟩ := h
  rw [rounded, hp, position_magnitude, ← hp]
  rcases lt_or_ge x 0 with hx | hx
  · simp [signed, hx, abs_of_neg hx]
  · simp [signed, not_lt.2 hx, abs_of_nonneg hx]

theorem Represents.inRange {x : Rat} (h : f.Represents x) : f.InRange x := by
  obtain ⟨p, hlt, hp⟩ := h
  rwa [InRange, hp, position_magnitude]

theorem InRange.of_abs_le {x y : Rat} (hy : f.InRange y) (h : |x| ≤ |y|) : f.InRange x :=
  (f.position_mono (abs_nonneg x) h).trans_lt hy

theorem inRange_of_between {a x b : Rat} (ha : f.Represents a) (hb : f.Represents b) (hax : a ≤ x)
    (hxb : x ≤ b) : f.InRange x := by
  rcases le_total 0 x with h | h
  · exact hb.inRange.of_abs_le (abs_le_abs_of_nonneg h hxb)
  · exact ha.inRange.of_abs_le (abs_le_abs_of_nonpos h hax)

theorem rounded_between {a x b : Rat} (ha : f.Represents a) (hb : f.Represents b) (hax : a ≤ x)
    (hxb : x ≤ b) : a ≤ f.rounded x ∧ f.rounded x ≤ b := by
  have hleft := f.rounded_mono hax
  have hright := f.rounded_mono hxb
  rw [rounded_eq_self ha] at hleft
  rw [rounded_eq_self hb] at hright
  exact ⟨hleft, hright⟩

/-! ### Formats with units -/

/-- A format whose spacing is at most a half at first and at least one in the end. -/
class HasUnits (f : Format) : Prop where
  /-- A half is not below the least magnitude. -/
  half : f.minExponent ≤ -1
  /-- A binade with the spacing one, and the next, are finite. -/
  unit : 2 - f.minExponent < f.exponents

instance : HasUnits single := ⟨by decide, by decide⟩

instance : HasUnits double := ⟨by decide, by decide⟩

variable [f.HasUnits]

/-- **A significand over a power of two is a number of the format.** -/
theorem represents_dyadic {m : Nat} {e : Int} (hm : m ≤ 2 * f.binadeSize)
    (hlow : f.minExponent ≤ e) (hhigh : e ≤ 0) : f.Represents (m * (2 : Rat) ^ e) := by
  obtain ⟨below, hbelow⟩ := Int.eq_ofNat_of_zero_le (sub_nonneg.2 hlow)
  obtain ⟨p, hp, hval⟩ := f.exists_magnitude below hm
  have hexp : f.minExponent + below = e := by omega
  rw [hexp] at hval
  refine ⟨p, ?_, by rw [hval, abs_of_nonneg (by positivity)]⟩
  have hroom : below + 2 < f.exponents := by
    have := HasUnits.unit (f := f)
    omega
  have := f.binadeSize_pos
  rw [count]
  nlinarith

theorem represents_natCast {n : Nat} (h : n ≤ 2 * f.binadeSize) : f.Represents n := by
  have hmin := HasUnits.half (f := f)
  simpa using represents_dyadic (e := 0) h (by omega) (le_refl 0)

theorem represents_one : f.Represents 1 := by
  have := f.binadeSize_pos
  exact_mod_cast represents_natCast (n := 1) (by omega)

theorem represents_zero : f.Represents 0 := by
  exact_mod_cast represents_natCast (n := 0) (Nat.zero_le _)

theorem represents_half : f.Represents (1 / 2) := by
  have := f.binadeSize_pos
  have h := represents_dyadic (f := f) (m := 1) (e := -1) (by omega) HasUnits.half (by decide)
  simpa using h

end Format

/-! ### Values -/

namespace Binary

variable {f : Format}

theorem toRat_finite (negative : Bool) (p : Fin f.count) :
    (finite negative p).toRat = some (signed negative (f.magnitude p)) := rfl

/-- A number with a value is a sign and a magnitude. -/
theorem exists_of_toRat {x : Binary f} {v : Rat} (h : x.toRat = some v) :
    ∃ negative p, x = finite negative p ∧ v = signed negative (f.magnitude p) := by
  cases x with
  | nan => cases h
  | infinite negative => cases h
  | finite negative p => exact ⟨negative, p, rfl, (Option.some.inj h).symm⟩

/-- A positive number has the positive sign. -/
theorem exists_of_pos {x : Binary f} {v : Rat} (hx : x.toRat = some v) (hv : 0 < v) :
    ∃ p, x = finite false p ∧ f.magnitude p = v := by
  obtain ⟨negative, p, rfl, rfl⟩ := exists_of_toRat hx
  cases negative with
  | false => exact ⟨p, rfl, rfl⟩
  | true =>
      have := f.magnitude_nonneg p
      simp only [signed, if_true] at hv
      linarith

/-- The value of a finite number is one of its format. -/
theorem represents_of_toRat {x : Binary f} {v : Rat} (h : x.toRat = some v) : f.Represents v := by
  obtain ⟨negative, p, -, rfl⟩ := exists_of_toRat h
  exact ⟨p, p.isLt, abs_signed _ (f.magnitude_nonneg p)⟩

theorem isFinite_iff {x : Binary f} : x.isFinite ↔ ∃ v, x.toRat = some v := by
  cases x <;> simp [isFinite, toRat]

/-- **A rounding to a number with a sign.** -/
theorem toRat_round {negative : Bool} {m : Rat} (hm : 0 ≤ m) (h : f.InRange m) :
    (round negative m : Binary f).toRat = some (f.rounded (signed negative m)) := by
  rw [Format.InRange, abs_of_nonneg hm] at h
  rw [round, ofPosition, dif_pos h, toRat_finite, f.rounded_signed _ hm]

/-- **A rounding.** -/
theorem toRat_ofRat {x : Rat} (h : f.InRange x) :
    (ofRat x : Binary f).toRat = some (f.rounded x) := by
  have habs : f.InRange |x| := by rwa [Format.InRange, abs_abs]
  rw [ofRat, rat_abs, toRat_round (abs_nonneg x) habs]
  rcases lt_or_ge x 0 with hx | hx
  · simp [signed, hx, abs_of_neg hx]
  · simp [signed, not_lt.2 hx, abs_of_nonneg hx]

/-- **A rounding between two numbers of the format stays between them.** -/
theorem exists_toRat_between {z : Binary f} {a u b : Rat}
    (hz : f.InRange u → z.toRat = some (f.rounded u)) (ha : f.Represents a) (hb : f.Represents b)
    (hau : a ≤ u) (hub : u ≤ b) : ∃ r, z.toRat = some r ∧ a ≤ r ∧ r ≤ b :=
  ⟨_, hz (Format.inRange_of_between ha hb hau hub), Format.rounded_between ha hb hau hub⟩

theorem round_ne_nan (negative : Bool) (m : Rat) : (round negative m : Binary f) ≠ nan := by
  unfold round ofPosition
  split <;> exact nofun

theorem toRat_zero (negative : Bool) (h : f.InRange 0) :
    (zero negative : Binary f).toRat = some 0 := by
  have hcount : 0 < f.count := by simpa [Format.InRange, Format.position] using h
  simp [zero, ofPosition, hcount, toRat]

/-- **A conversion.** -/
theorem toRat_convert {g : Format} {x : Binary f} {v : Rat} (hx : x.toRat = some v)
    (h : g.InRange v) : (convert x : Binary g).toRat = some (g.rounded v) := by
  obtain ⟨negative, p, rfl, rfl⟩ := exists_of_toRat hx
  refine toRat_round (f.magnitude_nonneg p) ?_
  rwa [Format.InRange, abs_signed _ (f.magnitude_nonneg p),
    ← abs_of_nonneg (f.magnitude_nonneg p)] at h

/-- A written constant that both formats hold. -/
theorem toRat_const {x : Rat} (hdouble : Format.double.Represents x) (h : f.Represents x) :
    (const x : Binary f).toRat = some x := by
  have hread := toRat_ofRat hdouble.inRange
  rw [Format.rounded_eq_self hdouble] at hread
  rw [const, toRat_convert hread h.inRange, Format.rounded_eq_self h]

theorem toRat_neg {x : Binary f} {v : Rat} (hx : x.toRat = some v) : (neg x).toRat = some (-v) := by
  obtain ⟨negative, p, rfl, rfl⟩ := exists_of_toRat hx
  cases negative <;> simp [neg, toRat_finite, signed]

theorem toRat_abs {x : Binary f} {v : Rat} (hx : x.toRat = some v) : (abs x).toRat = some |v| := by
  obtain ⟨negative, p, rfl, rfl⟩ := exists_of_toRat hx
  rw [abs, toRat_finite, abs_signed _ (f.magnitude_nonneg p)]
  rfl

/-- **A sum.** -/
theorem toRat_add {x y : Binary f} {v w : Rat} (hx : x.toRat = some v) (hy : y.toRat = some w)
    (h : f.InRange (v + w)) : (x.add y).toRat = some (f.rounded (v + w)) := by
  obtain ⟨a, p, rfl, rfl⟩ := exists_of_toRat hx
  obtain ⟨b, q, rfl, rfl⟩ := exists_of_toRat hy
  rw [add]
  change (if signed a (f.magnitude p) + signed b (f.magnitude q) = 0 then zero (a && b)
    else ofRat (signed a (f.magnitude p) + signed b (f.magnitude q))).toRat = _
  split
  · rename_i hsum
    rw [hsum] at h ⊢
    rw [toRat_zero _ h]
    simp [Format.rounded, signed, Format.position]
  · exact toRat_ofRat h

/-- **A difference.** -/
theorem toRat_sub {x y : Binary f} {v w : Rat} (hx : x.toRat = some v) (hy : y.toRat = some w)
    (h : f.InRange (v - w)) : (x.sub y).toRat = some (f.rounded (v - w)) := by
  rw [sub_eq_add_neg] at h ⊢
  exact toRat_add hx (toRat_neg hy) h

/-- **A product.** -/
theorem toRat_mul {x y : Binary f} {v w : Rat} (hx : x.toRat = some v) (hy : y.toRat = some w)
    (h : f.InRange (v * w)) : (x.mul y).toRat = some (f.rounded (v * w)) := by
  obtain ⟨a, p, rfl, rfl⟩ := exists_of_toRat hx
  obtain ⟨b, q, rfl, rfl⟩ := exists_of_toRat hy
  have hprod : 0 ≤ f.magnitude p * f.magnitude q :=
    mul_nonneg (f.magnitude_nonneg p) (f.magnitude_nonneg q)
  rw [signed_mul] at h ⊢
  rw [Format.InRange, abs_signed _ hprod, ← abs_of_nonneg hprod] at h
  exact toRat_round hprod h

/-- A product of finite numbers is defined. -/
theorem mul_ne_nan {x y : Binary f} (hx : x.isFinite) (hy : y.isFinite) : x.mul y ≠ nan := by
  obtain ⟨v, hv⟩ := isFinite_iff.1 hx
  obtain ⟨w, hw⟩ := isFinite_iff.1 hy
  obtain ⟨a, p, rfl, -⟩ := exists_of_toRat hv
  obtain ⟨b, q, rfl, -⟩ := exists_of_toRat hw
  exact round_ne_nan _ _

/-- **A quotient.** -/
theorem toRat_div {x y : Binary f} {v w : Rat} (hx : x.toRat = some v) (hy : y.toRat = some w)
    (hw : w ≠ 0) (h : f.InRange (v / w)) : (x.div y).toRat = some (f.rounded (v / w)) := by
  obtain ⟨a, p, rfl, rfl⟩ := exists_of_toRat hx
  obtain ⟨b, q, rfl, rfl⟩ := exists_of_toRat hy
  have hquot : 0 ≤ f.magnitude p / f.magnitude q :=
    div_nonneg (f.magnitude_nonneg p) (f.magnitude_nonneg q)
  have hq : q.val ≠ 0 := by
    intro hzero
    rw [hzero, f.magnitude_zero] at hw
    cases b <;> simp [signed] at hw
  rw [signed_div] at h ⊢
  rw [Format.InRange, abs_signed _ hquot, ← abs_of_nonneg hquot] at h
  rw [div, if_neg hq]
  exact toRat_round hquot h

end Binary

end Number

end FilmGrain
