/-
**Rounding a half away from zero is exact.**

The rounding to an integer is built from an integer part, the difference from it, and a step by at
most one.  None of them rounds: a number of the format is whole, or its spacing is below one, and
then its integer part, the integer after that, and the difference from it all fit a significand.

Main definitions:

* `FilmGrain.Number.halfAway` — the nearest integer, a half going away from zero.

Main results:

* `Format.whole_or_short` — a magnitude is whole, or a significand with a spacing below one;
* `Binary.toRat_roundHalfAway` — **the rounding of a finite number is exact**;
* `Binary.roundHalfAway_infinite`, `Binary.roundHalfAway_ne_nan` — infinities are kept, and only the
  undefined number gives itself;
* `Binary.ofInt?_of_inRange`, `Binary.ofInt?_of_not_inRange` — the integers that have a number.
-/

import FilmGrain.Proofs.Number.Order

set_option autoImplicit false

namespace FilmGrain

namespace Number

/-! ### Halves -/

/-- The integer nearest to `x`; halfway between two integers, the one further from zero. -/
def halfAway (x : Rat) : Int := if x < 0 then -⌊-x + 1 / 2⌋ else ⌊x + 1 / 2⌋

theorem halfAway_of_nonneg {x : Rat} (h : 0 ≤ x) : halfAway x = ⌊x + 1 / 2⌋ :=
  if_neg (not_lt.2 h)

theorem halfAway_neg (x : Rat) : halfAway (-x) = -halfAway x := by
  have hzero : ⌊(0 : Rat) + 1 / 2⌋ = 0 := Int.floor_eq_iff.2 ⟨by norm_num, by norm_num⟩
  rcases lt_trichotomy x 0 with h | rfl | h
  · simp [halfAway, h, h.le]
  · simp only [halfAway, neg_zero, lt_irrefl, if_false, hzero]
  · simp [halfAway, h, h.le]

theorem halfAway_signed (negative : Bool) {m : Rat} (hm : 0 ≤ m) :
    (halfAway (signed negative m) : Rat) = signed negative ⌊m + 1 / 2⌋ := by
  cases negative with
  | false => rw [signed, if_neg Bool.false_ne_true, halfAway_of_nonneg hm]; rfl
  | true => rw [signed, if_pos rfl, halfAway_neg, halfAway_of_nonneg hm, Int.cast_neg]; rfl

theorem halfAway_natCast (n : Nat) : halfAway n = n := by
  rw [halfAway_of_nonneg (Nat.cast_nonneg n), Int.floor_eq_iff]
  push_cast
  constructor <;> linarith

/-- The rounding of numbers that are not negative keeps their order. -/
theorem halfAway_le {x y : Rat} (hx : 0 ≤ x) (h : x ≤ y) : halfAway x ≤ halfAway y := by
  rw [halfAway_of_nonneg hx, halfAway_of_nonneg (hx.trans h)]
  exact Int.floor_le_floor (by linarith)

/-- Numbers that are one apart are rounded to different integers. -/
theorem halfAway_lt {x y : Rat} (hx : 0 ≤ x) (h : x + 1 ≤ y) : halfAway x < halfAway y := by
  have hnext : halfAway (x + 1) = halfAway x + 1 := by
    rw [halfAway_of_nonneg hx, halfAway_of_nonneg (by linarith), add_right_comm, Int.floor_add_one]
  have := halfAway_le (by linarith : 0 ≤ x + 1) h
  omega

/-- The step from the integer part of a magnitude to the nearest integer. -/
def stepAway (m : Rat) : Rat := if 1 / 2 ≤ Int.fract m then 1 else 0

theorem stepAway_zero : stepAway 0 = 0 := by
  rw [stepAway, Int.fract_zero, if_neg (by norm_num)]

/-- A half is added exactly if the rest is not below it. -/
theorem floor_add_half (x : Rat) : ((⌊x + 1 / 2⌋ : Int) : Rat) = ⌊x⌋ + stepAway x := by
  have hsplit := Int.floor_add_fract x
  have hlow := Int.fract_nonneg x
  have hhigh := Int.fract_lt_one x
  rw [stepAway]
  split
  · have hfloor : ⌊x + 1 / 2⌋ = ⌊x⌋ + 1 := by
      rw [Int.floor_eq_iff]
      push_cast
      constructor <;> linarith
    rw [hfloor]
    push_cast
    rfl
  · have hfloor : ⌊x + 1 / 2⌋ = ⌊x⌋ := by
      rw [Int.floor_eq_iff]
      constructor <;> linarith
    rw [hfloor, add_zero]

/-! ### Whole numbers of a format -/

namespace Format

variable {f : Format}

/-- A magnitude is whole, or a significand with a spacing below one. -/
theorem whole_or_short (p : Nat) :
    (∃ n : Nat, f.magnitude p = n) ∨
      ∃ s e : Nat, s < 2 * f.binadeSize ∧ 0 < e ∧ f.minExponent ≤ -(e : Int) ∧
        f.magnitude p = s / (2 ^ e : Nat) := by
  obtain ⟨below, s, rfl, hs, hin⟩ := f.exists_binade p
  rw [f.magnitude_eq hin]
  rcases le_or_gt 0 (f.minExponent + below) with hwhole | hshort
  · obtain ⟨e, he⟩ := Int.eq_ofNat_of_zero_le hwhole
    refine Or.inl ⟨s * 2 ^ e, ?_⟩
    rw [he]
    push_cast
    rfl
  · obtain ⟨e, he⟩ := Int.eq_ofNat_of_zero_le (neg_nonneg.2 hshort.le)
    refine Or.inr ⟨s, e, hs, by omega, by omega, ?_⟩
    have hexp : f.minExponent + below = -(e : Int) := by omega
    rw [hexp, zpow_neg, zpow_natCast, div_eq_mul_inv]
    push_cast
    rfl

variable [f.HasUnits]

theorem represents_div {m e : Nat} (hm : m ≤ 2 * f.binadeSize) (he : f.minExponent ≤ -(e : Int)) :
    f.Represents (m / (2 ^ e : Nat)) := by
  have h := represents_dyadic hm he (by omega)
  rwa [zpow_neg, zpow_natCast, ← div_eq_mul_inv, ← Nat.cast_ofNat, ← Nat.cast_pow] at h

/-- **The integer part of a magnitude is a number of the format.** -/
theorem represents_floor (p : Fin f.count) : f.Represents ⌊f.magnitude p⌋ := by
  rcases whole_or_short (f := f) p with ⟨n, hn⟩ | ⟨s, e, hs, he, hmin, hval⟩
  · rw [hn, Int.floor_natCast, Int.cast_natCast]
    exact ⟨p, p.isLt, by rw [hn, Nat.abs_cast]⟩
  · rw [hval, Rat.floor_natCast_div_natCast]
    exact_mod_cast represents_natCast ((Nat.div_le_self s _).trans hs.le)

/-- **So is the rest.** -/
theorem represents_fract (p : Fin f.count) : f.Represents (Int.fract (f.magnitude p)) := by
  rcases whole_or_short (f := f) p with ⟨n, hn⟩ | ⟨s, e, hs, he, hmin, hval⟩
  · rw [hn, Int.fract_natCast]
    exact represents_zero
  · rw [hval, Int.fract_div_natCast_eq_div_natCast_mod]
    exact represents_div ((Nat.mod_le s _).trans hs.le) hmin

/-- **So is the next integer, if there is a rest.** -/
theorem represents_floor_add_one (p : Fin f.count) (h : Int.fract (f.magnitude p) ≠ 0) :
    f.Represents (⌊f.magnitude p⌋ + 1) := by
  rcases whole_or_short (f := f) p with ⟨n, hn⟩ | ⟨s, e, hs, he, hmin, hval⟩
  · rw [hn, Int.fract_natCast] at h
    exact absurd rfl h
  · rw [hval, Rat.floor_natCast_div_natCast]
    have hquot : s / 2 ^ e ≤ s / 2 ^ 1 :=
      Nat.div_le_div_left (Nat.pow_le_pow_right two_pos he) two_pos
    have hnext := represents_natCast (f := f) (n := s / 2 ^ e + 1) (by omega)
    exact_mod_cast hnext

/-- So is the integer that the step leads to. -/
theorem represents_floor_add_step (p : Fin f.count) :
    f.Represents (⌊f.magnitude p⌋ + stepAway (f.magnitude p)) := by
  rw [stepAway]
  split
  · exact represents_floor_add_one p (by linarith)
  · rw [add_zero]
    exact represents_floor p

end Format

/-! ### The rounding -/

namespace Binary

variable {f : Format}

theorem represents_signed (negative : Bool) {m : Rat} (h : f.Represents m) :
    f.Represents (signed negative m) := by
  obtain ⟨p, hp, hval⟩ := h
  refine ⟨p, hp, ?_⟩
  cases negative <;> simpa [signed] using hval

/-- A rounding that rounds nothing. -/
theorem toRat_round_of_represents {negative : Bool} {m : Rat} (hm : 0 ≤ m) (h : f.Represents m) :
    (round negative m : Binary f).toRat = some (signed negative m) := by
  rw [toRat_round hm h.inRange, Format.rounded_eq_self (represents_signed _ h)]

theorem infinite_add {y : Binary f} {v : Rat} (negative : Bool) (hy : y.toRat = some v) :
    (infinite negative).add y = infinite negative := by
  obtain ⟨b, q, rfl, -⟩ := exists_of_toRat hy
  rfl

variable [f.HasUnits]

theorem toRat_trunc (negative : Bool) (p : Fin f.count) :
    (trunc (finite negative p)).toRat = some (signed negative ⌊f.magnitude p⌋) := by
  have hfloor : (0 : Rat) ≤ ⌊f.magnitude p⌋ := by
    exact_mod_cast Int.floor_nonneg.2 (f.magnitude_nonneg p)
  exact toRat_round_of_represents hfloor (Format.represents_floor p)

/-- **The difference from the integer part is exact.** -/
theorem toRat_sub_trunc (negative : Bool) (p : Fin f.count) :
    ((finite negative p).sub (trunc (finite negative p))).toRat =
      some (signed negative (Int.fract (f.magnitude p))) := by
  have hdiff : signed negative (f.magnitude p) - signed negative ⌊f.magnitude p⌋ =
      signed negative (Int.fract (f.magnitude p)) := by
    cases negative
    · rfl
    · simp only [signed, if_true, Int.fract]
      ring
  have hrep := represents_signed negative (Format.represents_fract p)
  have hsub := toRat_sub (toRat_finite negative p) (toRat_trunc negative p)
    (hdiff ▸ hrep.inRange)
  rwa [hdiff, Format.rounded_eq_self hrep] at hsub

theorem toRat_rest (negative : Bool) (p : Fin f.count) :
    (abs ((finite negative p).sub (trunc (finite negative p)))).toRat =
      some (Int.fract (f.magnitude p)) := by
  rw [toRat_abs (toRat_sub_trunc negative p), abs_signed _ (Int.fract_nonneg _)]

theorem toRat_sign (negative : Bool) (p : Fin f.count) :
    (sign (finite negative p)).toRat =
      some (if f.magnitude p = 0 then 0 else signed negative 1) := by
  have hzero : p.val = 0 ↔ f.magnitude p = 0 := by
    rw [← f.magnitude_zero, f.magnitude_strictMono.injective.eq_iff]
  simp only [sign, hzero]
  split
  · exact toRat_zero false Format.represents_zero.inRange
  · exact toRat_round_of_represents zero_le_one Format.represents_one

/-- The step away from zero is taken exactly if the rest is not below a half. -/
theorem toRat_step (negative : Bool) (p : Fin f.count) :
    (if le (const (1 / 2)) (abs ((finite negative p).sub (trunc (finite negative p))))
      then round false 1 else zero false : Binary f).toRat = some (stepAway (f.magnitude p)) := by
  have hhalf : (const (1 / 2) : Binary f).toRat = some (1 / 2) :=
    toRat_const Format.represents_half Format.represents_half
  have hle := le_iff hhalf (toRat_rest negative p)
  rw [stepAway]
  by_cases hlarge : 1 / 2 ≤ Int.fract (f.magnitude p)
  · rw [if_pos (hle.2 hlarge), if_pos hlarge]
    exact toRat_round_of_represents zero_le_one Format.represents_one
  · rw [if_neg (mt hle.1 hlarge), if_neg hlarge]
    exact toRat_zero false Format.represents_zero.inRange

/-- The step gets the sign of the number; for zero there is none. -/
theorem toRat_signed_step {negative : Bool} {p : Fin f.count} {step : Binary f}
    (hstep : step.toRat = some (stepAway (f.magnitude p))) :
    ((sign (finite negative p)).mul step).toRat =
      some (signed negative (stepAway (f.magnitude p))) := by
  have hmove : (if f.magnitude p = 0 then 0 else signed negative 1) * stepAway (f.magnitude p) =
      signed negative (stepAway (f.magnitude p)) := by
    split
    · rename_i hzero
      rw [hzero, stepAway_zero]
      cases negative <;> simp [signed]
    · cases negative <;> simp [signed]
  have hrep := represents_signed negative (represents_of_toRat hstep)
  have hprod := toRat_mul (toRat_sign negative p) hstep (hmove ▸ hrep.inRange)
  rwa [hmove, Format.rounded_eq_self hrep] at hprod

/-- **Rounding a half away from zero is exact.** -/
theorem toRat_roundHalfAway {x : Binary f} {v : Rat} (hx : x.toRat = some v) :
    x.roundHalfAway.toRat = some (halfAway v : Rat) := by
  obtain ⟨negative, p, rfl, rfl⟩ := exists_of_toRat hx
  have hsum : signed negative (⌊f.magnitude p⌋ : Rat) + signed negative (stepAway (f.magnitude p)) =
      signed negative (⌊f.magnitude p⌋ + stepAway (f.magnitude p)) := by
    cases negative
    · rfl
    · simp only [signed, if_true]
      ring
  have hrep := represents_signed negative (Format.represents_floor_add_step p)
  have hadd := toRat_add (toRat_trunc negative p) (toRat_signed_step (toRat_step negative p))
    (hsum ▸ hrep.inRange)
  rw [hsum, Format.rounded_eq_self hrep] at hadd
  rw [halfAway_signed negative (f.magnitude_nonneg p), floor_add_half]
  exact hadd

/-- **Infinities are kept.** -/
theorem roundHalfAway_infinite (negative : Bool) :
    (infinite negative : Binary f).roundHalfAway = infinite negative := by
  have hrest : (infinite negative : Binary f).sub (infinite negative) = nan := by
    cases negative <;> rfl
  have hsign : (round negative 1 : Binary f).toRat = some (signed negative 1) :=
    toRat_round_of_represents zero_le_one Format.represents_one
  have hzero : (zero false : Binary f).toRat = some 0 := toRat_zero _ Format.represents_zero.inRange
  have hprod := toRat_mul hsign hzero (by simpa using Format.represents_zero.inRange)
  have hstep : le (const (1 / 2)) (abs ((infinite negative : Binary f).sub (infinite negative))) =
      false := by
    rw [hrest]
    exact le_nan _
  change (infinite negative).add ((round negative 1).mul (if le (const (1 / 2))
    (abs ((infinite negative).sub (infinite negative))) then round false 1 else zero false)) = _
  rw [hstep, if_neg Bool.false_ne_true]
  exact infinite_add negative hprod

/-- Only the undefined number is rounded to it. -/
theorem roundHalfAway_ne_nan {x : Binary f} (h : x ≠ nan) : x.roundHalfAway ≠ nan := by
  cases x with
  | nan => exact absurd rfl h
  | infinite negative =>
      rw [roundHalfAway_infinite]
      intro hnan
      cases hnan
  | finite negative p =>
      intro hnan
      have hval := toRat_roundHalfAway (toRat_finite negative p)
      rw [hnan] at hval
      cases hval

omit [f.HasUnits]

/-! ### Integers as numbers -/

/-- Only what is rounded to a finite number has one. -/
theorem isFinite_ofRat_iff {x : Rat} : (ofRat x : Binary f).isFinite ↔ f.InRange x := by
  rw [ofRat, round, ofPosition, rat_abs, Format.InRange]
  split
  · rename_i h
    exact iff_of_true rfl h
  · rename_i h
    exact iff_of_false Bool.false_ne_true h

theorem ofInt?_of_inRange {n : Int} (h : f.InRange n) :
    (ofInt? n : Option (Binary f)) = some (ofRat n) :=
  if_pos (isFinite_ofRat_iff.2 h)

theorem ofInt?_of_not_inRange {n : Int} (h : ¬ f.InRange n) :
    (ofInt? n : Option (Binary f)) = none :=
  if_neg (mt isFinite_ofRat_iff.1 h)

end Binary

end Number

end FilmGrain
