/-
**The arithmetic of a binary format is exact arithmetic with a rounding that keeps the order.**

The numbers of a format are rational numbers, infinities, and the undefined number, and so are among
the numbers of an ordered precision.  Its operations are the exact ones, each followed by the
rounding of the format.  For the rational operations that is how they are defined.  The square root
is computed on a grid (`Binary.rootOnGrid`), and the rounding of the real root is that of the number
found there.

The rounding is given on the rational numbers, and extended to the others by their order.  Nothing
is lost by this: what is not rational is neither a number of the format nor a midpoint between two.

Main definitions:

* `Format.rounding`, `Format.precision` — the rounding of a format, and its precision;
* `Binary.toExtended` — the numbers of a format as numbers of its precision.

Main results:

* `Format.rounding_sqrt` — **the square root is rounded as the number on the grid is**;
* `Binary.toExtended_add`, `Binary.toExtended_mul`, `Binary.toExtended_div`,
  `Binary.toExtended_sqrt`, `Binary.toExtended_larger`, `Binary.toExtended_const`,
  `Binary.toExtended_convert` — **the operations are those of the precision**;
* `Binary.le_toExtended_iff`, `Binary.toRat_of_toExtended` — the order and the values are, too.
-/

import FilmGrain.Proofs.Extended.Arithmetic
import FilmGrain.Proofs.Number.Root

set_option autoImplicit false

namespace FilmGrain

open Arith Extended

namespace Number

/-! ### The rounding -/

namespace Format

variable (f : Format)

/-- The value at a place; from the end of the finite ones on, an infinity. -/
noncomputable def extendedAt (r : Int) : EReal :=
  if (f.count : Int) ≤ r then ⊤ else if r ≤ -(f.count : Int) then ⊥ else real (f.valueAt r)

theorem extendedAt_mono : Monotone f.extendedAt := by
  intro r s h
  rcases le_or_gt (f.count : Int) s with hs | hs
  · rw [extendedAt, extendedAt, if_pos hs]
    exact le_top
  rcases le_or_gt r (-(f.count : Int)) with hr | hr
  · rw [extendedAt, if_neg (by omega), if_pos hr]
    exact bot_le
  · rw [extendedAt, extendedAt, if_neg (by omega), if_neg (by omega), if_neg (by omega),
      if_neg (by omega), real_le_iff]
    exact f.valueAt_strictMono.monotone h

/-- Among the places of a format the values are in the order of the places. -/
theorem extendedAt_le_iff {r s : Int} (hr : r.natAbs ≤ f.count) (hs : s.natAbs ≤ f.count)
    (hcount : 0 < f.count) : f.extendedAt r ≤ f.extendedAt s ↔ r ≤ s := by
  refine ⟨fun h => ?_, fun h => f.extendedAt_mono h⟩
  by_contra hlt
  refine absurd h (not_le.2 ?_)
  rw [extendedAt, if_neg (by omega)]
  split
  · rw [extendedAt]
    split_ifs
    · exact bot_lt_top
    · omega
    · exact EReal.bot_lt_coe _
  · rw [extendedAt]
    split_ifs
    · exact EReal.coe_lt_top _
    · omega
    · exact real_lt_iff.2 (f.valueAt_strictMono (not_le.1 hlt))

/-- **The rounding of a format** to the nearest of its numbers, beyond the last of which are the
infinities. -/
noncomputable def rounding : EReal →o EReal where
  toFun x := ⨆ (q : ℚ) (_ : real q ≤ x), f.extendedAt (f.place q)
  monotone' _ _ h := biSup_mono fun _ hq => hq.trans h

theorem rounding_real (q : ℚ) : f.rounding (real q) = f.extendedAt (f.place q) := by
  refine le_antisymm (iSup₂_le fun r hr => ?_) (le_iSup₂_of_le q le_rfl le_rfl)
  exact f.extendedAt_mono (f.place_mono (real_le_iff.1 hr))

@[simp] theorem rounding_bot : f.rounding ⊥ = ⊥ := by
  refine le_antisymm (iSup₂_le fun q hq => ?_) bot_le
  exact absurd (le_bot_iff.1 hq) (real_ne_bot q)

@[simp] theorem rounding_top : f.rounding ⊤ = ⊤ := by
  have hplace : f.place (f.magnitude f.count) = f.count := by
    rw [f.place_of_nonneg (f.magnitude_nonneg _), f.position_magnitude, min_self]
  refine le_antisymm le_top (le_iSup₂_of_le (f.magnitude f.count) le_top ?_)
  rw [hplace, extendedAt, if_pos le_rfl]

theorem rounding_infinity (negative : Bool) :
    f.rounding (infinity negative) = infinity negative := by
  cases negative
  · exact f.rounding_top
  · exact f.rounding_bot

variable {f}

/-- A number on a level is rounded as the rational numbers there. -/
theorem rounding_of_level {lo hi q : ℚ} (h : f.Level lo hi) (hlow : lo < q) (hhigh : q < hi)
    {x : ℝ} (hleft : lo < x) (hright : x < hi) : f.rounding x = f.extendedAt (f.place q) := by
  refine le_antisymm (iSup₂_le fun r hr => ?_) ?_
  · -- a number below the level is rounded no higher
    have hr' : (r : ℝ) ≤ x := EReal.coe_le_coe_iff.1 hr
    have hrhi : r < hi := by exact_mod_cast hr'.trans_lt hright
    have hmax : f.place (max r q) = f.place q :=
      h (lt_max_of_lt_right hlow) (max_lt hrhi hhigh) hlow hhigh
    rw [← hmax]
    exact f.extendedAt_mono (f.place_mono (le_max_left r q))
  · obtain ⟨r, hlor, hrx⟩ := exists_rat_btwn hleft
    have hr : f.place r = f.place q :=
      h (by exact_mod_cast hlor) (by exact_mod_cast hrx.trans hright) hlow hhigh
    rw [← hr]
    exact le_iSup₂_of_le r (EReal.coe_le_coe_iff.2 hrx.le) le_rfl

/-- **The square root is rounded as the number on the grid is.** -/
theorem rounding_sqrt {x : ℚ} (hx : 0 < x) :
    f.rounding (√(x : ℝ) : ℝ) = f.extendedAt (f.place (Binary.rootOnGrid f x)) := by
  rcases Binary.rootOnGrid_spec f hx with
    ⟨hnonneg, hsquare⟩ | ⟨lo, hi, hlevel, hlo, hhi, hnonneg, hleft, hright⟩
  · have hroot : √(x : ℝ) = (Binary.rootOnGrid f x : ℝ) := by
      rw [Real.sqrt_eq_iff_mul_self_eq (by exact_mod_cast hx.le) (by exact_mod_cast hnonneg)]
      exact_mod_cast hsquare.symm
    rw [hroot]
    exact f.rounding_real _
  · refine rounding_of_level hlevel hlo hhi ?_ ?_
    · rw [Real.lt_sqrt (by exact_mod_cast hnonneg), sq]
      exact_mod_cast hleft
    · rw [Real.sqrt_lt' (by exact_mod_cast hnonneg.trans_lt (hlo.trans hhi)), sq]
      exact_mod_cast hright

/-- The roundings of a format: constants are read in double precision. -/
noncomputable def precision (f : Format) : OrderedPrecision := ⟨double.rounding, f.rounding⟩

end Format

/-! ### Numbers -/

namespace Binary

variable {f g : Format}

/-- The extended real number that a number of a format is. -/
noncomputable def toExtended (x : Binary f) : Extended f.precision := x.rank.map f.extendedAt

theorem toExtended_of_rank {x : Binary f} {q : ℚ} (h : x.rank = some (f.place q)) :
    x.toExtended = of (f.rounding (real q)) := by
  rw [toExtended, h, f.rounding_real]
  rfl

theorem toExtended_of_toRat {x : Binary f} {v : ℚ} (h : x.toRat = some v) :
    x.toExtended = of (real v) := by
  obtain ⟨r, hr, hlt, rfl⟩ := exists_rank h
  rw [toExtended, hr]
  refine congrArg of ?_
  rw [Format.extendedAt, if_neg (by omega), if_neg (by omega)]

/-- Numbers of the format are kept by the rounding. -/
theorem rounding_of_toRat {x : Binary f} {v : ℚ} (h : x.toRat = some v) :
    f.rounding (real v) = real v :=
  Option.some.inj ((toExtended_of_rank (rank_of_toRat h)).symm.trans (toExtended_of_toRat h))

@[simp] theorem toExtended_nan : (nan : Binary f).toExtended = undefined := rfl

/-- A number is undefined, infinite or finite. -/
theorem nan_or_infinite_or_finite (x : Binary f) :
    x = nan ∨ (∃ a, x = infinite a) ∨ ∃ v, x.toRat = some v := by
  cases x with
  | nan => exact .inl rfl
  | infinite a => exact .inr (.inl ⟨a, rfl⟩)
  | finite a p => exact .inr (.inr ⟨_, toRat_finite a p⟩)

variable [f.HasUnits]

@[simp] theorem toExtended_infinite (negative : Bool) :
    (infinite negative : Binary f).toExtended = of (infinity negative) := by
  obtain ⟨p, hp, -⟩ := Format.represents_zero (f := f)
  refine congrArg of ?_
  cases negative with
  | false => exact if_pos le_rfl
  | true =>
      change f.extendedAt (-(f.count : Int)) = ⊥
      rw [Format.extendedAt, if_neg (by omega), if_pos le_rfl]

/-! ### The operations -/

omit [f.HasUnits] in
/-- The rounding keeps the infinities. -/
theorem map_infinity (a : Bool) :
    (some (infinity a)).map f.precision.working = (of (infinity a) : Extended f.precision) :=
  congrArg of (f.rounding_infinity a)

variable (x y : Binary f)

theorem toExtended_add : (x.add y).toExtended = x.toExtended + y.toExtended := by
  rcases nan_or_infinite_or_finite x with rfl | ⟨a, rfl⟩ | ⟨v, hv⟩
  · simp
  · rcases nan_or_infinite_or_finite y with rfl | ⟨b, rfl⟩ | ⟨w, hw⟩
    · simp
    · rw [toExtended_infinite, toExtended_infinite, of_add_of, sum_infinity_infinity, add]
      split
      · rw [toExtended_infinite, map_infinity]
      · rfl
    · rw [infinite_add a hw, toExtended_infinite, toExtended_of_toRat hw, of_add_of,
        sum_infinity_real, map_infinity]
  · rcases nan_or_infinite_or_finite y with rfl | ⟨b, rfl⟩ | ⟨w, hw⟩
    · simp
    · rw [add_infinite hv, toExtended_infinite, toExtended_of_toRat hv, of_add_of, sum_comm,
        sum_infinity_real, map_infinity]
    · rw [toExtended_of_rank (rank_add hv hw), toExtended_of_toRat hv, toExtended_of_toRat hw,
        of_add_of, sum_real_real]
      rfl

theorem toExtended_mul : (x.mul y).toExtended = x.toExtended * y.toExtended := by
  rcases nan_or_infinite_or_finite x with rfl | ⟨a, rfl⟩ | ⟨v, hv⟩
  · simp
  · rcases nan_or_infinite_or_finite y with rfl | ⟨b, rfl⟩ | ⟨w, hw⟩
    · simp
    · rw [toExtended_infinite, toExtended_infinite, of_mul_of, product_infinity_infinity, mul,
        toExtended_infinite, map_infinity]
    · rw [infinite_mul_eq a hw, toExtended_infinite, toExtended_of_toRat hw, of_mul_of,
        product_infinity_real]
      split
      · rfl
      · rw [toExtended_infinite, map_infinity]
  · rcases nan_or_infinite_or_finite y with rfl | ⟨b, rfl⟩ | ⟨w, hw⟩
    · simp
    · rw [mul_infinite_eq hv, toExtended_infinite, toExtended_of_toRat hv, of_mul_of, product_comm,
        product_infinity_real]
      split
      · rfl
      · rw [toExtended_infinite, map_infinity]
    · rw [toExtended_of_rank (rank_mul hv hw), toExtended_of_toRat hv, toExtended_of_toRat hw,
        of_mul_of, product_real_real]
      rfl

variable {y}

/-- The quotient by a finite number that is not zero. -/
theorem toExtended_div {w : ℚ} (hy : y.toRat = some w) (hw : w ≠ 0) :
    (x.div y).toExtended = x.toExtended / y.toExtended := by
  rw [toExtended_of_toRat hy]
  rcases nan_or_infinite_or_finite x with rfl | ⟨a, rfl⟩ | ⟨v, hv⟩
  · have hnan : (nan : Binary f).div y = nan := by cases y <;> rfl
    rw [hnan, toExtended_nan, undefined_div]
  · rw [infinite_div_eq a hy hw, toExtended_infinite, toExtended_infinite, of_div_of,
      quotient_infinity_real a hw, map_infinity]
  · rw [toExtended_of_rank (rank_div hv hy hw), toExtended_of_toRat hv, of_div_of,
      quotient_real_real v hw]
    rfl

theorem toExtended_sqrt : x.sqrt.toExtended = Arith.sqrt x.toExtended := by
  rcases nan_or_infinite_or_finite x with rfl | ⟨a, rfl⟩ | ⟨v, hv⟩
  · rfl
  · cases a with
    | false =>
        have hroot : Arith.sqrt (of ⊤ : Extended f.precision) = of ⊤ := by
          rw [sqrt_of le_top, root_top]
          exact congrArg of f.rounding_top
        rw [toExtended_infinite]
        exact (toExtended_infinite false).trans hroot.symm
    | true =>
        rw [toExtended_infinite]
        exact (if_pos EReal.bot_lt_zero).symm
  · rw [toExtended_of_toRat hv]
    rcases lt_trichotomy v 0 with hneg | rfl | hpos
    · rw [sqrt_eq_nan hv hneg]
      exact (if_pos (real_neg.2 hneg)).symm
    · rw [sqrt_eq_self hv, toExtended_of_toRat hv, sqrt_of (real_nonneg.2 le_rfl), real, root_coe,
        Rat.cast_zero, Real.sqrt_zero, ← Rat.cast_zero, ← real]
      exact congrArg of (rounding_of_toRat hv).symm
    · rw [toExtended, rank_sqrt hv hpos, sqrt_of (real_nonneg.2 hpos.le), real, root_coe]
      exact congrArg of (Format.rounding_sqrt hpos).symm

omit [f.HasUnits] in
theorem toExtended_larger (x y : Binary f) :
    (larger x y).toExtended = max x.toExtended y.toExtended := by
  by_cases hx : x = nan
  · rw [hx, toExtended_nan, undefined_max]
    rfl
  by_cases hy : y = nan
  · rw [hy, toExtended_nan, max_undefined]
    cases x <;> rfl
  obtain ⟨a, ha⟩ := exists_rank_of_ne_nan hx
  obtain ⟨b, hb⟩ := exists_rank_of_ne_nan hy
  rw [toExtended, toExtended, toExtended, rank_larger ha hb, ha, hb]
  exact congrArg of f.extendedAt_mono.map_max

theorem toExtended_convert [g.HasUnits] :
    (Binary.convert x : Binary g).toExtended = Extended.convert g.rounding x.toExtended := by
  rcases nan_or_infinite_or_finite x with rfl | ⟨a, rfl⟩ | ⟨v, hv⟩
  · rfl
  · change (infinite a : Binary g).toExtended = _
    rw [toExtended_infinite, toExtended_infinite]
    exact (map_infinity (f := g) a).symm
  · rw [toExtended_of_rank (rank_convert hv), toExtended_of_toRat hv]
    rfl

theorem toExtended_const (q : ℚ) :
    (Arith.const q : Binary f).toExtended = (Arith.const q : Extended f.precision) := by
  change (Binary.convert (ofRat q : Double) : Binary f).toExtended = _
  rw [toExtended_convert, toExtended_of_rank (rank_ofRat q)]
  rfl

theorem le_toExtended_iff {x y : Binary f} : Arith.le x.toExtended y.toExtended ↔ x.le y := by
  obtain ⟨p, hp, -⟩ := Format.represents_zero (f := f)
  have hplaces {a b : Int} (ha : x.rank = some a) (hb : y.rank = some b) :
      Arith.le x.toExtended y.toExtended ↔ a ≤ b := by
    rw [toExtended, toExtended, ha, hb]
    exact le_of_iff.trans
      (f.extendedAt_le_iff (natAbs_rank_le ha) (natAbs_rank_le hb) (Nat.zero_lt_of_lt hp))
  rw [le_iff_exists_rank]
  constructor
  · intro h
    obtain ⟨u, w, hu, hw, -⟩ := le_iff_exists.1 h
    obtain ⟨a, ha, -⟩ := Option.map_eq_some_iff.1 hu
    obtain ⟨b, hb, -⟩ := Option.map_eq_some_iff.1 hw
    exact ⟨a, b, ha, hb, (hplaces ha hb).1 h⟩
  · rintro ⟨a, b, ha, hb, h⟩
    exact (hplaces ha hb).2 h

/-- A number with the extended real number of a finite one has its value. -/
theorem toRat_of_toExtended {x : Binary f} {v : ℚ} (h : x.toExtended = of (real v)) :
    x.toRat = some v := by
  rcases nan_or_infinite_or_finite x with rfl | ⟨a, rfl⟩ | ⟨w, hw⟩
  · cases h
  · rw [toExtended_infinite] at h
    exact absurd (Option.some.inj h) (infinity_ne_real a v)
  · rw [toExtended_of_toRat hw] at h
    rw [hw, real_injective (Option.some.inj h)]

omit [f.HasUnits] in
/-- Numbers of the same value are the same, but for the sign of a zero. -/
theorem eq_of_toRat {x y : Binary f} {v : ℚ} (hx : x.toRat = some v) (hy : y.toRat = some v)
    (hv : v ≠ 0) : x = y := by
  obtain ⟨a, p, rfl, -, ha⟩ := exists_sign_of_toRat hx
  obtain ⟨b, q, rfl, -, hb⟩ := exists_sign_of_toRat hy
  obtain rfl : a = b := (ha hv).trans (hb hv).symm
  have hrank : (finite a p).rank = (finite a q).rank :=
    (rank_of_toRat hx).trans (rank_of_toRat hy).symm
  have hvalues : p.val = q.val := by
    cases a <;> simpa [rank] using hrank
  rw [Fin.ext hvalues]

end Binary

/-! ### Numbers that a precision holds -/

namespace Format

variable {f : Format} {q : ℚ}

/-- Numbers of the format are kept by its rounding. -/
theorem rounding_of_represents (h : f.Represents q) : f.rounding (real q) = real q := by
  have hq := Binary.toRat_ofRat h.inRange
  rw [rounded_eq_self h] at hq
  exact Binary.rounding_of_toRat hq

theorem holds_of_represents (hdouble : double.Represents q) (h : f.Represents q) :
    f.precision.Holds q :=
  ⟨rounding_of_represents hdouble, rounding_of_represents h⟩

end Format

end Number

end FilmGrain
