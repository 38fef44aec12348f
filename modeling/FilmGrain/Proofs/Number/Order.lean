/-
**The order of the numbers of a format.**

The numbers of a format are compared by their place in its order (`Binary.rank`).  Here the places
are related to the values: the value at a place (`Format.valueAt`) increases strictly, so finite
numbers compare as their values do, and a number whose place lies between those of two finite
numbers is finite and has a value between theirs.

Main definitions:

* `Format.valueAt` — the value at a place.

Main results:

* `Format.valueAt_strictMono` — **values increase with their place**;
* `Binary.le_iff`, `Binary.lt_iff` — comparing finite numbers is comparing their values;
* `Binary.rank_larger`, `Binary.rank_smaller` — maximum and minimum of defined numbers;
* `Binary.toRat_clip` — **a defined number cut off at two finite ones is between them**.
-/

import FilmGrain.Number.Integral
import FilmGrain.Proofs.Number.Rounding
import Mathlib.Data.Int.ConditionallyCompleteOrder

set_option autoImplicit false

namespace FilmGrain

namespace Number

namespace Format

variable (f : Format)

/-- The value at a place in the order of the format. -/
def valueAt (r : Int) : Rat := signed (decide (r < 0)) (f.magnitude r.natAbs)

theorem valueAt_of_nonneg {r : Int} (h : 0 ≤ r) : f.valueAt r = f.magnitude r.natAbs := by
  simp [valueAt, signed, not_lt.2 h]

theorem valueAt_neg (r : Int) : f.valueAt (-r) = -f.valueAt r := by
  rcases lt_trichotomy r 0 with h | rfl | h
  · simp [valueAt, signed, h, h.le]
  · simp [valueAt, signed]
  · simp [valueAt, signed, h, h.le]

/-- **Values increase with their place.** -/
theorem valueAt_strictMono : StrictMono f.valueAt := by
  refine strictMono_of_odd_strictMonoOn_nonneg f.valueAt_neg ?_
  intro r hr s hs h
  have hr : 0 ≤ r := hr
  have hs : 0 ≤ s := hs
  rw [f.valueAt_of_nonneg hr, f.valueAt_of_nonneg hs]
  exact f.magnitude_strictMono (by omega)

end Format

namespace Binary

variable {f : Format}

/-! ### Places and values -/

theorem toRat_eq_valueAt {x : Binary f} {r : Int} (hx : x.rank = some r) (hr : r.natAbs < f.count) :
    x.toRat = some (f.valueAt r) := by
  cases x with
  | nan => cases hx
  | infinite negative =>
      obtain rfl := Option.some.inj hx
      cases negative <;> simp at hr
  | finite negative p =>
      obtain rfl := Option.some.inj hx
      cases negative with
      | false => rw [toRat_finite, f.valueAt_of_nonneg (by simp)]; simp [signed]
      | true =>
          rw [toRat_finite, if_pos rfl, f.valueAt_neg, f.valueAt_of_nonneg (by simp)]
          simp [signed]

theorem exists_rank {x : Binary f} {v : Rat} (h : x.toRat = some v) :
    ∃ r, x.rank = some r ∧ r.natAbs < f.count ∧ f.valueAt r = v := by
  obtain ⟨negative, p, rfl, -⟩ := exists_of_toRat h
  have hr : (if negative then -(p.val : Int) else p.val).natAbs < f.count := by
    have := p.isLt
    cases negative <;> simp
  refine ⟨_, rfl, hr, ?_⟩
  have := toRat_eq_valueAt (x := finite negative p) rfl hr
  exact Option.some.inj (this.symm.trans h)

/-- A number with its place between those of two finite numbers has its value between theirs. -/
theorem toRat_of_between {lo x hi : Binary f} {a r b : Int} {v w : Rat} (hlo : lo.rank = some a)
    (hx : x.rank = some r) (hhi : hi.rank = some b) (hv : lo.toRat = some v)
    (hw : hi.toRat = some w) (har : a ≤ r) (hrb : r ≤ b) :
    ∃ u, x.toRat = some u ∧ v ≤ u ∧ u ≤ w := by
  obtain ⟨a', ha', hafin, rfl⟩ := exists_rank hv
  obtain ⟨b', hb', hbfin, rfl⟩ := exists_rank hw
  obtain rfl := Option.some.inj (hlo.symm.trans ha')
  obtain rfl := Option.some.inj (hhi.symm.trans hb')
  refine ⟨_, toRat_eq_valueAt hx (by omega), ?_, ?_⟩
  · exact f.valueAt_strictMono.monotone har
  · exact f.valueAt_strictMono.monotone hrb

theorem rank_le_iff {x y : Binary f} {a b : Int} {v w : Rat} (hx : x.rank = some a)
    (hy : y.rank = some b) (hv : x.toRat = some v) (hw : y.toRat = some w) : a ≤ b ↔ v ≤ w := by
  obtain ⟨a', ha', -, rfl⟩ := exists_rank hv
  obtain ⟨b', hb', -, rfl⟩ := exists_rank hw
  obtain rfl := Option.some.inj (hx.symm.trans ha')
  obtain rfl := Option.some.inj (hy.symm.trans hb')
  exact f.valueAt_strictMono.le_iff_le.symm

/-- **Finite numbers compare as their values do.** -/
theorem le_iff {x y : Binary f} {v w : Rat} (hv : x.toRat = some v) (hw : y.toRat = some w) :
    x.le y ↔ v ≤ w := by
  obtain ⟨a, ha, -, -⟩ := exists_rank hv
  obtain ⟨b, hb, -, -⟩ := exists_rank hw
  rw [← rank_le_iff ha hb hv hw, le, ha, hb]
  exact decide_eq_true_iff

theorem le_nan (x : Binary f) : x.le nan = false := by
  cases x <;> rfl

/-! ### Maximum and minimum -/

theorem exists_rank_of_ne_nan {x : Binary f} (h : x ≠ nan) : ∃ r, x.rank = some r :=
  Option.ne_none_iff_exists'.1 (mt (rank_eq_none x).1 h)

theorem isNaN_of_rank {x : Binary f} {r : Int} (h : x.rank = some r) : x.isNaN = false := by
  cases x with
  | nan => cases h
  | infinite negative => rfl
  | finite negative p => rfl

theorem lt_of_rank {x y : Binary f} {a b : Int} (hx : x.rank = some a) (hy : y.rank = some b) :
    x.lt y = decide (a < b) := by
  rw [lt, hx, hy]

/-- **The larger of two defined numbers.** -/
theorem rank_larger {x y : Binary f} {a b : Int} (hx : x.rank = some a) (hy : y.rank = some b) :
    (larger x y).rank = some (max a b) := by
  simp only [larger, isNaN_of_rank hx, isNaN_of_rank hy, lt_of_rank hx hy, lt_of_rank hy hx,
    decide_eq_true_eq, Bool.or_self, Bool.false_eq_true, if_false]
  rcases lt_trichotomy a b with h | rfl | h
  · rw [if_pos h, hy, max_eq_right h.le]
  · split_ifs <;> simp [hx, hy]
  · rw [if_neg h.not_gt, if_pos h, hx, max_eq_left h.le]

/-- **The smaller of two defined numbers.** -/
theorem rank_smaller {x y : Binary f} {a b : Int} (hx : x.rank = some a) (hy : y.rank = some b) :
    (smaller x y).rank = some (min a b) := by
  simp only [smaller, isNaN_of_rank hx, isNaN_of_rank hy, lt_of_rank hx hy, lt_of_rank hy hx,
    decide_eq_true_eq, Bool.or_self, Bool.false_eq_true, if_false]
  rcases lt_trichotomy a b with h | rfl | h
  · rw [if_pos h, hx, min_eq_left h.le]
  · split_ifs <;> simp [hx, hy]
  · rw [if_neg h.not_gt, if_pos h, hy, min_eq_right h.le]

/-- **A defined number cut off at two finite ones is between them.** -/
theorem toRat_clip {x lo hi : Binary f} {v w : Rat} (hx : x ≠ nan) (hlo : lo.toRat = some v)
    (hhi : hi.toRat = some w) (hvw : v ≤ w) :
    ∃ u, (smaller (larger x lo) hi).toRat = some u ∧ v ≤ u ∧ u ≤ w := by
  obtain ⟨r, hr⟩ := exists_rank_of_ne_nan hx
  obtain ⟨a, ha, -, -⟩ := exists_rank hlo
  obtain ⟨b, hb, -, -⟩ := exists_rank hhi
  have hab : a ≤ b := (rank_le_iff ha hb hlo hhi).2 hvw
  have hclip := rank_smaller (rank_larger hr ha) hb
  exact toRat_of_between ha hclip hb hlo hhi (by omega) (by omega)

/-! ### Integer parts -/

/-- The integer part of a number that is not negative. -/
theorem toInt?_of_nonneg {x : Binary f} {v : Rat} (hx : x.toRat = some v) (hv : 0 ≤ v) :
    x.toInt? = some ⌊v⌋ := by
  obtain ⟨negative, p, rfl, rfl⟩ := exists_of_toRat hx
  cases negative with
  | false => rfl
  | true =>
      -- the negative zero
      have hzero : f.magnitude p = 0 := by
        have := f.magnitude_nonneg p
        simp only [signed, if_true] at hv
        linarith
      change some (-⌊f.magnitude p⌋) = some ⌊-f.magnitude p⌋
      rw [hzero, neg_zero, Int.floor_zero, neg_zero]

end Binary

end Number

end FilmGrain
