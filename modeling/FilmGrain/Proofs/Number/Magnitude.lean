/-
**Magnitudes and the rounding to them.**

The magnitudes of a format increase with their position, every position is the one its own magnitude
is rounded to, and the rounding keeps the order.  The three facts rest on one description of a
position: it counts the binades below, each with `binadeSize` significands, and adds a significand
of the binade it lies in (`Format.InBinade`, `Format.exists_binade`).  The significand just past a
binade is allowed there, because it is the first of the next one; that is why a carry needs no case
of its own.

Main definitions:

* `Format.InBinade` — a significand of a binade, or the one just past it.

Main results:

* `Number.nearest_mono`, `Number.binaryOrder_spec` — the two steps of a rounding;
* `Format.magnitude_strictMono` — **magnitudes increase with their position**;
* `Format.position_magnitude` — **a magnitude is rounded to itself**;
* `Format.position_mono` — **rounding keeps the order**;
* `Format.exists_magnitude` — which numbers are magnitudes.
-/

import FilmGrain.Number.Binary
import Mathlib.Data.Rat.Floor
import Mathlib.Algebra.Order.Field.Power
import Mathlib.Tactic.Positivity
import Mathlib.Tactic.Linarith
import Mathlib.Tactic.Ring

set_option autoImplicit false

namespace FilmGrain

namespace Number

/-! ### The nearest integer -/

/-- The nearest integer is the integer part or the next one. -/
theorem floor_le_nearest (x : Rat) : ⌊x⌋ ≤ nearest x := by
  have hparity := Int.emod_nonneg ⌊x⌋ (by decide : (2 : Int) ≠ 0)
  change x.floor ≤ nearest x
  change 0 ≤ x.floor % 2 at hparity
  simp only [nearest]
  split
  · exact le_refl _
  · split <;> omega

theorem nearest_le_floor_add_one (x : Rat) : nearest x ≤ ⌊x⌋ + 1 := by
  have hparity := Int.emod_lt_of_pos ⌊x⌋ (by decide : (0 : Int) < 2)
  change nearest x ≤ x.floor + 1
  change x.floor % 2 < 2 at hparity
  simp only [nearest]
  split
  · omega
  · split <;> omega

/-- **Rounding to an integer keeps the order.** -/
theorem nearest_mono {x y : Rat} (h : x ≤ y) : nearest x ≤ nearest y := by
  rcases (Int.floor_le_floor h).lt_or_eq with hlt | heq
  · calc nearest x ≤ ⌊x⌋ + 1 := nearest_le_floor_add_one x
      _ ≤ ⌊y⌋ := hlt
      _ ≤ nearest y := floor_le_nearest y
  · have hparity := Int.emod_nonneg ⌊y⌋ (by decide : (2 : Int) ≠ 0)
    have hparity' := Int.emod_lt_of_pos ⌊y⌋ (by decide : (0 : Int) < 2)
    change x.floor = y.floor at heq
    change 0 ≤ y.floor % 2 at hparity
    change y.floor % 2 < 2 at hparity'
    simp only [nearest, heq]
    have hrest : x - y.floor ≤ y - y.floor := by linarith
    by_cases hlow : y - y.floor < 1 / 2
    · rw [if_pos hlow, if_pos (by linarith)]
    · rw [if_neg hlow]
      by_cases hhigh : 1 / 2 < y - y.floor
      · rw [if_pos hhigh]
        split
        · omega
        · split <;> omega
      · rw [if_neg hhigh, if_neg (by linarith : ¬1 / 2 < x - y.floor)]
        split <;> omega

/-- An integer bound is kept. -/
theorem nearest_le {x : Rat} {n : Int} (h : x ≤ n) : nearest x ≤ n := by
  simpa using nearest_mono h

theorem le_nearest {x : Rat} {n : Int} (h : (n : Rat) ≤ x) : n ≤ nearest x := by
  simpa using nearest_mono h

/-! ### The order of magnitude -/

/-- **The order of magnitude.** -/
theorem binaryOrder_spec {x : Rat} (hx : 0 < x) :
    (2 : Rat) ^ binaryOrder x ≤ x ∧ x < (2 : Rat) ^ (binaryOrder x + 1) := by
  have hnum : x.num.natAbs ≠ 0 := by
    have := Rat.num_pos.2 hx
    omega
  have hnum_le := Nat.log2_self_le hnum
  have hnum_lt := Nat.lt_log2_self (n := x.num.natAbs)
  have hden_le := Nat.log2_self_le x.den_nz
  have hden_lt := Nat.lt_log2_self (n := x.den)
  have hden : (0 : Rat) < x.den := by exact_mod_cast x.den_pos
  have hval : x = (x.num.natAbs : Rat) / x.den := by
    have hcast : ((x.num.natAbs : Int) : Rat) = x.num := by
      rw [Int.natAbs_of_nonneg (Rat.num_pos.2 hx).le]
    calc x = x.num / x.den := (Rat.num_div_den x).symm
      _ = (x.num.natAbs : Rat) / x.den := by rw [← hcast]; rfl
  set a := x.num.natAbs.log2
  set b := x.den.log2
  have hlow : (2 : Rat) ^ ((a : Int) - b - 1) < x := by
    rw [hval, lt_div_iff₀ hden]
    calc (2 : Rat) ^ ((a : Int) - b - 1) * x.den
        < (2 : Rat) ^ ((a : Int) - b - 1) * (2 : Rat) ^ (b + 1) := by gcongr; exact_mod_cast hden_lt
      _ = (2 : Rat) ^ a := by
          rw [← zpow_natCast, ← zpow_add₀ two_ne_zero, ← zpow_natCast]; congr 1; push_cast; ring
      _ ≤ x.num.natAbs := by exact_mod_cast hnum_le
  have hhigh : x < (2 : Rat) ^ ((a : Int) - b + 1) := by
    rw [hval, div_lt_iff₀ hden]
    calc (x.num.natAbs : Rat) < (2 : Rat) ^ (a + 1) := by exact_mod_cast hnum_lt
      _ = (2 : Rat) ^ ((a : Int) - b + 1) * (2 : Rat) ^ b := by
          rw [← zpow_natCast, ← zpow_natCast, ← zpow_add₀ two_ne_zero]; congr 1; push_cast; ring
      _ ≤ (2 : Rat) ^ ((a : Int) - b + 1) * x.den := by gcongr; exact_mod_cast hden_le
  simp only [binaryOrder]
  split
  · rename_i hbelow
    refine ⟨hlow.le, ?_⟩
    rwa [sub_add_cancel]
  · rename_i habove
    exact ⟨not_lt.1 habove, hhigh⟩

theorem binaryOrder_eq {x : Rat} {k : Int} (hlow : (2 : Rat) ^ k ≤ x)
    (hhigh : x < (2 : Rat) ^ (k + 1)) : binaryOrder x = k := by
  have hx : 0 < x := lt_of_lt_of_le (by positivity) hlow
  obtain ⟨hle, hlt⟩ := binaryOrder_spec hx
  have habove : binaryOrder x < k + 1 := (zpow_lt_zpow_iff_right₀ one_lt_two).1 (hle.trans_lt hhigh)
  have hbelow : k < binaryOrder x + 1 := (zpow_lt_zpow_iff_right₀ one_lt_two).1 (hlow.trans_lt hlt)
  omega

theorem lt_binaryOrder {x : Rat} {k : Int} (hx : 0 < x) (h : x < (2 : Rat) ^ k) :
    binaryOrder x < k :=
  (zpow_lt_zpow_iff_right₀ one_lt_two).1 ((binaryOrder_spec hx).1.trans_lt h)

theorem binaryOrder_mono {x y : Rat} (hx : 0 < x) (h : x ≤ y) : binaryOrder x ≤ binaryOrder y := by
  have hlt := lt_binaryOrder hx (h.trans_lt (binaryOrder_spec (hx.trans_le h)).2)
  omega

/-! ### Positions -/

namespace Format

variable (f : Format)

theorem binadeSize_pos : 0 < f.binadeSize := Nat.two_pow_pos f.fractionBits

theorem binadeSize_cast : (f.binadeSize : Rat) = (2 : Rat) ^ (f.fractionBits : Int) := by
  rw [zpow_natCast]
  exact_mod_cast (rfl : f.binadeSize = 2 ^ f.fractionBits)

/-- The significand `s` is in the binade that lies above `below` others, or the first beyond it. -/
def InBinade (below s : Nat) : Prop := s ≤ 2 * f.binadeSize ∧ (below = 0 ∨ f.binadeSize ≤ s)

/-- **The magnitude at a position**, which counts the significands of the binades below. -/
theorem magnitude_eq {below s : Nat} (h : f.InBinade below s) :
    f.magnitude (below * f.binadeSize + s) = s * (2 : Rat) ^ (f.minExponent + below) := by
  obtain ⟨htop, hbottom⟩ := h
  have hpos := f.binadeSize_pos
  rw [magnitude]
  rcases lt_or_ge s f.binadeSize with hsmall | hlarge
  · -- only the subnormal significands are below the size of a binade
    obtain rfl : below = 0 := by omega
    have hquot : s / f.binadeSize = 0 := Nat.div_eq_of_lt hsmall
    simp [significand, exponent, hsmall, hquot]
  rcases htop.lt_or_eq with hinside | rfl
  · obtain ⟨t, rfl⟩ := Nat.exists_eq_add_of_le hlarge
    have ht : t < f.binadeSize := by omega
    have hsum : below * f.binadeSize + (f.binadeSize + t) = t + (below + 1) * f.binadeSize := by
      ring
    have hbig : ¬t + (below + 1) * f.binadeSize < f.binadeSize := by nlinarith
    have hquot : (t + (below + 1) * f.binadeSize) / f.binadeSize = below + 1 := by
      rw [Nat.add_mul_div_right _ _ hpos, Nat.div_eq_of_lt ht, Nat.zero_add]
    rw [hsum, significand, exponent, if_neg hbig, hquot, Nat.add_mul_mod_self_right,
      Nat.mod_eq_of_lt ht, Nat.add_sub_cancel]
  · have hsum : below * f.binadeSize + 2 * f.binadeSize = (below + 2) * f.binadeSize := by ring
    have hbig : ¬(below + 2) * f.binadeSize < f.binadeSize := by nlinarith
    have hquot : (below + 2) * f.binadeSize / f.binadeSize = below + 2 := Nat.mul_div_cancel _ hpos
    rw [hsum, significand, exponent, if_neg hbig, hquot, Nat.mul_mod_left, Nat.add_zero]
    have hexp : f.minExponent + ((below + 2 - 1 : Nat) : Int) = f.minExponent + below + 1 := by
      omega
    rw [hexp, zpow_add_one₀ two_ne_zero]
    push_cast
    ring

/-- Every position counts the binades below and a significand short of the next binade. -/
theorem exists_binade (p : Nat) :
    ∃ below s, p = below * f.binadeSize + s ∧ s < 2 * f.binadeSize ∧ f.InBinade below s := by
  have hpos := f.binadeSize_pos
  rcases lt_or_ge p f.binadeSize with hsmall | hlarge
  · exact ⟨0, p, by simp, by omega, by omega, Or.inl rfl⟩
  · have hmod := Nat.mod_lt p hpos
    have hdiv := Nat.div_add_mod p f.binadeSize
    have hone : 1 ≤ p / f.binadeSize := (Nat.one_le_div_iff hpos).2 hlarge
    obtain ⟨below, hbelow⟩ := Nat.exists_eq_add_of_le' hone
    refine ⟨below, f.binadeSize + p % f.binadeSize, ?_, by omega, by omega, Or.inr (by omega)⟩
    rw [hbelow] at hdiv
    linarith

/-- **Magnitudes increase with their position.** -/
theorem magnitude_strictMono : StrictMono f.magnitude := by
  refine strictMono_nat_of_lt_succ fun p => ?_
  obtain ⟨below, s, rfl, hlt, hin⟩ := f.exists_binade p
  have hnext : f.InBinade below (s + 1) := ⟨hlt, hin.2.imp_right (by omega)⟩
  rw [add_assoc, f.magnitude_eq hin, f.magnitude_eq hnext]
  gcongr
  exact Nat.lt_succ_self s

@[simp] theorem magnitude_zero : f.magnitude 0 = 0 := by
  simp [magnitude, significand, f.binadeSize_pos]

theorem magnitude_nonneg (p : Nat) : 0 ≤ f.magnitude p := by
  rw [← f.magnitude_zero]
  exact f.magnitude_strictMono.monotone (Nat.zero_le p)

/-! ### The position of a number -/

/-- A positive number scaled to the spacing of its binade. -/
theorem scaled_spec {x : Rat} (hx : 0 < x) :
    x / (2 : Rat) ^ (f.minExponent + f.binadesBelow x) < 2 * f.binadeSize ∧
      (f.binadesBelow x = 0 ∨
        (f.binadeSize : Rat) ≤ x / (2 : Rat) ^ (f.minExponent + f.binadesBelow x)) := by
  obtain ⟨hle, hlt⟩ := binaryOrder_spec hx
  have hunit : (0 : Rat) < (2 : Rat) ^ (f.minExponent + f.binadesBelow x) := by positivity
  constructor
  · rw [div_lt_iff₀ hunit, f.binadeSize_cast, mul_assoc, ← zpow_add₀ two_ne_zero,
      ← zpow_one_add₀ two_ne_zero]
    refine hlt.trans_le (zpow_le_zpow_right₀ one_le_two ?_)
    rw [binadesBelow]
    omega
  · rcases Nat.eq_zero_or_pos (f.binadesBelow x) with hzero | hpos
    · exact Or.inl hzero
    · right
      rw [le_div_iff₀ hunit, f.binadeSize_cast, ← zpow_add₀ two_ne_zero]
      refine (zpow_le_zpow_right₀ one_le_two ?_).trans hle
      rw [binadesBelow] at hpos ⊢
      omega

/-- The position of a positive number: the binades below, and a significand. -/
theorem position_eq {x : Rat} (hx : 0 < x) :
    ∃ s : Nat, f.InBinade (f.binadesBelow x) s ∧
      (s : Int) = nearest (x / (2 : Rat) ^ (f.minExponent + f.binadesBelow x)) ∧
      f.position x = f.binadesBelow x * f.binadeSize + s := by
  obtain ⟨htop, hbottom⟩ := f.scaled_spec hx
  have hnonneg : 0 ≤ nearest (x / (2 : Rat) ^ (f.minExponent + f.binadesBelow x)) :=
    le_nearest (by push_cast; positivity)
  refine ⟨_, ⟨?_, ?_⟩, Int.toNat_of_nonneg hnonneg, by rw [position, if_neg hx.ne']⟩
  · have hle := nearest_le (n := 2 * f.binadeSize) (by push_cast; exact htop.le)
    omega
  · refine hbottom.imp_right fun hlarge => ?_
    have hge := le_nearest (n := f.binadeSize) (by exact_mod_cast hlarge)
    omega

/-- A significand without its leading one is below the first binade of its spacing. -/
theorem binaryOrder_lt {s : Nat} (hpos : 0 < s) (hs : s < f.binadeSize) (u : Int) :
    binaryOrder (s * (2 : Rat) ^ u) < f.fractionBits + u := by
  refine lt_binaryOrder (by positivity) ?_
  rw [zpow_add₀ two_ne_zero (f.fractionBits : Int) u, ← f.binadeSize_cast]
  gcongr

/-- A significand with its leading one fills its binade. -/
theorem binaryOrder_significand {s : Nat} (hlow : f.binadeSize ≤ s) (hhigh : s < 2 * f.binadeSize)
    (u : Int) : binaryOrder (s * (2 : Rat) ^ u) = f.fractionBits + u := by
  have hsplit : (2 : Rat) ^ (f.fractionBits + u) = f.binadeSize * (2 : Rat) ^ u := by
    rw [f.binadeSize_cast, zpow_add₀ two_ne_zero]
  refine binaryOrder_eq ?_ ?_
  · rw [hsplit]
    gcongr
  · rw [zpow_add_one₀ two_ne_zero, hsplit, mul_right_comm, mul_comm (f.binadeSize : Rat)]
    gcongr
    exact_mod_cast hhigh

theorem binadesBelow_magnitude {below s : Nat} (h : f.InBinade below s) (hs : 0 < s)
    (htop : s < 2 * f.binadeSize) :
    f.binadesBelow (s * (2 : Rat) ^ (f.minExponent + below)) = below := by
  rw [binadesBelow]
  rcases lt_or_ge s f.binadeSize with hsmall | hlarge
  · have hzero : below = 0 := by have := h.2; omega
    have := f.binaryOrder_lt hs hsmall (f.minExponent + below)
    omega
  · rw [f.binaryOrder_significand hlarge htop]
    omega

/-- **A magnitude is rounded to itself.** -/
@[simp] theorem position_magnitude (p : Nat) : f.position (f.magnitude p) = p := by
  obtain ⟨below, s, rfl, htop, hin⟩ := f.exists_binade p
  rw [f.magnitude_eq hin]
  rcases Nat.eq_zero_or_pos s with rfl | hs
  · have hzero : below = 0 := by have := hin.2; have := f.binadeSize_pos; omega
    simp [position, hzero]
  · have hunit : (2 : Rat) ^ (f.minExponent + below) ≠ 0 := by positivity
    have hne : s * (2 : Rat) ^ (f.minExponent + below) ≠ 0 := by positivity
    have hscaled : nearest (s * (2 : Rat) ^ (f.minExponent + below) /
        (2 : Rat) ^ (f.minExponent + below)) = s := by
      rw [mul_div_cancel_right₀ _ hunit, ← Int.cast_natCast, nearest_intCast]
    simp only [position, if_neg hne, f.binadesBelow_magnitude hin hs htop, hscaled,
      Int.toNat_natCast]

theorem binadesBelow_mono {x y : Rat} (hx : 0 < x) (h : x ≤ y) :
    f.binadesBelow x ≤ f.binadesBelow y := by
  have := binaryOrder_mono hx h
  rw [binadesBelow, binadesBelow]
  omega

/-- **Rounding keeps the order.** -/
theorem position_mono {x y : Rat} (hx : 0 ≤ x) (h : x ≤ y) : f.position x ≤ f.position y := by
  rcases hx.lt_or_eq with hpos | rfl
  · obtain ⟨s, hs, hsval, hxpos⟩ := f.position_eq hpos
    obtain ⟨t, ht, htval, hypos⟩ := f.position_eq (hpos.trans_le h)
    rw [hxpos, hypos]
    rcases (f.binadesBelow_mono hpos h).lt_or_eq with hlt | heq
    · -- the first significand of a binade above is not before the last of the one below
      have hbottom : f.binadeSize ≤ t := by have := ht.2; omega
      have := hs.1
      nlinarith
    · have hst : (s : Int) ≤ t := by
        rw [hsval, htval, heq]
        exact nearest_mono (by gcongr)
      rw [heq]
      omega
  · simp [position]

/-- **The numbers of a format**: a short integer times a power of two that is not too small. -/
theorem exists_magnitude (below : Nat) {m : Nat} (h : m ≤ 2 * f.binadeSize) :
    ∃ p ≤ below * f.binadeSize + m,
      f.magnitude p = m * (2 : Rat) ^ (f.minExponent + below) := by
  induction below generalizing m with
  | zero =>
      have hin : f.InBinade 0 m := ⟨h, Or.inl rfl⟩
      exact ⟨m, by simp, by simpa using f.magnitude_eq hin⟩
  | succ below ih =>
      rcases le_or_gt f.binadeSize m with hlarge | hsmall
      · exact ⟨_, le_refl _, f.magnitude_eq ⟨h, Or.inr hlarge⟩⟩
      · obtain ⟨p, hp, hval⟩ := ih (m := 2 * m) (by omega)
        refine ⟨p, hp.trans (by nlinarith), ?_⟩
        have hexp : f.minExponent + ((below + 1 : Nat) : Int) = f.minExponent + below + 1 := by
          omega
        rw [hval, hexp, zpow_add_one₀ two_ne_zero]
        push_cast
        ring

end Format

end Number

end FilmGrain
