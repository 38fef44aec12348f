/-
**The square root on a grid.**

The square root of a rational number is in general not rational, but one integer root tells how it
is rounded.  With two more bits than a significand has, the grid of the binade of the root holds
every number of the format and every midpoint between two of them, so all numbers strictly between
two neighbours of the grid are rounded alike (`Format.Level`).  The root is either on the grid, or
it shares its neighbours with the number that stands for it (`Binary.rootOnGrid`).

Main definitions:

* `Format.Level` — an open interval of numbers that are all rounded alike;
* `Format.gridExponent` — the grid of a binade;
* `Binary.rootStep`, `Binary.rootSteps` — the grid of a root, and its integer part there.

Main results:

* `Number.nearest_eq` — the nearest integer;
* `Format.level_of_neighbours` — **between neighbours of the grid all numbers are rounded alike**;
* `Binary.rootOnGrid_spec` — **the root, or a number that is rounded as the root is**;
* `Binary.rank_sqrt` — the place of a square root.
-/

import FilmGrain.Proofs.Number.Monotone
import Mathlib.Data.Nat.Sqrt

set_option autoImplicit false

namespace FilmGrain

namespace Number

/-! ### Between the midpoints -/

/-- The integer that a number is nearer to than a half. -/
theorem nearest_eq {x : Rat} {n : Int} (hlow : n - 1 / 2 < x) (hhigh : x < n + 1 / 2) :
    nearest x = n := by
  rcases lt_or_ge x n with hx | hx
  · have hfloor : x.floor = n - 1 := by
      change ⌊x⌋ = n - 1
      rw [Int.floor_eq_iff]
      push_cast
      constructor <;> linarith
    simp only [nearest, hfloor]
    push_cast
    rw [if_neg (by linarith), if_pos (by linarith)]
    ring
  · have hfloor : x.floor = n := by
      change ⌊x⌋ = n
      rw [Int.floor_eq_iff]
      constructor <;> linarith
    simp only [nearest, hfloor]
    rw [if_pos (by linarith)]

/-- Between neighbours of a grid that holds every midpoint, all numbers have one nearest integer. -/
theorem exists_nearest_eq {half : Nat} (hpos : 0 < half) (r : Nat) :
    ∃ n : Int, ∀ x : Rat, (r : Rat) / (2 * half : Nat) < x → x < (r + 1 : Nat) / (2 * half : Nat) →
      nearest x = n := by
  have hgrid : (0 : Rat) < (2 * half : Nat) := by exact_mod_cast (by omega : 0 < 2 * half)
  refine ⟨((r + half) / (2 * half) : Nat), fun x hlow hhigh => ?_⟩
  have hdiv := Nat.div_add_mod (r + half) (2 * half)
  have hmod := Nat.mod_lt (r + half) (by omega : 0 < 2 * half)
  set n := (r + half) / (2 * half)
  have hleft : 2 * half * n ≤ r + half := by omega
  have hright : r + 1 + half ≤ 2 * half * (n + 1) := by
    rw [mul_add]
    omega
  have hleft' : ((2 * half : Nat) : Rat) * n ≤ r + half := by exact_mod_cast hleft
  have hright' : ((r + 1 : Nat) : Rat) + half ≤ (2 * half : Nat) * (n + 1) := by
    exact_mod_cast hright
  rw [div_lt_iff₀ hgrid] at hlow
  rw [lt_div_iff₀ hgrid] at hhigh
  push_cast at hgrid hlow hhigh hleft' hright'
  refine nearest_eq (lt_of_mul_lt_mul_right ?_ hgrid.le) (lt_of_mul_lt_mul_right ?_ hgrid.le)
  · rw [Int.cast_natCast]
    linarith
  · rw [Int.cast_natCast]
    linarith

/-! ### Levels -/

namespace Format

variable {f : Format}

/-- An open interval of numbers that are all rounded alike. -/
def Level (f : Format) (lo hi : Rat) : Prop :=
  ∀ ⦃x y⦄, lo < x → x < hi → lo < y → y < hi → f.place x = f.place y

/-- The step of the grid with two more bits than a significand has, in the binade of order `k`. -/
def gridExponent (f : Format) (k : Int) : Int := k - f.fractionBits - 2

theorem binadeSize_mul_grid (k : Int) :
    4 * (f.binadeSize : Rat) * (2 : Rat) ^ f.gridExponent k = (2 : Rat) ^ k := by
  have hfour : (4 : Rat) = (2 : Rat) ^ (2 : Int) := by norm_num
  rw [gridExponent, f.binadeSize_cast, hfour, ← zpow_add₀ two_ne_zero, ← zpow_add₀ two_ne_zero]
  congr 1
  ring

variable {k : Int} {r : Nat}

/-- What lies between neighbours of the grid lies in its binade. -/
theorem binaryOrder_of_neighbours {x : Rat} (hlow : 4 * f.binadeSize ≤ r)
    (hhigh : r + 1 ≤ 8 * f.binadeSize) (hleft : r * (2 : Rat) ^ f.gridExponent k < x)
    (hright : x < (r + 1 : Nat) * (2 : Rat) ^ f.gridExponent k) : binaryOrder x = k := by
  have hgrid : (0 : Rat) < (2 : Rat) ^ f.gridExponent k := by positivity
  have hsize := binadeSize_mul_grid (f := f) k
  have hlow' : (4 * f.binadeSize : Rat) ≤ r := by exact_mod_cast hlow
  have hhigh' : ((r + 1 : Nat) : Rat) ≤ 2 * (4 * f.binadeSize) := by exact_mod_cast (by omega)
  refine binaryOrder_eq ?_ ?_
  · calc (2 : Rat) ^ k = 4 * f.binadeSize * (2 : Rat) ^ f.gridExponent k := hsize.symm
      _ ≤ r * (2 : Rat) ^ f.gridExponent k := by gcongr
      _ ≤ x := hleft.le
  · calc x < (r + 1 : Nat) * (2 : Rat) ^ f.gridExponent k := hright
      _ ≤ 2 * (4 * f.binadeSize) * (2 : Rat) ^ f.gridExponent k := by gcongr
      _ = (2 : Rat) ^ (k + 1) := by rw [mul_assoc, hsize, zpow_add_one₀ two_ne_zero, mul_comm]

/-- **Between neighbours of the grid all numbers are rounded alike.** -/
theorem level_of_neighbours (hlow : 4 * f.binadeSize ≤ r) (hhigh : r + 1 ≤ 8 * f.binadeSize) :
    f.Level (r * (2 : Rat) ^ f.gridExponent k) ((r + 1 : Nat) * (2 : Rat) ^ f.gridExponent k) := by
  -- the spacing of the format there is at least two grid steps, so midpoints are on the grid
  obtain ⟨below, bits, hbelow, hbits⟩ : ∃ below bits : Nat,
      (k - f.fractionBits - f.minExponent).toNat = below ∧
        f.minExponent + below = f.gridExponent k + (bits + 1 : Nat) := by
    refine ⟨_, (f.minExponent + ((k - f.fractionBits - f.minExponent).toNat : Int) -
      f.gridExponent k - 1).toNat, rfl, ?_⟩
    rw [gridExponent]
    omega
  obtain ⟨n, hn⟩ := exists_nearest_eq (Nat.two_pow_pos bits) r
  have hscaled (m : Nat) : (m : Rat) * (2 : Rat) ^ f.gridExponent k /
      (2 : Rat) ^ (f.gridExponent k + (bits + 1 : Nat)) = m / (2 * 2 ^ bits : Nat) := by
    rw [zpow_add₀ two_ne_zero, zpow_natCast, mul_comm ((2 : Rat) ^ f.gridExponent k),
      mul_div_mul_right _ _ (by positivity), pow_succ']
    push_cast
    rfl
  have hplace {x : Rat} (hleft : r * (2 : Rat) ^ f.gridExponent k < x)
      (hright : x < (r + 1 : Nat) * (2 : Rat) ^ f.gridExponent k) :
      f.place x = min ((below * f.binadeSize + n.toNat : Nat) : Int) f.count := by
    have hpos : 0 < x := lt_of_le_of_lt (by positivity) hleft
    have horder := binaryOrder_of_neighbours hlow hhigh hleft hright
    have hunit : (0 : Rat) < (2 : Rat) ^ (f.gridExponent k + (bits + 1 : Nat)) := by positivity
    have hnearest : nearest (x / (2 : Rat) ^ (f.gridExponent k + (bits + 1 : Nat))) = n := by
      refine hn _ ?_ ?_
      · rw [← hscaled]
        gcongr
      · rw [← hscaled]
        gcongr
    have hposition : f.position x = below * f.binadeSize + n.toNat := by
      simp only [position, if_neg hpos.ne', binadesBelow, horder, hbelow, hbits, hnearest]
    rw [f.place_of_nonneg hpos.le, hposition]
  intro x y hx hx' hy hy'
  rw [hplace hx hx', hplace hy hy']

end Format

/-! ### The root -/

/-- The integer part of a square root. -/
theorem sqrt_floor_spec {x : Rat} (hx : 0 ≤ x) :
    ((x.floor.toNat.sqrt * x.floor.toNat.sqrt : Nat) : Rat) ≤ x ∧
      x < ((x.floor.toNat.sqrt + 1) * (x.floor.toNat.sqrt + 1) : Nat) := by
  have hfloor : ((x.floor.toNat : Nat) : Rat) = ⌊x⌋ := by
    exact_mod_cast Int.toNat_of_nonneg (Int.floor_nonneg.2 hx)
  constructor
  · calc ((x.floor.toNat.sqrt * x.floor.toNat.sqrt : Nat) : Rat) ≤ x.floor.toNat := by
          exact_mod_cast Nat.sqrt_le _
      _ = ⌊x⌋ := hfloor
      _ ≤ x := Int.floor_le x
  · calc x < ⌊x⌋ + 1 := Int.lt_floor_add_one x
      _ = ((x.floor.toNat + 1 : Nat) : Rat) := by rw [← hfloor]; push_cast; rfl
      _ ≤ ((x.floor.toNat.sqrt + 1) * (x.floor.toNat.sqrt + 1) : Nat) := by
          exact_mod_cast Nat.lt_succ_sqrt _

namespace Binary

variable {f : Format} {x : Rat}

/-- The step of the grid that the root of a number is found on. -/
def rootStep (f : Format) (x : Rat) : Rat := (2 : Rat) ^ f.gridExponent (binaryOrder x / 2)

/-- The integer part of the root in steps of the grid. -/
def rootSteps (f : Format) (x : Rat) : Nat :=
  (x / (rootStep f x * rootStep f x)).floor.toNat.sqrt

theorem rootStep_pos (f : Format) (x : Rat) : 0 < rootStep f x := by
  rw [rootStep]
  positivity

theorem rootSteps_spec (f : Format) (hx : 0 < x) :
    (rootSteps f x * rootStep f x) * (rootSteps f x * rootStep f x) ≤ x ∧
      x < ((rootSteps f x + 1 : Nat) * rootStep f x) *
        ((rootSteps f x + 1 : Nat) * rootStep f x) := by
  have hpos := rootStep_pos f x
  have hscaled : 0 ≤ x / (rootStep f x * rootStep f x) := by positivity
  obtain ⟨hleft, hright⟩ := sqrt_floor_spec hscaled
  rw [le_div_iff₀ (by positivity), Nat.cast_mul, mul_mul_mul_comm] at hleft
  rw [div_lt_iff₀ (by positivity), Nat.cast_mul, mul_mul_mul_comm] at hright
  exact ⟨hleft, hright⟩

/-- The root is in the binade of half the order. -/
theorem rootSteps_between (f : Format) (hx : 0 < x) :
    4 * f.binadeSize ≤ rootSteps f x ∧ rootSteps f x + 1 ≤ 8 * f.binadeSize := by
  obtain ⟨hlow, hhigh⟩ := binaryOrder_spec hx
  obtain ⟨hleft, hright⟩ := rootSteps_spec f hx
  have hpos := rootStep_pos f x
  have hsize : 4 * (f.binadeSize : Rat) * rootStep f x = (2 : Rat) ^ (binaryOrder x / 2) :=
    Format.binadeSize_mul_grid _
  have hbottom : (4 * f.binadeSize * rootStep f x) * (4 * f.binadeSize * rootStep f x) ≤ x := by
    rw [hsize, ← zpow_add₀ two_ne_zero]
    exact (zpow_le_zpow_right₀ one_le_two (by omega)).trans hlow
  have htop : x < (8 * f.binadeSize * rootStep f x) * (8 * f.binadeSize * rootStep f x) := by
    have hdouble :
        8 * (f.binadeSize : Rat) * rootStep f x = (2 : Rat) ^ (binaryOrder x / 2 + 1) := by
      rw [zpow_add_one₀ two_ne_zero, ← hsize]
      ring
    rw [hdouble, ← zpow_add₀ two_ne_zero]
    exact hhigh.trans_le (zpow_le_zpow_right₀ one_le_two (by omega))
  have hlarge : 4 * (f.binadeSize : Rat) < (rootSteps f x + 1 : Nat) :=
    lt_of_mul_lt_mul_right (lt_of_mul_self_lt_mul_self₀ (by positivity) (hbottom.trans_lt hright))
      hpos.le
  have hsmall : (rootSteps f x : Rat) < 8 * f.binadeSize :=
    lt_of_mul_lt_mul_right (lt_of_mul_self_lt_mul_self₀ (by positivity) (hleft.trans_lt htop))
      hpos.le
  exact ⟨Nat.lt_succ_iff.1 (by exact_mod_cast hlarge), by exact_mod_cast hsmall⟩

/-- The number on the grid is the root, or halfway between its neighbours. -/
theorem rootOnGrid_eq (f : Format) (x : Rat) :
    rootOnGrid f x =
      (if (rootSteps f x * rootStep f x) * (rootSteps f x * rootStep f x) = x
        then (rootSteps f x : Rat) else rootSteps f x + 1 / 2) * rootStep f x := by
  have hpos := rootStep_pos f x
  have hshift : (2 : Rat) ^ ((f.fractionBits : Int) + 2 - binaryOrder x / 2) =
      (rootStep f x)⁻¹ := by
    rw [rootStep, ← zpow_neg, Format.gridExponent]
    congr 1
    ring
  have hsquare : x * (2 : Rat) ^ (2 * ((f.fractionBits : Int) + 2 - binaryOrder x / 2)) =
      x / (rootStep f x * rootStep f x) := by
    rw [two_mul, zpow_add₀ two_ne_zero, hshift, ← mul_inv, div_eq_mul_inv]
  have hexact : ((rootSteps f x * rootSteps f x : Nat) : Rat) = x / (rootStep f x * rootStep f x) ↔
      (rootSteps f x * rootStep f x) * (rootSteps f x * rootStep f x) = x := by
    rw [eq_div_iff (by positivity), Nat.cast_mul, mul_mul_mul_comm]
  have hsteps : (x / (rootStep f x * rootStep f x)).floor.toNat.sqrt = rootSteps f x := rfl
  simp only [rootOnGrid, hsquare, hshift, div_inv_eq_mul, hsteps, hexact]

/-- **The root, or a number that is rounded as the root is**: the number on the grid is the root
itself, or both lie strictly between neighbours of the grid. -/
theorem rootOnGrid_spec (f : Format) (hx : 0 < x) :
    (0 ≤ rootOnGrid f x ∧ rootOnGrid f x * rootOnGrid f x = x) ∨
      ∃ lo hi, f.Level lo hi ∧ lo < rootOnGrid f x ∧ rootOnGrid f x < hi ∧
        0 ≤ lo ∧ lo * lo < x ∧ x < hi * hi := by
  obtain ⟨hleft, hright⟩ := rootSteps_spec f hx
  obtain ⟨hlow, hhigh⟩ := rootSteps_between f hx
  have hpos := rootStep_pos f x
  rcases hleft.eq_or_lt with heq | hlt
  · left
    rw [rootOnGrid_eq, if_pos heq]
    exact ⟨by positivity, heq⟩
  · right
    rw [rootOnGrid_eq, if_neg hlt.ne]
    refine ⟨rootSteps f x * rootStep f x, (rootSteps f x + 1 : Nat) * rootStep f x,
      Format.level_of_neighbours hlow hhigh, ?_, ?_, by positivity, hlt, hright⟩
    · gcongr
      linarith
    · gcongr
      push_cast
      linarith

/-! ### The square root of a number -/

variable {a : Binary f} {v : Rat}

theorem sqrt_eq_nan (ha : a.toRat = some v) (hv : v < 0) : a.sqrt = nan := by
  obtain ⟨negative, p, rfl, hzero, hsign⟩ := exists_sign_of_toRat ha
  rw [sqrt, if_neg (mt hzero.1 hv.ne), if_pos (by rw [hsign hv.ne]; exact decide_eq_true hv)]

theorem sqrt_eq_self (ha : a.toRat = some 0) : a.sqrt = a := by
  obtain ⟨negative, p, rfl, hzero, -⟩ := exists_sign_of_toRat ha
  rw [sqrt, if_pos (hzero.2 rfl)]

theorem rootOnGrid_nonneg (f : Format) (x : Rat) : 0 ≤ rootOnGrid f x := by
  rw [rootOnGrid]
  positivity

/-- **The place of a square root.** -/
theorem rank_sqrt (ha : a.toRat = some v) (hv : 0 < v) :
    a.sqrt.rank = some (f.place (rootOnGrid f v)) := by
  obtain ⟨p, rfl, rfl⟩ := exists_of_pos ha hv
  have hp : p.val ≠ 0 := by
    intro hzero
    rw [hzero, f.magnitude_zero] at hv
    exact hv.false
  rw [sqrt, if_neg hp]
  exact rank_round false (rootOnGrid_nonneg f _)

end Binary

end Number

end FilmGrain
