/-
**The amplitude that is stored of a noise.**

An amplitude is a noise scaled, rounded and cut off, and each of these steps keeps the order of
finite noises, also where the product overflows.  A noise that is not finite counts as none, before
it is scaled.  For the negative infinity that is where the cut would put it anyway.  The positive
infinity falls from the largest amplitude to the least: it is the one noise that is stored below
smaller ones, and below all of those that are stored as more than none.

Main definitions:

* `FilmGrain.storedAmplitude` — the amplitude that is stored of a noise;
* `FilmGrain.faintest`, `FilmGrain.strongest` — the least noise that is stored as more than none,
  and the least that is stored as the largest amplitude.

Main results:

* `FilmGrain.noiseValues_of_sampleNoise` — the amplitudes of a sampled curve;
* `FilmGrain.storedAmplitude_mono` — **finite noises are stored in their order**;
* `FilmGrain.storedAmplitude_pos_iff`, `FilmGrain.storedAmplitude_eq_top_iff` — which noises are
  stored as more than none, and which as the largest amplitude;
* `FilmGrain.storedAmplitude_le_iff` — **which noises are stored in their order**.
-/

import FilmGrain.Proofs.Number.Monotone
import FilmGrain.Proofs.Scaling.Stored

set_option autoImplicit false

namespace FilmGrain

open Arith Number

variable {s t : Single}

/-! ### Amplitudes -/

/-- The amplitude that is stored of a noise. -/
def storedAmplitude (sigma : Single) : Int := (storedNoise sigma).toInt?.getD 0

theorem toInt?_storedNoise (sigma : Single) :
    (storedNoise sigma).toInt? = some (storedAmplitude sigma) := by
  obtain ⟨a, ha⟩ := exists_storedNoise sigma
  rw [storedAmplitude, ha, Option.getD_some]

/-- An amplitude has eight bits. -/
theorem storedAmplitude_mem (sigma : Single) :
    0 ≤ storedAmplitude sigma ∧ storedAmplitude sigma ≤ 255 := by
  obtain ⟨a, ha⟩ := exists_storedNoise sigma
  have := a.isLt
  rw [storedAmplitude, ha, Option.getD_some]
  omega

/-- The amplitudes of a sampled curve are those of its noises. -/
theorem noiseValues_of_sampleNoise {noise : Single → Single} {count : PointCount} {c : ScalingCurve}
    (h : sampleNoise noise count = .ok c) :
    (c.noiseValues.map fun a : Nat => (a : Int)) =
      (samplePositions count).map fun x => storedAmplitude (noise x) := by
  symm
  rw [← List.forall₂_eq_eq_eq, List.forall₂_map_left_iff, ScalingCurve.noiseValues, List.map_map,
    List.forall₂_map_right_iff]
  refine (sampleNoise_eq_ok_iff.1 h).imp fun x p hp => ?_
  have hstored := (storedPoint_eq_ok_iff.1 hp).2
  rw [toInt?_storedNoise] at hstored
  exact Option.some.inj hstored

/-! ### Finite noises -/

theorem definedNoise_of_isFinite (h : s.isFinite) : definedNoise s = s := if_pos h

/-- **Finite noises are stored in their order**, also where the scaled noise overflows. -/
theorem storedAmplitude_mono (hs : s.isFinite) (ht : t.isFinite) (h : s.le t) :
    storedAmplitude s ≤ storedAmplitude t := by
  have hscale : (const maxStored * const templateAmplitude : Single).toRat =
      some (16461005 / 8192) := by decide +kernel
  have hdefined : (definedNoise s).le (definedNoise t) := by
    rwa [definedNoise_of_isFinite hs, definedNoise_of_isFinite ht]
  have hrounded := Binary.roundHalfAway_le (Binary.mul_le_mul_left hscale (by norm_num) hdefined)
  have hcut := Binary.smaller_le (Binary.larger_le hrounded (z := const 0) (by decide +kernel))
    (z := const maxStored) (by decide +kernel)
  exact Binary.toInt?_le hcut (toInt?_storedNoise s) (toInt?_storedNoise t)

/-- What is finite lies on one side of two neighbours. -/
theorem le_or_le_of_neighbours {low high : Single} {r : Int} (hlow : low.rank = some r)
    (hhigh : high.rank = some (r + 1)) (hs : s.isFinite) : high.le s ∨ s.le low := by
  obtain ⟨v, hv⟩ := Binary.isFinite_iff.1 hs
  obtain ⟨a, ha, -⟩ := Binary.exists_rank hv
  rcases lt_or_ge r a with h | h
  · exact Or.inl (Binary.le_of_rank hhigh ha h)
  · exact Or.inr (Binary.le_of_rank ha hlow h)

/-- The amplitudes of finite noises pass a level at the higher of two neighbours on both of its
sides. -/
theorem lt_storedAmplitude_iff (low high : Single) {r : Int} (level : Int)
    (hlow : low.rank = some r) (hhigh : high.rank = some (r + 1))
    (hfinite : low.isFinite ∧ high.isFinite) (hbelow : storedAmplitude low ≤ level)
    (habove : level < storedAmplitude high) (hs : s.isFinite) :
    level < storedAmplitude s ↔ high.le s := by
  constructor
  · intro h
    refine (le_or_le_of_neighbours hlow hhigh hs).resolve_right fun hle => ?_
    have := storedAmplitude_mono hs hfinite.1 hle
    omega
  · exact fun h => habove.trans_le (storedAmplitude_mono hfinite.2 hs h)

/-! ### Levels -/

/-- The least noise that is stored as more than none. -/
def faintest : Single := const (8549751 / 34359738368)

/-- The least noise that is stored as the largest amplitude. -/
def strongest : Single := const (8499655 / 67108864)

/-- What is not finite is stored as none. -/
theorem storedAmplitude_of_not_isFinite (h : ¬ s.isFinite) : storedAmplitude s = 0 := by
  cases s with
  | nan => decide +kernel
  | infinite negative => cases negative <;> decide +kernel
  | finite negative p => exact absurd rfl h

/-- **Which noises are stored as more than none.** -/
theorem storedAmplitude_pos_iff : 0 < storedAmplitude s ↔ s.isFinite ∧ faintest.le s := by
  by_cases hs : s.isFinite
  · have hiff := lt_storedAmplitude_iff (const (8549750 / 34359738368)) faintest (r := 964851062) 0
      (by decide +kernel) (by decide +kernel) (by decide +kernel) (by decide +kernel)
      (by decide +kernel) hs
    rw [hiff, and_iff_right hs]
  · rw [storedAmplitude_of_not_isFinite hs]
    exact iff_of_false (lt_irrefl 0) fun h => hs h.1

/-- **Which noises are stored as the largest amplitude.** -/
theorem storedAmplitude_eq_top_iff : storedAmplitude s = 255 ↔ s.isFinite ∧ strongest.le s := by
  have hle := (storedAmplitude_mem s).2
  by_cases hs : s.isFinite
  · have hiff := lt_storedAmplitude_iff (const (8499654 / 67108864)) strongest (r := 1040298438) 254
      (by decide +kernel) (by decide +kernel) (by decide +kernel) (by decide +kernel)
      (by decide +kernel) hs
    rw [and_iff_right hs, ← hiff]
    omega
  · rw [storedAmplitude_of_not_isFinite hs]
    exact iff_of_false (by decide) fun h => hs h.1

/-! ### The order of what is stored -/

/-- Noises are stored in their order up to the positive infinity. -/
theorem storedAmplitude_mono_of_ne_infinite (h : s.le t) (ht : t ≠ .infinite false) :
    storedAmplitude s ≤ storedAmplitude t := by
  by_cases hs : s.isFinite
  · exact storedAmplitude_mono hs (Binary.isFinite_of_le h hs ht) h
  · rw [storedAmplitude_of_not_isFinite hs]
    exact (storedAmplitude_mem t).1

/-- **Which noises are stored in their order.**  The amplitudes of a sampled curve are those of its
noises.  Of two noises in order the greater has the greater amplitude, unless it is the positive
infinity above a finite noise that is stored as more than none.  So the largest amplitude stays the
largest for every greater noise except the infinite one. -/
theorem storedAmplitude_le_iff (h : s.le t) :
    (∀ noise count c, sampleNoise noise count = .ok c →
      (c.noiseValues.map fun a : Nat => (a : Int)) =
        (samplePositions count).map fun x => storedAmplitude (noise x)) ∧
    (storedAmplitude s ≤ storedAmplitude t ↔
      ¬ (t = .infinite false ∧ s.isFinite ∧ faintest.le s)) ∧
    (storedAmplitude s = 255 → (storedAmplitude t = 255 ↔ t ≠ .infinite false)) := by
  have hinfinite : storedAmplitude (.infinite false) = 0 :=
    storedAmplitude_of_not_isFinite Bool.false_ne_true
  refine ⟨fun noise count c => noiseValues_of_sampleNoise, ?_, ?_⟩
  · by_cases ht : t = .infinite false
    · -- nothing is stored of the infinity, so the order is kept where nothing is stored of `s`
      have hmem := storedAmplitude_mem s
      rw [ht, hinfinite, ← storedAmplitude_pos_iff]
      simp only [true_and]
      omega
    · exact iff_of_true (storedAmplitude_mono_of_ne_infinite h ht) fun hfall => ht hfall.1
  · intro htop
    constructor
    · rintro h255 rfl
      rw [hinfinite] at h255
      exact absurd h255 (by decide)
    · intro ht
      have hle := storedAmplitude_mono_of_ne_infinite h ht
      have hmem := storedAmplitude_mem t
      omega

/-- The order is kept from `1` to `2`, both of which are stored as the largest amplitude. -/
theorem storedAmplitude_le_iff_strong :
    (const 1 : Single).le (const 2) ∧ storedAmplitude (const 2) = 255 := by
  have hle : (const 1 : Single).le (const 2) := by decide +kernel
  have htop : storedAmplitude (const 1) = 255 := by decide +kernel
  exact ⟨hle, ((storedAmplitude_le_iff hle).2.2 htop).2 (by decide +kernel)⟩

/-- The infinite noise lies above `1`, of which the largest amplitude is stored, and is stored as
none. -/
theorem storedAmplitude_infinite_lost :
    (const 1 : Single).le (.infinite false) ∧ storedAmplitude (const 1) = 255 ∧
      storedAmplitude (.infinite false) = 0 ∧
      ¬ storedAmplitude (const 1) ≤ storedAmplitude (.infinite false) := by
  decide +kernel

end FilmGrain
