/-
**What is stored of a sample.**

A sample is an encoded value and its noise.  Both are scaled and rounded in single precision, and
end in the checks of a scaling curve.  The amplitudes pass these for every noise whatsoever, the
infinite and the undefined ones included: a stored noise is cut off at zero and 255.  So whether
samples make a curve is decided by their positions, and where these are finite, a refusal is one of
the curve's own checks.

Main results:

* `FilmGrain.exists_storedNoise` — **every noise has an amplitude of eight bits**;
* `FilmGrain.storedPoint_eq_ok_iff`, `FilmGrain.storedPoint_error` — the point of a sample, and its
  refusal;
* `FilmGrain.sampleNoise_eq_ok_iff`, `FilmGrain.sampleNoise_error` — **the curve of samples, and its
  refusal**.
-/

import FilmGrain.Scaling.Sampling
import FilmGrain.Proofs.Number.Integral
import FilmGrain.Proofs.Scaling.Curve

set_option autoImplicit false

namespace FilmGrain

open Arith Number

/-! ### Stored noise -/

theorem isFinite_definedNoise (sigma : Single) : (definedNoise sigma).isFinite := by
  unfold definedNoise
  split
  · assumption
  · have hzero := Binary.toRat_const (f := .single) Format.represents_zero Format.represents_zero
    exact Binary.isFinite_iff.2 ⟨0, hzero⟩

theorem toRat_maxStored : (const maxStored : Single).toRat = some 255 := by
  have hdouble : Format.double.Represents (255 : Nat) := Format.represents_natCast (by decide)
  have hsingle : Format.single.Represents (255 : Nat) := Format.represents_natCast (by decide)
  exact Binary.toRat_const hdouble hsingle

/-- **Every noise has an amplitude of eight bits.** -/
theorem exists_storedNoise (sigma : Single) :
    ∃ a : Fin 256, (storedNoise sigma).toInt? = some (a.val : Int) := by
  have hscale : (const maxStored * const templateAmplitude : Single).isFinite := by decide +kernel
  have hdefined := Binary.roundHalfAway_ne_nan
    (Binary.mul_ne_nan hscale (isFinite_definedNoise sigma))
  have hzero : (const 0 : Single).toRat = some 0 :=
    Binary.toRat_const Format.represents_zero Format.represents_zero
  obtain ⟨u, hu, hlow, hhigh⟩ := Binary.toRat_clip hdefined hzero toRat_maxStored (by norm_num)
  have hfloor : 0 ≤ ⌊u⌋ := Int.floor_nonneg.2 hlow
  have hle : ⌊u⌋ ≤ 255 := Int.floor_le_iff.2 (by push_cast; linarith)
  refine ⟨⟨⌊u⌋.toNat, by omega⟩, ?_⟩
  rw [Int.toNat_of_nonneg hfloor]
  exact Binary.toInt?_of_nonneg hu hlow

/-! ### Stored points -/

theorem storedInteger_eq_ok_iff {v : Single} {n : Int} :
    storedInteger v = .ok n ↔ v.toInt? = some n := by
  unfold storedInteger
  split
  · rename_i m hm
    rw [hm, Except.ok.injEq, Option.some.injEq]
  · rename_i hnone
    simp [hnone]

/-- **The point that is stored of a sample.** -/
theorem storedPoint_eq_ok_iff {x sigma : Single} {p : ScalingPoint} :
    storedPoint x sigma = .ok p ↔
      (storedPosition x).toInt? = some (p.x.val : Int) ∧
        (storedNoise sigma).toInt? = some (p.noise.val : Int) := by
  rw [storedPoint, bind_eq_ok_iff]
  constructor
  · rintro ⟨m, hm, h⟩
    obtain ⟨n, hn, hp⟩ := bind_eq_ok_iff.1 h
    obtain ⟨hx, hnoise⟩ := ScalingPoint.ofSettings_eq_ok_iff.1 (mapError_eq_ok_iff.1 hp)
    rw [Setting.integer.injEq] at hx hnoise
    exact ⟨hx ▸ storedInteger_eq_ok_iff.1 hm, hnoise ▸ storedInteger_eq_ok_iff.1 hn⟩
  · rintro ⟨hx, hnoise⟩
    refine ⟨_, storedInteger_eq_ok_iff.2 hx, bind_eq_ok_iff.2 ?_⟩
    refine ⟨_, storedInteger_eq_ok_iff.2 hnoise, ?_⟩
    exact mapError_eq_ok_iff.2 (ScalingPoint.ofSettings_eq_ok_iff.2 ⟨rfl, rfl⟩)

/-- A sample at a finite position is refused only by the checks of a point. -/
theorem storedPoint_error {x sigma : Single} {n : Int} {e : SamplingError}
    (hx : (storedPosition x).toInt? = some n) (h : storedPoint x sigma = .error e) :
    ∃ fault, e = .curve fault := by
  obtain ⟨a, ha⟩ := exists_storedNoise sigma
  rw [storedPoint, storedInteger_eq_ok_iff.2 hx, storedInteger_eq_ok_iff.2 ha] at h
  obtain ⟨fault, -, hfault⟩ := mapError_eq_error_iff.1 h
  exact ⟨fault, hfault.symm⟩

/-! ### Sampled curves -/

/-- **The curve that is sampled**: each of its points is the one that is stored of a sample. -/
theorem sampleNoise_eq_ok_iff {noise : Single → Single} {count : PointCount} {c : ScalingCurve} :
    sampleNoise noise count = .ok c ↔
      List.Forall₂ (fun x p => storedPoint x (noise x) = .ok p) (samplePositions count)
        c.points := by
  rw [sampleNoise, bind_eq_ok_iff]
  constructor
  · rintro ⟨points, hpoints, h⟩
    rw [ScalingCurve.ofPoints_eq_ok_iff.1 (mapError_eq_ok_iff.1 h)]
    exact mapM_eq_ok_iff.1 hpoints
  · intro h
    refine ⟨c.points, mapM_eq_ok_iff.2 h, ?_⟩
    exact mapError_eq_ok_iff.2 (ScalingCurve.ofPoints_eq_ok_iff.2 rfl)

/-- Samples at finite positions are refused only by the checks of a curve. -/
theorem sampleNoise_error {noise : Single → Single} {count : PointCount} {e : SamplingError}
    (hfinite : ∀ x ∈ samplePositions count, ∃ n, (storedPosition x).toInt? = some n)
    (h : sampleNoise noise count = .error e) : ∃ fault, e = .curve fault := by
  rcases bind_eq_error_iff.1 h with hpoints | ⟨points, -, hcurve⟩
  · obtain ⟨x, hx, hfault⟩ := exists_of_mapM_error hpoints
    obtain ⟨n, hn⟩ := hfinite x hx
    exact storedPoint_error hn hfault
  · obtain ⟨fault, -, hfault⟩ := mapError_eq_error_iff.1 hcurve
    exact ⟨fault, hfault.symm⟩

/-- The stored positions are the encoded values of the curve. -/
theorem xs_of_sampleNoise {noise : Single → Single} {count : PointCount} {c : ScalingCurve}
    (h : sampleNoise noise count = .ok c) :
    (samplePositions count).map (fun x => (storedPosition x).toInt?) =
      c.xs.map fun n : Nat => some (n : Int) := by
  rw [← List.forall₂_eq_eq_eq, List.forall₂_map_left_iff, ScalingCurve.xs, List.map_map,
    List.forall₂_map_right_iff]
  exact (sampleNoise_eq_ok_iff.1 h).imp fun x p hp => (storedPoint_eq_ok_iff.1 hp).1

end FilmGrain
