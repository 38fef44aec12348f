/-
**The ratio of signal and noise.**

The ratio is a function of the captured electrons alone.  The variance grows with the electrons, but
less than their square, so the ratio grows strictly: in the dark it is held down by the read noise,
then it stays below the square root of the electrons because of the photons, and at last below the
reciprocal of the variation of gain.  Hence it grows strictly with the light, and falls strictly
with the exposure index and the number of pixels, on which the electrons of a light depend.

All of this is about the exact reading of the formulas.

Main definitions:

* `FilmGrain.noiseVariance`, `FilmGrain.noiseRatio` — the variance and the ratio for a number of
  electrons.

Main results:

* `FilmGrain.noiseRatio_strictMonoOn`, `FilmGrain.noiseRatio_lt`, `FilmGrain.noiseRatio_le_sqrt` —
  the ratio as a function of the electrons;
* `CameraSettings.signalToNoise_law` — **the ratio of a camera**.
-/

import FilmGrain.Proofs.Exact.Growth

set_option autoImplicit false

namespace FilmGrain

open Arith Exact

/-! ### The ratio of a number of electrons -/

/-- The variance of the noise of a number of electrons: read noise, photons and gain. -/
noncomputable def noiseVariance (e : ℝ) : ℝ := 1.5 * 1.5 + e + 0.005 * 0.005 * e ^ 2

/-- The ratio of a number of electrons and their noise. -/
noncomputable def noiseRatio (e : ℝ) : ℝ := e / √(noiseVariance e)

section Electrons

variable {e : ℝ}

theorem noiseVariance_pos (he : 0 ≤ e) : 0 < noiseVariance e := by
  rw [noiseVariance]
  positivity

theorem noiseRatio_eq_zero_iff (he : 0 ≤ e) : noiseRatio e = 0 ↔ e = 0 := by
  have hroot : √(noiseVariance e) ≠ 0 := (Real.sqrt_pos.2 (noiseVariance_pos he)).ne'
  rw [noiseRatio, div_eq_zero_iff, or_iff_left hroot]

/-- **More electrons have the larger ratio**, since the variance grows less than their square. -/
theorem noiseRatio_strictMonoOn : StrictMonoOn noiseRatio (Set.Ici 0) := by
  intro a ha b hb hab
  have ha : 0 ≤ a := ha
  have hb : 0 < b := ha.trans_lt hab
  have hvariance := noiseVariance_pos ha
  have hvariance' := noiseVariance_pos hb.le
  -- the gain is proportional to the signal, so only the other two kinds of noise are compared
  have hread : a ^ 2 * (1.5 * 1.5) < b ^ 2 * (1.5 * 1.5) := by nlinarith
  have hphoton : a ^ 2 * b ≤ b ^ 2 * a := by nlinarith [mul_nonneg ha hb.le]
  have hsquares : (a * √(noiseVariance b)) ^ 2 < (b * √(noiseVariance a)) ^ 2 := by
    rw [mul_pow, mul_pow, Real.sq_sqrt hvariance.le, Real.sq_sqrt hvariance'.le, noiseVariance,
      noiseVariance]
    linarith
  rw [noiseRatio, noiseRatio, div_lt_div_iff₀ (Real.sqrt_pos.2 hvariance)
    (Real.sqrt_pos.2 hvariance')]
  exact lt_of_pow_lt_pow_left₀ 2 (mul_nonneg hb.le (Real.sqrt_nonneg _)) hsquares

/-- **The variation of gain bounds the ratio.** -/
theorem noiseRatio_lt (he : 0 ≤ e) : noiseRatio e < 200 := by
  have hroot : 0.005 * e < √(noiseVariance e) := by
    refine Real.lt_sqrt_of_sq_lt ?_
    rw [noiseVariance]
    linarith
  rw [noiseRatio, div_lt_iff₀ (Real.sqrt_pos.2 (noiseVariance_pos he))]
  linarith

/-- **The photons bound the ratio.** -/
theorem noiseRatio_le_sqrt (he : 0 ≤ e) : noiseRatio e ≤ √e := by
  have hroot : √e ≤ √(noiseVariance e) := by
    refine Real.sqrt_le_sqrt ?_
    have : 0 ≤ 0.005 * 0.005 * e ^ 2 := by positivity
    rw [noiseVariance]
    linarith
  rw [noiseRatio, div_le_iff₀ (Real.sqrt_pos.2 (noiseVariance_pos he))]
  calc e = √e * √e := (Real.mul_self_sqrt he).symm
    _ ≤ √e * √(noiseVariance e) := mul_le_mul_of_nonneg_left hroot (Real.sqrt_nonneg e)

end Electrons

/-! ### The ratio of a sensor -/

namespace SensorModel

variable {s t : SensorModel ℝ} {l : ℝ}

/-- The ratio of a sensor only depends on the captured electrons. -/
theorem signalToNoise_eq (s : SensorModel ℝ) (l : ℝ) :
    s.signalToNoise l = noiseRatio (s.electrons l) := by
  rw [signalToNoise, noise_eq_sqrt, noiseRatio, noiseVariance]

theorem electrons_nonneg (hs : 0 < s.maxElectrons) (l : ℝ) : 0 ≤ s.electrons l := by
  rw [electrons_eq]
  exact mul_nonneg hs.le (le_max_right l 0)

theorem electrons_eq_zero_iff (hs : 0 < s.maxElectrons) : s.electrons l = 0 ↔ l ≤ 0 := by
  rw [electrons_eq, mul_eq_zero, or_iff_right hs.ne', max_eq_right_iff]

/-- **The ratio grows strictly with the light.** -/
theorem signalToNoise_strictMonoOn (hs : 0 < s.maxElectrons) :
    StrictMonoOn s.signalToNoise (Set.Ici 0) := by
  intro a ha b hb hab
  have helectrons : s.electrons a < s.electrons b := by
    rw [electrons_eq, electrons_eq, max_eq_left ha, max_eq_left hb]
    exact mul_lt_mul_of_pos_left hab hs
  rw [signalToNoise_eq, signalToNoise_eq]
  exact noiseRatio_strictMonoOn (electrons_nonneg hs a) (electrons_nonneg hs b) helectrons

/-- **A sensor with fewer electrons has the smaller ratio.** -/
theorem signalToNoise_lt (ht : 0 < t.maxElectrons) (h : t.maxElectrons < s.maxElectrons)
    (hl : 0 < l) : t.signalToNoise l < s.signalToNoise l := by
  have helectrons : t.electrons l < s.electrons l := by
    rw [electrons_eq, electrons_eq, max_eq_left hl.le]
    exact mul_lt_mul_of_pos_right h hl
  rw [signalToNoise_eq, signalToNoise_eq]
  exact noiseRatio_strictMonoOn (electrons_nonneg ht l) (electrons_nonneg (ht.trans h) l) helectrons

end SensorModel

/-! ### Cameras -/

namespace CameraSettings

open SensorModel

theorem maxElectrons_sensorModel_pos (s : CameraSettings) :
    0 < (s.sensorModel : SensorModel ℝ).maxElectrons :=
  maxElectrons_pos s.iso_pos (by exact_mod_cast s.pixels_pos) s.function.midTone_pos

/-- **The ratio of signal and noise of a camera.**  It grows strictly with the light from black on,
is zero exactly where there is no light, and is bounded by the reciprocal of the variation of gain
and by the square root of the electrons.  Of two cameras with the same transfer function, the one
with the smaller product of exposure index, width and height has the greater ratio at every light.
-/
theorem signalToNoise_law (c : CameraSettings) :
    let sensor (s : CameraSettings) : SensorModel ℝ := s.sensorModel
    StrictMonoOn (sensor c).signalToNoise (Set.Ici 0) ∧
    (∀ l, (sensor c).signalToNoise l = 0 ↔ l ≤ 0) ∧
    (1 / gainVariation = 200 ∧ ∀ l, (sensor c).signalToNoise l < (1 / gainVariation : Rat)) ∧
    (∀ l, (sensor c).signalToNoise l ≤ √((sensor c).electrons l)) ∧
    ∀ d, d.function = c.function → c.iso * c.width * c.height < d.iso * d.width * d.height →
      ∀ l, 0 < l → (sensor d).signalToNoise l < (sensor c).signalToNoise l := by
  intro sensor
  have hpos := c.maxElectrons_sensorModel_pos
  have hgain : 1 / gainVariation = 200 := by decide +kernel
  refine ⟨signalToNoise_strictMonoOn hpos, ?zero, ⟨hgain, ?gain⟩, ?photons, ?cameras⟩
  case zero =>
    intro l
    rw [signalToNoise_eq, noiseRatio_eq_zero_iff (electrons_nonneg hpos l),
      electrons_eq_zero_iff hpos]
  case gain =>
    intro l
    rw [signalToNoise_eq, hgain]
    exact_mod_cast noiseRatio_lt (electrons_nonneg hpos l)
  case photons =>
    intro l
    rw [signalToNoise_eq]
    exact noiseRatio_le_sqrt (electrons_nonneg hpos l)
  case cameras =>
    intro d hfunction hproduct l hl
    have hproduct' : c.iso * (c.pixels : Rat) < d.iso * (d.pixels : Rat) := by
      rw [pixels, pixels, Nat.cast_mul, Nat.cast_mul, ← mul_assoc, ← mul_assoc]
      exact hproduct
    refine signalToNoise_lt d.maxElectrons_sensorModel_pos ?_ hl
    change (ofQuantities d.iso d.pixels d.function.midTone : SensorModel ℝ).maxElectrons < _
    rw [hfunction]
    exact maxElectrons_strictAnti c.iso_pos (by exact_mod_cast c.pixels_pos)
      c.function.midTone_pos hproduct'

/-- Four times the pixels at the same exposure index have the smaller ratio at half of the peak. -/
theorem signalToNoise_law_fourfold :
    let hd : CameraSettings := ⟨1920, 1080, 800, .srgb, by decide, by decide, by decide⟩
    let uhd : CameraSettings := ⟨3840, 2160, 800, .srgb, by decide, by decide, by decide⟩
    uhd.function = hd.function ∧ hd.iso * hd.width * hd.height < uhd.iso * uhd.width * uhd.height ∧
      (0 : ℝ) < 1 / 2 ∧
      (uhd.sensorModel : SensorModel ℝ).signalToNoise (1 / 2) <
        (hd.sensorModel : SensorModel ℝ).signalToNoise (1 / 2) := by
  intro hd uhd
  have hproduct : hd.iso * hd.width * hd.height < uhd.iso * uhd.width * uhd.height := by
    decide +kernel
  have hlight : (0 : ℝ) < 1 / 2 := by norm_num
  obtain ⟨-, -, -, -, hcameras⟩ := signalToNoise_law hd
  exact ⟨rfl, hproduct, hlight, hcameras uhd rfl hproduct _ hlight⟩

end CameraSettings

end FilmGrain
