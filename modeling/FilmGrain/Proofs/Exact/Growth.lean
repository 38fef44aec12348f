/-
**A higher exposure index or more pixels never mean less grain.**

The electrons of the peak fall with the product of the exposure index and the number of pixels, and
with fewer electrons the noise is a larger part of the peak.  A larger deviation widens the window
of the secant, though never in proportion: the deviation over the width of the window grows with the
deviation, whether the window is cut off at black, at the peak, at both or at neither.  The rise
over a wider window is larger where the curve never falls.  So the encoded noise, which is the
deviation over the width times the rise, grows as well, and rounding and cutting off keep the order.

All of this is about the exact reading of the formulas, for any curve that never falls.

Main results:

* `SensorModel.maxElectrons_anti`, `SensorModel.linearNoise_anti` — the sensor;
* `FilmGrain.windowWidth_pos`, `FilmGrain.deviation_mul_windowWidth_le` — the window;
* `FilmGrain.encodedNoise_le` — the encoded noise of two sensors;
* `FilmGrain.grain_mono` — **the grain of two cameras**.
-/

import FilmGrain.Proofs.Exact.Arithmetic
import FilmGrain.Scaling.Sampling

set_option autoImplicit false

namespace FilmGrain

open Arith Exact

/-! ### The sensor -/

namespace SensorModel

variable {iso pixels midTone : Rat}

/-- The electrons of the peak, in ordinary notation. -/
theorem maxElectrons_eq (iso pixels midTone : Rat) :
    (ofQuantities iso pixels midTone : SensorModel ℝ).maxElectrons =
      0.20 * 11260 * (10 / (iso : ℝ)) * (36000 * 24000 / (pixels : ℝ)) / (midTone : ℝ) := by
  simp only [ofQuantities, const_eq, quantumEfficiency, photonsPerExposure,
    CameraSettings.sensorWidth, CameraSettings.sensorHeight]
  norm_num

theorem maxElectrons_pos (hiso : 0 < iso) (hpixels : 0 < pixels) (hmid : 0 < midTone) :
    0 < (ofQuantities iso pixels midTone : SensorModel ℝ).maxElectrons := by
  have hiso' : (0 : ℝ) < iso := by exact_mod_cast hiso
  have hpixels' : (0 : ℝ) < pixels := by exact_mod_cast hpixels
  have hmid' : (0 : ℝ) < midTone := by exact_mod_cast hmid
  rw [maxElectrons_eq]
  positivity

/-- The exposure index and the number of pixels only matter by their product. -/
theorem maxElectrons_eq_div (iso pixels midTone : Rat) :
    (ofQuantities iso pixels midTone : SensorModel ℝ).maxElectrons =
      0.20 * 11260 * 10 * (36000 * 24000) / (iso * pixels) / (midTone : ℝ) := by
  rw [maxElectrons_eq, mul_assoc, div_mul_div_comm]
  ring

/-- **More pixels or a higher exposure index mean fewer electrons at the peak.** -/
theorem maxElectrons_anti {iso' pixels' : Rat} (hiso : 0 < iso) (hpixels : 0 < pixels)
    (hmid : 0 < midTone) (h : iso * pixels ≤ iso' * pixels') :
    (ofQuantities iso' pixels' midTone : SensorModel ℝ).maxElectrons ≤
      (ofQuantities iso pixels midTone : SensorModel ℝ).maxElectrons := by
  have hproduct : (0 : ℝ) < iso * pixels := by exact_mod_cast mul_pos hiso hpixels
  have hmid' : (0 : ℝ) < midTone := by exact_mod_cast hmid
  have hle : (iso : ℝ) * pixels ≤ iso' * pixels' := by exact_mod_cast h
  rw [maxElectrons_eq_div, maxElectrons_eq_div]
  exact div_le_div_of_nonneg_right (div_le_div_of_nonneg_left (by norm_num) hproduct hle) hmid'.le

/-- The electrons are strictly fewer for a larger product. -/
theorem maxElectrons_strictAnti {iso' pixels' : Rat} (hiso : 0 < iso) (hpixels : 0 < pixels)
    (hmid : 0 < midTone) (h : iso * pixels < iso' * pixels') :
    (ofQuantities iso' pixels' midTone : SensorModel ℝ).maxElectrons <
      (ofQuantities iso pixels midTone : SensorModel ℝ).maxElectrons := by
  have hproduct : (0 : ℝ) < iso * pixels := by exact_mod_cast mul_pos hiso hpixels
  have hmid' : (0 : ℝ) < midTone := by exact_mod_cast hmid
  have hlt : (iso : ℝ) * pixels < iso' * pixels' := by exact_mod_cast h
  rw [maxElectrons_eq_div, maxElectrons_eq_div]
  exact div_lt_div_of_pos_right (div_lt_div_of_pos_left (by norm_num) hproduct hlt) hmid'

variable {s t : SensorModel ℝ} {l : ℝ}

/-- The captured electrons, in ordinary notation. -/
theorem electrons_eq (s : SensorModel ℝ) (l : ℝ) : s.electrons l = s.maxElectrons * max l 0 := by
  rw [electrons, clamp_eq]

/-- The noise of captured electrons, in ordinary notation. -/
theorem noise_eq_sqrt (s : SensorModel ℝ) (l : ℝ) :
    s.noise l = √(1.5 * 1.5 + s.electrons l + 0.005 * 0.005 * s.electrons l ^ 2) := by
  simp only [noise, sqrt_eq, const_eq, readNoise, gainVariation]
  congr 1
  push_cast
  ring

theorem noise_eq (hl : 0 ≤ l) :
    s.noise l = √(1.5 * 1.5 + s.maxElectrons * l + 0.005 * 0.005 * (s.maxElectrons * l) ^ 2) := by
  rw [noise_eq_sqrt, electrons_eq, max_eq_left hl]

theorem linearNoise_pos (hs : 0 < s.maxElectrons) (hl : 0 ≤ l) : 0 < s.linearNoise l := by
  have he : 0 ≤ s.maxElectrons * l := mul_nonneg hs.le hl
  have hnoise : 0 < s.noise l := by
    rw [noise_eq hl]
    exact Real.sqrt_pos.2 (by positivity)
  exact div_pos hnoise hs

/-- **With fewer electrons the noise is a larger part of the peak.** -/
theorem linearNoise_anti (ht : 0 < t.maxElectrons) (h : t.maxElectrons ≤ s.maxElectrons)
    (hl : 0 ≤ l) : s.linearNoise l ≤ t.linearNoise l := by
  have hs : 0 < s.maxElectrons := ht.trans_le h
  have hsquare : t.maxElectrons ^ 2 ≤ s.maxElectrons ^ 2 := pow_le_pow_left₀ ht.le h 2
  -- the photon noise; the read noise is compared by the squares, and the gain is proportional
  have hphoton : s.maxElectrons * l * t.maxElectrons ^ 2 ≤
      t.maxElectrons * l * s.maxElectrons ^ 2 := by
    have := mul_le_mul_of_nonneg_left h (mul_nonneg (mul_nonneg hs.le ht.le) hl)
    nlinarith
  have hvariance :
      (1.5 * 1.5 + s.maxElectrons * l + 0.005 * 0.005 * (s.maxElectrons * l) ^ 2) *
          t.maxElectrons ^ 2 ≤
        (1.5 * 1.5 + t.maxElectrons * l + 0.005 * 0.005 * (t.maxElectrons * l) ^ 2) *
          s.maxElectrons ^ 2 := by
    nlinarith
  have hroot := Real.sqrt_le_sqrt hvariance
  rw [Real.sqrt_mul' _ (sq_nonneg _), Real.sqrt_mul' _ (sq_nonneg _), Real.sqrt_sq ht.le,
    Real.sqrt_sq hs.le, ← noise_eq hl, ← noise_eq hl] at hroot
  exact (div_le_div_iff₀ hs ht).2 hroot

end SensorModel

/-! ### The window -/

section Window

variable {l d d' : ℝ}

theorem windowStart_eq (l d : ℝ) : windowStart l d = max 0 (l - 2 * d) := by
  simp only [windowStart, const_eq, windowDeviations]
  norm_num

theorem windowStop_eq (l d : ℝ) : windowStop l d = min 1 (l + 2 * d) := by
  simp only [windowStop, const_eq, windowDeviations]
  norm_num

/-- The part of the window below the light, and the part above it. -/
theorem windowWidth_eq (l d : ℝ) : windowWidth l d = min l (2 * d) + min (1 - l) (2 * d) := by
  have hbelow : l - max 0 (l - 2 * d) = min l (2 * d) := by
    rw [← min_sub_sub_left]
    simp
  have habove : min 1 (l + 2 * d) - l = min (1 - l) (2 * d) := by
    rw [← min_sub_sub_right]
    simp
  rw [← hbelow, ← habove]
  change windowStop l d - windowStart l d = _
  rw [windowStart_eq, windowStop_eq]
  ring

/-- **The window of a light from black to the peak has a width.** -/
theorem windowWidth_pos (hl : l ∈ Set.Icc (0 : ℝ) 1) (hd : 0 < d) : 0 < windowWidth l d := by
  have hbelow : 0 ≤ min l (2 * d) := le_min hl.1 (by positivity)
  have habove : 0 ≤ min (1 - l) (2 * d) := le_min (by linarith [hl.2]) (by positivity)
  rw [windowWidth_eq]
  rcases hl.1.eq_or_lt with rfl | hpos
  · have : 0 < min (1 - 0) (2 * d) := lt_min (by norm_num) (by positivity)
    linarith
  · have : 0 < min l (2 * d) := lt_min hpos (by positivity)
    linarith

/-- A part of the window does not grow in proportion to the deviation. -/
theorem mul_min_le {a : ℝ} (ha : 0 ≤ a) (hd : 0 ≤ d) (h : d ≤ d') :
    d * min a (2 * d') ≤ d' * min a (2 * d) := by
  rw [mul_min_of_nonneg _ _ hd, mul_min_of_nonneg _ _ (hd.trans h)]
  refine min_le_min (mul_le_mul_of_nonneg_right h ha) (le_of_eq ?_)
  ring

/-- **The window does not grow in proportion to the deviation**, wherever it is cut off. -/
theorem deviation_mul_windowWidth_le (hl : l ∈ Set.Icc (0 : ℝ) 1) (hd : 0 ≤ d) (h : d ≤ d') :
    d * windowWidth l d' ≤ d' * windowWidth l d := by
  have hbelow := mul_min_le hl.1 hd h
  have habove := mul_min_le (sub_nonneg.2 hl.2) hd h
  rw [windowWidth_eq, windowWidth_eq]
  linarith

theorem windowStart_mem (hl : l ∈ Set.Icc (0 : ℝ) 1) (hd : 0 ≤ d) :
    windowStart l d ∈ Set.Icc (0 : ℝ) 1 := by
  rw [windowStart_eq]
  exact ⟨le_max_left _ _, max_le zero_le_one (by linarith [hl.2])⟩

theorem windowStop_mem (hl : l ∈ Set.Icc (0 : ℝ) 1) (hd : 0 ≤ d) :
    windowStop l d ∈ Set.Icc (0 : ℝ) 1 := by
  rw [windowStop_eq]
  exact ⟨le_min zero_le_one (by linarith [hl.1]), min_le_left _ _⟩

theorem windowStart_anti (h : d ≤ d') : windowStart l d' ≤ windowStart l d := by
  rw [windowStart_eq, windowStart_eq]
  exact max_le_max_left _ (by linarith)

theorem windowStop_mono (h : d ≤ d') : windowStop l d ≤ windowStop l d' := by
  rw [windowStop_eq, windowStop_eq]
  exact min_le_min_left _ (by linarith)

variable {curve : ToneCurve ℝ}

theorem windowRise_nonneg (hcurve : MonotoneOn curve.fromLinear (Set.Icc 0 1))
    (hl : l ∈ Set.Icc (0 : ℝ) 1) (hd : 0 < d) : 0 ≤ windowRise curve l d := by
  have hends : windowStart l d ≤ windowStop l d := (sub_pos.1 (windowWidth_pos hl hd)).le
  exact sub_nonneg.2 (hcurve (windowStart_mem hl hd.le) (windowStop_mem hl hd.le) hends)

/-- **A curve that never falls rises more over a wider window.** -/
theorem windowRise_mono (hcurve : MonotoneOn curve.fromLinear (Set.Icc 0 1))
    (hl : l ∈ Set.Icc (0 : ℝ) 1) (hd : 0 ≤ d) (h : d ≤ d') :
    windowRise curve l d ≤ windowRise curve l d' := by
  have hstop := hcurve (windowStop_mem hl hd) (windowStop_mem hl (hd.trans h)) (windowStop_mono h)
  have hstart :=
    hcurve (windowStart_mem hl (hd.trans h)) (windowStart_mem hl hd) (windowStart_anti h)
  exact sub_le_sub hstop hstart

end Window

/-! ### The encoded noise -/

section EncodedNoise

variable {curve : ToneCurve ℝ} {s t : SensorModel ℝ} {x : ℝ}

/-- The encoded noise where the window has a width: the deviation over the width, times the rise. -/
theorem encodedNoise_eq (hx : curve.toLinear x ∈ Set.Icc (0 : ℝ) 1) (hs : 0 < s.maxElectrons) :
    encodedNoise curve s x =
      s.linearNoise (curve.toLinear x) /
          windowWidth (curve.toLinear x) (s.linearNoise (curve.toLinear x)) *
        windowRise curve (curve.toLinear x) (s.linearNoise (curve.toLinear x)) := by
  have hwidth := windowWidth_pos hx (SensorModel.linearNoise_pos hs hx.1)
  have hlt : lt (const 0 : ℝ)
      (windowWidth (curve.toLinear x) (s.linearNoise (curve.toLinear x))) := by
    rw [const_eq, Rat.cast_zero]
    exact lt_iff.2 hwidth
  rw [div_mul_eq_mul_div, mul_div_assoc, encodedNoise]
  simp only [secantSlope, hlt, if_true]

/-- The encoded noise is not negative. -/
theorem encodedNoise_nonneg (hcurve : MonotoneOn curve.fromLinear (Set.Icc 0 1))
    (hx : curve.toLinear x ∈ Set.Icc (0 : ℝ) 1) (hs : 0 < s.maxElectrons) :
    0 ≤ encodedNoise curve s x := by
  have hdeviation := SensorModel.linearNoise_pos hs hx.1
  rw [encodedNoise_eq hx hs]
  exact mul_nonneg (div_nonneg hdeviation.le (windowWidth_pos hx hdeviation).le)
    (windowRise_nonneg hcurve hx hdeviation)

/-- **The encoded noise is larger for fewer electrons.** -/
theorem encodedNoise_le (hcurve : MonotoneOn curve.fromLinear (Set.Icc 0 1))
    (hx : curve.toLinear x ∈ Set.Icc (0 : ℝ) 1) (ht : 0 < t.maxElectrons)
    (h : t.maxElectrons ≤ s.maxElectrons) : encodedNoise curve s x ≤ encodedNoise curve t x := by
  have hs : 0 < s.maxElectrons := ht.trans_le h
  have hpos := SensorModel.linearNoise_pos hs hx.1
  have hpos' := SensorModel.linearNoise_pos ht hx.1
  have hdeviation := SensorModel.linearNoise_anti ht h hx.1
  have hwidth' := windowWidth_pos hx hpos'
  have hratio := deviation_mul_windowWidth_le hx hpos.le hdeviation
  rw [← div_le_div_iff₀ (windowWidth_pos hx hpos) hwidth'] at hratio
  rw [encodedNoise_eq hx hs, encodedNoise_eq hx ht]
  exact mul_le_mul hratio (windowRise_mono hcurve hx hpos.le hdeviation)
    (windowRise_nonneg hcurve hx hpos) (div_nonneg hpos'.le hwidth'.le)

/-- What is stored of a noise, in ordinary notation. -/
theorem storedNoise_eq (sigma : ℝ) :
    storedNoise sigma = min (max (StoringArith.roundHalfAway (255 * 7.88 * sigma)) 0) 255 := by
  have hdefined : definedNoise sigma = sigma := if_pos rfl
  simp only [storedNoise, hdefined, const_eq, maxStored, templateAmplitude]
  norm_num

theorem storedNoise_mono {sigma tau : ℝ} (hsigma : 0 ≤ sigma) (h : sigma ≤ tau) :
    storedNoise sigma ≤ storedNoise tau := by
  rw [storedNoise_eq, storedNoise_eq]
  refine min_le_min_right _ (max_le_max_right _ (roundHalfAway_mono (by positivity) ?_))
  linarith

end EncodedNoise

/-! ### Power laws -/

namespace ToneCurve

variable {gamma : Rat} {l : ℝ}

theorem powerLaw_toLinear (hl : 0 ≤ l) :
    (powerLaw gamma : ToneCurve ℝ).toLinear l = l ^ (gamma : ℝ) := by
  simp only [powerLaw, clamp_of_nonneg hl, pow_eq, const_eq]

theorem powerLaw_fromLinear (hl : 0 ≤ l) :
    (powerLaw gamma : ToneCurve ℝ).fromLinear l = l ^ (gamma : ℝ)⁻¹ := by
  simp only [powerLaw, clamp_of_nonneg hl, pow_eq, const_eq, Rat.cast_one, one_div]

/-- A power law never falls. -/
theorem powerLaw_fromLinear_monotoneOn (h : 0 ≤ gamma) :
    MonotoneOn (powerLaw gamma : ToneCurve ℝ).fromLinear (Set.Icc 0 1) := by
  intro u hu v hv huv
  have hexponent : (0 : ℝ) ≤ (gamma : ℝ)⁻¹ := inv_nonneg.2 (by exact_mod_cast h)
  rw [powerLaw_fromLinear hu.1, powerLaw_fromLinear hv.1]
  exact Real.rpow_le_rpow hu.1 huv hexponent

end ToneCurve

/-! ### Cameras -/

/-- Every registered transfer function has a positive mid-tone. -/
theorem TransferFunction.midTone_pos (t : TransferFunction) : 0 < t.midTone := by
  cases t <;> decide +kernel

/-- **More pixels or a higher exposure index never mean less grain.**  Take a curve that never falls
from black to the peak, a positive mid-tone, and an encoded value with a light in that range.  Then
the sensor of every camera captures electrons, its window at this light has a width, and its encoded
noise is not negative; and if the product of exposure index, width and height of one camera is at
most that of another, neither the noise nor the amplitude that is stored of it is less for the
other. -/
theorem grain_mono {curve : ToneCurve ℝ} (hcurve : MonotoneOn curve.fromLinear (Set.Icc 0 1))
    {midTone : Rat} (hmid : 0 < midTone) {x : ℝ} (hx : curve.toLinear x ∈ Set.Icc (0 : ℝ) 1)
    {c d : CameraSettings} (hproduct : c.iso * c.width * c.height ≤ d.iso * d.width * d.height) :
    let sensor (s : CameraSettings) : SensorModel ℝ := .ofQuantities s.iso s.pixels midTone
    let light := curve.toLinear x
    (∀ s, (s.function.midTone = midTone → s.sensorModel = sensor s) ∧
        0 < (sensor s).maxElectrons ∧ 0 < windowWidth light ((sensor s).linearNoise light) ∧
        0 ≤ encodedNoise curve (sensor s) x) ∧
      encodedNoise curve (sensor c) x ≤ encodedNoise curve (sensor d) x ∧
      storedNoise (encodedNoise curve (sensor c) x) ≤
        storedNoise (encodedNoise curve (sensor d) x) := by
  intro sensor light
  have hpixels (s : CameraSettings) : (0 : Rat) < s.pixels := by exact_mod_cast s.pixels_pos
  have hpos (s : CameraSettings) : 0 < (sensor s).maxElectrons :=
    SensorModel.maxElectrons_pos s.iso_pos (hpixels s) hmid
  have hproduct' : c.iso * (c.pixels : Rat) ≤ d.iso * (d.pixels : Rat) := by
    rw [CameraSettings.pixels, CameraSettings.pixels, Nat.cast_mul, Nat.cast_mul, ← mul_assoc,
      ← mul_assoc]
    exact hproduct
  have hnoise : encodedNoise curve (sensor c) x ≤ encodedNoise curve (sensor d) x :=
    encodedNoise_le hcurve hx (hpos d)
      (SensorModel.maxElectrons_anti c.iso_pos (hpixels c) hmid hproduct')
  have hnonneg (s : CameraSettings) := encodedNoise_nonneg hcurve hx (hpos s)
  refine ⟨fun s => ⟨?_, hpos s, ?_, hnonneg s⟩, hnoise, storedNoise_mono (hnonneg c) hnoise⟩
  · rintro rfl
    rfl
  · exact windowWidth_pos hx (SensorModel.linearNoise_pos (hpos s) hx.1)

/-- Two cameras with the power law of exponent 2.2, at half of full scale. -/
theorem grain_mono_powerLaw :
    let hd : CameraSettings := ⟨1920, 1080, 800, .bt470m, by decide, by decide, by decide⟩
    let uhd : CameraSettings := ⟨3840, 2160, 25600, .bt470m, by decide, by decide, by decide⟩
    hd.iso * hd.width * hd.height ≤ uhd.iso * uhd.width * uhd.height ∧
      (TransferFunction.bt470m.curve : ToneCurve ℝ).toLinear (1 / 2) ∈ Set.Icc (0 : ℝ) 1 ∧
      encodedNoise TransferFunction.bt470m.curve (hd.sensorModel : SensorModel ℝ) (1 / 2) ≤
        encodedNoise TransferFunction.bt470m.curve uhd.sensorModel (1 / 2) := by
  intro hd uhd
  have hproduct : hd.iso * hd.width * hd.height ≤ uhd.iso * uhd.width * uhd.height := by
    decide +kernel
  have hlight : (TransferFunction.bt470m.curve : ToneCurve ℝ).toLinear (1 / 2) ∈
      Set.Icc (0 : ℝ) 1 := by
    rw [TransferFunction.curve, ToneCurve.powerLaw_toLinear (by norm_num)]
    exact ⟨by positivity, Real.rpow_le_one (by norm_num) (by norm_num) (by norm_num)⟩
  have hcurve : MonotoneOn (TransferFunction.bt470m.curve : ToneCurve ℝ).fromLinear
      (Set.Icc 0 1) := ToneCurve.powerLaw_fromLinear_monotoneOn (by norm_num)
  obtain ⟨hsensor, hnoise, -⟩ :=
    grain_mono hcurve TransferFunction.bt470m.midTone_pos hlight hproduct
  refine ⟨hproduct, hlight, ?_⟩
  rw [(hsensor hd).1 rfl, (hsensor uhd).1 rfl]
  exact hnoise

end FilmGrain
