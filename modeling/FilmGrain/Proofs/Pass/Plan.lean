/-
**What a pass does before it touches a file.**

The settings are checked and sampled.  Of settings that pass the checks only the number of pixels
can stand in the way: from `pixelLimit` on it is nearer to the first power of two beyond double
precision than to any number of that precision.  Below the limit there is always a curve.

Main definitions:

* `FilmGrain.pixelLimit` — the least number of pixels that double precision does not hold;
* `Request.Planned` — the settings of a request and the curve that is sampled from them;
* `Request.tableText?` — the text of the table of a request.

Main results:

* `CameraSettings.pixelCount_of_lt`, `CameraSettings.pixelCount_of_le` — **the limit is exact**;
* `CameraSettings.exists_sampleAll` — **below the limit there is a curve**;
* `Request.settings_eq_error_iff`, `Request.settings_of_ok` — why settings are refused, and that the
  limit on integers does not matter where they are accepted;
* `Request.planned_or` — a request is refused, too large, or planned.
-/

import FilmGrain.Request
import FilmGrain.Proofs.Decimal.ReadBack
import FilmGrain.Proofs.Scaling.Sampling

set_option autoImplicit false

namespace FilmGrain

open Number

/-! ### The number of pixels -/

/-- The least number of pixels that double precision does not hold: halfway between its largest
number and the next power of two. -/
def pixelLimit : Nat := 2 ^ 1024 - 2 ^ 970

theorem position_pixelLimit : Format.double.count ≤ Format.double.position (pixelLimit : Nat) := by
  decide +kernel

theorem position_pixelLimit_pred :
    Format.double.position (pixelLimit - 1 : Nat) < Format.double.count := by
  decide +kernel

theorem inRange_natCast_iff {n : Nat} : Format.double.InRange n ↔ n < pixelLimit := by
  have hnonneg (k : Nat) : (0 : Rat) ≤ k := Nat.cast_nonneg k
  rw [Format.InRange, abs_of_nonneg (hnonneg n)]
  constructor
  · intro h
    by_contra hge
    have hle : ((pixelLimit : Nat) : Rat) ≤ n := Nat.cast_le.2 (not_lt.1 hge)
    have := Format.double.position_mono (hnonneg _) hle
    have := position_pixelLimit
    omega
  · intro h
    have hle : (n : Rat) ≤ (pixelLimit - 1 : Nat) := Nat.cast_le.2 (Nat.le_sub_one_of_lt h)
    exact (Format.double.position_mono (hnonneg n) hle).trans_lt position_pixelLimit_pred

/-- An integer of either sign is held up to the same limit. -/
theorem inRange_intCast_iff {n : Int} : Format.double.InRange n ↔ n.natAbs < pixelLimit := by
  have habs : |((n.natAbs : Nat) : Rat)| = |(n : Rat)| := by
    rw [Nat.cast_natAbs, Int.cast_abs, abs_abs]
  rw [← inRange_natCast_iff, Format.InRange, Format.InRange, habs]

namespace CameraSettings

variable {s : CameraSettings}

/-- Below the limit the number of pixels has a number of double precision. -/
theorem pixelCount_of_lt (h : s.pixels < pixelLimit) : ∃ count, s.pixelCount = .ok count :=
  exists_pixelCount_of_inRange (inRange_natCast_iff.2 h)

/-- From the limit on it has none. -/
theorem pixelCount_of_le (h : pixelLimit ≤ s.pixels) : s.pixelCount = .error .integerTooLarge := by
  have hcount := Binary.ofInt?_of_not_inRange (f := .double) (n := s.pixels)
    (mt inRange_intCast_iff.1 (not_lt.2 h))
  rw [pixelCount, hcount]

/-- Below the limit there is a model of the sensor. -/
theorem sensor_of_lt {f : Format} (h : s.pixels < pixelLimit) :
    (s.sensor : Except SettingsError (SensorModel (Binary f))) = .ok s.sensorModel := by
  obtain ⟨count, hcount⟩ := pixelCount_of_lt h
  rw [sensor, hcount]
  rfl

/-- Below the limit both sides may always be written, so nothing is refused in the lines and in the
title that hold them. -/
theorem admits_sides_of_lt (limit : DigitLimit) (h : s.pixels < pixelLimit) :
    limit.Admits s.width ∧ limit.Admits s.height := by
  have hlimit : pixelLimit < 10 ^ 309 := by decide +kernel
  have hwidth : s.width ≤ s.pixels := Nat.le_mul_of_pos_right s.width s.height_pos
  have hheight : s.height ≤ s.pixels := Nat.le_mul_of_pos_left s.height s.width_pos
  constructor
  · exact DigitLimit.admits_of_lt (by decide) ((hwidth.trans_lt h).trans hlimit)
  · exact DigitLimit.admits_of_lt (by decide) ((hheight.trans_lt h).trans hlimit)

/-- **Below the limit there is a curve**, whatever the settings are. -/
theorem exists_sampleAll (h : s.pixels < pixelLimit) : ∃ curve, s.sampleAll = .ok curve := by
  obtain ⟨count, hcount⟩ := pixelCount_of_lt h
  obtain ⟨curve, hcurve, -⟩ := exists_sampleNoise_integer (n := maxPoints) (by decide) (by decide)
    (encodedNoise s.function.curve s.sensorModel)
  refine ⟨curve, ?_⟩
  rw [sampleAll, sample, sampleWith_eq hcount, checkCount_integer (by decide) (by decide)]
  exact hcurve

/-- From the limit on the settings are not sampled. -/
theorem sampleAll_of_le (h : pixelLimit ≤ s.pixels) :
    s.sampleAll = .error (.settings .integerTooLarge) := by
  have hsensor :
      (s.sensor : Except SettingsError (SensorModel Single)) = .error .integerTooLarge := by
    rw [sensor, pixelCount_of_le h]
    rfl
  rw [sampleAll, sample, sampleWith, checkCount_integer (by decide) (by decide), hsensor]
  rfl

end CameraSettings

/-! ### Refusals -/

/-- **Settings are refused for the transfer function, or else for a value.** -/
theorem Request.settings_eq_error_iff {limit : DigitLimit} {r : Request} {failure : Failure} :
    r.settings limit = .error failure ↔
      (∃ error, TransferFunction.ofSetting r.function = .error error ∧ .lookup error = failure) ∨
      ∃ function error, TransferFunction.ofSetting r.function = .ok function ∧
        CameraSettings.check limit r.width r.height r.iso (.registered function) = .error error ∧
        .settings error = failure := by
  rw [Request.settings, bind_eq_error_iff, mapError_eq_error_iff]
  simp only [mapError_eq_ok_iff, mapError_eq_error_iff]
  constructor
  · rintro (h | ⟨function, hfunction, error, hcheck, hfailure⟩)
    · exact Or.inl h
    · exact Or.inr ⟨function, error, hfunction, hcheck, hfailure⟩
  · rintro (h | ⟨function, error, hfunction, hcheck, hfailure⟩)
    · exact Or.inl h
    · exact Or.inr ⟨function, hfunction, error, hcheck, hfailure⟩

/-! ### Plans -/

namespace Request

/-- Which settings are accepted does not depend on what may be written. -/
theorem settings_of_ok {limit : DigitLimit} {r : Request} {s : CameraSettings}
    (h : r.settings limit = .ok s) (other : DigitLimit) : r.settings other = .ok s := by
  rw [settings, bind_eq_ok_iff] at h ⊢
  simp only [mapError_eq_ok_iff, CameraSettings.check_eq_ok_iff] at h ⊢
  exact h

/-- The settings of a request, and the curve that is sampled from them. -/
structure Planned (r : Request) (settings : CameraSettings) (curve : ScalingCurve) : Prop where
  checked : r.settings .unlimited = .ok settings
  representable : settings.pixels < pixelLimit
  sampled : settings.sampleAll = .ok curve

/-- The text of the table of a request, if there is a curve for it. -/
def tableText? (r : Request) : Option String :=
  match r.settings .unlimited with
  | .error _ => none
  | .ok settings =>
      match settings.sampleAll with
      | .error _ => none
      | .ok curve => some (GrainTable.wholeStream curve).text

theorem Planned.tableText?_eq {r : Request} {settings : CameraSettings} {curve : ScalingCurve}
    (h : r.Planned settings curve) : r.tableText? = some (GrainTable.wholeStream curve).text := by
  simp only [tableText?, h.checked, h.sampled]

/-- **A request is refused, or its image has too many pixels, or it has a plan.** -/
theorem planned_or (limit : DigitLimit) (r : Request) :
    (∃ failure, r.settings limit = .error failure) ∨
    (∃ settings, r.settings limit = .ok settings ∧ pixelLimit ≤ settings.pixels) ∨
    ∃ settings curve, r.Planned settings curve := by
  cases hchecked : r.settings limit with
  | error failure => exact Or.inl ⟨failure, rfl⟩
  | ok settings =>
      rcases lt_or_ge settings.pixels pixelLimit with hlt | hge
      · obtain ⟨curve, hsampled⟩ := CameraSettings.exists_sampleAll hlt
        exact Or.inr (Or.inr ⟨settings, curve, settings_of_ok hchecked _, hlt, hsampled⟩)
      · exact Or.inr (Or.inl ⟨settings, rfl, hge⟩)

end Request

end FilmGrain
