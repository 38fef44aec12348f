/-
**Pixels may be traded for exposure index.**

The electrons of a sensor fall with the product of exposure index and number of pixels.  An image
with twice the columns at half the exposure index has the same electrons, and not only up to
rounding: the exposure doubles, the area of a pixel is halved, and every step in between is rounded
alike.  The same is true of any powers of two, in every arithmetic whose roundings commute with
them, and in a binary format as long as no step before the last product underflows or overflows.
Two sensors with the same electrons agree in everything that is computed from them.

Main definitions:

* `CameraSettings.traded`, `CameraSettings.turned` — a camera with other sides of the image;
* `CameraSettings.SameGrain` — cameras with the same sensor and the same noise;
* `CameraSettings.StaysNormal` — no step underflows or overflows.

Main results:

* `CameraSettings.sensorModel_traded_rounded`, `CameraSettings.sensorModel_traded_binary` — **the
  sensor after a trade**;
* `CameraSettings.sameGrain_of_sensorModel`, `CameraSettings.sample_eq` — what follows from it;
* `CameraSettings.staysNormal` — **there is no underflow and no overflow for any camera in use**;
* `CameraSettings.trade_exact` — **nothing that is computed of a camera sees a trade**.
-/

import FilmGrain.Proofs.Exact.Rounded
import FilmGrain.Proofs.Number.PowersOfTwo
import FilmGrain.Proofs.Scaling.Sampling

set_option autoImplicit false

namespace FilmGrain

open Arith Number

namespace SensorModel

/-- The electrons of the mid-tone are a product of two factors, one with the exposure index and one
with the number of pixels. -/
theorem ofQuantities_congr {α : Type} [Arith α] {iso iso' pixels pixels' : Rat} (midTone : Rat)
    (h : (const quantumEfficiency * const photonsPerExposure * (const 10 / const iso') *
        (const CameraSettings.sensorWidth * const CameraSettings.sensorHeight /
          const pixels') : α) =
      const quantumEfficiency * const photonsPerExposure * (const 10 / const iso) *
        (const CameraSettings.sensorWidth * const CameraSettings.sensorHeight / const pixels)) :
    (ofQuantities iso' pixels' midTone : SensorModel α) = ofQuantities iso pixels midTone := by
  simp only [ofQuantities, h]

end SensorModel

namespace CameraSettings

open SensorModel

/-! ### Cameras -/

/-- A camera with more columns and rows, by powers of two, and as much less of exposure index. -/
def traded (s : CameraSettings) (i j : Nat) : CameraSettings where
  width := s.width * 2 ^ i
  height := s.height * 2 ^ j
  iso := s.iso / 2 ^ (i + j)
  function := s.function
  width_pos := Nat.mul_pos s.width_pos (Nat.two_pow_pos i)
  height_pos := Nat.mul_pos s.height_pos (Nat.two_pow_pos j)
  iso_pos := div_pos s.iso_pos (by positivity)

/-- A camera with columns for rows. -/
def turned (s : CameraSettings) : CameraSettings where
  width := s.height
  height := s.width
  iso := s.iso
  function := s.function
  width_pos := s.height_pos
  height_pos := s.width_pos
  iso_pos := s.iso_pos

variable {s t : CameraSettings} {i j : Nat} {f : Format}

theorem function_traded : (s.traded i j).function = s.function := rfl

theorem function_turned : s.turned.function = s.function := rfl

theorem iso_traded : (s.traded i j).iso = s.iso * (2 : Rat) ^ (-(i + j : Int)) := by
  rw [traded, zpow_neg, ← div_eq_mul_inv]
  exact_mod_cast rfl

theorem pixels_traded :
    ((s.traded i j).pixels : Rat) = s.pixels * (2 : Rat) ^ (i + j : Int) := by
  rw [zpow_add₀ two_ne_zero, zpow_natCast, zpow_natCast, pixels, pixels, traded]
  push_cast
  ring

theorem pixels_turned (s : CameraSettings) : s.turned.pixels = s.pixels :=
  Nat.mul_comm s.height s.width

/-! ### What follows from the sensor -/

/-- The sensors of two cameras have the same electrons and the same noise at every light, and every
encoded value has the same noise and the same stored amplitude. -/
structure SameGrain (α : Type) [StoringArith α] (s t : CameraSettings) : Prop where
  midToneElectrons : (t.sensorModel : SensorModel α).midToneElectrons =
    (s.sensorModel : SensorModel α).midToneElectrons
  maxElectrons : (t.sensorModel : SensorModel α).maxElectrons =
    (s.sensorModel : SensorModel α).maxElectrons
  electrons (light : α) : (t.sensorModel : SensorModel α).electrons light =
    (s.sensorModel : SensorModel α).electrons light
  noise (light : α) : (t.sensorModel : SensorModel α).noise light =
    (s.sensorModel : SensorModel α).noise light
  linearNoise (light : α) : (t.sensorModel : SensorModel α).linearNoise light =
    (s.sensorModel : SensorModel α).linearNoise light
  signalToNoise (light : α) : (t.sensorModel : SensorModel α).signalToNoise light =
    (s.sensorModel : SensorModel α).signalToNoise light
  encodedNoise (x : α) : FilmGrain.encodedNoise t.function.curve t.sensorModel x =
    FilmGrain.encodedNoise s.function.curve s.sensorModel x
  storedNoise (x : α) :
    FilmGrain.storedNoise (FilmGrain.encodedNoise t.function.curve t.sensorModel x) =
      FilmGrain.storedNoise (FilmGrain.encodedNoise s.function.curve s.sensorModel x)

/-- **Cameras with the same sensor and the same transfer function have the same grain.** -/
theorem sameGrain_of_sensorModel {α : Type} [StoringArith α] (hfunction : t.function = s.function)
    (h : (t.sensorModel : SensorModel α) = s.sensorModel) : SameGrain α s t := by
  constructor <;> intros <;> rw [h]
  all_goals rw [hfunction]

/-- **Cameras with the same sensor and the same transfer function are sampled alike**, if the
numbers of their pixels can be read. -/
theorem sample_eq {m n : Double} (hfunction : t.function = s.function)
    (h : (t.sensorModel : SensorModel Single) = s.sensorModel) (hs : s.pixelCount = .ok m)
    (ht : t.pixelCount = .ok n) (count : Setting) : t.sample count = s.sample count := by
  rw [sample, sample, sampleWith_eq hs, sampleWith_eq ht, h, hfunction]

/-! ### The sensor after a trade -/

theorem sensorModel_traded_rounded (p : Precision) :
    ((s.traded i j).sensorModel : SensorModel (Rounded p)) = s.sensorModel := by
  refine ofQuantities_congr _ ?_
  rw [iso_traded, pixels_traded, Rounded.const_mul_zpow, Rounded.const_mul_zpow,
    Rounded.div_mul_zpow, Rounded.div_mul_zpow, neg_neg,
    -- the exposure is multiplied before the area of a pixel
    Rounded.mul_mul_zpow (const quantumEfficiency * const photonsPerExposure),
    Rounded.scale_mul_scale]

theorem sensorModel_turned {α : Type} [Arith α] (s : CameraSettings) :
    (s.turned.sensorModel : SensorModel α) = s.sensorModel := by
  rw [sensorModel, sensorModel, pixels_turned]
  rfl

/-- No step of the sensor before its last product underflows or overflows: the exposure index and
the number of pixels, as they are read and as they are used, the exposure, the area of a pixel, and
the electrons of an area. -/
structure StaysNormal (f : Format) (s : CameraSettings) : Prop where
  iso : Binary.NormalConst f s.iso
  pixels : Binary.NormalConst f s.pixels
  exposure : Binary.NormalQuotient (const 10 : Binary f) (const s.iso)
  area : Binary.NormalQuotient (const sensorWidth * const sensorHeight : Binary f) (const s.pixels)
  yield : Binary.NormalProduct (const quantumEfficiency * const photonsPerExposure : Binary f)
    (const 10 / const s.iso)

theorem sensorModel_traded_binary (h : s.StaysNormal f) (h' : (s.traded i j).StaysNormal f) :
    ((s.traded i j).sensorModel : SensorModel (Binary f)) = s.sensorModel := by
  obtain ⟨hiso, hpixels, hexposure, harea, hyield⟩ := h
  obtain ⟨hiso', hpixels', hexposure', harea', hyield'⟩ := h'
  rw [iso_traded] at hiso' hexposure' hyield'
  rw [pixels_traded] at hpixels' harea'
  -- the exposure grows as the area of a pixel shrinks
  have hgrown := ((Binary.scaled_const hiso hiso').div_left hexposure hexposure').mul_left
    hyield hyield'
  have hshrunk := (Binary.scaled_const hpixels hpixels').div_left harea harea'
  rw [neg_neg] at hgrown
  refine ofQuantities_congr _ ?_
  rw [iso_traded, pixels_traded]
  exact hgrown.mul_eq hshrunk

/-! ### Cameras that stay normal -/

theorem normalConst_of_moderate {n : Nat} {x : Rat} (h : Moderate n x) (hn : n ≤ 80)
    (hf : f = .single ∨ f = .double) :
    Binary.NormalConst f x ∧ ∃ v, (const x : Binary f).toRat = some v ∧ Moderate n v := by
  obtain ⟨hread, hval⟩ := h.normal_rounded hn (.inr rfl)
  obtain ⟨hused, hval⟩ := hval.normal_rounded hn hf
  have hconst : Binary.NormalConst f x := ⟨hread, hused⟩
  exact ⟨hconst, _, hconst.toRat, hval⟩

/-- **Every camera stays normal in both formats**, but for absurd exposure indices and images. -/
theorem staysNormal (hf : f = .single ∨ f = .double) (hiso : Moderate 40 s.iso)
    (hpixels : Moderate 40 s.pixels) : s.StaysNormal f := by
  have hten : (const 10 : Binary f).toRat = some 10 ∧ Moderate 4 10 := by
    rcases hf with rfl | rfl <;> decide +kernel
  have hsize : (const sensorWidth * const sensorHeight : Binary f).toRat = some 864000000 ∧
      Moderate 30 864000000 := by
    rcases hf with rfl | rfl <;> decide +kernel
  have hgain : (const quantumEfficiency * const photonsPerExposure : Binary f).toRat = some 2252 ∧
      Moderate 12 2252 := by
    rcases hf with rfl | rfl <;> decide +kernel
  obtain ⟨hnormalIso, iso, hisoVal, hiso⟩ := normalConst_of_moderate hiso (by omega) hf
  obtain ⟨hnormalPixels, pixels, hpixelsVal, hpixels⟩ :=
    normalConst_of_moderate hpixels (by omega) hf
  obtain ⟨hexposure, hexposureVal⟩ := (hten.2.div hiso).normal_rounded (by omega) hf
  have hexposureRat := Binary.toRat_div hten.1 hisoVal hiso.pos.ne' hexposure.finite
  exact {
    iso := hnormalIso
    pixels := hnormalPixels
    exposure := ⟨_, _, hten.1, hisoVal, hexposure⟩
    area := ⟨_, _, hsize.1, hpixelsVal, ((hsize.2.div hpixels).normal_rounded (by omega) hf).1⟩
    yield := ⟨_, _, hgain.1, hexposureRat,
      ((hgain.2.mul hexposureVal).normal_rounded (by omega) hf).1⟩ }

/-! ### What a trade changes -/

/-- **Nothing that is computed of a camera sees a trade** of pixels for exposure index by powers of
two, nor whether the image is turned.  This holds in every rounded arithmetic, and in a binary
format if no step underflows or overflows, before the trade and after it; turning needs no
condition, since already the number of pixels is the same. -/
theorem trade_exact (s : CameraSettings) (i j : Nat) :
    (∀ p : Precision, SameGrain (Rounded p) s (s.traded i j)) ∧
    (∀ f : Format, s.StaysNormal f → (s.traded i j).StaysNormal f →
      SameGrain (Binary f) s (s.traded i j)) ∧
    (s.StaysNormal .single → (s.traded i j).StaysNormal .single →
      ∀ count, (s.traded i j).sample count = s.sample count) ∧
    (∀ (α : Type) [StoringArith α], SameGrain α s s.turned) ∧
    ∀ count, s.turned.sample count = s.sample count := by
  refine ⟨?rounded, ?binary, ?sampled, ?turned, ?turnedSampled⟩
  case rounded =>
    intro p
    exact sameGrain_of_sensorModel function_traded (sensorModel_traded_rounded p)
  case binary =>
    intro f h h'
    exact sameGrain_of_sensorModel function_traded (sensorModel_traded_binary h h')
  case sampled =>
    intro h h' count
    obtain ⟨m, hm⟩ := exists_pixelCount_of_inRange h.pixels.read.finite
    obtain ⟨n, hn⟩ := exists_pixelCount_of_inRange h'.pixels.read.finite
    exact sample_eq function_traded (sensorModel_traded_binary h h') hm hn count
  case turned =>
    intro α _
    exact sameGrain_of_sensorModel function_turned (sensorModel_turned s)
  case turnedSampled =>
    intro count
    have hsensor : (s.turned.sensor : Except SettingsError (SensorModel Single)) = s.sensor := by
      rw [sensor, sensor, pixelCount, pixelCount, pixels_turned, sensorModel_turned]
    rw [sample, sample, sampleWith, sampleWith, hsensor, function_turned]

/-- A camera with images of 1920 by 1080 pixels. -/
def narrow : CameraSettings := ⟨1920, 1080, 409600, .smpte2084, by decide, by decide, by decide⟩

/-- A camera with images of 7680 by 4320 pixels, at a sixteenth of the exposure index. -/
def wide : CameraSettings := ⟨7680, 4320, 25600, .smpte2084, by decide, by decide, by decide⟩

/-- Both have the same grain, with 24 digits read with 53 and in both formats, and the same scaling
curves. -/
theorem trade_exact_fourfold :
    SameGrain (Rounded ⟨.digits 52, .digits 23⟩) narrow wide ∧
    (∀ f, f = .single ∨ f = .double → SameGrain (Binary f) narrow wide) ∧
    ∀ count, wide.sample count = narrow.sample count := by
  have htraded : narrow.traded 2 2 = wide := by
    rw [traded, narrow, wide]
    congr 1
    norm_num
  obtain ⟨hrounded, hbinary, hsampled, -⟩ := trade_exact narrow 2 2
  rw [htraded] at hrounded hbinary hsampled
  have hnarrow (f : Format) (hf : f = .single ∨ f = .double) : narrow.StaysNormal f :=
    staysNormal hf (by decide +kernel) (by decide +kernel)
  have hwide (f : Format) (hf : f = .single ∨ f = .double) : wide.StaysNormal f :=
    staysNormal hf (by decide +kernel) (by decide +kernel)
  exact ⟨hrounded _, fun f hf => hbinary f (hnarrow f hf) (hwide f hf),
    hsampled (hnarrow _ (.inl rfl)) (hwide _ (.inl rfl))⟩

end CameraSettings

end FilmGrain
