/-
**The noise of the sensor.**

A pixel that receives a given light captures a number of electrons proportional to it.  The scale
follows from the exposure of a mid-grey, the area of a pixel, the photons of daylight and the
quantum efficiency of the sensor, and from the light that the transfer function assigns to the
mid-tone.  Three independent kinds of noise add up in quadrature: the read noise, the noise of the
photons, whose variance is their mean, and a variation of gain proportional to the signal.

Main definitions:

* `FilmGrain.SensorModel` — the electrons of the mid-tone and of the peak;
* `SensorModel.ofQuantities`, `CameraSettings.sensor` — the model of given settings;
* `SensorModel.electrons`, `SensorModel.noise`, `SensorModel.linearNoise`,
  `SensorModel.signalToNoise` — the model as functions of the light;
* `CameraSettings.describe` — the line that describes a model.
-/

import FilmGrain.Decimal.Digits
import FilmGrain.Camera.Settings

set_option autoImplicit false

namespace FilmGrain

open Arith Number

/-- The electrons per pixel that a sensor captures. -/
structure SensorModel (α : Type) where
  /-- The electrons at the mid-tone. -/
  midToneElectrons : α
  /-- The electrons at the peak of the transfer function. -/
  maxElectrons : α

namespace SensorModel

/-! ### Constants -/

/-- The photons of daylight per lux second and square micrometre. -/
def photonsPerExposure : Rat := 11260

/-- The fraction of photons that are captured. -/
def quantumEfficiency : Rat := 0.20

/-- The variation of gain between pixels, as a fraction of the signal. -/
def gainVariation : Rat := 0.005

/-- The read noise in electrons. -/
def readNoise : Rat := 1.5

/-! ### The model -/

variable {α : Type} [Arith α]

/-- The model of a sensor at an exposure index, for a number of pixels and a mid-tone. -/
def ofQuantities (iso pixels midTone : Rat) : SensorModel α :=
  let exposure : α := const 10 / const iso
  let area : α :=
    (const CameraSettings.sensorWidth * const CameraSettings.sensorHeight) / const pixels
  let electrons : α := const quantumEfficiency * const photonsPerExposure * exposure * area
  ⟨electrons, electrons / const midTone⟩

/-- The electrons that a pixel captures at a given light; none where the light is negative. -/
def electrons (s : SensorModel α) (linear : α) : α := s.maxElectrons * clamp linear

/-- The noise in electrons: the three kinds added in quadrature. -/
def noise (s : SensorModel α) (linear : α) : α :=
  let e := s.electrons linear
  sqrt (const readNoise * const readNoise + e + const gainVariation * const gainVariation * e * e)

/-- The noise as a fraction of the peak. -/
def linearNoise (s : SensorModel α) (linear : α) : α := s.noise linear / s.maxElectrons

/-- The ratio of signal and noise. -/
def signalToNoise (s : SensorModel α) (linear : α) : α := s.electrons linear / s.noise linear

end SensorModel

namespace CameraSettings

/-- The model of given settings. -/
def sensorModel {α : Type} [Arith α] (s : CameraSettings) : SensorModel α :=
  .ofQuantities s.iso s.pixels s.function.midTone

/-- **The model of given settings, computed in a binary format.**  The number of pixels is read in
double precision first, and refused if it is beyond that. -/
def sensor {f : Format} (s : CameraSettings) : Except SettingsError (SensorModel (Binary f)) := do
  let _ ← s.pixelCount
  return s.sensorModel

/-- The line that describes the model of given settings. -/
def describe {f : Format} (s : CameraSettings) (model : SensorModel (Binary f)) : String :=
  "SensorNoiseModel(" ++ toString s.width ++ "x" ++ toString s.height ++ ", ISO "
    ++ Decimal.general (const s.iso : Double) ++ ", " ++ s.function.name ++ ", max_e="
    ++ Decimal.positional 1 model.maxElectrons ++ ")"

end CameraSettings

end FilmGrain
