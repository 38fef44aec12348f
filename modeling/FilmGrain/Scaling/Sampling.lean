/-
**Scaling curves sampled from the sensor model.**

The noise of encoded values is evaluated at evenly spaced points from black to full scale, all in
single precision; what is stored of a value is a formula over any arithmetic.  An encoded value is
stored as the nearest multiple of 1/255, and its noise on the scale of the grain template, a half
going away from zero in both; amplitudes beyond eight bits are cut off there.  A noise that is
infinite or undefined counts as none.

Main definitions:

* `FilmGrain.samplePositions` — the encoded values for a number of points;
* `FilmGrain.storedPosition`, `FilmGrain.storedNoise` — what is stored of a value and its noise,
  and `FilmGrain.storedPoint`, the point they make;
* `FilmGrain.sampleNoise` — the scaling curve of any noise function;
* `CameraSettings.sample` — the scaling curve of given settings, with `FilmGrain.SamplingError`;
  `CameraSettings.sampleWith` leaves open how the noise is computed.
-/

import FilmGrain.Scaling.EncodedNoise
import FilmGrain.Scaling.Curve

set_option autoImplicit false

namespace FilmGrain

open Arith Number

/-! ### Faults -/

/-- Why no scaling curve was sampled. -/
inductive SamplingError where
  /-- The number of points is not from two to fourteen. -/
  | countOutOfRange (given : Setting)
  /-- The number of points is not a number. -/
  | countNotNumber (given : Setting)
  /-- The settings cannot be computed with. -/
  | settings (error : SettingsError)
  /-- A value that is to be stored is infinite, or undefined. -/
  | notFinite (undefined : Bool)
  /-- The samples are no scaling curve. -/
  | curve (error : CurveError)
deriving DecidableEq

/-- The message of a fault. -/
def SamplingError.message (limit : DigitLimit) : SamplingError → String
  | countOutOfRange given =>
      limit.phrase given.integers
        ("num_points must be in [2, " ++ toString maxPoints ++ "], got " ++ given.plain)
  | countNotNumber given =>
      "'<=' not supported between instances of 'int' and '" ++ given.kind ++ "'"
  | settings error => error.message
  | notFinite undefined =>
      "cannot convert float " ++ (if undefined then "NaN" else "infinity") ++ " to integer"
  | curve error => error.message limit

/-! ### Positions -/

/-- A number of points that is accepted: an integer or a number of double precision. -/
inductive PointCount where
  /-- An integer. -/
  | integer (n : Nat)
  /-- A real number. -/
  | real (x : Double) (value : Rat)
deriving DecidableEq

/-- Whether a number of points is in range. -/
def countInRange (value : Rat) : Bool := decide (2 ≤ value ∧ value ≤ maxPoints)

/-- The number of points, if it is from two to fourteen. -/
def checkCount (given : Setting) : Except SamplingError PointCount :=
  match given with
  | .integer n =>
      if countInRange n then .ok (.integer n.toNat) else .error (.countOutOfRange given)
  | .real x =>
      match x.toRat with
      | some value =>
          if countInRange value then .ok (.real x value) else .error (.countOutOfRange given)
      | none => .error (.countOutOfRange given)
  | .flag _ => .error (.countOutOfRange given)
  | .text _ | .absent | .list _ => .error (.countNotNumber given)

/-- The first `count` multiples of the reciprocal of a divisor. -/
def multiples (count : Nat) (divisor : Single) : List Single :=
  (List.range count).map fun i : Nat => (const (i : Rat) : Single) / divisor

/-- **The encoded values that are sampled.**  A number of points that is not an integer is taken up
to the next one, with the spacing that it gives itself. -/
def samplePositions : PointCount → List Single
  | .integer n => multiples n (const ((n : Rat) - 1))
  | .real x value => multiples value.ceil.toNat (Binary.convert (x - (const 1 : Double)))

/-! ### Stored values -/

/-- The largest stored value. -/
def maxStored : Rat := 255

/-- The amplitude of the grain template. -/
def templateAmplitude : Rat := 7.88

section Stored

variable {α : Type} [StoringArith α]

/-- The value that is stored of an encoded value. -/
def storedPosition (x : α) : α := StoringArith.roundHalfAway (const maxStored * x)

/-- A noise that is finite; any other counts as none. -/
def definedNoise (sigma : α) : α := if StoringArith.isFinite sigma then sigma else const 0

/-- The value that is stored of a noise. -/
def storedNoise (sigma : α) : α :=
  let amplitude : α := const maxStored * const templateAmplitude
  min (max (StoringArith.roundHalfAway (amplitude * definedNoise sigma)) (const 0))
    (const maxStored)

end Stored

/-- A stored value as an integer, if it is finite. -/
def storedInteger (v : Single) : Except SamplingError Int :=
  match v.toInt? with
  | some n => .ok n
  | none => .error (.notFinite v.isNaN)

/-! ### Curves -/

/-- The point that is stored of an encoded value and its noise. -/
def storedPoint (x sigma : Single) : Except SamplingError ScalingPoint := do
  let position ← storedInteger (storedPosition x)
  let amplitude ← storedInteger (storedNoise sigma)
  (ScalingPoint.ofSettings (.integer position) (.integer amplitude)).mapError .curve

/-- The scaling curve of a noise function, sampled at a number of points. -/
def sampleNoise (noise : Single → Single) (count : PointCount) :
    Except SamplingError ScalingCurve := do
  let points ← (samplePositions count).mapM fun x => storedPoint x (noise x)
  (ScalingCurve.ofPoints points).mapError .curve

/-- The scaling curve of given settings, for any way to compute a noise from the model of the
sensor. -/
def CameraSettings.sampleWith (s : CameraSettings) (noise : SensorModel Single → Single → Single)
    (count : Setting) : Except SamplingError ScalingCurve := do
  let count ← checkCount count
  -- the sensor is computed in single precision, as the noise is
  let sensor ← s.sensor.mapError .settings
  sampleNoise (noise sensor) count

/-- **The scaling curve of given settings.** -/
def CameraSettings.sample (s : CameraSettings) (count : Setting) :
    Except SamplingError ScalingCurve :=
  s.sampleWith (encodedNoise s.function.curve) count

/-- The scaling curve of given settings with as many points as a decoder takes. -/
def CameraSettings.sampleAll (s : CameraSettings) : Except SamplingError ScalingCurve :=
  s.sample (.integer maxPoints)

end FilmGrain
