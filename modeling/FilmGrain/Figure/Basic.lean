/-
**The figure of a scaling curve.**

The figure shows the points of a scaling curve over the encoded values and, on a second axis, the
ratio of signal and noise of the sensor in decibels at the 255 positive encoded values.  The first
axis reaches a tenth above the largest amplitude, and to eight at least.

Main definitions:

* `FilmGrain.Figure` — figures, with a `SecondAxis` if the sensor is shown;
* `Figure.ofCurve` — the figure of a curve.
-/

import FilmGrain.Scaling.Curve
import FilmGrain.Camera.Noise

set_option autoImplicit false

namespace FilmGrain

open Arith Number

/-! ### Figures -/

/-- The line of a second axis. -/
structure SecondAxis where
  /-- The points of the line. -/
  points : List (Double × Double)
  /-- What the line shows. -/
  label : String
  /-- The name of the axis. -/
  axisLabel : String
deriving DecidableEq

/-- A figure of a scaling curve. -/
structure Figure where
  /-- The points of the curve. -/
  points : List (Nat × Nat)
  /-- What the points are. -/
  label : String
  /-- The ends of the horizontal axis. -/
  xLimits : Double × Double
  /-- The ends of the vertical axis. -/
  yLimits : Double × Double
  /-- The name of the horizontal axis. -/
  xLabel : String
  /-- The name of the vertical axis. -/
  yLabel : String
  /-- The title. -/
  title : String
  /-- The ratio of signal and noise, if it is shown. -/
  second : Option SecondAxis
deriving DecidableEq

namespace Figure

/-- The title of a figure that is given none. -/
def defaultTitle : String := "Luma scaling function"

/-- The number of encoded values that the second axis shows. -/
def ratioPoints : Nat := 255

/-- The encoded values of the second axis, from 1/255 to 1 in equal steps. -/
def ratioPositions : List Double :=
  let start : Double := const 1 / const 255
  let spacing : Double := (const 1 - start) / const ((ratioPoints : Rat) - 1)
  (List.range ratioPoints).map fun i : Nat =>
    -- the last value is the end itself and not a sum of rounded steps
    if i + 1 = ratioPoints then const 1 else const (i : Rat) * spacing + start

/-- A ratio in decibels. -/
def decibels (ratio : Double) : Double := const 20 * Binary.inDouble Float.log10 ratio

/-- The ratio of signal and noise over the encoded values. -/
def ratioAxis (function : TransferFunction) (sensor : SensorModel Double) : SecondAxis where
  points := ratioPositions.map fun x =>
    (const 255 * x, decibels (sensor.signalToNoise (function.curve.toLinear x)))
  label := "SNR"
  axisLabel := "Sensor SNR (dB)"

/-- The upper end of the vertical axis for the largest amplitude. -/
def upperLimit (largest : Nat) : Double := max (const 8) (const (largest : Rat) * const 1.1)

/-- **The figure of a curve**, with the ratio of signal and noise of a sensor if one is given. -/
def ofCurve (curve : ScalingCurve) (sensor : Option (TransferFunction × SensorModel Double))
    (title : String) : Figure where
  points := curve.pairs
  label := "scaling point"
  xLimits := (const 0, const 255)
  yLimits := (const 0, upperLimit (curve.noiseValues.foldl Nat.max 0))
  xLabel := "Encoded luma (8-bit)"
  yLabel := "Grain scaling"
  title := title
  second := sensor.map fun s => ratioAxis s.1 s.2

end Figure

end FilmGrain
