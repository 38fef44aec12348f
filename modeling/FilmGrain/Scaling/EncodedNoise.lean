/-
**The noise of an encoded value.**

The noise of the sensor is known in linear light; grain is added to encoded values.  The slope that
carries one to the other is that of the secant of the tone curve over two standard deviations to
both sides, cut off at black and at the peak.  A secant has a finite slope even where the curve
rises vertically, and where its window has no width the point gets no grain.

Main definitions:

* `FilmGrain.windowStart`, `FilmGrain.windowStop` — the window of the secant, with its
  `windowWidth` and the `windowRise` of a curve over it;
* `FilmGrain.secantSlope` — the slope of the secant;
* `FilmGrain.encodedNoise` — the standard deviation of an encoded value, as a fraction of full
  scale.
-/

import FilmGrain.Camera.Noise

set_option autoImplicit false

namespace FilmGrain

open Arith

variable {α : Type} [Arith α]

/-- The half width of the window of the secant, in standard deviations. -/
def windowDeviations : Rat := 2

/-- The lower end of the window of a given deviation around `linear`. -/
def windowStart (linear deviation : α) : α :=
  max (const 0) (linear - const windowDeviations * deviation)

/-- The upper end of the window. -/
def windowStop (linear deviation : α) : α :=
  min (const 1) (linear + const windowDeviations * deviation)

/-- The width of the window. -/
def windowWidth (linear deviation : α) : α :=
  windowStop linear deviation - windowStart linear deviation

/-- The rise of a tone curve over the window. -/
def windowRise (curve : ToneCurve α) (linear deviation : α) : α :=
  curve.fromLinear (windowStop linear deviation) - curve.fromLinear (windowStart linear deviation)

/-- The slope of a tone curve over the window. -/
def secantSlope (curve : ToneCurve α) (linear deviation : α) : α :=
  let width := windowWidth linear deviation
  if lt (const 0) width then windowRise curve linear deviation / width else const 0

/-- **The standard deviation of an encoded value**, as a fraction of full scale. -/
def encodedNoise (curve : ToneCurve α) (sensor : SensorModel α) (encoded : α) : α :=
  let linear := curve.toLinear encoded
  let deviation := sensor.linearNoise linear
  deviation * secantSlope curve linear deviation

end FilmGrain
