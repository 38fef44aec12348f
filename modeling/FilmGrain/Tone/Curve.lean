/-
**Tone curves between encoded values and linear light.**

Grain is added to encoded sample values, while the noise of a sensor lives in linear light.  A tone
curve goes from one to the other: `toLinear` decodes an encoded value in `[0, 1]` to light in
`[0, 1]`, and `fromLinear` encodes light.  Both read a negative value as zero, and nothing bounds
them above one.

The curves are formulas over any arithmetic.  The quotient of the constants that a formula names is
formed in that arithmetic too, and each branch of a curve in two pieces is evaluated only for the
values that it is selected for.

Main definitions:

* `FilmGrain.ToneCurve` — a pair of conversions;
* `ToneCurve.powerLaw` — the power law of a given exponent;
* `ToneCurve.srgb` — a power law with a linear piece near black;
* `ToneCurve.perceptualQuantizer` — two powers around a rational function;
* `ToneCurve.hybridLogGamma` — a square law continued by a logarithm, for displayed light.
-/

import FilmGrain.Arith

set_option autoImplicit false

namespace FilmGrain

open Arith

/-- A pair of conversions between encoded values and linear light. -/
structure ToneCurve (α : Type) where
  /-- Light from an encoded value. -/
  toLinear : α → α
  /-- An encoded value from light. -/
  fromLinear : α → α

namespace ToneCurve

variable {α : Type} [Arith α]

/-! ### Power laws -/

/-- The curve of a pure power law. -/
def powerLaw (gamma : Rat) : ToneCurve α where
  toLinear encoded := pow (clamp encoded) (const gamma)
  fromLinear linear := pow (clamp linear) (const 1 / const gamma)

/-! ### Power law with a linear piece -/

/-- The encoded value up to which the decoding of `srgb` is linear. -/
def srgbEncodedThreshold : Rat := 0.04045

/-- The light up to which the encoding of `srgb` is linear. -/
def srgbLinearThreshold : Rat := 0.0031308

/-- The curve of standard displays: linear near black, a power law of exponent 2.4 above. -/
def srgb : ToneCurve α where
  toLinear encoded :=
    let e := clamp encoded
    if le e (const srgbEncodedThreshold) then e / const 12.92
    else pow ((e + const 0.055) / const 1.055) (const 2.4)
  fromLinear linear :=
    let l := clamp linear
    if le l (const srgbLinearThreshold) then const 12.92 * l
    else const 1.055 * pow l (const 1 / const 2.4) - const 0.055

/-! ### Perceptual quantizer -/

/-- The inner exponent of the perceptual quantizer. -/
def pqM1 : Rat := 2610 / 16384

/-- The outer exponent of the perceptual quantizer. -/
def pqM2 : Rat := 128 * 2523 / 4096

/-- The constant term of its numerator. -/
def pqC1 : Rat := 3424 / 4096

/-- The factor of its numerator. -/
def pqC2 : Rat := 32 * 2413 / 4096

/-- The factor of its denominator. -/
def pqC3 : Rat := 32 * 2392 / 4096

/-- The perceptual quantizer for displays of high dynamic range.  Encoded values below the black
level would make the numerator negative and are black. -/
def perceptualQuantizer : ToneCurve α where
  toLinear encoded :=
    let p := pow (clamp encoded) (const 1 / const pqM2)
    let numerator := clamp (p - const pqC1)
    pow (numerator / (const pqC2 - const pqC3 * p)) (const 1 / const pqM1)
  fromLinear linear :=
    let q := pow (clamp linear) (const pqM1)
    pow ((const pqC1 + const pqC2 * q) / (const 1 + const pqC3 * q)) (const pqM2)

/-! ### Hybrid log-gamma -/

/-- The scale of the logarithm of the hybrid curve. -/
def hlgA : Rat := 0.17883277

/-- The offset of its argument. -/
def hlgB : Rat := 0.28466892

/-- The offset of its value. -/
def hlgC : Rat := 0.55991073

/-- The exponent from the light of a scene to that of a display. -/
def hlgSystemGamma : Rat := 1.2

/-- The hybrid log-gamma curve.  The light is that of a display, so the exponent of the whole
system is part of both conversions. -/
def hybridLogGamma : ToneCurve α where
  toLinear encoded :=
    let e := clamp encoded
    let scene :=
      if le e (const 0.5) then e * e / const 3
      else (exp ((e - const hlgC) / const hlgA) + const hlgB) / const 12
    pow scene (const hlgSystemGamma)
  fromLinear linear :=
    let scene := pow (clamp linear) (const 1 / const hlgSystemGamma)
    if le scene (const 1 / const 12) then sqrt (const 3 * scene)
    else const hlgA * log (const 12 * scene - const hlgB) + const hlgC

end ToneCurve

end FilmGrain
