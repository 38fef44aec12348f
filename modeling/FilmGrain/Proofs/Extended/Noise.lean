/-
**The noise of a sensor grows with the light, whatever the rounding.**

Every formula of the sensor is a chain of operations that keep the order of numbers that are not
negative, and a rounding that keeps the order comes after each of them.  So more light means no
fewer electrons and no less noise, with no bound on the error of any step.  The read noise and its
square are numbers of the format, and nothing that is added to the square is negative: the noise is
never below the read noise, and is the read noise in the dark.

The electrons may overflow.  Then the variation of gain is an infinity times the square of a small
constant, and undefined if that square underflows to zero.  This is the only way to an undefined
value, and the only one in which the noise does not grow.  A rounding onto few numbers can lead to
it.

Main definitions:

* `OrderedPrecision.HoldsReadNoise` — formats with zero, the read noise and its square;
* `Extended.gain`, `Extended.gainSquare`, `Extended.variance` — the gain constant and its square,
  and what the noise is the root of;
* `SensorModel.NoiseGrows` — what is said of two lights;
* `OrderedPrecision.coarse` — a precision of three finite numbers.

Main results:

* `Extended.gainSquare_pos` — where the square of the gain does not underflow;
* `SensorModel.electrons_of`, `SensorModel.noise_of`, `SensorModel.linearNoise_of` — the sensor in
  ordinary notation;
* `SensorModel.noise_undefined` — the one undefined noise;
* `SensorModel.electrons_le_electrons` — **more light means no fewer electrons**;
* `SensorModel.noise_grows_with_light` — **the noise grows, unless the gain underflows and the
  electrons overflow**;
* `SensorModel.noise_lost_in_coarse` — in the coarse precision both happen.
-/

import FilmGrain.Camera.Noise
import FilmGrain.Proofs.Extended.Arithmetic

set_option autoImplicit false

namespace FilmGrain

open Arith Extended Number OrderedPrecision

/-! ### Formats -/

namespace OrderedPrecision

variable {p : OrderedPrecision} {q : Rat} {x : EReal}

theorem Holds.le_working (h : p.Holds q) (hx : real q ≤ x) :
    real q ≤ p.working x := by
  rw [← h.used]
  exact p.working.monotone hx

theorem Holds.working_le (h : p.Holds q) (hx : x ≤ real q) :
    p.working x ≤ real q := by
  rw [← h.used]
  exact p.working.monotone hx

/-- Zero, the read noise and its square are numbers of the format. -/
structure HoldsReadNoise (p : OrderedPrecision) : Prop where
  zero : p.Holds 0
  readNoise : p.Holds 1.5
  square : p.Holds 2.25

theorem HoldsReadNoise.reading_zero (h : p.HoldsReadNoise) : p.reading 0 = 0 := by
  simpa using h.zero.read

theorem HoldsReadNoise.working_zero (h : p.HoldsReadNoise) : p.working 0 = 0 := by
  simpa using h.zero.used

theorem HoldsReadNoise.working_nonneg (h : p.HoldsReadNoise) (hx : 0 ≤ x) : 0 ≤ p.working x := by
  rw [← h.working_zero]
  exact p.working.monotone hx

end OrderedPrecision

/-! ### The variance -/

namespace Extended

variable (p : OrderedPrecision)

/-- The gain constant. -/
noncomputable def gain : EReal := p.working (p.reading (real SensorModel.gainVariation))

/-- Its square. -/
noncomputable def gainSquare : EReal := p.working (gain p * gain p)

/-- The variance of a number of electrons: that of the read noise, of the photons and of the gain.
-/
noncomputable def variance (e : EReal) : EReal :=
  p.working (p.working (real 2.25 + e) + p.working (p.working (gainSquare p * e) * e))

variable {p} (h : p.HoldsReadNoise) {e e' : EReal}

include h

theorem gain_nonneg : 0 ≤ gain p := by
  have hread := p.reading.monotone
    (real_nonneg.2 (by decide +kernel : 0 ≤ SensorModel.gainVariation))
  rw [h.reading_zero] at hread
  exact h.working_nonneg hread

theorem gain_le : gain p ≤ real 1.5 := by
  have hread := p.reading.monotone
    (real_le_iff.2 (by decide +kernel : SensorModel.gainVariation ≤ 1.5))
  rw [h.readNoise.read] at hread
  exact h.readNoise.working_le hread

theorem gainSquare_nonneg : 0 ≤ gainSquare p :=
  h.working_nonneg (mul_nonneg (gain_nonneg h) (gain_nonneg h))

/-- The square of the gain does not underflow if two powers of two below it and its root are numbers
of the format. -/
theorem gainSquare_pos (hgain : p.Holds (1 / 256)) (hsquare : p.Holds (1 / 65536)) :
    0 < gainSquare p := by
  have hle : real (1 / 256) ≤ gain p := by
    have hread := p.reading.monotone
      (real_le_iff.2 (by decide +kernel : 1 / 256 ≤ SensorModel.gainVariation))
    rw [hgain.read] at hread
    exact hgain.le_working hread
  have hproduct : real (1 / 65536) ≤ gain p * gain p := by
    calc real (1 / 65536) = real (1 / 256) * real (1 / 256) := by rw [real_mul]; norm_num
      _ ≤ gain p * gain p :=
          mul_le_mul hle hle (real_nonneg.2 (by norm_num)) (gain_nonneg h)
  exact (real_pos.2 (by norm_num)).trans_le (hsquare.le_working hproduct)

theorem gainSquare_ne_top : gainSquare p ≠ ⊤ := by
  have hsquare : gainSquare p ≤ real 2.25 := by
    refine h.square.working_le ?_
    calc _ ≤ real 1.5 * real 1.5 :=
          mul_le_mul (gain_le h) (gain_le h) (gain_nonneg h) (real_nonneg.2 (by norm_num))
      _ = real 2.25 := by rw [real_mul]; norm_num
  exact ne_top_of_le_ne_top (real_ne_top _) hsquare

theorem variance_mono (he : 0 ≤ e) (hle : e ≤ e') : variance p e ≤ variance p e' := by
  have hgain := gainSquare_nonneg h
  have hscaled : p.working (gainSquare p * e) ≤ p.working (gainSquare p * e') :=
    p.working.monotone (mul_le_mul_of_nonneg_left hle hgain)
  have hnonneg : 0 ≤ p.working (gainSquare p * e) := h.working_nonneg (mul_nonneg hgain he)
  exact p.working.monotone (add_le_add (p.working.monotone (add_le_add_right hle _))
    (p.working.monotone (mul_le_mul hscaled hle he (hnonneg.trans hscaled))))

/-- The variance is never below that of the read noise. -/
theorem le_variance (he : 0 ≤ e) : real 2.25 ≤ variance p e := by
  have hgain : 0 ≤ p.working (p.working (gainSquare p * e) * e) :=
    h.working_nonneg (mul_nonneg (h.working_nonneg (mul_nonneg (gainSquare_nonneg h) he)) he)
  have hphotons : real 2.25 ≤ p.working (real 2.25 + e) :=
    h.square.le_working (le_add_of_nonneg_right he)
  exact h.square.le_working (hphotons.trans (le_add_of_nonneg_right hgain))

theorem variance_zero : variance p 0 = real 2.25 := by
  rw [variance, mul_zero, h.working_zero, add_zero, add_zero, h.square.used, h.square.used]

omit h in
theorem root_square : root (real 2.25) = real 1.5 := by
  have hsqrt : √((2.25 : ℚ) : ℝ) = ((1.5 : ℚ) : ℝ) := by
    rw [Real.sqrt_eq_iff_mul_self_eq_of_pos (by norm_num)]
    norm_num
  rw [real, root_coe, hsqrt, real]

end Extended

/-! ### The sensor -/

namespace SensorModel

variable {p : OrderedPrecision} {s : SensorModel (Extended p)} {m x e : EReal} {l : Extended p}

theorem electrons_of (h : p.HoldsReadNoise) (hs : s.maxElectrons = of m) (hm : 0 < m)
    (hfinite : m ≠ ⊤) (x : EReal) : s.electrons (of x) = of (p.working (m * max x 0)) := by
  rw [electrons, hs, clamp_of h.zero,
    mul_of_nonneg hm.le (le_max_right x 0) (fun hzero => absurd hzero hm.ne') fun _ => hfinite]

theorem const_readNoise (h : p.HoldsReadNoise) : (const readNoise : Extended p) = of (real 1.5) :=
  const_of_holds h.readNoise

theorem readNoise_square (h : p.HoldsReadNoise) :
    (const readNoise * const readNoise : Extended p) = of (real 2.25) := by
  have hpos : (0 : EReal) ≤ real 1.5 := real_nonneg.2 (by norm_num)
  have hsquare : (1.5 * 1.5 : ℚ) = 2.25 := by norm_num
  rw [const_readNoise h, mul_of_nonneg hpos hpos (fun _ => real_ne_top _) fun _ => real_ne_top _,
    real_mul, hsquare, h.square.used]

theorem gain_square (h : p.HoldsReadNoise) :
    (const gainVariation * const gainVariation : Extended p) = of (gainSquare p) := by
  have hfinite := ne_top_of_le_ne_top (real_ne_top _) (gain_le h)
  exact mul_of_nonneg (gain_nonneg h) (gain_nonneg h) (fun _ => hfinite) fun _ => hfinite

/-- The noise of a number of electrons. -/
theorem noise_of (h : p.HoldsReadNoise) (hl : s.electrons l = of e) (he : 0 ≤ e)
    (hdefined : gainSquare p = 0 → e ≠ ⊤) : s.noise l = of (p.working (root (variance p e))) := by
  have hsquare := real_nonneg.2 (by norm_num : (0 : ℚ) ≤ 2.25)
  have hgain := gainSquare_nonneg h
  have hscaled := h.working_nonneg (mul_nonneg hgain he)
  -- the product of the gain's square with infinitely many electrons is not rounded to zero
  have hoverflow : p.working (gainSquare p * e) = 0 → e ≠ ⊤ := by
    rintro hzero rfl
    have hpos : 0 < gainSquare p := hgain.lt_of_ne fun heq => hdefined heq.symm rfl
    have hlarge := h.square.le_working (le_top : real 2.25 ≤ ⊤)
    rw [EReal.mul_top_of_pos hpos] at hzero
    rw [hzero, ← real_zero, real_le_iff] at hlarge
    norm_num at hlarge
  have hunderflow : e = 0 → p.working (gainSquare p * e) ≠ ⊤ := by
    rintro rfl
    rw [mul_zero, h.working_zero]
    exact EReal.zero_ne_top
  rw [noise, hl, readNoise_square h, gain_square h, add_of_nonneg hsquare he,
    mul_of_nonneg hgain he hdefined fun _ => gainSquare_ne_top h,
    mul_of_nonneg hscaled he hoverflow hunderflow,
    add_of_nonneg (h.working_nonneg (add_nonneg hsquare he))
      (h.working_nonneg (mul_nonneg hscaled he))]
  exact sqrt_of (hsquare.trans (le_variance h he))

/-- The square of the gain underflows, and the electrons overflow. -/
theorem noise_undefined (h : p.HoldsReadNoise) (hl : s.electrons l = of ⊤)
    (hgain : gainSquare p = 0) : s.noise l = undefined := by
  have hproduct : (of 0 * of ⊤ : Extended p) = undefined := by
    rw [of_mul_of, product, if_pos (.inl ⟨rfl, .inl rfl⟩)]
    rfl
  rw [noise, hl, readNoise_square h, gain_square h, hgain, hproduct]
  rfl

theorem linearNoise_of (hs : s.maxElectrons = of m) (hm : 0 < m) (hfinite : m ≠ ⊤)
    (hl : s.noise l = of x) : s.linearNoise l = of (p.working (x / m)) := by
  rw [linearNoise, hl, hs, div_of_pos x hm hfinite]

/-! ### More light -/

/-- What is said of the electrons and the noise at two lights, of which the first is not above the
second: neither is less at the second, the noise is at least the read noise, and it is the read
noise where there is no light.  Only defined numbers compare. -/
structure NoiseGrows {α : Type} [Arith α] (s : SensorModel α) (a b : α) : Prop where
  electrons : le (s.electrons a) (s.electrons b)
  noise : le (s.noise a) (s.noise b)
  linearNoise : le (s.linearNoise a) (s.linearNoise b)
  readNoise_le : le (const readNoise) (s.noise a)
  dark : le a (const 0) → s.noise a = const readNoise

section Growth

variable {a b : Extended p} (h : p.HoldsReadNoise) (hs : s.maxElectrons = of m) (hm : 0 < m)
  (hfinite : m ≠ ⊤) (hab : le a b)
include h hs hm hfinite hab

/-- **More light means no fewer electrons.** -/
theorem electrons_le_electrons : le (s.electrons a) (s.electrons b) := by
  obtain ⟨x, y, rfl, rfl, hxy⟩ := le_iff_exists.1 hab
  rw [electrons_of h hs hm hfinite, electrons_of h hs hm hfinite, le_of_iff]
  exact p.working.monotone (mul_le_mul_of_nonneg_left (max_le_max_right 0 hxy) hm.le)

theorem noiseGrows_of_defined (hdefined : gainSquare p = 0 → s.electrons b ≠ of ⊤) :
    NoiseGrows s a b := by
  have helectrons := electrons_le_electrons h hs hm hfinite hab
  obtain ⟨x, y, rfl, rfl, hxy⟩ := le_iff_exists.1 hab
  have hx := electrons_of h hs hm hfinite x
  have hy := electrons_of h hs hm hfinite y
  rw [hx, hy, le_of_iff] at helectrons
  have hnonneg (z : EReal) : 0 ≤ p.working (m * max z 0) :=
    h.working_nonneg (mul_nonneg hm.le (le_max_right z 0))
  have hdefinedy : gainSquare p = 0 → p.working (m * max y 0) ≠ ⊤ := by
    intro hgain htop
    exact hdefined hgain (hy.trans (congrArg of htop))
  have hnoisex := noise_of h hx (hnonneg x) fun hgain =>
    ne_top_of_le_ne_top (hdefinedy hgain) helectrons
  have hnoisey := noise_of h hy (hnonneg y) hdefinedy
  have hgrows := p.working.monotone (root_mono (variance_mono h (hnonneg x) helectrons))
  exact {
    electrons := by rwa [hx, hy, le_of_iff]
    noise := by rwa [hnoisex, hnoisey, le_of_iff]
    linearNoise := by
      rw [linearNoise_of hs hm hfinite hnoisex, linearNoise_of hs hm hfinite hnoisey, le_of_iff]
      exact p.working.monotone (EReal.div_le_div_right_of_nonneg hm.le hgrows)
    readNoise_le := by
      rw [hnoisex, const_readNoise h, le_of_iff]
      refine h.readNoise.le_working ?_
      rw [← root_square]
      exact root_mono (le_variance h (hnonneg x))
    dark := by
      intro hdark
      rw [const_of_holds h.zero, real_zero, le_of_iff] at hdark
      rw [hnoisex, const_readNoise h, max_eq_right hdark, mul_zero, h.working_zero,
        variance_zero h, root_square]
      exact congrArg of h.readNoise.used }

end Growth

/-- **The noise of a sensor grows with the light, with every rounding that keeps the order**, unless
the square of the gain underflows and the electrons overflow.  Let the electrons of the peak be
finite and positive, and let the roundings keep the order and the numbers 0, 1.5 and 2.25.  Then
more light means no fewer electrons.  The noise and the linear noise do not fall either, the noise
is at least the read noise, which it is without light, and all of them are defined, exactly if the
square of the gain is not rounded to zero or the electrons at the greater light are not rounded to
infinity.  Where both are, the noise there is undefined. -/
theorem noise_grows_with_light (p : OrderedPrecision) (s : SensorModel (Extended p)) (m : EReal)
    (a b : Extended p) (h : p.HoldsReadNoise) (hs : s.maxElectrons = of m) (hm : 0 < m)
    (hfinite : m ≠ ⊤) (hab : le a b) :
    le (s.electrons a) (s.electrons b) ∧
      (NoiseGrows s a b ↔ (gainSquare p = 0 → s.electrons b ≠ of ⊤)) ∧
      (gainSquare p = 0 → s.electrons b = of ⊤ →
        s.noise b = undefined ∧ s.linearNoise b = undefined) := by
  refine ⟨electrons_le_electrons h hs hm hfinite hab,
    ⟨fun hgrows hgain htop => ?_, noiseGrows_of_defined h hs hm hfinite hab⟩,
    fun hgain htop => ⟨noise_undefined h htop hgain, ?_⟩⟩
  · -- an undefined noise is not above anything
    obtain ⟨-, y, -, hnoise, -⟩ := le_iff_exists.1 hgrows.noise
    rw [noise_undefined h htop hgain] at hnoise
    cases hnoise
  · rw [linearNoise, noise_undefined h htop hgain, undefined_div]

/-- In exact arithmetic the noise grows from below black to infinite light. -/
theorem noise_grows_to_infinity :
    let exact : OrderedPrecision := ⟨OrderHom.id, OrderHom.id⟩
    exact.HoldsReadNoise ∧
      NoiseGrows (⟨of 1, of 1⟩ : SensorModel (Extended exact)) (of ⊥) (of ⊤) := by
  intro exact
  have hholds (q : ℚ) : exact.Holds q := ⟨rfl, rfl⟩
  have hexact : exact.HoldsReadNoise := ⟨hholds _, hholds _, hholds _⟩
  have hgain := gainSquare_pos hexact (hholds _) (hholds _)
  obtain ⟨-, hgrows, -⟩ := noise_grows_with_light exact ⟨of 1, of 1⟩ 1 (of ⊥) (of ⊤) hexact rfl
    zero_lt_one (EReal.coe_ne_top 1) (le_of_iff.2 bot_le)
  exact ⟨hexact, hgrows.2 fun hzero => absurd hzero hgain.ne'⟩

end SensorModel

/-! ### A coarse rounding -/

namespace OrderedPrecision

/-- A rounding onto the three numbers that must be kept: to the next one below, and from 3 on to
infinity. -/
noncomputable def coarseRounding : EReal →o EReal where
  toFun x :=
    if real 3 ≤ x then ⊤
    else if real 2.25 ≤ x then real 2.25
    else if real 1.5 ≤ x then real 1.5
    else if real 0 ≤ x then real 0
    else ⊥
  monotone' := by
    intro x y h
    have hread : real 0 ≤ real 1.5 := real_le_iff.2 (by norm_num)
    have hsquare : real 1.5 ≤ real 2.25 := real_le_iff.2 (by norm_num)
    dsimp only
    split_ifs <;> order

theorem coarseRounding_real (q : ℚ) : coarseRounding (real q) =
    if 3 ≤ q then ⊤
    else if 2.25 ≤ q then real 2.25
    else if 1.5 ≤ q then real 1.5
    else if 0 ≤ q then real 0
    else ⊥ := by
  simp only [← real_le_iff]
  rfl

/-- The precision of that rounding. -/
noncomputable def coarse : OrderedPrecision := ⟨coarseRounding, coarseRounding⟩

theorem holds_coarse {q : ℚ} (h : q = 0 ∨ q = 1.5 ∨ q = 2.25) : coarse.Holds q := by
  have hkept : coarseRounding (real q) = real q := by
    rw [coarseRounding_real]
    obtain rfl | rfl | rfl := h <;> norm_num
  exact ⟨hkept, hkept⟩

theorem holdsReadNoise_coarse : coarse.HoldsReadNoise :=
  ⟨holds_coarse (by simp), holds_coarse (by simp), holds_coarse (by simp)⟩

/-- The gain is less than the first number above zero. -/
theorem gainSquare_coarse : gainSquare coarse = 0 := by
  have hread : coarse.reading (real SensorModel.gainVariation) = 0 := by
    change coarseRounding _ = 0
    rw [coarseRounding_real, SensorModel.gainVariation]
    norm_num
  rw [gainSquare, gain, hread, holdsReadNoise_coarse.working_zero, mul_zero,
    holdsReadNoise_coarse.working_zero]

end OrderedPrecision

namespace SensorModel

/-- With the coarse rounding the noise is undefined where the light and the peak are 2.25 and the
electrons are rounded to infinity.  In double precision the noise is defined there, but not its
ratio to the signal. -/
theorem noise_lost_in_coarse :
    let sensor : SensorModel (Extended coarse) := ⟨of (real 2.25), of (real 2.25)⟩
    let camera : CameraSettings := ⟨1920, 1080, 800, .srgb, by decide, by decide, by decide⟩
    (coarse.HoldsReadNoise ∧ sensor.noise (of (real 2.25)) = undefined ∧
      ¬ NoiseGrows sensor (of (real 2.25)) (of (real 2.25))) ∧
    ((camera.sensorModel : SensorModel Double).electrons (const (10 ^ 308)) = .infinite false ∧
      (camera.sensorModel : SensorModel Double).signalToNoise (const (10 ^ 308)) = .nan) := by
  intro sensor camera
  have hpeak : (0 : EReal) < real 2.25 := real_pos.2 (by norm_num)
  have helectrons : sensor.electrons (of (real 2.25)) = of ⊤ := by
    have hproduct : (2.25 * 2.25 : ℚ) = 5.0625 := by norm_num
    have hrounded : coarse.working (real 5.0625) = ⊤ := by
      change coarseRounding _ = ⊤
      rw [coarseRounding_real]
      norm_num
    rw [electrons_of holdsReadNoise_coarse rfl hpeak (real_ne_top _), max_eq_left hpeak.le,
      real_mul, hproduct, hrounded]
  have hnoise := noise_undefined holdsReadNoise_coarse helectrons gainSquare_coarse
  refine ⟨⟨holdsReadNoise_coarse, hnoise, fun hgrows => ?_⟩, by decide +kernel, by decide +kernel⟩
  obtain ⟨x, -, hdefined, -, -⟩ := le_iff_exists.1 hgrows.noise
  cases hnoise.symm.trans hdefined

end SensorModel

end FilmGrain
