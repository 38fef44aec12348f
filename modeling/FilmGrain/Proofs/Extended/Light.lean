/-
**The noise of a sensor grows with the light, in single and in double precision.**

Every number of a binary format is an extended real number or undefined, and the operations that the
sensor is computed with are those of the arithmetic of its precision.  So the sensor is, too, and
what is known of it for every rounding that keeps the order holds in the format.  Both formats have
small enough numbers for the square of the gain, and no exception is left.

Main definitions:

* `SensorModel.toExtended` — the sensor as one of the precision of its format.

Main results:

* `SensorModel.toExtended_electrons`, `SensorModel.toExtended_noise`,
  `SensorModel.toExtended_linearNoise` — the sensor is computed alike in both arithmetics;
* `SensorModel.noiseGrows_binary`, `SensorModel.noiseGrows_convert` — **in both formats the noise
  grows with the light**, also with lights of the other.
-/

import FilmGrain.Proofs.Extended.Binary
import FilmGrain.Proofs.Extended.Noise

set_option autoImplicit false

namespace FilmGrain

open Arith Extended Number

variable {f g : Format}

/-! ### The sensor of a binary format -/

namespace SensorModel

/-- The sensor as one of the precision of its format. -/
noncomputable def toExtended (s : SensorModel (Binary f)) : SensorModel (Extended f.precision) :=
  ⟨s.midToneElectrons.toExtended, s.maxElectrons.toExtended⟩

section Operations

variable [f.HasUnits] (s : SensorModel (Binary f)) (l : Binary f)

theorem toExtended_electrons :
    (s.electrons l).toExtended = s.toExtended.electrons l.toExtended := by
  change (s.maxElectrons.mul (Binary.larger l (const 0))).toExtended = _
  rw [Binary.toExtended_mul, Binary.toExtended_larger, Binary.toExtended_const]
  rfl

theorem toExtended_noise : (s.noise l).toExtended = s.toExtended.noise l.toExtended := by
  rw [noise, noise, ← toExtended_electrons]
  change (Binary.sqrt (((Binary.mul (const readNoise) (const readNoise)).add (s.electrons l)).add
    (((Binary.mul (const gainVariation) (const gainVariation)).mul (s.electrons l)).mul
      (s.electrons l)))).toExtended = _
  simp only [Binary.toExtended_sqrt, Binary.toExtended_add, Binary.toExtended_mul,
    Binary.toExtended_const]

theorem toExtended_linearNoise {m : ℚ} (hs : s.maxElectrons.toRat = some m) (hm : m ≠ 0) :
    (s.linearNoise l).toExtended = s.toExtended.linearNoise l.toExtended := by
  rw [linearNoise, linearNoise, ← toExtended_noise]
  exact Binary.toExtended_div _ hs hm

end Operations

/-- What holds in the precision of a format holds in the format. -/
theorem noiseGrows_of_toExtended [f.HasUnits] (h : f.precision.HoldsReadNoise)
    {s : SensorModel (Binary f)} {m : ℚ} (hs : s.maxElectrons.toRat = some m) (hm : m ≠ 0)
    {a b : Binary f} (hgrows : NoiseGrows s.toExtended a.toExtended b.toExtended) :
    NoiseGrows s a b := by
  obtain ⟨helectrons, hnoise, hlinear, hread, hdark⟩ := hgrows
  rw [← toExtended_electrons, ← toExtended_electrons, Binary.le_toExtended_iff] at helectrons
  rw [← toExtended_noise, ← toExtended_noise, Binary.le_toExtended_iff] at hnoise
  rw [← toExtended_linearNoise s a hs hm, ← toExtended_linearNoise s b hs hm,
    Binary.le_toExtended_iff] at hlinear
  rw [← toExtended_noise, ← Binary.toExtended_const, Binary.le_toExtended_iff] at hread
  rw [← Binary.toExtended_const, Binary.le_toExtended_iff, ← toExtended_noise,
    const_readNoise h] at hdark
  refine ⟨helectrons, hnoise, hlinear, hread, fun ha => ?_⟩
  -- equal extended numbers are equal numbers, since the read noise is not zero
  have hvalue : (const readNoise : Binary f).toRat = some 1.5 :=
    Binary.toRat_of_toExtended ((Binary.toExtended_const readNoise).trans (const_readNoise h))
  exact Binary.eq_of_toRat (Binary.toRat_of_toExtended (hdark ha)) hvalue (by norm_num)

end SensorModel

/-! ### The two formats -/

namespace Number

theorem Format.hasUnits (hf : f = .single ∨ f = .double) : f.HasUnits := by
  rcases hf with rfl | rfl <;> infer_instance

/-- The numbers that the sensor needs to be exact. -/
theorem Format.holds (hf : f = .single ∨ f = .double) {q : ℚ}
    (hq : q ∈ ([0, 1.5, 2.25, 1 / 256, 1 / 65536] : List ℚ)) : f.precision.Holds q := by
  have hrepresents : ∀ g : Format, (g = .single ∨ g = .double) → g.Represents q := by
    rintro g (rfl | rfl) <;> revert q <;> decide +kernel
  exact Format.holds_of_represents (hrepresents _ (.inr rfl)) (hrepresents f hf)

theorem Format.holdsReadNoise (hf : f = .single ∨ f = .double) : f.precision.HoldsReadNoise :=
  ⟨Format.holds hf (by simp), Format.holds hf (by simp), Format.holds hf (by simp)⟩

namespace Binary

theorem convert_le [f.HasUnits] [g.HasUnits] {a b : Binary g} (h : a.le b) :
    (a.convert : Binary f).le b.convert := by
  rw [← le_toExtended_iff, toExtended_convert, toExtended_convert]
  exact Extended.convert_le _ (le_toExtended_iff.2 h)

theorem convert_le_zero (hf : f = .single ∨ f = .double) (hg : g = .single ∨ g = .double)
    {a : Binary g} (h : a.le (Arith.const 0)) : (a.convert : Binary f).le (Arith.const 0) := by
  have := Format.hasUnits hf
  have := Format.hasUnits hg
  have hzero : ((Arith.const 0 : Binary g).convert : Binary f) = Arith.const 0 := by
    rcases hf with rfl | rfl <;> rcases hg with rfl | rfl <;> decide +kernel
  rw [← hzero]
  exact convert_le h

end Binary

end Number

namespace SensorModel

/-- **In both formats the noise grows with the light.** -/
theorem noiseGrows_binary (hf : f = .single ∨ f = .double) {s : SensorModel (Binary f)} {m : ℚ}
    (hs : s.maxElectrons.toRat = some m) (hm : 0 < m) {a b : Binary f} (hab : a.le b) :
    NoiseGrows s a b := by
  have := Format.hasUnits hf
  have h := Format.holdsReadNoise hf
  have hgain := gainSquare_pos h (Format.holds hf (by simp)) (Format.holds hf (by simp))
  refine noiseGrows_of_toExtended h hs hm.ne' ?_
  exact noiseGrows_of_defined h (Binary.toExtended_of_toRat hs) (real_pos.2 hm) (real_ne_top m)
    (Binary.le_toExtended_iff.2 hab) fun hzero => absurd hzero hgain.ne'

/-- **The noise grows with lights of either format**, which are converted to that of the sensor
first. -/
theorem noiseGrows_convert (hf : f = .single ∨ f = .double) (hg : g = .single ∨ g = .double)
    {s : SensorModel (Binary f)} {m : ℚ} (hs : s.maxElectrons.toRat = some m) (hm : 0 < m)
    {a b : Binary g} (hab : a.le b) :
    NoiseGrows s a.convert b.convert ∧ (a.le (const 0) → s.noise a.convert = const readNoise) := by
  have := Format.hasUnits hf
  have := Format.hasUnits hg
  have hgrows := noiseGrows_binary hf hs hm (Binary.convert_le hab)
  exact ⟨hgrows, fun hdark => hgrows.dark (Binary.convert_le_zero hf hg hdark)⟩

end SensorModel

end FilmGrain
