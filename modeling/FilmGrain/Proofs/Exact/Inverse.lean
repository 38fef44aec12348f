/-
**The two conversions of a smooth curve are inverse to each other.**

A power law and the perceptual quantizer have no joins.  Read exactly, the decoding of each undoes
its encoding at every light; the encoding undoes the decoding at every value of a power law, and at
every value of the quantizer that is not below its black level.  A value below that level decodes to
black, and black is encoded as the level itself.

All of this follows from four facts on a curve (`ToneCurve.InverseAbove.of_encode`): both
conversions stay between zero and one, the encoding increases, it begins at the black level and ends
at one, and what is decoded is encoded as the larger of the value and the black level.

Main definitions:

* `ToneCurve.InverseAbove` — curves whose conversions are inverse above a black level;
* `ToneCurve.pqRatio` — the rational function between the two powers of the quantizer;
* `ToneCurve.pqBlack` — its black level.

Main results:

* `ToneCurve.InverseAbove.of_encode` — what it takes to be inverse;
* `ToneCurve.powerLaw_inverse`, `ToneCurve.pq_inverse` — the two kinds of smooth curves;
* `TransferFunction.smooth_inverse` — **the registered curves without a join**.
-/

import FilmGrain.Proofs.Exact.Growth

set_option autoImplicit false

namespace FilmGrain

open Arith Exact

namespace ToneCurve

/-! ### Curves with a black level -/

/-- The conversions keep the interval from zero to one, its upper end and the order.  Decoding
undoes encoding; encoding undoes decoding but for values below the black level, which are all black.
-/
structure InverseAbove (c : ToneCurve ℝ) (black : ℝ) : Prop where
  toLinear_mem : Set.MapsTo c.toLinear (Set.Icc 0 1) (Set.Icc 0 1)
  fromLinear_mem : Set.MapsTo c.fromLinear (Set.Icc 0 1) (Set.Icc 0 1)
  toLinear_one : c.toLinear 1 = 1
  fromLinear_one : c.fromLinear 1 = 1
  toLinear_fromLinear : ∀ l ∈ Set.Icc (0 : ℝ) 1, c.toLinear (c.fromLinear l) = l
  fromLinear_toLinear : ∀ e ∈ Set.Icc (0 : ℝ) 1, c.fromLinear (c.toLinear e) = max e black
  toLinear_mono : MonotoneOn c.toLinear (Set.Icc 0 1)
  toLinear_strictMono : StrictMonoOn c.toLinear (Set.Icc black 1)
  toLinear_black : ∀ e ∈ Set.Icc 0 black, c.toLinear e = 0
  fromLinear_strictMono : StrictMonoOn c.fromLinear (Set.Icc 0 1)

/-- **An increasing encoding that takes back what is decoded is inverse to the decoding.** -/
theorem InverseAbove.of_encode {c : ToneCurve ℝ} {black : ℝ} (hblack : black ∈ Set.Icc (0 : ℝ) 1)
    (hto : Set.MapsTo c.toLinear (Set.Icc 0 1) (Set.Icc 0 1))
    (hfrom : StrictMonoOn c.fromLinear (Set.Icc 0 1)) (hzero : c.fromLinear 0 = black)
    (hone : c.fromLinear 1 = 1)
    (hback : ∀ e ∈ Set.Icc (0 : ℝ) 1, c.fromLinear (c.toLinear e) = max e black) :
    c.InverseAbove black := by
  have h0 : (0 : ℝ) ∈ Set.Icc (0 : ℝ) 1 := ⟨le_rfl, zero_le_one⟩
  have h1 : (1 : ℝ) ∈ Set.Icc (0 : ℝ) 1 := ⟨zero_le_one, le_rfl⟩
  have hrange : ∀ l ∈ Set.Icc (0 : ℝ) 1, black ≤ c.fromLinear l ∧ c.fromLinear l ≤ 1 := by
    intro l hl
    exact ⟨hzero.symm.trans_le (hfrom.monotoneOn h0 hl hl.1),
      (hfrom.monotoneOn hl h1 hl.2).trans_eq hone⟩
  have hmem : Set.MapsTo c.fromLinear (Set.Icc 0 1) (Set.Icc 0 1) := fun l hl =>
    ⟨hblack.1.trans (hrange l hl).1, (hrange l hl).2⟩
  -- two decoded values compare as what they are encoded as
  have horder : ∀ e ∈ Set.Icc (0 : ℝ) 1, ∀ l ∈ Set.Icc (0 : ℝ) 1,
      (c.toLinear e ≤ l ↔ max e black ≤ c.fromLinear l) := by
    intro e he l hl
    rw [← hback e he, hfrom.le_iff_le (hto he) hl]
  have hinverse : ∀ l ∈ Set.Icc (0 : ℝ) 1, c.toLinear (c.fromLinear l) = l := by
    intro l hl
    refine hfrom.injOn (hto (hmem hl)) hl ?_
    rw [hback _ (hmem hl), max_eq_left (hrange l hl).1]
  refine ⟨hto, hmem, ?_, hone, hinverse, hback, ?_, ?_, ?_, hfrom⟩
  · have := hinverse 1 h1
    rwa [hone] at this
  · intro u hu v hv huv
    rw [horder u hu _ (hto hv), hback v hv]
    exact max_le_max_right black huv
  · intro u hu v hv huv
    have hu' : u ∈ Set.Icc (0 : ℝ) 1 := ⟨hblack.1.trans hu.1, hu.2⟩
    have hv' : v ∈ Set.Icc (0 : ℝ) 1 := ⟨hblack.1.trans hv.1, hv.2⟩
    rw [← not_le, horder v hv' _ (hto hu'), hback u hu', max_eq_left hu.1, max_eq_left hv.1]
    exact huv.not_ge
  · intro e he
    have he' : e ∈ Set.Icc (0 : ℝ) 1 := ⟨he.1, he.2.trans hblack.2⟩
    refine le_antisymm ((horder e he' 0 h0).2 ?_) (hto he').1
    rw [hzero, max_eq_right he.2]

/-! ### Power laws -/

/-- **A power law is inverse to itself at every value.** -/
theorem powerLaw_inverse {gamma : Rat} (h : 0 < gamma) :
    (powerLaw gamma : ToneCurve ℝ).InverseAbove 0 := by
  have hgamma : (0 : ℝ) < gamma := by exact_mod_cast h
  have hroot : (0 : ℝ) < (gamma : ℝ)⁻¹ := inv_pos.2 hgamma
  refine .of_encode ⟨le_rfl, zero_le_one⟩ ?_ ?_ ?_ ?_ ?_
  · intro e he
    rw [powerLaw_toLinear he.1]
    exact ⟨Real.rpow_nonneg he.1 _, Real.rpow_le_one he.1 he.2 hgamma.le⟩
  · intro u hu v hv huv
    rw [powerLaw_fromLinear hu.1, powerLaw_fromLinear hv.1]
    exact Real.rpow_lt_rpow hu.1 huv hroot
  · rw [powerLaw_fromLinear le_rfl, Real.zero_rpow hroot.ne']
  · rw [powerLaw_fromLinear zero_le_one, Real.one_rpow]
  · intro e he
    rw [powerLaw_toLinear he.1, powerLaw_fromLinear (Real.rpow_nonneg he.1 _),
      Real.rpow_rpow_inv he.1 hgamma.ne', max_eq_left he.1]

/-! ### The perceptual quantizer -/

/-- The rational function between the two powers of the encoding. -/
noncomputable def pqRatio (q : ℝ) : ℝ := (0.8359375 + 18.8515625 * q) / (1 + 18.6875 * q)

/-- The value that black is encoded as. -/
noncomputable def pqBlack : ℝ := (pqC1 : ℝ) ^ (pqM2 : ℝ)

variable {e l p q : ℝ}

theorem pqM1_pos : (0 : ℝ) < pqM1 := by
  norm_num [pqM1]

theorem pqM2_pos : (0 : ℝ) < pqM2 := by
  norm_num [pqM2]

theorem pqBlack_eq : pqBlack = 0.8359375 ^ (pqM2 : ℝ) := by
  rw [pqBlack]
  norm_num [pqC1]

theorem pq_toLinear (he : 0 ≤ e) :
    (perceptualQuantizer : ToneCurve ℝ).toLinear e =
      (max (e ^ (pqM2 : ℝ)⁻¹ - 0.8359375) 0 / (18.8515625 - 18.6875 * e ^ (pqM2 : ℝ)⁻¹)) ^
        (pqM1 : ℝ)⁻¹ := by
  simp only [perceptualQuantizer, clamp_eq, max_eq_left he, pow_eq, const_eq, one_div,
    Rat.cast_one]
  norm_num [pqC1, pqC2, pqC3]

theorem pq_fromLinear (hl : 0 ≤ l) :
    (perceptualQuantizer : ToneCurve ℝ).fromLinear l = pqRatio (l ^ (pqM1 : ℝ)) ^ (pqM2 : ℝ) := by
  simp only [perceptualQuantizer, clamp_of_nonneg hl, pow_eq, const_eq, pqRatio]
  norm_num [pqC1, pqC2, pqC3]

theorem pqRatio_nonneg (hq : 0 ≤ q) : 0 ≤ pqRatio q := by
  rw [pqRatio]
  positivity

/-- The function increases, since its limit is above its start. -/
theorem pqRatio_strictMono (hp : 0 ≤ p) (h : p < q) : pqRatio p < pqRatio q := by
  have hq : 0 < q := hp.trans_lt h
  rw [pqRatio, pqRatio, div_lt_div_iff₀ (by positivity) (by positivity)]
  nlinarith

theorem pqRatio_zero : pqRatio 0 = 0.8359375 := by
  norm_num [pqRatio]

/-- The constants of numerator and denominator have the same sum. -/
theorem pqRatio_one : pqRatio 1 = 1 := by
  norm_num [pqRatio]

theorem pqRatio_div {d : ℝ} (hd : d ≠ 0) (n : ℝ) :
    pqRatio (n / d) = (0.8359375 * d + 18.8515625 * n) / (d + 18.6875 * n) := by
  rw [pqRatio, ← mul_div_mul_right _ _ hd]
  congr 1 <;> field_simp

/-- The denominator of the decoding stays positive. -/
theorem pq_denominator_pos (hp : p ≤ 1) : 0 < 18.8515625 - 18.6875 * p := by
  linarith

/-- The decoding solves for the argument of the function, from its start on. -/
theorem pqRatio_solve (hp : p ≤ 1) :
    pqRatio (max (p - 0.8359375) 0 / (18.8515625 - 18.6875 * p)) = max p 0.8359375 := by
  have hden := pq_denominator_pos hp
  rcases le_total p 0.8359375 with hlow | hhigh
  · rw [max_eq_right (sub_nonpos.2 hlow), zero_div, pqRatio_zero, max_eq_right hlow]
  · -- numerator and denominator, times that of the argument, are linear; the latter is constant
    have hconstant : 18.8515625 - 18.6875 * p + 18.6875 * (p - 0.8359375) ≠ 0 := by
      ring_nf
      norm_num
    rw [max_eq_left (sub_nonneg.2 hhigh), max_eq_left hhigh, pqRatio_div hden.ne',
      div_eq_iff hconstant]
    ring

/-- The decoding, before its last power, stays between zero and one. -/
theorem pq_quotient_mem (hp : p ≤ 1) :
    max (p - 0.8359375) 0 / (18.8515625 - 18.6875 * p) ∈ Set.Icc (0 : ℝ) 1 := by
  have hden := pq_denominator_pos hp
  refine ⟨div_nonneg (le_max_right _ _) hden.le, (div_le_one hden).2 ?_⟩
  exact max_le (by linarith) hden.le

theorem pqBlack_mem : pqBlack ∈ Set.Ioo (0 : ℝ) 1 := by
  rw [pqBlack_eq]
  exact ⟨Real.rpow_pos_of_pos (by norm_num) _,
    Real.rpow_lt_one (by norm_num) (by norm_num) pqM2_pos⟩

/-- **The perceptual quantizer is inverse to itself above its black level.** -/
theorem pq_inverse : (perceptualQuantizer : ToneCurve ℝ).InverseAbove pqBlack := by
  have hroot1 : (0 : ℝ) < (pqM1 : ℝ)⁻¹ := inv_pos.2 pqM1_pos
  have hroot2 : (0 : ℝ) < (pqM2 : ℝ)⁻¹ := inv_pos.2 pqM2_pos
  have hpower : ∀ e ∈ Set.Icc (0 : ℝ) 1, e ^ (pqM2 : ℝ)⁻¹ ≤ 1 := fun e he =>
    Real.rpow_le_one he.1 he.2 hroot2.le
  refine .of_encode (Set.Ioo_subset_Icc_self pqBlack_mem) ?_ ?_ ?_ ?_ ?_
  · intro e he
    obtain ⟨hlow, hhigh⟩ := pq_quotient_mem (hpower e he)
    rw [pq_toLinear he.1]
    exact ⟨Real.rpow_nonneg hlow _, Real.rpow_le_one hlow hhigh hroot1.le⟩
  · intro u hu v hv huv
    have hpow : u ^ (pqM1 : ℝ) < v ^ (pqM1 : ℝ) := Real.rpow_lt_rpow hu.1 huv pqM1_pos
    have hu' : 0 ≤ u ^ (pqM1 : ℝ) := Real.rpow_nonneg hu.1 _
    rw [pq_fromLinear hu.1, pq_fromLinear hv.1]
    exact Real.rpow_lt_rpow (pqRatio_nonneg hu') (pqRatio_strictMono hu' hpow) pqM2_pos
  · rw [pq_fromLinear le_rfl, Real.zero_rpow pqM1_pos.ne', pqRatio_zero, pqBlack_eq]
  · rw [pq_fromLinear zero_le_one, Real.one_rpow, pqRatio_one, Real.one_rpow]
  · intro e he
    obtain ⟨hlow, -⟩ := pq_quotient_mem (hpower e he)
    have hmax : max (e ^ (pqM2 : ℝ)⁻¹) 0.8359375 ^ (pqM2 : ℝ) = max e pqBlack := by
      rw [(Real.monotoneOn_rpow_Ici_of_exponent_nonneg pqM2_pos.le).map_max
        (Real.rpow_nonneg he.1 _) (by norm_num), Real.rpow_inv_rpow he.1 pqM2_pos.ne', pqBlack_eq]
    rw [pq_toLinear he.1, pq_fromLinear (Real.rpow_nonneg hlow _),
      Real.rpow_inv_rpow hlow pqM1_pos.ne', pqRatio_solve (hpower e he), hmax]

end ToneCurve

/-! ### The registered curves -/

namespace TransferFunction

open ToneCurve

/-- **The conversions of the registered curves without a join are inverse.**  Read exactly, those of
both power laws are inverse at every value, and those of the perceptual quantizer at every value
that is not below its black level, the power `pqM2` of `pqC1`; a value below decodes to black and
comes back as that level.  All six conversions keep the interval from zero to one, its upper end and
the order, strictly but for the decoding below the level.  The quantizer divides by positive numbers
only. -/
theorem smooth_inverse :
    (bt470m.curve : ToneCurve ℝ).InverseAbove 0 ∧
      (bt470bg.curve : ToneCurve ℝ).InverseAbove 0 ∧
      (smpte2084.curve : ToneCurve ℝ).InverseAbove ((pqC1 : ℝ) ^ (pqM2 : ℝ)) ∧
      (∀ e ∈ Set.Icc (0 : ℝ) 1,
        (bt470m.curve : ToneCurve ℝ).fromLinear ((bt470m.curve : ToneCurve ℝ).toLinear e) = e ∧
        (bt470bg.curve : ToneCurve ℝ).fromLinear ((bt470bg.curve : ToneCurve ℝ).toLinear e) = e) ∧
      (pqC1 : ℝ) ^ (pqM2 : ℝ) ∈ Set.Ioo (0 : ℝ) 1 ∧
      ∀ x ∈ Set.Icc (0 : ℝ) 1, 0 < (pqC2 : ℝ) - pqC3 * x ^ (1 / (pqM2 : ℝ)) ∧
        0 < 1 + (pqC3 : ℝ) * x ^ (pqM1 : ℝ) := by
  have hlow : (bt470m.curve : ToneCurve ℝ).InverseAbove 0 := powerLaw_inverse (by norm_num)
  have hhigh : (bt470bg.curve : ToneCurve ℝ).InverseAbove 0 := powerLaw_inverse (by norm_num)
  refine ⟨hlow, hhigh, pq_inverse, ?_, pqBlack_mem, ?_⟩
  · intro e he
    rw [hlow.fromLinear_toLinear e he, hhigh.fromLinear_toLinear e he, max_eq_left he.1]
    exact ⟨rfl, rfl⟩
  · intro x hx
    have hroot : x ^ (1 / (pqM2 : ℝ)) ≤ 1 :=
      Real.rpow_le_one hx.1 hx.2 (one_div_pos.2 pqM2_pos).le
    have hpower : 0 ≤ x ^ (pqM1 : ℝ) := Real.rpow_nonneg hx.1 _
    constructor
    · have := pq_denominator_pos hroot
      norm_num [pqC2, pqC3] at this ⊢
      exact this
    · norm_num [pqC3]
      positivity

end TransferFunction

end FilmGrain
