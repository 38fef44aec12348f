/-
**The round trips of the curves in two pieces.**

A value that a curve takes over one of its pieces comes back over the corresponding piece of the
other direction, and that piece takes it back exactly.  The thresholds of the two directions are
rounded apart, though, so next to a join a value may leave by one piece and return by the other.
Such a value is known to several digits, and so is what comes of it: light that `srgb` encodes comes
back within `1e-8`, a value that `srgb` decodes within `1e-7`, and a value that `hybridLogGamma`
decodes within `2e-9`.  Light that `hybridLogGamma` encodes never changes the piece and comes back
exactly.

Main results:

* `FilmGrain.Exact.twoPiece_near` — **only a value that changes the piece can be changed**;
* `ToneCurve.srgb_decode_encode`, `ToneCurve.srgb_encode_decode`, `ToneCurve.hlg_decode_encode`,
  `ToneCurve.hlg_encode_decode` — the four round trips;
* `ToneCurve.joins_roundTrip` — **both curves invert each other everywhere**.
-/

import FilmGrain.Proofs.Exact.Joins

set_option autoImplicit false

namespace FilmGrain

open Arith Exact

namespace Exact

/-- **Only a value that leaves by one piece and returns by the other can be changed.** -/
theorem twoPiece_near {t s x tolerance : ℝ} {lower upper lower' upper' : ℝ → ℝ}
    (htolerance : 0 ≤ tolerance) (hlower : x ≤ t → lower' (lower x) = x)
    (hupper : t < x → upper' (upper x) = x)
    (hrise : x ≤ t → s < lower x → |upper' (lower x) - x| ≤ tolerance)
    (hfall : t < x → upper x ≤ s → |lower' (upper x) - x| ≤ tolerance) :
    |twoPiece s lower' upper' (twoPiece t lower upper x) - x| ≤ tolerance := by
  rcases le_or_gt x t with hx | hx
  · rw [twoPiece_of_le hx]
    rcases le_or_gt (lower x) s with hy | hy
    · rwa [twoPiece_of_le hy, hlower hx, sub_self, abs_zero]
    · rw [twoPiece_of_lt hy]
      exact hrise hx hy
  · rw [twoPiece_of_lt hx]
    rcases le_or_gt (upper x) s with hy | hy
    · rw [twoPiece_of_le hy]
      exact hfall hx hy
    · rwa [twoPiece_of_lt hy, hupper hx, sub_self, abs_zero]

end Exact

namespace ToneCurve

variable {e l s v : ℝ}

/-! ### The curve of standard displays -/

theorem srgbBright_encode (hl : 0 ≤ l) : srgbBright (1.055 * l ^ (2.4 : ℝ)⁻¹ - 0.055) = l := by
  have hbase : (1.055 * l ^ (2.4 : ℝ)⁻¹ - 0.055 + 0.055) / 1.055 = l ^ (2.4 : ℝ)⁻¹ := by ring
  rw [srgbBright, hbase, Real.rpow_inv_rpow hl (by norm_num)]

theorem encode_srgbBright (he : 0 ≤ e) : 1.055 * srgbBright e ^ (2.4 : ℝ)⁻¹ - 0.055 = e := by
  rw [srgbBright, Real.rpow_rpow_inv (by positivity) (by norm_num)]
  ring

/-- The bright piece of the encoding increases, so its values are known from those of the decoding.
-/
theorem le_srgb_encode (hl : 0 ≤ l) (he : 0 ≤ e) (h : srgbBright e ≤ l) :
    e ≤ 1.055 * l ^ (2.4 : ℝ)⁻¹ - 0.055 := by
  rw [← not_lt, srgb_encode_lt_iff hl he]
  exact h.not_gt

theorem srgb_encode_le (hl : 0 ≤ l) (he : 0 ≤ e) (h : l ≤ srgbBright e) :
    1.055 * l ^ (2.4 : ℝ)⁻¹ - 0.055 ≤ e := by
  have hroot : l ^ (2.4 : ℝ)⁻¹ ≤ srgbBright e ^ (2.4 : ℝ)⁻¹ :=
    Real.rpow_le_rpow hl h (by norm_num)
  linarith [encode_srgbBright he]

/-- The light at the threshold is encoded a little below what the dark piece makes of it. -/
theorem srgbBright_lt_threshold : srgbBright 0.040449907 < 0.0031308 := by
  rw [srgbBright, rpow_lt_iff (by norm_num) (by norm_num)]
  norm_num

theorem srgbBright_threshold_lt : srgbBright 0.04045 < 0.0031308073 := by
  rw [srgbBright, rpow_lt_iff (by norm_num) (by norm_num)]
  norm_num

theorem srgb_fromLinear_nonneg (hl : 0 ≤ l) : 0 ≤ (srgb : ToneCurve ℝ).fromLinear l := by
  rw [srgb_fromLinear hl]
  rcases le_or_gt l 0.0031308 with h | h
  · rw [twoPiece_of_le h]
    positivity
  · rw [twoPiece_of_lt h]
    refine le_srgb_encode hl le_rfl (le_trans ?_ h.le)
    exact (srgbBright_mono le_rfl (by norm_num)).trans srgbBright_lt_threshold.le

theorem srgb_toLinear_nonneg (he : 0 ≤ e) : 0 ≤ (srgb : ToneCurve ℝ).toLinear e := by
  rw [srgb_toLinear he, twoPiece]
  split
  · positivity
  · exact Real.rpow_nonneg (by positivity) _

/-- **Light comes back from its encoded value.** -/
theorem srgb_decode_encode (hl : 0 ≤ l) :
    |(srgb : ToneCurve ℝ).toLinear ((srgb : ToneCurve ℝ).fromLinear l) - l| ≤ 1e-8 := by
  rw [srgb_toLinear (srgb_fromLinear_nonneg hl), srgb_fromLinear hl]
  refine twoPiece_near (by norm_num) ?_ ?_ ?_ ?_
  · intro _
    exact mul_div_cancel_left₀ l (by norm_num)
  · intro _
    exact srgbBright_encode hl
  · -- the dark piece of the encoding ends below the threshold of the decoding
    intro hdark hrise
    linarith
  · intro hbright hfall
    have hlow : 0.040449907 ≤ 1.055 * l ^ (2.4 : ℝ)⁻¹ - 0.055 :=
      le_srgb_encode hl (by norm_num) (srgbBright_lt_threshold.trans hbright).le
    have hlight : l < 0.0031308073 := by
      have hreach := srgbBright_mono (by linarith) hfall
      rw [srgbBright_encode hl] at hreach
      exact hreach.trans_lt srgbBright_threshold_lt
    rw [abs_le, neg_le_sub_iff_le_add, sub_le_iff_le_add, ← sub_le_iff_le_add,
      le_div_iff₀ (by norm_num), div_le_iff₀ (by norm_num)]
    constructor <;> linarith

/-- **An encoded value comes back from its light.** -/
theorem srgb_encode_decode (he : 0 ≤ e) :
    |(srgb : ToneCurve ℝ).fromLinear ((srgb : ToneCurve ℝ).toLinear e) - e| ≤ 1e-7 := by
  rw [srgb_fromLinear (srgb_toLinear_nonneg he), srgb_toLinear he]
  refine twoPiece_near (by norm_num) ?_ ?_ ?_ ?_
  · intro _
    exact mul_div_cancel₀ e (by norm_num)
  · intro _
    exact encode_srgbBright he
  · intro hdark hrise
    have hpos : 0 ≤ e / 12.92 := by positivity
    have hlow : 0.040449907 ≤ 1.055 * (e / 12.92) ^ (2.4 : ℝ)⁻¹ - 0.055 :=
      le_srgb_encode hpos (by norm_num) (srgbBright_lt_threshold.trans hrise).le
    have hhigh : 1.055 * (e / 12.92) ^ (2.4 : ℝ)⁻¹ - 0.055 ≤ 0.04045 := by
      refine srgb_encode_le hpos (by norm_num) ((div_le_div_of_nonneg_right hdark ?_).trans
        (srgb_dark_le_bright le_rfl))
      norm_num
    rw [lt_div_iff₀ (by norm_num)] at hrise
    rw [abs_le]
    constructor <;> linarith
  · -- the bright piece of the decoding begins above the threshold of the encoding
    intro hbright hfall
    have := srgb_dark_le_bright hbright.le
    linarith

/-! ### Hybrid log-gamma -/

theorem hlg_fromLinear_eq (h : 0 ≤ l) :
    (hybridLogGamma : ToneCurve ℝ).fromLinear l = hlgEncoded (l ^ (1.2 : ℝ)⁻¹) :=
  hlg_fromLinear h

theorem hlgBright_log (hs : 1 / 12 < s) :
    hlgBright (0.17883277 * Real.log (12 * s - 0.28466892) + 0.55991073) = s := by
  have hexponent (y : ℝ) : (0.17883277 * y + 0.55991073 - 0.55991073) / 0.17883277 = y := by ring
  rw [hlgBright, hexponent, Real.exp_log (by linarith)]
  ring

theorem log_hlgBright (e : ℝ) :
    0.17883277 * Real.log (12 * hlgBright e - 0.28466892) + 0.55991073 = e := by
  have hargument :
      12 * hlgBright e - 0.28466892 = Real.exp ((e - 0.55991073) / 0.17883277) := by
    rw [hlgBright]
    ring
  rw [hargument, Real.log_exp]
  ring

/-- The bright values of the encoding begin above one half. -/
theorem half_lt_hlg_encode (hs : 1 / 12 < s) :
    1 / 2 < 0.17883277 * Real.log (12 * s - 0.28466892) + 0.55991073 := by
  have hlog : (1 / 2 - 0.55991073) / 0.17883277 < Real.log (12 * s - 0.28466892) := by
    rw [Real.lt_log_iff_exp_lt (by linarith)]
    linarith [hlg_start.2]
  rw [div_lt_iff₀ (by norm_num)] at hlog
  linarith

theorem sqrt_le_half (hs : s ≤ 1 / 12) : √(3 * s) ≤ 1 / 2 :=
  Real.sqrt_le_iff.2 ⟨by norm_num, by linarith⟩

theorem hlgEncoded_nonneg (s : ℝ) : 0 ≤ hlgEncoded s := by
  rcases le_or_gt s (1 / 12) with h | h
  · rw [hlgEncoded, twoPiece_of_le h]
    exact Real.sqrt_nonneg _
  · rw [hlgEncoded, twoPiece_of_lt h]
    linarith [half_lt_hlg_encode h]

/-- **The light of a scene never changes the piece.** -/
theorem hlgScene_hlgEncoded (hs : 0 ≤ s) : hlgScene (hlgEncoded s) = s := by
  have hnear : |hlgScene (hlgEncoded s) - s| ≤ 0 := by
    refine twoPiece_near le_rfl ?_ hlgBright_log ?_ ?_
    · intro _
      change √(3 * s) * √(3 * s) / 3 = s
      rw [Real.mul_self_sqrt (by positivity), mul_div_cancel_left₀ s (by norm_num)]
    · intro hdark hrise
      exact absurd (sqrt_le_half hdark) hrise.not_ge
    · intro hbright hfall
      exact absurd (half_lt_hlg_encode hbright) hfall.not_gt
  exact sub_eq_zero.1 (abs_nonpos_iff.1 hnear)

/-- A bright value that decodes to dark light is next to one half. -/
theorem lt_of_hlgBright_le (h : hlgBright e ≤ 1 / 12) : e < 1 / 2 + 6e-10 := by
  by_contra hfar
  have hreach := hlgBright_mono (not_lt.1 hfar)
  have hcaught := hlg_catchUp
  rw [hlgBright] at hreach
  linarith

theorem hlgEncoded_hlgScene (he : 0 ≤ e) : |hlgEncoded (hlgScene e) - e| ≤ 2e-9 := by
  refine twoPiece_near (by norm_num) ?_ ?_ ?_ ?_
  · intro _
    change √(3 * (e * e / 3)) = e
    rw [mul_div_cancel₀ (e * e) (by norm_num), Real.sqrt_mul_self he]
  · intro _
    exact log_hlgBright e
  · intro hdark hrise
    nlinarith
  · intro hbright hfall
    have hstart := hlgBright_mono hbright.le
    have hlow : 0.4999999994 ≤ √(3 * hlgBright e) := by
      refine Real.le_sqrt_of_sq_le ?_
      rw [hlgBright] at hstart
      linarith [hlg_start.1]
    have hhigh := sqrt_le_half hfall
    have hnear := lt_of_hlgBright_le hfall
    rw [abs_le]
    constructor <;> linarith

/-- **Light comes back from its encoded value exactly.** -/
theorem hlg_decode_encode (hl : 0 ≤ l) :
    (hybridLogGamma : ToneCurve ℝ).toLinear ((hybridLogGamma : ToneCurve ℝ).fromLinear l) = l := by
  rw [hlg_fromLinear_eq hl, hlg_toLinear (hlgEncoded_nonneg _),
    hlgScene_hlgEncoded (Real.rpow_nonneg hl _), Real.rpow_inv_rpow hl (by norm_num)]

/-- **An encoded value comes back from its light.** -/
theorem hlg_encode_decode (he : 0 ≤ e) :
    |(hybridLogGamma : ToneCurve ℝ).fromLinear ((hybridLogGamma : ToneCurve ℝ).toLinear e) - e| ≤
      2e-9 := by
  rw [hlg_toLinear he, hlg_fromLinear_eq (Real.rpow_nonneg (hlgScene_nonneg e) _),
    Real.rpow_rpow_inv (hlgScene_nonneg e) (by norm_num)]
  exact hlgEncoded_hlgScene he

/-! ### Both curves -/

/-- **Both curves in two pieces invert each other within `1e-4` everywhere**, also where a value
leaves by one piece and returns by the other. -/
theorem joins_roundTrip (hv : v ∈ Set.Icc (0 : ℝ) 1) :
    |(srgb : ToneCurve ℝ).toLinear ((srgb : ToneCurve ℝ).fromLinear v) - v| ≤ 1e-4 ∧
      |(srgb : ToneCurve ℝ).fromLinear ((srgb : ToneCurve ℝ).toLinear v) - v| ≤ 1e-4 ∧
      |(hybridLogGamma : ToneCurve ℝ).toLinear ((hybridLogGamma : ToneCurve ℝ).fromLinear v) - v| ≤
        1e-4 ∧
      |(hybridLogGamma : ToneCurve ℝ).fromLinear ((hybridLogGamma : ToneCurve ℝ).toLinear v) - v| ≤
        1e-4 := by
  refine ⟨(srgb_decode_encode hv.1).trans (by norm_num),
    (srgb_encode_decode hv.1).trans (by norm_num), ?_, (hlg_encode_decode hv.1).trans (by norm_num)⟩
  rw [hlg_decode_encode hv.1, sub_self, abs_zero]
  norm_num

/-- A light that `srgb` encodes by its bright piece and decodes by its dark one. -/
theorem joins_roundTrip_mixed :
    (0.0031308001 : ℝ) ∈ Set.Icc (0 : ℝ) 1 ∧ (0.0031308 : ℝ) < 0.0031308001 ∧
      (srgb : ToneCurve ℝ).fromLinear 0.0031308001 ≤ 0.04045 ∧
      |(srgb : ToneCurve ℝ).toLinear ((srgb : ToneCurve ℝ).fromLinear 0.0031308001) -
        0.0031308001| ≤ 1e-4 := by
  have hmem : (0.0031308001 : ℝ) ∈ Set.Icc (0 : ℝ) 1 := by norm_num
  have hbright : (0.0031308 : ℝ) < 0.0031308001 := by norm_num
  refine ⟨hmem, hbright, ?_, (joins_roundTrip hmem).1⟩
  rw [srgb_fromLinear hmem.1, twoPiece_of_lt hbright]
  refine srgb_encode_le hmem.1 (by norm_num) (le_trans (by norm_num) (srgb_dark_le_bright le_rfl))

end ToneCurve

end FilmGrain
