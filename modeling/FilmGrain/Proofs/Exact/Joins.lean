/-
**The joins of the curves in two pieces.**

`srgb` and `hybridLogGamma` are made of a piece for dark values and a piece for bright ones.  Each
piece increases, so the order of the values can break only across the threshold between them, where
two curves with rounded constants meet to about nine digits.  Read exactly, the bright piece begins
above the dark one in `srgb` decoding and in `hybridLogGamma` encoding, and these two never fall.
In `srgb` encoding and in `hybridLogGamma` decoding it begins a little below, so some pairs next to
the threshold change their order; which ones is said here exactly.

Main definitions:

* `FilmGrain.Exact.twoPiece` — a function in two pieces;
* `ToneCurve.hlgScene`, `ToneCurve.hlgEncoded` — `hybridLogGamma` by the light of the scene;
* `ToneCurve.SrgbFold`, `ToneCurve.HlgFold` — the pairs next to a threshold that change their order.

Main results:

* `FilmGrain.Exact.twoPiece_le_iff` — the order of a function whose pieces increase;
* `ToneCurve.SrgbFold.near`, `ToneCurve.HlgFold.near` — such pairs are within `3e-9` and `6e-10` of
  the threshold;
* `ToneCurve.joins_ordered_iff` — **the order of the four conversions across their joins**;
* `ToneCurve.joins_fall` — two conversions do fall.
-/

import Mathlib.Analysis.Complex.Exponential
import FilmGrain.Proofs.Exact.Arithmetic
import FilmGrain.Tone.Curve

set_option autoImplicit false

namespace FilmGrain

open Arith Exact

namespace Exact

/-! ### Functions in two pieces -/

/-- The function that follows one function up to a threshold and another one above it. -/
noncomputable def twoPiece (threshold : ℝ) (lower upper : ℝ → ℝ) (x : ℝ) : ℝ :=
  if x ≤ threshold then lower x else upper x

section Pieces

variable {t a b u v : ℝ} {lower upper : ℝ → ℝ}

theorem twoPiece_of_le (h : u ≤ t) : twoPiece t lower upper u = lower u := if_pos h

theorem twoPiece_of_lt (h : t < u) : twoPiece t lower upper u = upper u := if_neg h.not_ge

/-- **Where both pieces increase, only a pair on both sides of the threshold can be out of
order.** -/
theorem twoPiece_le_iff (hlower : MonotoneOn lower (Set.Icc a t))
    (hupper : MonotoneOn upper (Set.Ioc t b)) (hau : a ≤ u) (huv : u ≤ v) (hvb : v ≤ b) :
    twoPiece t lower upper u ≤ twoPiece t lower upper v ↔ ¬(u ≤ t ∧ t < v ∧ upper v < lower u) := by
  rcases le_or_gt v t with hv | hv
  · have hu : u ≤ t := huv.trans hv
    rw [twoPiece_of_le hu, twoPiece_of_le hv]
    refine iff_of_true (hlower ⟨hau, hu⟩ ⟨hau.trans huv, hv⟩ huv) ?_
    rintro ⟨-, hlt, -⟩
    exact hlt.not_ge hv
  · rcases le_or_gt u t with hu | hu
    · rw [twoPiece_of_le hu, twoPiece_of_lt hv, ← not_lt]
      simp [hu, hv]
    · rw [twoPiece_of_lt hu, twoPiece_of_lt hv]
      refine iff_of_true (hupper ⟨hu, huv.trans hvb⟩ ⟨hv, hvb⟩ huv) ?_
      rintro ⟨hle, -, -⟩
      exact hu.not_ge hle

/-- Pieces that do not overlap make an increasing function. -/
theorem twoPiece_le (hlower : MonotoneOn lower (Set.Icc a t))
    (hupper : MonotoneOn upper (Set.Ioc t b))
    (hjoin : ∀ x, t < x → x ≤ b → lower t ≤ upper x) (hau : a ≤ u) (huv : u ≤ v) (hvb : v ≤ b) :
    twoPiece t lower upper u ≤ twoPiece t lower upper v := by
  rw [twoPiece_le_iff hlower hupper hau huv hvb]
  rintro ⟨hu, hv, hlt⟩
  have hdark := hlower ⟨hau, hu⟩ ⟨hau.trans hu, le_rfl⟩ hu
  exact hlt.not_ge (hdark.trans (hjoin v hv hvb))

end Pieces

/-! ### Powers compared with decimals -/

section Powers

variable {x q : ℝ}

/-- The fifth power of a power of exponent 2.4. -/
theorem pow_five_rpow (hx : 0 ≤ x) : (x ^ (2.4 : ℝ)) ^ 5 = x ^ 12 := by
  rw [← Real.rpow_natCast (x ^ (2.4 : ℝ)), ← Real.rpow_mul hx, ← Real.rpow_natCast x]
  norm_num

theorem le_rpow_iff (hx : 0 ≤ x) (hq : 0 ≤ q) : q ≤ x ^ (2.4 : ℝ) ↔ q ^ 5 ≤ x ^ 12 := by
  rw [← pow_five_rpow hx, pow_le_pow_iff_left₀ hq (Real.rpow_nonneg hx _) (by decide)]

theorem lt_rpow_iff (hx : 0 ≤ x) (hq : 0 ≤ q) : q < x ^ (2.4 : ℝ) ↔ q ^ 5 < x ^ 12 := by
  rw [← pow_five_rpow hx, pow_lt_pow_iff_left₀ hq (Real.rpow_nonneg hx _) (by decide)]

theorem rpow_lt_iff (hx : 0 ≤ x) (hq : 0 ≤ q) : x ^ (2.4 : ℝ) < q ↔ x ^ 12 < q ^ 5 := by
  rw [← pow_five_rpow hx, pow_lt_pow_iff_left₀ (Real.rpow_nonneg hx _) hq (by decide)]

end Powers

end Exact

namespace ToneCurve

variable {u v x : ℝ}

/-! ### The curve of standard displays -/

/-- The light of an encoded value on the bright piece of `srgb`. -/
noncomputable def srgbBright (encoded : ℝ) : ℝ := ((encoded + 0.055) / 1.055) ^ (2.4 : ℝ)

theorem srgb_toLinear (h : 0 ≤ x) :
    (srgb : ToneCurve ℝ).toLinear x = twoPiece 0.04045 (fun e => e / 12.92) srgbBright x := by
  simp only [srgb, clamp_of_nonneg h, le_iff, pow_eq, const_eq, twoPiece, srgbBright]
  norm_num [srgbEncodedThreshold]

theorem srgb_fromLinear (h : 0 ≤ x) :
    (srgb : ToneCurve ℝ).fromLinear x =
      twoPiece 0.0031308 (fun l => 12.92 * l) (fun l => 1.055 * l ^ (2.4 : ℝ)⁻¹ - 0.055) x := by
  simp only [srgb, clamp_of_nonneg h, le_iff, pow_eq, const_eq, twoPiece]
  norm_num [srgbLinearThreshold]

/-- The bright piece increases. -/
theorem srgbBright_mono (hu : 0 ≤ u) (h : u ≤ v) : srgbBright u ≤ srgbBright v := by
  have hbase : (u + 0.055) / 1.055 ≤ (v + 0.055) / 1.055 :=
    div_le_div_of_nonneg_right (by linarith) (by norm_num)
  exact Real.rpow_le_rpow (by positivity) hbase (by norm_num)

/-- The bright piece of the decoding begins above the dark one. -/
theorem srgb_dark_le_bright (h : 0.04045 ≤ x) : 0.04045 / 12.92 ≤ srgbBright x := by
  have hstart : 0.04045 / 12.92 ≤ srgbBright 0.04045 := by
    rw [srgbBright, le_rpow_iff (by norm_num) (by norm_num)]
    norm_num
  exact hstart.trans (srgbBright_mono (by norm_num) h)

/-- On the bright piece of the encoding a light is encoded below a value exactly if it is below the
light of the value. -/
theorem srgb_encode_lt_iff (hx : 0 ≤ x) (hu : 0 ≤ u) :
    1.055 * x ^ (2.4 : ℝ)⁻¹ - 0.055 < u ↔ x < srgbBright u := by
  rw [srgbBright, ← Real.rpow_inv_lt_iff_of_pos hx (by positivity) (by norm_num),
    lt_div_iff₀ (by norm_num)]
  constructor <;> intro h <;> linarith

/-- Lights on both sides of the threshold of `srgb` that are encoded in the wrong order: the bright
piece takes the encoded value of the first only at a light above the second. -/
def SrgbFold (u v : ℝ) : Prop :=
  u ≤ 0.0031308 ∧ 0.0031308 < v ∧ v < ((12.92 * u + 0.055) / 1.055) ^ (2.4 : ℝ)

/-- **Lights in the wrong order are next to the threshold.** -/
theorem SrgbFold.near (hu : 0 ≤ u) (h : SrgbFold u v) :
    0.0031308 - 3e-9 < u ∧ v < 0.0031308 + 3e-9 := by
  obtain ⟨hdark, hbright, hlt⟩ := h
  constructor
  · by_contra hfar
    have hbelow : srgbBright (12.92 * u) ≤ srgbBright (12.92 * (0.0031308 - 3e-9)) :=
      srgbBright_mono (by positivity) (by linarith)
    have hend : srgbBright (12.92 * (0.0031308 - 3e-9)) < 0.0031308 := by
      rw [srgbBright, rpow_lt_iff (by norm_num) (by norm_num)]
      norm_num
    exact (hbright.trans (hlt.trans_le hbelow)).not_gt hend
  · have hbelow : srgbBright (12.92 * u) ≤ srgbBright (12.92 * 0.0031308) :=
      srgbBright_mono (by positivity) (by linarith)
    have hend : srgbBright (12.92 * 0.0031308) < 0.0031308 + 3e-9 := by
      rw [srgbBright, rpow_lt_iff (by norm_num) (by norm_num)]
      norm_num
    exact (hlt.trans_le hbelow).trans hend

/-- Decoding never falls. -/
theorem srgb_toLinear_le (hu : 0 ≤ u) (huv : u ≤ v) (hv : v ≤ 1) :
    (srgb : ToneCurve ℝ).toLinear u ≤ (srgb : ToneCurve ℝ).toLinear v := by
  rw [srgb_toLinear hu, srgb_toLinear (hu.trans huv)]
  refine twoPiece_le (a := 0) (b := 1) ?_ ?_ ?_ hu huv hv
  · intro x _ y _ hxy
    exact div_le_div_of_nonneg_right hxy (by norm_num)
  · intro x hx y _ hxy
    exact srgbBright_mono (by linarith [hx.1]) hxy
  · intro x hx _
    exact srgb_dark_le_bright hx.le

/-- Encoding keeps the order of exactly the lights that are not folded. -/
theorem srgb_fromLinear_le_iff (hu : 0 ≤ u) (huv : u ≤ v) (hv : v ≤ 1) :
    (srgb : ToneCurve ℝ).fromLinear u ≤ (srgb : ToneCurve ℝ).fromLinear v ↔ ¬SrgbFold u v := by
  rw [srgb_fromLinear hu, srgb_fromLinear (hu.trans huv),
    twoPiece_le_iff (a := 0) (b := 1) ?_ ?_ hu huv hv,
    srgb_encode_lt_iff (hu.trans huv) (by positivity)]
  · rfl
  · intro x _ y _ hxy
    exact mul_le_mul_of_nonneg_left hxy (by norm_num)
  · intro x hx y _ hxy
    have hroot : x ^ (2.4 : ℝ)⁻¹ ≤ y ^ (2.4 : ℝ)⁻¹ :=
      Real.rpow_le_rpow (by linarith [hx.1]) hxy (by norm_num)
    change 1.055 * x ^ (2.4 : ℝ)⁻¹ - 0.055 ≤ 1.055 * y ^ (2.4 : ℝ)⁻¹ - 0.055
    linarith

/-! ### Hybrid log-gamma -/

/-- The light of the scene of an encoded value on the bright piece of `hybridLogGamma`. -/
noncomputable def hlgBright (encoded : ℝ) : ℝ :=
  (Real.exp ((encoded - 0.55991073) / 0.17883277) + 0.28466892) / 12

/-- The light of the scene of an encoded value. -/
noncomputable def hlgScene (encoded : ℝ) : ℝ :=
  twoPiece (1 / 2) (fun e => e * e / 3) hlgBright encoded

/-- The value that the light of a scene is encoded as. -/
noncomputable def hlgEncoded (scene : ℝ) : ℝ :=
  twoPiece (1 / 12) (fun s => √(3 * s))
    (fun s => 0.17883277 * Real.log (12 * s - 0.28466892) + 0.55991073) scene

theorem hlg_toLinear (h : 0 ≤ x) :
    (hybridLogGamma : ToneCurve ℝ).toLinear x = hlgScene x ^ (1.2 : ℝ) := by
  simp only [hybridLogGamma, clamp_of_nonneg h, le_iff, pow_eq, exp_eq, const_eq, hlgScene,
    twoPiece, hlgBright]
  norm_num [hlgA, hlgB, hlgC, hlgSystemGamma]

theorem hlg_fromLinear (h : 0 ≤ x) :
    (hybridLogGamma : ToneCurve ℝ).fromLinear x =
      twoPiece (1 / 12) (fun s => √(3 * s))
        (fun s => 0.17883277 * Real.log (12 * s - 0.28466892) + 0.55991073)
        (x ^ (1.2 : ℝ)⁻¹) := by
  simp only [hybridLogGamma, clamp_of_nonneg h, le_iff, pow_eq, sqrt_eq, log_eq, const_eq, twoPiece]
  norm_num [hlgA, hlgB, hlgC, hlgSystemGamma]

/-- **Where the bright piece begins**, to nine digits. -/
theorem hlg_start : 0.715331078 < Real.exp ((1 / 2 - 0.55991073) / 0.17883277) ∧
    Real.exp ((1 / 2 - 0.55991073) / 0.17883277) < 0.7153310782 := by
  have hneg : (1 / 2 - 0.55991073 : ℝ) / 0.17883277 = -((0.55991073 - 1 / 2) / 0.17883277) := by
    norm_num
  rw [hneg, Real.exp_neg]
  -- ten terms of the series enclose the reciprocal; its argument is about a third
  constructor
  · have htaylor := Real.exp_bound' (x := (0.55991073 - 1 / 2) / 0.17883277) (n := 10)
      (by norm_num) (by norm_num) (by norm_num)
    rw [lt_inv_comm₀ (by norm_num) (Real.exp_pos _)]
    refine htaylor.trans_lt ?_
    simp only [Finset.sum_range_succ, Finset.sum_range_zero, Nat.factorial]
    norm_num
  · have htaylor := Real.sum_le_exp_of_nonneg (x := (0.55991073 - 1 / 2) / 0.17883277)
      (by norm_num) 10
    rw [inv_lt_comm₀ (Real.exp_pos _) (by norm_num)]
    refine lt_of_lt_of_le ?_ htaylor
    simp only [Finset.sum_range_succ, Finset.sum_range_zero, Nat.factorial]
    norm_num

/-- Where the bright piece has caught up with the end of the dark one. -/
theorem hlg_catchUp : 0.71533108 < Real.exp ((1 / 2 + 6e-10 - 0.55991073) / 0.17883277) := by
  calc (0.71533108 : ℝ) < 0.715331078 * (6e-10 / 0.17883277 + 1) := by norm_num
    _ ≤ Real.exp ((1 / 2 - 0.55991073) / 0.17883277) * Real.exp (6e-10 / 0.17883277) :=
        mul_le_mul hlg_start.1.le (Real.add_one_le_exp _) (by norm_num) (Real.exp_pos _).le
    _ = Real.exp ((1 / 2 + 6e-10 - 0.55991073) / 0.17883277) := by
        rw [← Real.exp_add]
        norm_num

theorem hlgBright_mono (h : u ≤ v) : hlgBright u ≤ hlgBright v := by
  have hexp : Real.exp ((u - 0.55991073) / 0.17883277) ≤ Real.exp ((v - 0.55991073) / 0.17883277) :=
    Real.exp_le_exp.2 (div_le_div_of_nonneg_right (by linarith) (by norm_num))
  rw [hlgBright, hlgBright]
  linarith

theorem hlgBright_nonneg (x : ℝ) : 0 ≤ hlgBright x := by
  rw [hlgBright]
  positivity

theorem hlgScene_nonneg (x : ℝ) : 0 ≤ hlgScene x := by
  rcases le_or_gt x (1 / 2) with h | h
  · rw [hlgScene, twoPiece_of_le h]
    exact div_nonneg (mul_self_nonneg x) (by norm_num)
  · rw [hlgScene, twoPiece_of_lt h]
    exact hlgBright_nonneg x

/-- Encoded values on both sides of one half that `hybridLogGamma` decodes in the wrong order: the
second is below the value whose bright light is the dark light of the first. -/
def HlgFold (u v : ℝ) : Prop :=
  1 / 2 - 6e-10 < u ∧ u ≤ 1 / 2 ∧ 1 / 2 < v ∧
    v < 0.17883277 * Real.log (4 * u ^ 2 - 0.28466892) + 0.55991073

/-- **Encoded values in the wrong order are next to one half.** -/
theorem HlgFold.near (h : HlgFold u v) : 1 / 2 - 6e-10 < u ∧ v < 1 / 2 + 6e-10 := by
  obtain ⟨hnear, hdark, -, hlt⟩ := h
  refine ⟨hnear, ?_⟩
  have hend : Real.log (4 * u ^ 2 - 0.28466892) < (1 / 2 + 6e-10 - 0.55991073) / 0.17883277 := by
    rw [Real.log_lt_iff_lt_exp (by nlinarith)]
    exact lt_of_le_of_lt (by nlinarith) hlg_catchUp
  rw [lt_div_iff₀ (by norm_num)] at hend
  linarith

/-- The bright light of a value is below the dark light of another exactly if the two are folded. -/
theorem hlgBright_lt_iff (hu : 0 ≤ u) (hdark : u ≤ 1 / 2) (hbright : 1 / 2 < v) :
    hlgBright v < u * u / 3 ↔ HlgFold u v := by
  have hexp : hlgBright v < u * u / 3 ↔
      Real.exp ((v - 0.55991073) / 0.17883277) < 4 * u ^ 2 - 0.28466892 := by
    rw [hlgBright]
    constructor <;> intro h <;> nlinarith
  have hlog (hpos : 0 < 4 * u ^ 2 - 0.28466892) :
      Real.exp ((v - 0.55991073) / 0.17883277) < 4 * u ^ 2 - 0.28466892 ↔
        v < 0.17883277 * Real.log (4 * u ^ 2 - 0.28466892) + 0.55991073 := by
    rw [← Real.lt_log_iff_exp_lt hpos, div_lt_iff₀ (by norm_num)]
    constructor <;> intro h <;> linarith
  constructor
  · intro h
    have hstart := hlgBright_mono hbright.le
    have hnear : 1 / 2 - 6e-10 < u := by
      by_contra hfar
      have hbelow : u * u ≤ (1 / 2 - 6e-10) * (1 / 2 - 6e-10) := by nlinarith
      rw [hlgBright] at hstart
      linarith [hlg_start.1]
    exact ⟨hnear, hdark, hbright, (hlog (by nlinarith)).1 (hexp.1 h)⟩
  · rintro ⟨hnear, -, -, hlt⟩
    exact hexp.2 ((hlog (by nlinarith)).2 hlt)

/-- Decoding keeps the order of exactly the values that are not folded. -/
theorem hlg_toLinear_le_iff (hu : 0 ≤ u) (huv : u ≤ v) (hv : v ≤ 1) :
    (hybridLogGamma : ToneCurve ℝ).toLinear u ≤ (hybridLogGamma : ToneCurve ℝ).toLinear v ↔
      ¬HlgFold u v := by
  rw [hlg_toLinear hu, hlg_toLinear (hu.trans huv),
    Real.rpow_le_rpow_iff (hlgScene_nonneg u) (hlgScene_nonneg v) (by norm_num), hlgScene, hlgScene,
    twoPiece_le_iff (a := 0) (b := 1) ?_ ?_ hu huv hv]
  · constructor
    · intro h hfold
      obtain ⟨-, hdark, hbright, -⟩ := id hfold
      exact h ⟨hdark, hbright, (hlgBright_lt_iff hu hdark hbright).2 hfold⟩
    · rintro h ⟨hdark, hbright, hlt⟩
      exact h ((hlgBright_lt_iff hu hdark hbright).1 hlt)
  · intro x hx y _ hxy
    exact div_le_div_of_nonneg_right (mul_self_le_mul_self hx.1 hxy) (by norm_num)
  · intro x _ y _ hxy
    exact hlgBright_mono hxy

/-- Encoding never falls. -/
theorem hlg_fromLinear_le (hu : 0 ≤ u) (huv : u ≤ v) (hv : v ≤ 1) :
    (hybridLogGamma : ToneCurve ℝ).fromLinear u ≤ (hybridLogGamma : ToneCurve ℝ).fromLinear v := by
  have hv0 : 0 ≤ v := hu.trans huv
  rw [hlg_fromLinear hu, hlg_fromLinear hv0]
  refine twoPiece_le (a := 0) (b := 1) ?_ ?_ ?_ (Real.rpow_nonneg hu _)
    (Real.rpow_le_rpow hu huv (by norm_num)) (Real.rpow_le_one hv0 hv (by norm_num))
  · intro x _ y _ hxy
    exact Real.sqrt_le_sqrt (by linarith)
  · intro x hx y _ hxy
    have hx0 : 1 / 12 < x := hx.1
    have hlog : Real.log (12 * x - 0.28466892) ≤ Real.log (12 * y - 0.28466892) :=
      Real.log_le_log (by linarith) (by linarith)
    linarith
  · intro x hx _
    -- the dark piece ends at one half
    have hroot : √(3 * (1 / 12)) = (1 / 2 : ℝ) := by
      rw [Real.sqrt_eq_iff_mul_self_eq (by norm_num) (by norm_num)]
      norm_num
    have hlog : (1 / 2 - 0.55991073) / 0.17883277 ≤ Real.log (12 * x - 0.28466892) := by
      rw [Real.le_log_iff_exp_le (by linarith)]
      linarith [hlg_start.2]
    rw [div_le_iff₀ (by norm_num)] at hlog
    rw [hroot]
    linarith

/-! ### The joins -/

/-- **The order of the four conversions across their joins.**  Decoding by `srgb` and encoding by
`hybridLogGamma` keep the order of all values from zero to one; encoding by `srgb` and decoding by
`hybridLogGamma` keep the order of exactly the values that are not folded, and what is folded is
within `3e-9` and `6e-10` of the threshold. -/
theorem joins_ordered_iff (hu : 0 ≤ u) (huv : u ≤ v) (hv : v ≤ 1) :
    (srgb : ToneCurve ℝ).toLinear u ≤ (srgb : ToneCurve ℝ).toLinear v ∧
      (hybridLogGamma : ToneCurve ℝ).fromLinear u ≤ (hybridLogGamma : ToneCurve ℝ).fromLinear v ∧
      ((srgb : ToneCurve ℝ).fromLinear u ≤ (srgb : ToneCurve ℝ).fromLinear v ↔ ¬SrgbFold u v) ∧
      ((hybridLogGamma : ToneCurve ℝ).toLinear u ≤ (hybridLogGamma : ToneCurve ℝ).toLinear v ↔
        ¬HlgFold u v) ∧
      (SrgbFold u v → 0.0031308 - 3e-9 < u ∧ v < 0.0031308 + 3e-9) ∧
      (HlgFold u v → 1 / 2 - 6e-10 < u ∧ v < 1 / 2 + 6e-10) :=
  ⟨srgb_toLinear_le hu huv hv, hlg_fromLinear_le hu huv hv, srgb_fromLinear_le_iff hu huv hv,
    hlg_toLinear_le_iff hu huv hv, SrgbFold.near hu, HlgFold.near⟩

/-- Two lights just outside of the fold of `srgb`, on both sides of the threshold. -/
theorem joins_ordered_outside :
    (0 : ℝ) ≤ 0.0031308 - 3e-9 ∧ (0.0031308 + 3e-9 : ℝ) ≤ 1 ∧
      (srgb : ToneCurve ℝ).fromLinear (0.0031308 - 3e-9) ≤
        (srgb : ToneCurve ℝ).fromLinear (0.0031308 + 3e-9) := by
  have hlow : (0 : ℝ) ≤ 0.0031308 - 3e-9 := by norm_num
  have hhigh : (0.0031308 + 3e-9 : ℝ) ≤ 1 := by norm_num
  obtain ⟨-, -, hiff, -, hnear, -⟩ := joins_ordered_iff hlow (by norm_num) hhigh
  refine ⟨hlow, hhigh, hiff.2 fun hfold => ?_⟩
  exact lt_irrefl _ (hnear hfold).1

/-- **Two conversions fall across their joins**: a light a little above the threshold of `srgb` is
encoded below the threshold itself, and `hybridLogGamma` decodes a value a little above one half to
less light than one half. -/
theorem joins_fall :
    (srgb : ToneCurve ℝ).fromLinear 0.0031308001 < (srgb : ToneCurve ℝ).fromLinear 0.0031308 ∧
      (hybridLogGamma : ToneCurve ℝ).toLinear 0.5000000001 <
        (hybridLogGamma : ToneCurve ℝ).toLinear 0.5 := by
  constructor
  · refine lt_of_not_ge fun h => ?_
    refine (srgb_fromLinear_le_iff (by norm_num) (by norm_num) (by norm_num)).1 h ?_
    refine ⟨le_rfl, by norm_num, ?_⟩
    rw [lt_rpow_iff (by norm_num) (by norm_num)]
    norm_num
  · refine lt_of_not_ge fun h => ?_
    refine (hlg_toLinear_le_iff (by norm_num) (by norm_num) (by norm_num)).1 h ?_
    have hstep : Real.exp (1e-10 / 0.17883277) * (1 - 1e-10 / 0.17883277) ≤ 1 := by
      have hsmall := Real.one_sub_le_exp_neg (1e-10 / 0.17883277)
      rw [Real.exp_neg] at hsmall
      exact (mul_le_mul_of_nonneg_left hsmall (Real.exp_pos _).le).trans_eq
        (mul_inv_cancel₀ (Real.exp_pos _).ne')
    have hbelow : Real.exp ((0.5000000001 - 0.55991073) / 0.17883277) <
        4 * 0.5 ^ 2 - 0.28466892 := by
      have hsum : (0.5000000001 - 0.55991073 : ℝ) / 0.17883277 =
          (1 / 2 - 0.55991073) / 0.17883277 + 1e-10 / 0.17883277 := by norm_num
      rw [hsum, Real.exp_add]
      nlinarith [hlg_start.2, Real.exp_pos (1e-10 / 0.17883277)]
    rw [← Real.lt_log_iff_exp_lt (by norm_num), div_lt_iff₀ (by norm_num)] at hbelow
    exact ⟨by norm_num, by norm_num, by norm_num, by linarith⟩

end ToneCurve

end FilmGrain
