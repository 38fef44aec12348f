/-
**No conversion leaves the domain of its operations.**

A quotient by zero, a power of a negative base, the root of a negative number and the logarithm of
one that is not positive have values in the exact reading, but none that a run of the program would
find: there such an operation is undefined or infinite.  What operations a formula comes to cannot
be seen from its value.  So it is read once more, in an arithmetic whose values remember the
operations that they come from; a piece of a curve that is not selected leaves nothing in them.

Read so, each of the ten conversions performs a few operations that can be listed, those of the
selected piece only, and each is inside its domain for every value up to one; a negative value is
read as zero.  Two of the operations are close to the edge.  The divisor of the perceptual quantizer
is positive up to one and changes its sign below two, and the logarithm of the hybrid curve is that
of more than `1 - hlgB`, since the threshold before it is `1 / 12`.

Main definitions:

* `FilmGrain.Exact.Operation` — the operations with a domain, `Operation.InDomain`;
* `FilmGrain.Exact.Traced` — values that remember their operations, which are an arithmetic;
* `TransferFunction.decodeSteps`, `TransferFunction.encodeSteps` — what a conversion performs;
* `FilmGrain.Exact.Defined` — conversions that stay inside the domains at a value.

Main results:

* `TransferFunction.value_toLinear`, `TransferFunction.value_fromLinear` — the operations are those
  of the exact reading;
* `TransferFunction.steps_toLinear`, `TransferFunction.steps_fromLinear` — **the operations of a
  conversion are those of the selected piece**;
* `TransferFunction.inDomain_decodeSteps`, `TransferFunction.inDomain_encodeSteps` — **they are
  inside their domains**;
* `TransferFunction.conversions_defined` — **all conversions, for every value up to one**.
-/

import Mathlib
import FilmGrain.Proofs.Exact.Inverse
import FilmGrain.Proofs.Exact.RoundTrip
import FilmGrain.Tone.TransferFunction

set_option autoImplicit false

namespace FilmGrain

open Arith

namespace Exact

/-! ### Operations with a domain -/

/-- An operation that is not defined for all numbers, with what its domain depends on. -/
inductive Operation where
  /-- A quotient by a divisor. -/
  | quotient (divisor : ℝ)
  /-- A base raised to an exponent. -/
  | power (base exponent : ℝ)
  /-- A square root. -/
  | root (argument : ℝ)
  /-- A natural logarithm. -/
  | logarithm (argument : ℝ)

/-- Whether an operation is inside its domain.  A power is asked for a positive exponent, so that it
is defined for the base zero also. -/
def Operation.InDomain : Operation → Prop
  | quotient divisor => divisor ≠ 0
  | power base exponent => 0 ≤ base ∧ 0 < exponent
  | root argument => 0 ≤ argument
  | logarithm argument => 0 < argument

/-! ### The traced reading -/

/-- A number with the operations that it comes from. -/
structure Traced where
  /-- The number. -/
  value : ℝ
  /-- The operations. -/
  steps : Set Operation

namespace Traced

/-- A number that is given. -/
def given (x : ℝ) : Traced := ⟨x, ∅⟩

/-- **The traced numbers are an arithmetic.**  Values and comparisons are exact. -/
noncomputable instance : Arith Traced where
  add x y := ⟨x.value + y.value, x.steps ∪ y.steps⟩
  sub x y := ⟨x.value - y.value, x.steps ∪ y.steps⟩
  mul x y := ⟨x.value * y.value, x.steps ∪ y.steps⟩
  div x y := ⟨x.value / y.value, insert (.quotient y.value) (x.steps ∪ y.steps)⟩
  max x y := ⟨max x.value y.value, x.steps ∪ y.steps⟩
  min x y := ⟨min x.value y.value, x.steps ∪ y.steps⟩
  const q := ⟨const q, ∅⟩
  sqrt x := ⟨sqrt x.value, insert (.root x.value) x.steps⟩
  pow x y := ⟨pow x.value y.value, insert (.power x.value y.value) (x.steps ∪ y.steps)⟩
  exp x := ⟨exp x.value, x.steps⟩
  log x := ⟨log x.value, insert (.logarithm x.value) x.steps⟩
  le x y := le x.value y.value
  lt x y := lt x.value y.value

variable {x y : Traced}

@[simp] theorem value_given (v : ℝ) : (given v).value = v := rfl

@[simp] theorem steps_given (v : ℝ) : (given v).steps = ∅ := rfl

@[simp] theorem value_add : (x + y).value = x.value + y.value := rfl

@[simp] theorem steps_add : (x + y).steps = x.steps ∪ y.steps := rfl

@[simp] theorem value_sub : (x - y).value = x.value - y.value := rfl

@[simp] theorem steps_sub : (x - y).steps = x.steps ∪ y.steps := rfl

@[simp] theorem value_mul : (x * y).value = x.value * y.value := rfl

@[simp] theorem steps_mul : (x * y).steps = x.steps ∪ y.steps := rfl

@[simp] theorem value_div : (x / y).value = x.value / y.value := rfl

@[simp] theorem steps_div : (x / y).steps = insert (.quotient y.value) (x.steps ∪ y.steps) := rfl

@[simp] theorem value_const (q : Rat) : (const q : Traced).value = q := rfl

@[simp] theorem steps_const (q : Rat) : (const q : Traced).steps = ∅ := rfl

theorem value_clamp : (clamp x).value = max x.value 0 := clamp_eq x.value

@[simp] theorem steps_clamp : (clamp x).steps = x.steps := Set.union_empty x.steps

theorem clamp_given (v : ℝ) : clamp (given v) = given (max v 0) :=
  congr (congrArg Traced.mk value_clamp) steps_clamp

@[simp] theorem clamp_given_of_nonneg {v : ℝ} (h : 0 ≤ v) : clamp (given v) = given v := by
  rw [clamp_given, max_eq_left h]

@[simp] theorem steps_sqrt : (sqrt x).steps = insert (.root x.value) x.steps := rfl

@[simp] theorem value_pow : (pow x y).value = x.value ^ y.value := rfl

@[simp] theorem steps_pow :
    (pow x y).steps = insert (.power x.value y.value) (x.steps ∪ y.steps) := rfl

@[simp] theorem value_exp : (exp x).value = Real.exp x.value := rfl

@[simp] theorem steps_exp : (exp x).steps = x.steps := rfl

@[simp] theorem steps_log : (log x).steps = insert (.logarithm x.value) x.steps := rfl

@[simp] theorem le_iff : le x y ↔ x.value ≤ y.value := decide_eq_true_iff

end Traced

/-! ### Conversions inside the domains -/

/-- A conversion, in its traced and in its exact reading, is defined at a value: the operations are
those that are listed for the value, or for zero if it is negative, each of them is inside its
domain, and the result is not negative and that of the exact reading. -/
structure Defined (traced : Traced → Traced) (exact : ℝ → ℝ) (listed : ℝ → Set Operation)
    (v : ℝ) : Prop where
  steps : (traced (.given v)).steps = listed (max v 0)
  inDomain : ∀ operation ∈ (traced (.given v)).steps, operation.InDomain
  value : (traced (.given v)).value = exact v
  nonneg : 0 ≤ exact v
  clamped : exact v = exact (max v 0)

end Exact

namespace TransferFunction

open ToneCurve Exact Exact.Operation

variable {e l v : ℝ}

/-! ### The operations of a conversion -/

/-- What the decoding of a value that is not negative performs, the last operation first. -/
noncomputable def decodeSteps : TransferFunction → ℝ → Set Operation
  | bt470m, e => {power e 2.2}
  | bt470bg, e => {power e 2.8}
  | srgb, e =>
      if e ≤ 0.04045 then {quotient 12.92}
      else {power ((e + 0.055) / 1.055) 2.4, quotient 1.055}
  | smpte2084, e =>
      let p := e ^ (1 / pqM2 : ℝ)
      {power (max (p - pqC1) 0 / (pqC2 - pqC3 * p)) (1 / pqM1), quotient pqM1,
        quotient (pqC2 - pqC3 * p), power e (1 / pqM2), quotient pqM2}
  | hlg, e =>
      if e ≤ 0.5 then {power (e * e / (3 : Rat)) 1.2, quotient (3 : Rat)}
      else {power ((Real.exp ((e - hlgC) / hlgA) + hlgB) / (12 : Rat)) 1.2, quotient (12 : Rat),
        quotient hlgA}

/-- What the encoding of light that is not negative performs, the last operation first. -/
noncomputable def encodeSteps : TransferFunction → ℝ → Set Operation
  | bt470m, l => {power l (1 / 2.2), quotient 2.2}
  | bt470bg, l => {power l (1 / 2.8), quotient 2.8}
  | srgb, l => if l ≤ 0.0031308 then ∅ else {power l (1 / 2.4), quotient 2.4}
  | smpte2084, l =>
      let q := l ^ (pqM1 : ℝ)
      {power ((pqC1 + pqC2 * q) / (1 + pqC3 * q)) pqM2, quotient (1 + pqC3 * q), power l pqM1}
  | hlg, l =>
      let scene := l ^ (1 / 1.2 : ℝ)
      if scene ≤ (1 / 12 : Rat) then {root ((3 : Rat) * scene), power l (1 / 1.2), quotient 1.2}
      else {logarithm ((12 : Rat) * scene - hlgB), power l (1 / 1.2), quotient 1.2}

/-- The traced decoding has the value of the exact one ... -/
theorem value_toLinear (t : TransferFunction) (x : Traced) :
    ((t.curve : ToneCurve Traced).toLinear x).value =
      (t.curve : ToneCurve ℝ).toLinear x.value := by
  cases t with
  | bt470m | bt470bg | smpte2084 => rfl
  | srgb => exact apply_ite Traced.value _ _ _
  | hlg => exact congrArg (pow · _) (apply_ite Traced.value _ _ _)

/-- ... and so has the encoding. -/
theorem value_fromLinear (t : TransferFunction) (x : Traced) :
    ((t.curve : ToneCurve Traced).fromLinear x).value =
      (t.curve : ToneCurve ℝ).fromLinear x.value := by
  cases t with
  | bt470m | bt470bg | smpte2084 => rfl
  | srgb | hlg => exact apply_ite Traced.value _ _ _

/-- A conversion depends on what is left of its value above zero only, in any reading. -/
theorem conversions_congr {α : Type} [Arith α] (t : TransferFunction) {x y : α}
    (h : clamp x = clamp y) :
    (t.curve : ToneCurve α).toLinear x = (t.curve : ToneCurve α).toLinear y ∧
      (t.curve : ToneCurve α).fromLinear x = (t.curve : ToneCurve α).fromLinear y := by
  cases t <;>
    simp only [curve, powerLaw, ToneCurve.srgb, perceptualQuantizer, hybridLogGamma, h, and_self]

/-- **The decoding performs the operations of the selected piece.** -/
theorem steps_toLinear (t : TransferFunction) (he : 0 ≤ e) :
    ((t.curve : ToneCurve Traced).toLinear (.given e)).steps = t.decodeSteps e := by
  cases t with
  | bt470m | bt470bg => simp [curve, powerLaw, decodeSteps, he]
  | srgb =>
      rcases le_or_gt e 0.04045 with h | h
      · simp [curve, ToneCurve.srgb, decodeSteps, srgbEncodedThreshold, he, h]
      · simp [curve, ToneCurve.srgb, decodeSteps, srgbEncodedThreshold, he, h.not_ge]
  | smpte2084 => simp [curve, perceptualQuantizer, decodeSteps, he, Traced.value_clamp]
  | hlg =>
      rcases le_or_gt e 0.5 with h | h
      · simp [curve, hybridLogGamma, decodeSteps, hlgSystemGamma, he, h]
      · simp [curve, hybridLogGamma, decodeSteps, hlgSystemGamma, he, h.not_ge]

/-- **The encoding performs the operations of the selected piece.** -/
theorem steps_fromLinear (t : TransferFunction) (hl : 0 ≤ l) :
    ((t.curve : ToneCurve Traced).fromLinear (.given l)).steps = t.encodeSteps l := by
  cases t with
  | bt470m | bt470bg => simp [curve, powerLaw, encodeSteps, hl]
  | srgb =>
      rcases le_or_gt l 0.0031308 with h | h
      · simp [curve, ToneCurve.srgb, encodeSteps, srgbLinearThreshold, hl, h]
      · simp [curve, ToneCurve.srgb, encodeSteps, srgbLinearThreshold, hl, h.not_ge]
  | smpte2084 => simp [curve, perceptualQuantizer, encodeSteps, hl]
  | hlg =>
      rcases le_or_gt (l ^ (1 / 1.2 : ℝ)) (1 / 12) with h | h
      · simp [curve, hybridLogGamma, encodeSteps, hlgSystemGamma, hl, h, -one_div]
      · simp [curve, hybridLogGamma, encodeSteps, hlgSystemGamma, hl, h.not_ge, -one_div]

/-! ### Inside the domains -/

/-- **Decoding a value up to one stays inside the domains.** -/
theorem inDomain_decodeSteps (t : TransferFunction) (he : 0 ≤ e) (hone : e ≤ 1) :
    ∀ operation ∈ t.decodeSteps e, operation.InDomain := by
  cases t with
  | bt470m | bt470bg =>
      simp only [decodeSteps, Set.mem_singleton_iff, forall_eq, InDomain]
      exact ⟨he, by norm_num⟩
  | srgb =>
      simp only [decodeSteps]
      split
      · simp only [Set.mem_singleton_iff, forall_eq, InDomain]
        norm_num
      · simp only [Set.forall_mem_insert, Set.mem_singleton_iff, forall_eq, InDomain]
        exact ⟨⟨by positivity, by norm_num⟩, by norm_num⟩
  | smpte2084 =>
      have hroot : (0 : ℝ) < 1 / pqM2 := one_div_pos.2 pqM2_pos
      -- a power of a value up to one is at most one
      have hdivisor : 0 < (pqC2 : ℝ) - pqC3 * e ^ (1 / pqM2 : ℝ) := by
        have := pq_denominator_pos (Real.rpow_le_one he hone hroot.le)
        norm_num [pqC2, pqC3] at this ⊢
        exact this
      simp only [decodeSteps, Set.forall_mem_insert, Set.mem_singleton_iff, forall_eq, InDomain]
      exact ⟨⟨div_nonneg (le_max_right _ _) hdivisor.le, one_div_pos.2 pqM1_pos⟩, pqM1_pos.ne',
        hdivisor.ne', ⟨he, hroot⟩, pqM2_pos.ne'⟩
  | hlg =>
      simp only [decodeSteps]
      split
      · simp only [Set.forall_mem_insert, Set.mem_singleton_iff, forall_eq, InDomain]
        exact ⟨⟨by positivity, by norm_num⟩, by norm_num⟩
      · have hoffset : (0 : ℝ) < hlgB := by norm_num [hlgB]
        simp only [Set.forall_mem_insert, Set.mem_singleton_iff, forall_eq, InDomain]
        exact ⟨⟨by positivity, by norm_num⟩, by norm_num, by norm_num [hlgA]⟩

/-- **Encoding light stays inside the domains**, also above one. -/
theorem inDomain_encodeSteps (t : TransferFunction) (hl : 0 ≤ l) :
    ∀ operation ∈ t.encodeSteps l, operation.InDomain := by
  cases t with
  | bt470m | bt470bg =>
      simp only [encodeSteps, Set.forall_mem_insert, Set.mem_singleton_iff, forall_eq, InDomain]
      exact ⟨⟨hl, by norm_num⟩, by norm_num⟩
  | srgb =>
      simp only [encodeSteps]
      split
      · exact fun _ => False.elim
      · simp only [Set.forall_mem_insert, Set.mem_singleton_iff, forall_eq, InDomain]
        exact ⟨⟨hl, by norm_num⟩, by norm_num⟩
  | smpte2084 =>
      have hpower : 0 ≤ l ^ (pqM1 : ℝ) := Real.rpow_nonneg hl _
      have hterms : (0 : ℝ) < pqC1 ∧ (0 : ℝ) < pqC2 ∧ (0 : ℝ) < pqC3 := by
        norm_num [pqC1, pqC2, pqC3]
      obtain ⟨hstart, hfactor, hdivisorFactor⟩ := hterms
      have hdivisor : 0 < 1 + (pqC3 : ℝ) * l ^ (pqM1 : ℝ) := by positivity
      simp only [encodeSteps, Set.forall_mem_insert, Set.mem_singleton_iff, forall_eq, InDomain]
      exact ⟨⟨by positivity, pqM2_pos⟩, hdivisor.ne', hl, pqM1_pos⟩
  | hlg =>
      have hpower : 0 ≤ l ∧ (0 : ℝ) < 1 / 1.2 := ⟨hl, by norm_num⟩
      have hquotient : (1.2 : ℝ) ≠ 0 := by norm_num
      simp only [encodeSteps]
      split
      · have hscene : 0 ≤ l ^ (1 / 1.2 : ℝ) := Real.rpow_nonneg hl _
        simp only [Set.forall_mem_insert, Set.mem_singleton_iff, forall_eq, InDomain]
        exact ⟨by positivity, hpower, hquotient⟩
      · rename_i hbright
        -- twelve times the threshold is one, and the offset is less
        have hargument : 0 < 12 * l ^ (1 / 1.2 : ℝ) - (hlgB : ℝ) := by
          have hoffset : (hlgB : ℝ) < 1 := by norm_num [hlgB]
          linarith
        simp only [Set.forall_mem_insert, Set.mem_singleton_iff, forall_eq, InDomain]
        exact ⟨hargument, hpower, hquotient⟩

/-! ### The results -/

/-- Decoding gives no negative light. -/
theorem toLinear_nonneg (t : TransferFunction) (he : 0 ≤ e) (hone : e ≤ 1) :
    0 ≤ (t.curve : ToneCurve ℝ).toLinear e := by
  cases t with
  | bt470m | bt470bg =>
      rw [curve, powerLaw_toLinear he]
      exact Real.rpow_nonneg he _
  | srgb => exact srgb_toLinear_nonneg he
  | smpte2084 =>
      have hpower : e ^ (pqM2 : ℝ)⁻¹ ≤ 1 := Real.rpow_le_one he hone (inv_pos.2 pqM2_pos).le
      rw [curve, pq_toLinear he]
      exact Real.rpow_nonneg (pq_quotient_mem hpower).1 _
  | hlg =>
      rw [curve, hlg_toLinear he]
      exact Real.rpow_nonneg (hlgScene_nonneg e) _

/-- Encoding gives no negative value. -/
theorem fromLinear_nonneg (t : TransferFunction) (hl : 0 ≤ l) :
    0 ≤ (t.curve : ToneCurve ℝ).fromLinear l := by
  cases t with
  | bt470m | bt470bg =>
      rw [curve, powerLaw_fromLinear hl]
      exact Real.rpow_nonneg hl _
  | srgb => exact srgb_fromLinear_nonneg hl
  | smpte2084 =>
      rw [curve, pq_fromLinear hl]
      exact Real.rpow_nonneg (pqRatio_nonneg (Real.rpow_nonneg hl _)) _
  | hlg =>
      rw [curve, hlg_fromLinear_eq hl]
      exact hlgEncoded_nonneg _

/-- **Every conversion is defined at every value up to one.**  The threshold of the hybrid encoding
is formed to be compared only; its quotient is inside its domain too. -/
theorem conversions_defined (t : TransferFunction) (hv : v ≤ 1) :
    Defined (t.curve : ToneCurve Traced).toLinear (t.curve : ToneCurve ℝ).toLinear t.decodeSteps v ∧
      Defined (t.curve : ToneCurve Traced).fromLinear (t.curve : ToneCurve ℝ).fromLinear
        t.encodeSteps v ∧
      ∀ operation ∈ (const 1 / const 12 : Traced).steps, operation.InDomain := by
  have hzero : 0 ≤ max v 0 := le_max_right v 0
  have hone : max v 0 ≤ 1 := max_le hv zero_le_one
  have hsame : clamp (Traced.given v) = clamp (Traced.given (max v 0)) := by
    rw [Traced.clamp_given, Traced.clamp_given_of_nonneg hzero]
  have hexact : clamp v = clamp (max v 0) := by rw [clamp_eq, clamp_of_nonneg hzero]
  obtain ⟨hdecode, hencode⟩ := t.conversions_congr hsame
  obtain ⟨hdecoded, hencoded⟩ := t.conversions_congr hexact
  have hdecodeSteps := congrArg Traced.steps hdecode
  have hencodeSteps := congrArg Traced.steps hencode
  rw [steps_toLinear t hzero] at hdecodeSteps
  rw [steps_fromLinear t hzero] at hencodeSteps
  refine ⟨⟨hdecodeSteps, ?_, value_toLinear t _, ?_, hdecoded⟩,
    ⟨hencodeSteps, ?_, value_fromLinear t _, ?_, hencoded⟩, ?_⟩
  · rw [hdecodeSteps]
    exact inDomain_decodeSteps t hzero hone
  · rw [hdecoded]
    exact toLinear_nonneg t hzero hone
  · rw [hencodeSteps]
    exact inDomain_encodeSteps t hzero
  · rw [hencoded]
    exact fromLinear_nonneg t hzero
  · simp [InDomain]

/-- At one the divisor of the perceptual quantizer is nearest to zero, and still positive; a
negative value is read as zero, which the hybrid curve encodes by its root. -/
theorem conversions_defined_edges :
    ((1 : ℝ) ≤ 1 ∧
      Defined (smpte2084.curve : ToneCurve Traced).toLinear
        (smpte2084.curve : ToneCurve ℝ).toLinear smpte2084.decodeSteps 1 ∧
      quotient 0.1640625 ∈ smpte2084.decodeSteps 1) ∧
    (-1 : ℝ) ≤ 1 ∧
      Defined (hlg.curve : ToneCurve Traced).fromLinear
        (hlg.curve : ToneCurve ℝ).fromLinear hlg.encodeSteps (-1) ∧
      root 0 ∈ hlg.encodeSteps (max (-1) 0) := by
  have hnegative : (-1 : ℝ) ≤ 1 := by norm_num
  refine ⟨⟨le_rfl, (conversions_defined smpte2084 le_rfl).1, ?_⟩, hnegative,
    (conversions_defined hlg hnegative).2.1, ?_⟩
  · norm_num [decodeSteps, pqC2, pqC3]
  · norm_num [encodeSteps]

end TransferFunction

end FilmGrain
