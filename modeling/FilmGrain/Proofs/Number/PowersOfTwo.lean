/-
**Rounding does not see powers of two.**

A number with a full significand is rounded to the spacing of its own binade, so a factor that is a
power of two moves the number, the spacing and the result alike.  This ends where the spacing stops
to shrink, and where no number is left: the rounding commutes with the factor for numbers that
neither underflow nor overflow, with it and without it (`Format.Normal`).

Two computations that differ by such factors go on in step.  Each of their operations multiplies or
divides by numbers that are multiples of each other (`Binary.Scaled`), and as long as no exact
result leaves the normal numbers, the rounded results are multiples again.

Main definitions:

* `Format.Normal` — positive numbers that neither underflow nor overflow, and `Number.Moderate`,
  those that are far from both;
* `Binary.NormalConst`, `Binary.NormalProduct`, `Binary.NormalQuotient` — operations whose exact
  result is one;
* `Binary.Scaled` — a positive number and its multiple by a power of two.

Main results:

* `Format.rounded_mul_zpow` — **rounding commutes with powers of two**;
* `Binary.scaled_const`, `Binary.Scaled.mul_left`, `Binary.Scaled.div_left` — the operations in
  step;
* `Binary.Scaled.mul_eq` — opposite factors cancel.
-/

import FilmGrain.Proofs.Number.Rounding

set_option autoImplicit false

namespace FilmGrain

namespace Number

variable {x y : Rat} {k : Int}

theorem binaryOrder_mul_zpow (hx : 0 < x) (k : Int) :
    binaryOrder (x * (2 : Rat) ^ k) = binaryOrder x + k := by
  obtain ⟨hlow, hhigh⟩ := binaryOrder_spec hx
  have hpow : (0 : Rat) < (2 : Rat) ^ k := by positivity
  refine binaryOrder_eq ?_ ?_
  · rw [zpow_add₀ two_ne_zero]
    gcongr
  · rw [add_right_comm, zpow_add₀ two_ne_zero (binaryOrder x + 1)]
    gcongr

/-! ### Formats -/

namespace Format

variable {f : Format}

/-- A positive number that neither underflows nor overflows: it has a full significand, and is
rounded to a finite number. -/
structure Normal (f : Format) (x : Rat) : Prop where
  full : (2 : Rat) ^ (f.minExponent + f.fractionBits) ≤ x
  finite : f.InRange x

theorem pos_of_full (h : (2 : Rat) ^ (f.minExponent + f.fractionBits) ≤ x) : 0 < x :=
  lt_of_lt_of_le (by positivity) h

theorem Normal.pos (h : f.Normal x) : 0 < x := pos_of_full h.full

/-- The spacing of a number with a full significand is that of its own binade. -/
theorem exponent_of_full (h : (2 : Rat) ^ (f.minExponent + f.fractionBits) ≤ x) :
    f.minExponent + f.binadesBelow x = binaryOrder x - f.fractionBits := by
  have hx := pos_of_full h
  have horder : f.minExponent + f.fractionBits < binaryOrder x + 1 :=
    (zpow_lt_zpow_iff_right₀ one_lt_two).1 (h.trans_lt (binaryOrder_spec hx).2)
  rw [binadesBelow]
  omega

theorem rounded_of_full (h : (2 : Rat) ^ (f.minExponent + f.fractionBits) ≤ x) :
    f.rounded x = (nearest (x / (2 : Rat) ^ (binaryOrder x - f.fractionBits)) : Rat) *
      (2 : Rat) ^ (binaryOrder x - f.fractionBits) := by
  have hx := pos_of_full h
  obtain ⟨s, hs, hval, hpos⟩ := f.position_eq hx
  rw [exponent_of_full h] at hval
  rw [f.rounded_of_nonneg hx.le, hpos, f.magnitude_eq hs, exponent_of_full h, ← hval]
  rfl

/-- **Rounding commutes with powers of two**, as long as there is no underflow. -/
theorem rounded_mul_zpow (hx : (2 : Rat) ^ (f.minExponent + f.fractionBits) ≤ x)
    (hk : (2 : Rat) ^ (f.minExponent + f.fractionBits) ≤ x * (2 : Rat) ^ k) :
    f.rounded (x * (2 : Rat) ^ k) = f.rounded x * (2 : Rat) ^ k := by
  have hpos := pos_of_full hx
  have hspacing : (2 : Rat) ^ (binaryOrder x + k - f.fractionBits) =
      (2 : Rat) ^ (binaryOrder x - f.fractionBits) * (2 : Rat) ^ k := by
    rw [← zpow_add₀ two_ne_zero]
    congr 1
    ring
  rw [rounded_of_full hk, rounded_of_full hx, binaryOrder_mul_zpow hpos, hspacing,
    mul_div_mul_right _ _ (by positivity), mul_assoc]

theorem Normal.rounded_pos (h : f.Normal x) : 0 < f.rounded x := by
  have hone : (1 : Int) ≤ nearest (x / (2 : Rat) ^ (binaryOrder x - f.fractionBits)) := by
    refine le_nearest ?_
    have hle : (2 : Rat) ^ (binaryOrder x - f.fractionBits) ≤ x :=
      (zpow_le_zpow_right₀ one_le_two (by omega)).trans (binaryOrder_spec h.pos).1
    rw [Int.cast_one, one_le_div (by positivity)]
    exact hle
  have hcast : (0 : Rat) < nearest (x / (2 : Rat) ^ (binaryOrder x - f.fractionBits)) := by
    exact_mod_cast hone
  rw [rounded_of_full h.full]
  positivity

end Format

/-! ### Numbers far from both ends -/

/-- A number that is a power of two away from one at most. -/
def Moderate (n : Nat) (x : Rat) : Prop := 1 / 2 ^ n ≤ x ∧ x ≤ 2 ^ n

instance (n : Nat) (x : Rat) : Decidable (Moderate n x) := inferInstanceAs (Decidable (_ ∧ _))

theorem Moderate.pos {n : Nat} (h : Moderate n x) : 0 < x := lt_of_lt_of_le (by positivity) h.1

theorem Moderate.mul {m n : Nat} (hx : Moderate m x) (hy : Moderate n y) :
    Moderate (m + n) (x * y) := by
  have hxpos := hx.pos
  have hypos := hy.pos
  obtain ⟨hxlow, hxhigh⟩ := hx
  obtain ⟨hylow, hyhigh⟩ := hy
  rw [Moderate, pow_add, ← one_div_mul_one_div]
  constructor <;> gcongr

theorem Moderate.inv {n : Nat} (hx : Moderate n x) : Moderate n x⁻¹ := by
  have hpos := hx.pos
  obtain ⟨hlow, hhigh⟩ := hx
  constructor
  · rw [one_div]
    gcongr
  · rw [inv_le_comm₀ hpos (by positivity), ← one_div]
    exact hlow

theorem Moderate.div {m n : Nat} (hx : Moderate m x) (hy : Moderate n y) :
    Moderate (m + n) (x / y) := hx.mul hy.inv

/-- Both formats hold such numbers, and roundings to them. -/
theorem Moderate.normal_rounded {f : Format} {n : Nat} (h : Moderate n x) (hn : n ≤ 80)
    (hf : f = .single ∨ f = .double) : f.Normal x ∧ Moderate n (f.rounded x) := by
  obtain ⟨hlow, hhigh⟩ := h
  have hfull : (2 : Rat) ^ (f.minExponent + f.fractionBits) ≤ 1 / 2 ^ 80 := by
    rcases hf with rfl | rfl <;> decide +kernel
  have hends : ∀ n ∈ List.range 81, f.Represents (1 / 2 ^ n) ∧ f.Represents (2 ^ n) := by
    rcases hf with rfl | rfl <;> decide +kernel
  obtain ⟨hleast, hgreatest⟩ := hends n (List.mem_range.2 (Nat.lt_succ_of_le hn))
  have hle : (1 : Rat) / 2 ^ 80 ≤ 1 / 2 ^ n := by gcongr; exact one_le_two
  exact ⟨⟨hfull.trans (hle.trans hlow), Format.inRange_of_between hleast hgreatest hlow hhigh⟩,
    Format.rounded_between hleast hgreatest hlow hhigh⟩

/-! ### Operations in step -/

namespace Binary

variable {f : Format} {a b c d : Binary f} {u v w : Rat}

/-- A written constant that is normal both where it is read and where it is used. -/
structure NormalConst (f : Format) (u : Rat) : Prop where
  read : Format.double.Normal u
  used : f.Normal (Format.double.rounded u)

/-- A product of finite numbers whose exact value is normal. -/
def NormalProduct (a b : Binary f) : Prop :=
  ∃ v w, a.toRat = some v ∧ b.toRat = some w ∧ f.Normal (v * w)

/-- A quotient of finite numbers whose exact value is normal. -/
def NormalQuotient (a b : Binary f) : Prop :=
  ∃ v w, a.toRat = some v ∧ b.toRat = some w ∧ f.Normal (v / w)

/-- A positive number, and its multiple by a power of two. -/
def Scaled (k : Int) (a b : Binary f) : Prop :=
  ∃ v, 0 < v ∧ a.toRat = some v ∧ b.toRat = some (v * (2 : Rat) ^ k)

/-- Two exact results that are normal multiples of each other are rounded to multiples. -/
theorem scaled_of_rounded (ha : a.toRat = some (f.rounded u))
    (hb : b.toRat = some (f.rounded (u * (2 : Rat) ^ k))) (hu : f.Normal u)
    (hk : f.Normal (u * (2 : Rat) ^ k)) : Scaled k a b :=
  ⟨f.rounded u, hu.rounded_pos, ha, by rw [hb, Format.rounded_mul_zpow hu.full hk.full]⟩

theorem NormalConst.toRat (h : NormalConst f u) :
    (const u : Binary f).toRat = some (f.rounded (Format.double.rounded u)) :=
  toRat_convert (toRat_ofRat h.read.finite) h.used.finite

/-- **Constants that are multiples.** -/
theorem scaled_const (hu : NormalConst f u) (hk : NormalConst f (u * (2 : Rat) ^ k)) :
    Scaled k (const u : Binary f) (const (u * (2 : Rat) ^ k)) := by
  have hread := Format.rounded_mul_zpow hu.read.full hk.read.full
  have hval := hk.toRat
  have hused := hk.used
  rw [hread] at hval hused
  exact scaled_of_rounded hu.toRat hval hu.used hused

/-- **A number times multiples.** -/
theorem Scaled.mul_left (h : Scaled k a b) (ha : NormalProduct c a) (hb : NormalProduct c b) :
    Scaled k (c.mul a) (c.mul b) := by
  obtain ⟨v, -, hav, hbv⟩ := h
  obtain ⟨w, v', hcw, hav', hnormal⟩ := ha
  obtain ⟨w', u, hcw', hbu, hnormal'⟩ := hb
  obtain rfl := Option.some.inj (hav.symm.trans hav')
  obtain rfl := Option.some.inj (hcw.symm.trans hcw')
  obtain rfl := Option.some.inj (hbv.symm.trans hbu)
  have hval := toRat_mul hcw hbv hnormal'.finite
  rw [← mul_assoc] at hval hnormal'
  exact scaled_of_rounded (toRat_mul hcw hav hnormal.finite) hval hnormal hnormal'

/-- **A number divided by multiples.** -/
theorem Scaled.div_left (h : Scaled k a b) (ha : NormalQuotient c a) (hb : NormalQuotient c b) :
    Scaled (-k) (c.div a) (c.div b) := by
  obtain ⟨v, hv, hav, hbv⟩ := h
  obtain ⟨w, v', hcw, hav', hnormal⟩ := ha
  obtain ⟨w', u, hcw', hbu, hnormal'⟩ := hb
  obtain rfl := Option.some.inj (hav.symm.trans hav')
  obtain rfl := Option.some.inj (hcw.symm.trans hcw')
  obtain rfl := Option.some.inj (hbv.symm.trans hbu)
  have hk : v * (2 : Rat) ^ k ≠ 0 := by positivity
  have hval := toRat_div hcw hbv hk hnormal'.finite
  have hquotient : w / (v * (2 : Rat) ^ k) = w / v * (2 : Rat) ^ (-k) := by
    rw [zpow_neg, div_mul_eq_div_div, div_eq_mul_inv (w / v)]
  rw [hquotient] at hval hnormal'
  exact scaled_of_rounded (toRat_div hcw hav hv.ne' hnormal.finite) hval hnormal hnormal'

theorem mul_of_pos (ha : a.toRat = some v) (hb : b.toRat = some w) (hv : 0 < v) (hw : 0 < w) :
    a.mul b = round false (v * w) := by
  obtain ⟨p, rfl, rfl⟩ := exists_of_pos ha hv
  obtain ⟨q, rfl, rfl⟩ := exists_of_pos hb hw
  rfl

/-- **Opposite factors cancel in a product**, which may underflow or overflow. -/
theorem Scaled.mul_eq (h : Scaled k a b) (h' : Scaled (-k) c d) : b.mul d = a.mul c := by
  obtain ⟨v, hv, hav, hbv⟩ := h
  obtain ⟨w, hw, hcw, hdw⟩ := h'
  have hcancel : v * (2 : Rat) ^ k * (w * (2 : Rat) ^ (-k)) = v * w := by
    rw [mul_mul_mul_comm, ← zpow_add₀ two_ne_zero, add_neg_cancel, zpow_zero, mul_one]
  rw [mul_of_pos hbv hdw (by positivity) (by positivity), mul_of_pos hav hcw hv hw, hcancel]

end Binary

end Number

end FilmGrain
