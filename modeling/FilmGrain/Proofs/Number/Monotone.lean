/-
**Operations that keep the order of the numbers of a format.**

A product with a positive number, the rounding to an integer, a cut from below or above, and the
integer part all keep the order of the numbers they are applied to.  The order is that of places, in
which an infinity comes after the last finite number.  So nothing has to be assumed about overflow:
a product beyond the finite numbers takes the place of an infinity, which no other product passes.

Main definitions:

* `Format.place` — the place of the number that a rational number is rounded to.

Main results:

* `Format.place_mono` — **rounding keeps the order, overflow included**;
* `Binary.rank_ofRat`, `Binary.rank_convert`, `Binary.rank_add`, `Binary.rank_mul`,
  `Binary.rank_div` — the places of rounded results;
* `Binary.add_infinite`, `Binary.infinite_mul_eq`, `Binary.mul_infinite_eq`,
  `Binary.infinite_div_eq` — infinities and finite numbers;
* `Binary.mul_le_mul_left`, `Binary.roundHalfAway_le`, `Binary.larger_le`, `Binary.smaller_le`,
  `Binary.toInt?_le` — **the operations keep the order**.
-/

import FilmGrain.Proofs.Number.Integral

set_option autoImplicit false

namespace FilmGrain

namespace Number

/-- The rounding of rational numbers to integers keeps their order. -/
theorem halfAway_mono : Monotone halfAway :=
  monotone_of_odd_of_monotoneOn_nonneg halfAway_neg fun _ hx _ _ h => halfAway_le hx h

/-! ### The place of a rounded number -/

namespace Format

variable (f : Format)

/-- The place of the number nearest to `x`; beyond the finite numbers, that of an infinity. -/
def place (x : Rat) : Int :=
  let steps : Int := min (f.position |x|) f.count
  if x < 0 then -steps else steps

theorem place_of_nonneg {x : Rat} (h : 0 ≤ x) : f.place x = min (f.position x : Int) f.count := by
  simp only [place, if_neg (not_lt.2 h), abs_of_nonneg h]

@[simp] theorem place_zero : f.place 0 = 0 := by simp [place, position]

theorem place_neg (x : Rat) : f.place (-x) = -f.place x := by
  rcases lt_trichotomy x 0 with h | rfl | h
  · simp [place, h, h.le]
  · simp
  · simp [place, h, h.le]

theorem place_signed (negative : Bool) {m : Rat} (hm : 0 ≤ m) :
    f.place (signed negative m) =
      if negative then -min (f.position m : Int) f.count else min (f.position m : Int) f.count := by
  cases negative with
  | false => exact f.place_of_nonneg hm
  | true => rw [signed, if_pos rfl, place_neg, f.place_of_nonneg hm, if_pos rfl]

/-- **Rounding keeps the order, overflow included.** -/
theorem place_mono : Monotone f.place := by
  refine monotone_of_odd_of_monotoneOn_nonneg f.place_neg ?_
  intro x hx y hy h
  rw [f.place_of_nonneg hx, f.place_of_nonneg hy]
  exact min_le_min_right _ (Int.ofNat_le.2 (f.position_mono hx h))

end Format

namespace Binary

variable {f : Format} {x y z : Binary f}

theorem rank_round (negative : Bool) {m : Rat} (hm : 0 ≤ m) :
    (round negative m : Binary f).rank = some (f.place (signed negative m)) := by
  rw [f.place_signed negative hm, round, ofPosition]
  split
  · rename_i h
    rw [min_eq_left (Int.ofNat_le.2 h.le)]
    rfl
  · rename_i h
    rw [min_eq_right (Int.ofNat_le.2 (not_lt.1 h))]
    rfl

/-- **The place of a product** of finite numbers is that of the exact product. -/
theorem rank_mul {v w : Rat} (hx : x.toRat = some v) (hy : y.toRat = some w) :
    (x.mul y).rank = some (f.place (v * w)) := by
  obtain ⟨a, p, rfl, rfl⟩ := exists_of_toRat hx
  obtain ⟨b, q, rfl, rfl⟩ := exists_of_toRat hy
  rw [signed_mul]
  exact rank_round _ (mul_nonneg (f.magnitude_nonneg p) (f.magnitude_nonneg q))

theorem rank_zero (negative : Bool) (h : 0 < f.count) :
    (zero negative : Binary f).rank = some 0 := by
  rw [zero, ofPosition, dif_pos h]
  simp [rank]

/-- **The place of a rounded number.** -/
theorem rank_ofRat (v : Rat) : (ofRat v : Binary f).rank = some (f.place v) := by
  rw [ofRat, rat_abs, rank_round _ (abs_nonneg v)]
  rcases lt_or_ge v 0 with h | h
  · simp [signed, h, abs_of_neg h]
  · simp [signed, not_lt.2 h, abs_of_nonneg h]

/-- **The place of a sum** of finite numbers is that of the exact sum. -/
theorem rank_add {v w : Rat} (hx : x.toRat = some v) (hy : y.toRat = some w) :
    (x.add y).rank = some (f.place (v + w)) := by
  obtain ⟨a, p, rfl, rfl⟩ := exists_of_toRat hx
  obtain ⟨b, q, rfl, rfl⟩ := exists_of_toRat hy
  change (if signed a (f.magnitude p) + signed b (f.magnitude q) = 0 then zero (a && b)
    else ofRat (signed a (f.magnitude p) + signed b (f.magnitude q))).rank = _
  split
  · rename_i hsum
    rw [hsum, rank_zero _ p.pos, f.place_zero]
  · exact rank_ofRat _

/-- **The place of a quotient** of finite numbers is that of the exact quotient. -/
theorem rank_div {v w : Rat} (hx : x.toRat = some v) (hy : y.toRat = some w) (hw : w ≠ 0) :
    (x.div y).rank = some (f.place (v / w)) := by
  obtain ⟨a, p, rfl, rfl⟩ := exists_of_toRat hx
  obtain ⟨b, q, rfl, rfl⟩ := exists_of_toRat hy
  have hq : q.val ≠ 0 := by
    intro hzero
    simp [signed, hzero, f.magnitude_zero] at hw
  rw [signed_div, div, if_neg hq]
  exact rank_round _ (div_nonneg (f.magnitude_nonneg p) (f.magnitude_nonneg q))

/-- **The place of a converted number** is that of its value. -/
theorem rank_convert {g : Format} {v : Rat} (hx : x.toRat = some v) :
    (convert x : Binary g).rank = some (g.place v) := by
  obtain ⟨a, p, rfl, rfl⟩ := exists_of_toRat hx
  exact rank_round _ (f.magnitude_nonneg p)

/-! ### Comparisons -/

theorem le_iff_exists_rank : x.le y ↔ ∃ a b, x.rank = some a ∧ y.rank = some b ∧ a ≤ b := by
  rw [le]
  cases x.rank with
  | none => simp
  | some a => cases y.rank <;> simp

theorem le_of_rank {a b : Int} (hx : x.rank = some a) (hy : y.rank = some b) (h : a ≤ b) : x.le y :=
  le_iff_exists_rank.2 ⟨a, b, hx, hy, h⟩

theorem ne_nan_of_rank {a : Int} (h : x.rank = some a) : x ≠ nan := by
  rintro rfl
  cases h

theorem natAbs_rank_le {a : Int} (h : x.rank = some a) : a.natAbs ≤ f.count := by
  cases x with
  | nan => cases h
  | infinite negative =>
      obtain rfl := Option.some.inj h
      cases negative <;> simp
  | finite negative p =>
      obtain rfl := Option.some.inj h
      have := p.isLt
      cases negative <;> simp

/-- No number comes after an infinity. -/
theorem le_infinite (h : x ≠ nan) : x.le (infinite false) := by
  obtain ⟨a, ha⟩ := exists_rank_of_ne_nan h
  have := natAbs_rank_le ha
  exact le_of_rank ha rfl (by simp; omega)

/-- None comes before the negative one. -/
theorem infinite_le (h : x ≠ nan) : (infinite true).le x := by
  obtain ⟨a, ha⟩ := exists_rank_of_ne_nan h
  have := natAbs_rank_le ha
  exact le_of_rank rfl ha (by simp; omega)

theorem le_refl_of_ne_nan (h : x ≠ nan) : x.le x := by
  obtain ⟨a, ha⟩ := exists_rank_of_ne_nan h
  exact le_of_rank ha ha (le_refl a)

/-- A finite number has the place that its value is rounded to. -/
theorem rank_of_toRat {v : Rat} (h : x.toRat = some v) : x.rank = some (f.place v) := by
  obtain ⟨negative, p, rfl, rfl⟩ := exists_of_toRat h
  have hplace : min (p.val : Int) f.count = p := min_eq_left (Int.ofNat_le.2 p.isLt.le)
  rw [f.place_signed negative (f.magnitude_nonneg p), f.position_magnitude, hplace]
  rfl

/-- A finite number does not come before the negative infinity. -/
theorem not_le_infinite {negative : Bool} {p : Fin f.count} :
    ¬ (finite negative p).le (infinite true) := by
  intro h
  obtain ⟨a, b, ha, hb, hab⟩ := le_iff_exists_rank.1 h
  obtain rfl := Option.some.inj ha
  obtain rfl := Option.some.inj hb
  have := p.isLt
  cases negative <;> simp at hab <;> omega

/-- After a finite number come finite numbers and the positive infinity. -/
theorem isFinite_of_le (h : x.le y) (hx : x.isFinite) (hy : y ≠ infinite false) : y.isFinite := by
  cases x with
  | nan | infinite => exact absurd hx Bool.false_ne_true
  | finite negative p =>
      cases y with
      | nan =>
          obtain ⟨a, b, -, hb, -⟩ := le_iff_exists_rank.1 h
          cases hb
      | infinite negative =>
          cases negative with
          | false => exact absurd rfl hy
          | true => exact absurd h not_le_infinite
      | finite => rfl

/-! ### Cuts and integer parts -/

/-- **A cut from below keeps the order.** -/
theorem larger_le (h : x.le y) (hz : z ≠ nan) : (larger x z).le (larger y z) := by
  obtain ⟨a, b, ha, hb, hab⟩ := le_iff_exists_rank.1 h
  obtain ⟨c, hc⟩ := exists_rank_of_ne_nan hz
  exact le_of_rank (rank_larger ha hc) (rank_larger hb hc) (max_le_max_right c hab)

/-- **So does one from above.** -/
theorem smaller_le (h : x.le y) (hz : z ≠ nan) : (smaller x z).le (smaller y z) := by
  obtain ⟨a, b, ha, hb, hab⟩ := le_iff_exists_rank.1 h
  obtain ⟨c, hc⟩ := exists_rank_of_ne_nan hz
  exact le_of_rank (rank_smaller ha hc) (rank_smaller hb hc) (min_le_min_right c hab)

/-- **The integer parts of finite numbers are in their order.** -/
theorem toInt?_le {m n : Int} (h : x.le y) (hm : x.toInt? = some m) (hn : y.toInt? = some n) :
    m ≤ n := by
  cases x with
  | nan | infinite => cases hm
  | finite a p =>
      cases y with
      | nan | infinite => cases hn
      | finite b q =>
          obtain rfl := Option.some.inj hm
          obtain rfl := Option.some.inj hn
          have hvalues : signed a (f.magnitude p) ≤ signed b (f.magnitude q) :=
            (le_iff (toRat_finite a p) (toRat_finite b q)).1 h
          have hp : 0 ≤ ⌊f.magnitude p⌋ := Int.floor_nonneg.2 (f.magnitude_nonneg p)
          have hq : 0 ≤ ⌊f.magnitude q⌋ := Int.floor_nonneg.2 (f.magnitude_nonneg q)
          cases a with
          | true =>
              cases b with
              | true => exact neg_le_neg (Int.floor_le_floor (neg_le_neg_iff.1 hvalues))
              | false => exact (neg_nonpos.2 hp).trans hq
          | false =>
              cases b with
              | true =>
                  -- both are zero
                  have hsum : f.magnitude p ≤ -f.magnitude q := hvalues
                  have hzero := f.magnitude_nonneg p
                  have hother := f.magnitude_nonneg q
                  have hpz : f.magnitude p = 0 := by linarith
                  have hqz : f.magnitude q = 0 := by linarith
                  change ⌊f.magnitude p⌋ ≤ -⌊f.magnitude q⌋
                  rw [hpz, hqz, Int.floor_zero, neg_zero]
              | false => exact Int.floor_le_floor hvalues

/-! ### Infinities and finite numbers -/

/-- The sign and the magnitude of a finite number, as they decide a product or a quotient. -/
theorem exists_sign_of_toRat {v : Rat} (hx : x.toRat = some v) :
    ∃ negative p, x = finite negative p ∧ (p.val = 0 ↔ v = 0) ∧
      (v ≠ 0 → negative = decide (v < 0)) := by
  obtain ⟨negative, p, rfl, rfl⟩ := exists_of_toRat hx
  have hzero : p.val = 0 ↔ f.magnitude p = 0 := by
    rw [← f.magnitude_zero, f.magnitude_strictMono.injective.eq_iff]
  have hnonneg := f.magnitude_nonneg p
  refine ⟨negative, p, rfl, ?_, ?_⟩
  · rw [hzero]
    cases negative <;> simp [signed]
  · intro hne
    cases negative with
    | false => simpa [signed] using hnonneg
    | true =>
        have hpos : 0 < f.magnitude p := hnonneg.lt_of_ne fun h => hne (by simp [signed, ← h])
        simpa [signed] using hpos

theorem add_infinite {v : Rat} (hx : x.toRat = some v) (b : Bool) :
    x.add (infinite b) = infinite b := by
  obtain ⟨a, p, rfl, -⟩ := exists_of_toRat hx
  rfl

theorem infinite_mul_eq (a : Bool) {v : Rat} (hy : y.toRat = some v) :
    (infinite a).mul y = if v = 0 then nan else infinite (a != decide (v < 0)) := by
  obtain ⟨b, q, rfl, hzero, hsign⟩ := exists_sign_of_toRat hy
  rw [mul]
  by_cases hv : v = 0
  · rw [if_pos (hzero.2 hv), if_pos hv]
  · rw [if_neg (mt hzero.1 hv), if_neg hv, hsign hv]

theorem mul_infinite_eq {v : Rat} (hx : x.toRat = some v) (b : Bool) :
    x.mul (infinite b) = if v = 0 then nan else infinite (b != decide (v < 0)) := by
  obtain ⟨a, p, rfl, hzero, hsign⟩ := exists_sign_of_toRat hx
  rw [mul]
  by_cases hv : v = 0
  · rw [if_pos (hzero.2 hv), if_pos hv]
  · rw [if_neg (mt hzero.1 hv), if_neg hv, hsign hv, bne_comm]

theorem mul_infinite {c : Binary f} {w : Rat} (hc : c.toRat = some w) (hw : 0 < w)
    (negative : Bool) : c.mul (infinite negative) = infinite negative := by
  rw [mul_infinite_eq hc, if_neg hw.ne']
  simp [hw.not_gt]

theorem infinite_div_eq (a : Bool) {v : Rat} (hy : y.toRat = some v) (hv : v ≠ 0) :
    (infinite a).div y = infinite (a != decide (v < 0)) := by
  obtain ⟨b, q, rfl, -, hsign⟩ := exists_sign_of_toRat hy
  rw [div, hsign hv]

/-! ### Rounded operations -/

variable [f.HasUnits]

/-- What comes after an infinity is one. -/
theorem eq_infinite_of_le (h : (infinite false).le x) : x = infinite false := by
  obtain ⟨a, b, ha, hb, hab⟩ := le_iff_exists_rank.1 h
  obtain rfl : (f.count : Int) = a := Option.some.inj ha
  obtain ⟨p, hp, -⟩ := Format.represents_zero (f := f)
  cases x with
  | nan => cases hb
  | infinite negative =>
      obtain rfl := Option.some.inj hb
      cases negative with
      | false => rfl
      | true =>
          have hab : (f.count : Int) ≤ -f.count := hab
          omega
  | finite negative q =>
      obtain rfl := Option.some.inj hb
      have := q.isLt
      cases negative <;> simp at hab <;> omega

/-- **An operation that rounds an increasing function of finite numbers and keeps the infinities
keeps the order.** -/
theorem le_of_rounding {g : Rat → Rat} (hg : Monotone g) {op : Binary f → Binary f}
    (hfinite : ∀ {x v}, x.toRat = some v → (op x).rank = some (f.place (g v)))
    (hinfinite : ∀ negative, op (infinite negative) = infinite negative) (h : x.le y) :
    (op x).le (op y) := by
  have hdefined : ∀ {z}, z ≠ nan → op z ≠ nan := by
    intro z hz
    cases z with
    | nan => exact absurd rfl hz
    | infinite negative => rwa [hinfinite]
    | finite negative p => exact ne_nan_of_rank (hfinite (toRat_finite negative p))
  obtain ⟨a, b, ha, hb, -⟩ := le_iff_exists_rank.1 h
  have hx := hdefined (ne_nan_of_rank ha)
  have hy := hdefined (ne_nan_of_rank hb)
  cases x with
  | nan => cases ha
  | infinite negative =>
      cases negative with
      | false =>
          rw [eq_infinite_of_le h, hinfinite]
          exact le_refl_of_ne_nan nofun
      | true =>
          rw [hinfinite]
          exact infinite_le hy
  | finite negative p =>
      cases y with
      | nan => cases hb
      | infinite negative =>
          cases negative with
          | false =>
              rw [hinfinite]
              exact le_infinite hx
          | true => exact absurd h not_le_infinite
      | finite other q =>
          have hvalues := (le_iff (toRat_finite negative p) (toRat_finite other q)).1 h
          exact le_of_rank (hfinite (toRat_finite negative p)) (hfinite (toRat_finite other q))
            (f.place_mono (hg hvalues))

/-- **A product with a positive number keeps the order.** -/
theorem mul_le_mul_left {c : Binary f} {w : Rat} (hc : c.toRat = some w) (hw : 0 < w)
    (h : x.le y) : (c.mul x).le (c.mul y) :=
  le_of_rounding (fun _ _ hle => mul_le_mul_of_nonneg_left hle hw.le) (rank_mul hc)
    (mul_infinite hc hw) h

/-- **So does the rounding to an integer.** -/
theorem roundHalfAway_le (h : x.le y) : x.roundHalfAway.le y.roundHalfAway := by
  refine le_of_rounding (g := fun v => halfAway v) ?_
    (fun hv => rank_of_toRat (toRat_roundHalfAway hv)) roundHalfAway_infinite h
  exact fun _ _ hle => Int.cast_le.2 (halfAway_mono hle)

end Binary

end Number

end FilmGrain
