/-
**Curves of different resolution agree where they meet.**

Point `i` of `n` lies at the fraction `i / (n - 1)` of the range.  Two numbers of points share some
fractions, the two ends at least, and reach them by quotients of different integers.  A quotient of
numbers of a format is the exact one rounded once, so equal fractions are the same number to the
last bit, and everything that is stored of a point is computed from that number alone.  Hence the
two curves have the same point there, for every noise function whatsoever.

Main results:

* `Binary.const_div_const` — **a quotient of constants depends on their exact quotient only**;
* `FilmGrain.getElem?_samplePositions` — the encoded value at which a point is sampled;
* `FilmGrain.getElem?_points` — a point is what is stored of its sample;
* `FilmGrain.sampleNoise_meet` — two curves of one noise function;
* `CameraSettings.sample_meet` — **two curves of one camera**.
-/

import FilmGrain.Proofs.Scaling.Sampling

set_option autoImplicit false

namespace FilmGrain

open Arith Number

/-! ### Quotients of constants -/

namespace Number.Binary

variable {f : Format} {x y : Rat}

/-- A number of the format, with a sign, is the finite number at its position. -/
theorem exists_round_of_represents (negative : Bool) (hx : 0 ≤ x) (h : f.Represents x) :
    ∃ p, (round negative x : Binary f) = finite negative p ∧ f.magnitude p = x := by
  obtain ⟨p, hp, hval⟩ := h
  rw [abs_of_nonneg hx] at hval
  refine ⟨⟨p, hp⟩, ?_, hval.symm⟩
  rw [round, hval, Format.position_magnitude, ofPosition, dif_pos hp]

/-- A constant that is not negative, zero included, has the positive sign. -/
theorem exists_const_of_nonneg (hx : 0 ≤ x) (hdouble : Format.double.Represents x)
    (h : f.Represents x) : ∃ p, (const x : Binary f) = finite false p ∧ f.magnitude p = x := by
  obtain ⟨p, hp, hpval⟩ := exists_round_of_represents false hx hdouble
  obtain ⟨q, hq, hqval⟩ := exists_round_of_represents false hx h
  refine ⟨q, ?_, hqval⟩
  rw [const, ofRat, decide_eq_false hx.not_gt, rat_abs, abs_of_nonneg hx, hp, convert, hpval, hq]

/-- **A quotient of constants depends on their exact quotient only.** -/
theorem const_div_const (hx : 0 ≤ x) (hxdouble : Format.double.Represents x)
    (hxf : f.Represents x) (hy : 0 < y) (hydouble : Format.double.Represents y)
    (hyf : f.Represents y) : (const x : Binary f).div (const y) = round false (x / y) := by
  obtain ⟨p, hp, hpval⟩ := exists_const_of_nonneg hx hxdouble hxf
  obtain ⟨q, hq, hqval⟩ := exists_const_of_nonneg hy.le hydouble hyf
  have hzero : q.val ≠ 0 := by
    intro hzero
    rw [hzero, f.magnitude_zero] at hqval
    exact hy.ne hqval
  rw [hp, hq, div, if_neg hzero, hpval, hqval]
  rfl

end Number.Binary

/-! ### Samples -/

/-- **The encoded value at which a point is sampled.** -/
theorem getElem?_samplePositions {n i : Nat} (h2 : 2 ≤ n) (h14 : n ≤ 14) (hi : i < n) :
    (samplePositions (.integer n))[i]? = some (Binary.round false (i / (n - 1 : Nat))) := by
  have hgaps : ((n - 1 : Nat) : Rat) = (n : Rat) - 1 := by
    rw [Nat.cast_sub (by omega), Nat.cast_one]
  have hpos : (0 : Rat) < (n - 1 : Nat) := by exact_mod_cast (by omega : 0 < n - 1)
  rw [samplePositions, multiples, List.getElem?_map, List.getElem?_range hi, Option.map_some,
    ← hgaps, Option.some.injEq]
  exact Binary.const_div_const (Nat.cast_nonneg i) (represents_double (by omega))
    (represents_single (by omega)) hpos (represents_double (by omega))
    (represents_single (by omega))

/-- **A point is what is stored of its sample.** -/
theorem getElem?_points {noise : Single → Single} {count : PointCount} {c : ScalingCurve}
    {i : Nat} {x : Single} (h : sampleNoise noise count = .ok c)
    (hx : (samplePositions count)[i]? = some x) :
    ∃ p, c.points[i]? = some p ∧ storedPoint x (noise x) = .ok p := by
  have hall := sampleNoise_eq_ok_iff.1 h
  obtain ⟨hlt, rfl⟩ := List.getElem?_eq_some_iff.1 hx
  have hlt' : i < c.points.length := hall.length_eq ▸ hlt
  exact ⟨c.points[i], List.getElem?_eq_getElem hlt', hall.get hlt hlt'⟩

/-- A curve has as many points as were asked for. -/
theorem length_of_sampleNoise {noise : Single → Single} {n : Nat} {c : ScalingCurve}
    (h : sampleNoise noise (.integer n) = .ok c) : c.points.length = n := by
  rw [← (sampleNoise_eq_ok_iff.1 h).length_eq, samplePositions, multiples, List.length_map,
    List.length_range]

/-- **Two curves of one noise function have the same point where they meet.** -/
theorem sampleNoise_meet {noise : Single → Single} {n m i j : Nat} {c d : ScalingCurve}
    (hc : sampleNoise noise (.integer n) = .ok c) (hd : sampleNoise noise (.integer m) = .ok d)
    (hn2 : 2 ≤ n) (hn14 : n ≤ 14) (hm2 : 2 ≤ m) (hm14 : m ≤ 14) (hi : i < n) (hj : j < m)
    (hmeet : i * (m - 1) = j * (n - 1)) : ∃ p, c.points[i]? = some p ∧ d.points[j]? = some p := by
  have hfraction : (i : Rat) / (n - 1 : Nat) = j / (m - 1 : Nat) := by
    have hn : ((n - 1 : Nat) : Rat) ≠ 0 := by exact_mod_cast (by omega : n - 1 ≠ 0)
    have hm : ((m - 1 : Nat) : Rat) ≠ 0 := by exact_mod_cast (by omega : m - 1 ≠ 0)
    rw [div_eq_div_iff hn hm]
    exact_mod_cast hmeet
  obtain ⟨p, hp, hstored⟩ := getElem?_points hc (getElem?_samplePositions hn2 hn14 hi)
  obtain ⟨q, hq, hstored'⟩ := getElem?_points hd (getElem?_samplePositions hm2 hm14 hj)
  rw [hfraction, hstored'] at hstored
  exact ⟨p, hp, Except.ok.inj hstored ▸ hq⟩

/-! ### Settings -/

namespace CameraSettings

variable {s : CameraSettings}

/-- Settings that are sampled have a number of pixels that can be computed with. -/
theorem pixelCount_of_sample {count : Setting} {c : ScalingCurve} (h : s.sample count = .ok c) :
    ∃ pixels, s.pixelCount = .ok pixels := by
  obtain ⟨_, _, hsampled⟩ := bind_eq_ok_iff.1 h
  obtain ⟨_, hsensor, _⟩ := bind_eq_ok_iff.1 hsampled
  obtain ⟨pixels, hpixels, _⟩ := bind_eq_ok_iff.1 (mapError_eq_ok_iff.1 hsensor)
  exact ⟨pixels, hpixels⟩

/-- What is sampled at an integer number of points. -/
theorem sample_integer {pixels : Double} (hpixels : s.pixelCount = .ok pixels) {n : Nat}
    (h2 : 2 ≤ n) (h14 : n ≤ 14) :
    s.sample (.integer n) =
      sampleNoise (encodedNoise s.function.curve s.sensorModel) (.integer n) := by
  rw [sample, sampleWith_eq hpixels, checkCount_integer (by omega) (by omega), Int.toNat_natCast]
  rfl

/-- **Two curves of one camera have the same point where they meet.**  Settings that are sampled at
one number of points are sampled at every other, and wherever two fractions of the range are equal,
so are the points of the two curves; in particular their first points and their last ones. -/
theorem sample_meet {n m : Nat} {c : ScalingCurve} (hn2 : 2 ≤ n) (hn14 : n ≤ 14) (hm2 : 2 ≤ m)
    (hm14 : m ≤ 14) (hc : s.sample (.integer n) = .ok c) :
    ∃ d, s.sample (.integer m) = .ok d ∧ c.points.length = n ∧ d.points.length = m ∧
      (∀ i < n, ∀ j < m, i * (m - 1) = j * (n - 1) →
        ∃ p, c.points[i]? = some p ∧ d.points[j]? = some p) ∧
      c.points.head? = d.points.head? ∧ c.points.getLast? = d.points.getLast? := by
  obtain ⟨pixels, hpixels⟩ := pixelCount_of_sample hc
  rw [sample_integer hpixels hn2 hn14] at hc
  obtain ⟨d, hd, -⟩ := exists_sampleNoise_integer hm2 hm14
    (encodedNoise s.function.curve s.sensorModel)
  have hlength := length_of_sampleNoise hc
  have hlength' := length_of_sampleNoise hd
  have hmeet : ∀ i < n, ∀ j < m, i * (m - 1) = j * (n - 1) →
      ∃ p, c.points[i]? = some p ∧ d.points[j]? = some p := fun i hi j hj =>
    sampleNoise_meet hc hd hn2 hn14 hm2 hm14 hi hj
  refine ⟨d, (sample_integer hpixels hm2 hm14).trans hd, hlength, hlength', hmeet, ?_, ?_⟩
  · obtain ⟨p, hp, hq⟩ := hmeet 0 (by omega) 0 (by omega) (by rw [zero_mul, zero_mul])
    rw [List.head?_eq_getElem?, List.head?_eq_getElem?, hp, hq]
  · obtain ⟨p, hp, hq⟩ := hmeet (n - 1) (by omega) (m - 1) (by omega) (mul_comm _ _)
    rw [List.getLast?_eq_getElem?, List.getLast?_eq_getElem?, hlength, hlength', hp, hq]

/-- The second of seven points is the third of thirteen, a sixth of the range from black. -/
theorem sample_meet_sixth :
    ∃ c d p, (⟨3840, 2160, 800, .hlg, by decide, by decide, by decide⟩ : CameraSettings).sample
        (.integer 7) = .ok c ∧
      (⟨3840, 2160, 800, .hlg, by decide, by decide, by decide⟩ : CameraSettings).sample
        (.integer 13) = .ok d ∧
      c.points[1]? = some p ∧ d.points[2]? = some p := by
  obtain ⟨pixels, hpixels⟩ := exists_pixelCount
    (s := ⟨3840, 2160, 800, .hlg, by decide, by decide, by decide⟩) (by decide)
  obtain ⟨c, hc, -⟩ :=
    exists_sampleNoise_integer (n := 7) (by decide) (by decide) (encodedNoise _ _)
  have hc' := (sample_integer hpixels (n := 7) (by decide) (by decide)).trans hc
  obtain ⟨d, hd, -, -, hmeet, -⟩ :=
    sample_meet (m := 13) (by decide) (by decide) (by decide) (by decide) hc'
  obtain ⟨p, hp, hq⟩ := hmeet 1 (by decide) 2 (by decide) (by decide)
  exact ⟨c, d, p, hc', hd, hp, hq⟩

end CameraSettings

end FilmGrain
