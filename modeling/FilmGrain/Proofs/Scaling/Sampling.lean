/-
**Sampling always gives a scaling curve.**

Every noise can be stored, so it is the positions that decide whether samples make a curve.

For an integer number of points each stored position is the exact one, although it is computed from
a rounded quotient (`storedPosition_even`); exact positions are at least one apart and fill the
range.  A number of points that is not an integer gives its own spacing, and the last position may
lie beyond the range.  There the positions are only bounded (`exists_storedPosition_multiple`): all
are finite, the first is zero, and the last is 255 or more.  The checks then refuse the samples or
make the last one 255.

Main definitions:

* `FilmGrain.evenPosition` — the exact position of one of several evenly spaced points;
* `ScalingCurve.Spans` — a curve runs from zero to 255 in a number of points.

Main results:

* `FilmGrain.exists_sampleNoise_integer` — **an integer number of points always gives a curve**;
* `FilmGrain.sampleNoise_real` — **any other number of points gives one or is refused**;
* `CameraSettings.sampleWith_spans` — **both, for all settings and every noise**.
-/

import FilmGrain.Proofs.Scaling.Stored
import Mathlib.Data.List.FinRange
import Mathlib.Tactic.Choose

set_option autoImplicit false

namespace FilmGrain

open Arith Number

/-! ### Curves from end to end -/

/-- A curve runs from zero to 255 in a number of points, all of eight bits, from left to right. -/
structure ScalingCurve.Spans (c : ScalingCurve) (count : Int) : Prop where
  length : (c.points.length : Int) = count
  first : c.xs.head? = some 0
  last : c.xs.getLast? = some 255
  increasing : c.xs.Pairwise (· < ·)
  xs_le : ∀ x ∈ c.xs, x ≤ 255
  noise_le : ∀ a ∈ c.noiseValues, a ≤ 255

namespace ScalingCurve

theorem le_of_mem_xs {c : ScalingCurve} {x : Nat} (hx : x ∈ c.xs) : x ≤ 255 := by
  obtain ⟨p, -, rfl⟩ := List.mem_map.1 hx
  exact Nat.le_of_lt_succ p.x.isLt

/-- What a curve does not have by itself are its two ends. -/
theorem spans_of_ends {c : ScalingCurve} {gaps : Nat} (hlength : c.points.length = gaps + 1)
    (hfirst : c.xs[0]? = some 0) (hlast : c.xs[gaps]? = some 255) : c.Spans (gaps + 1) where
  length := by rw [hlength, Nat.cast_succ]
  first := by rw [List.head?_eq_getElem?, hfirst]
  last := by
    have hxs : c.xs.length = gaps + 1 := by rw [xs, List.length_map, hlength]
    rw [List.getLast?_eq_getElem?, hxs, Nat.add_sub_cancel, hlast]
  increasing := List.pairwise_map.2 c.increasing
  xs_le := fun _ => le_of_mem_xs
  noise_le := by
    intro a ha
    obtain ⟨p, -, rfl⟩ := List.mem_map.1 ha
    exact Nat.le_of_lt_succ p.noise.isLt

end ScalingCurve

/-! ### Evenly spaced points -/

/-- The exact position of point `i` of `n` evenly spaced ones, rounded once. -/
def evenPosition (n i : Nat) : Int := halfAway (255 * i / ((n : Rat) - 1))

theorem evenPosition_zero (n : Nat) : evenPosition n 0 = 0 := by
  have hzero := halfAway_natCast 0
  rw [evenPosition, Nat.cast_zero, mul_zero, zero_div]
  exact_mod_cast hzero

theorem evenPosition_last {n : Nat} (h : 2 ≤ n) : evenPosition n (n - 1) = 255 := by
  have hn : ((n - 1 : Nat) : Rat) = (n : Rat) - 1 := by
    rw [Nat.cast_sub (by omega), Nat.cast_one]
  have hne : (n : Rat) - 1 ≠ 0 := by
    rw [← hn]
    exact_mod_cast (by omega : n - 1 ≠ 0)
  have hend := halfAway_natCast 255
  rw [evenPosition, hn, mul_div_cancel_right₀ _ hne]
  exact_mod_cast hend

/-- Up to fourteen points are so far apart that none are rounded to the same position. -/
theorem evenPosition_lt {n i j : Nat} (h2 : 2 ≤ n) (h14 : n ≤ 14) (h : i < j) :
    evenPosition n i < evenPosition n j := by
  have hlow : (2 : Rat) ≤ n := by exact_mod_cast h2
  have hhigh : (n : Rat) ≤ 14 := by exact_mod_cast h14
  have hij : (i : Rat) + 1 ≤ j := by exact_mod_cast h
  have hpos : (0 : Rat) < n - 1 := by linarith
  refine halfAway_lt (by positivity) ?_
  rw [← sub_nonneg, ← sub_sub, ← sub_div, ← mul_sub, sub_nonneg, le_div_iff₀ hpos]
  linarith

theorem evenPosition_mem {n i : Nat} (h2 : 2 ≤ n) (h14 : n ≤ 14) (hi : i < n) :
    0 ≤ evenPosition n i ∧ evenPosition n i ≤ 255 := by
  constructor
  · rcases Nat.eq_zero_or_pos i with rfl | hpos
    · exact (evenPosition_zero n).ge
    · exact (evenPosition_zero n).ge.trans (evenPosition_lt h2 h14 hpos).le
  · rcases (Nat.le_sub_one_of_lt hi).eq_or_lt with rfl | hlt
    · exact (evenPosition_last h2).le
    · exact (evenPosition_lt h2 h14 hlt).le.trans (evenPosition_last h2).le

/-- **The stored positions of an integer number of points are exact**, also where the exact position
is halfway between two integers and the quotient is rounded. -/
theorem storedPosition_even {n i : Nat} (h2 : 2 ≤ n) (h14 : n ≤ 14) (hi : i < n) :
    (storedPosition (const (i : Rat) / const ((n : Rat) - 1)) : Single).toInt? =
      some (evenPosition n i) := by
  -- there are 104 of them
  have hall : ∀ n ∈ List.range' 2 13, ∀ i ∈ List.range n,
      (storedPosition (const (i : Rat) / const ((n : Rat) - 1)) : Single).toInt? =
        some (evenPosition n i) := by
    decide +kernel
  exact hall n (List.mem_range'_1.2 ⟨h2, by omega⟩) i (List.mem_range.2 hi)

/-- **An integer number of points always gives a curve**, whatever the noise is. -/
theorem exists_sampleNoise_integer {n : Nat} (h2 : 2 ≤ n) (h14 : n ≤ 14)
    (noise : Single → Single) :
    ∃ c, sampleNoise noise (.integer n) = .ok c ∧
      (c.xs.map fun x : Nat => (x : Int)) = (List.range n).map (evenPosition n) := by
  have hpoint (i : Fin n) : ∃ p : ScalingPoint, (p.x.val : Int) = evenPosition n i ∧
      storedPoint (const (i.val : Rat) / const ((n : Rat) - 1))
        (noise (const (i.val : Rat) / const ((n : Rat) - 1))) = .ok p := by
    obtain ⟨hlow, hhigh⟩ := evenPosition_mem h2 h14 i.isLt
    obtain ⟨a, ha⟩ := exists_storedNoise (noise (const (i.val : Rat) / const ((n : Rat) - 1)))
    have hx : (((evenPosition n i).toNat : Nat) : Int) = evenPosition n i :=
      Int.toNat_of_nonneg hlow
    refine ⟨⟨⟨(evenPosition n i).toNat, by omega⟩, a⟩, hx, storedPoint_eq_ok_iff.2 ⟨?_, ha⟩⟩
    rw [hx]
    exact storedPosition_even h2 h14 i.isLt
  choose point hx hstored using hpoint
  have hincreasing : ((List.finRange n).map point).Pairwise fun p q => p.x < q.x := by
    refine List.pairwise_map.2 ((List.pairwise_lt_finRange n).imp fun {i j} hij => ?_)
    have := evenPosition_lt h2 h14 hij
    rw [← hx i, ← hx j] at this
    exact_mod_cast this
  have hlength : ((List.finRange n).map point).length = n := by simp
  refine ⟨⟨_, by omega, hlength.trans_le h14, hincreasing⟩, sampleNoise_eq_ok_iff.2 ?_, ?_⟩
  · rw [samplePositions, multiples, ← List.map_coe_finRange_eq_range, List.map_map,
      List.forall₂_map_left_iff, List.forall₂_map_right_iff, List.forall₂_same]
    exact fun i _ => hstored i
  · rw [ScalingCurve.xs, List.map_map, List.map_map, ← List.map_coe_finRange_eq_range, List.map_map]
    exact List.map_congr_left fun i _ => hx i

/-- A curve at the exact positions runs from zero to 255. -/
theorem spans_of_even {c : ScalingCurve} {n : Nat} (h2 : 2 ≤ n)
    (hxs : (c.xs.map fun x : Nat => (x : Int)) = (List.range n).map (evenPosition n)) :
    c.Spans n := by
  obtain ⟨gaps, rfl⟩ := Nat.exists_eq_add_of_le' (by omega : 1 ≤ n)
  have hget {i k : Nat} (hi : i < gaps + 1) (hk : evenPosition (gaps + 1) i = k) :
      c.xs[i]? = some k := by
    have h := congrArg (fun l => l[i]?) hxs
    simp only [List.getElem?_map, List.getElem?_range hi, Option.map_some] at h
    obtain ⟨x, hx, hval⟩ := Option.map_eq_some_iff.1 h
    rw [hx, Int.natCast_inj.1 (hval.trans hk)]
  have hlength : c.points.length = gaps + 1 := by
    simpa [ScalingCurve.xs] using congrArg List.length hxs
  exact ScalingCurve.spans_of_ends hlength (hget (by omega) (evenPosition_zero _))
    (hget (by omega) (evenPosition_last h2))

/-! ### Points with a spacing of their own -/

theorem represents_single {n : Nat} (h : n ≤ 16777216) : Format.single.Represents n :=
  Format.represents_natCast (h.trans (by decide))

theorem represents_double {n : Nat} (h : n ≤ 16777216) : Format.double.Represents n :=
  Format.represents_natCast (h.trans (by decide))

/-- A position is stored between the bounds of its encoded value, scaled. -/
theorem exists_storedPosition {x : Single} {q : Rat} {low high : Nat} (hx : x.toRat = some q)
    (hlow : (low : Rat) ≤ q) (hhigh : q ≤ high) (h : high ≤ 13) :
    ∃ n : Int, (storedPosition x).toInt? = some n ∧ 255 * low ≤ n ∧ n ≤ 255 * high := by
  have hle : low ≤ high := by exact_mod_cast hlow.trans hhigh
  obtain ⟨w, hw, hwlow, hwhigh⟩ := Binary.exists_toRat_between
    (Binary.toRat_mul toRat_maxStored hx) (represents_single (n := 255 * low) (by omega))
    (represents_single (n := 255 * high) (by omega)) (by push_cast; linarith)
    (by push_cast; linarith)
  have hnonneg : 0 ≤ w := (Nat.cast_nonneg _).trans hwlow
  have hfrom := halfAway_le (Nat.cast_nonneg _) hwlow
  have hto := halfAway_le hnonneg hwhigh
  rw [halfAway_natCast] at hfrom hto
  push_cast at hfrom hto
  refine ⟨halfAway w, ?_, hfrom, hto⟩
  have hstored := Binary.toInt?_of_nonneg (Binary.toRat_roundHalfAway hw)
    (by exact_mod_cast (by omega : 0 ≤ halfAway w))
  rwa [Int.floor_intCast] at hstored

/-- The multiples of the reciprocal of a spacing are stored at finite positions that are not
negative, and from 255 on for those that are not below one. -/
theorem exists_storedPosition_multiple {d : Single} {spacing : Rat} {i low high : Nat}
    (hd : d.toRat = some spacing) (hone : 1 ≤ spacing) (hi : i ≤ 13) (hh : high ≤ 13)
    (hlow : (low : Rat) ≤ i / spacing) (hhigh : i / spacing ≤ high) :
    ∃ n : Int, (storedPosition (const (i : Rat) / d)).toInt? = some n ∧
      255 * low ≤ n ∧ n ≤ 255 * high := by
  have hle : low ≤ high := by exact_mod_cast hlow.trans hhigh
  have hconst : (const (i : Rat) : Single).toRat = some (i : Rat) :=
    Binary.toRat_const (represents_double (by omega)) (represents_single (by omega))
  obtain ⟨q, hq, hqlow, hqhigh⟩ := Binary.exists_toRat_between
    (Binary.toRat_div hconst hd (by linarith)) (represents_single (by omega : low ≤ 16777216))
    (represents_single (by omega : high ≤ 16777216)) hlow hhigh
  exact exists_storedPosition hq hqlow hqhigh hh

/-- The spacing that a number of points gives is from one to the number of gaps. -/
theorem exists_spacing {x : Double} {v : Rat} {gaps : Nat} (hx : x.toRat = some v) (h2 : 2 ≤ v)
    (hgaps : v ≤ gaps + 1) (h13 : gaps ≤ 13) :
    ∃ spacing, (Binary.convert (x - const 1) : Single).toRat = some spacing ∧ 1 ≤ spacing ∧
      spacing ≤ gaps := by
  have hone : (const 1 : Double).toRat = some 1 :=
    Binary.toRat_const Format.represents_one Format.represents_one
  obtain ⟨u, hu, hulow, huhigh⟩ := Binary.exists_toRat_between (Binary.toRat_sub hx hone)
    Format.represents_one (represents_double (by omega : gaps ≤ 16777216)) (by linarith)
    (by linarith)
  exact Binary.exists_toRat_between (Binary.toRat_convert hu) Format.represents_one
    (represents_single (by omega : gaps ≤ 16777216)) hulow huhigh

theorem rat_ceil (x : Rat) : x.ceil = ⌈x⌉ := by
  have hneg : ⌊-x⌋ = -⌈x⌉ := Int.floor_neg
  rw [Rat.ceil_eq_neg_floor_neg]
  change -⌊-x⌋ = ⌈x⌉
  rw [hneg, neg_neg]

/-- A number from two to fourteen is at most one above the number of gaps between its points. -/
theorem exists_gaps {v : Rat} (h2 : 2 ≤ v) (h14 : v ≤ 14) :
    ∃ gaps : Nat, ⌈v⌉ = gaps + 1 ∧ gaps ≤ 13 ∧ v ≤ gaps + 1 := by
  have hlow : 2 ≤ ⌈v⌉ := Int.le_ceil_iff.2 (by push_cast; linarith)
  have hhigh : ⌈v⌉ ≤ 14 := Int.ceil_le.2 (by exact_mod_cast h14)
  obtain ⟨gaps, hgaps⟩ := Int.eq_ofNat_of_zero_le (by omega : 0 ≤ ⌈v⌉ - 1)
  have hceil : ⌈v⌉ = gaps + 1 := by omega
  have hup := Int.le_ceil v
  rw [hceil] at hup
  exact ⟨gaps, hceil, by omega, by exact_mod_cast hup⟩

/-- Of the positions that a spacing gives all are finite, the first is zero, and the last is 255 or
beyond. -/
theorem exists_storedPosition_gap {d : Single} {spacing : Rat} {gaps i : Nat}
    (hd : d.toRat = some spacing) (hone : 1 ≤ spacing) (hwide : spacing ≤ gaps) (h13 : gaps ≤ 13)
    (hi : i ≤ gaps) :
    ∃ n, (storedPosition (const (i : Rat) / d)).toInt? = some n ∧ (i = 0 → n = 0) ∧
      (i = gaps → 255 ≤ n) := by
  have hi13 : i ≤ 13 := by omega
  have hpos : 0 < spacing := by linarith
  have hgaps : 1 ≤ gaps := by exact_mod_cast hone.trans hwide
  have hquot : (i : Rat) / spacing ≤ (13 : Nat) := by
    have hcast : (i : Rat) ≤ 13 := by exact_mod_cast hi13
    rw [div_le_iff₀ hpos]
    push_cast
    linarith
  rcases Nat.eq_zero_or_pos i with rfl | hfirst
  · have hzero : ((0 : Nat) : Rat) / spacing = (0 : Nat) := by simp
    obtain ⟨n, hn, hlow, hhigh⟩ := exists_storedPosition_multiple hd hone hi13 (Nat.zero_le 13)
      hzero.ge hzero.le
    exact ⟨n, hn, fun _ => by omega, fun h => by omega⟩
  · by_cases hlast : i = gaps
    · have hbeyond : ((1 : Nat) : Rat) ≤ i / spacing := by
        rw [le_div_iff₀ hpos, hlast]
        push_cast
        linarith
      obtain ⟨n, hn, hlow, -⟩ := exists_storedPosition_multiple hd hone hi13 (le_refl 13) hbeyond
        hquot
      exact ⟨n, hn, fun h => by omega, fun _ => by omega⟩
    · have hnonneg : ((0 : Nat) : Rat) ≤ i / spacing := by push_cast; positivity
      obtain ⟨n, hn, -⟩ := exists_storedPosition_multiple hd hone hi13 (le_refl 13) hnonneg hquot
      exact ⟨n, hn, fun h => by omega, fun h => absurd h hlast⟩

/-- **The stored positions of a number of points that is not an integer.** -/
theorem exists_multiples {x : Double} {v : Rat} (hx : x.toRat = some v) (h2 : 2 ≤ v)
    (h14 : v ≤ 14) :
    ∃ (gaps : Nat) (d : Single), ⌈v⌉ = gaps + 1 ∧
      samplePositions (.real x v) = multiples (gaps + 1) d ∧
      ∀ i ≤ gaps, ∃ n, (storedPosition (const (i : Rat) / d)).toInt? = some n ∧
        (i = 0 → n = 0) ∧ (i = gaps → 255 ≤ n) := by
  obtain ⟨gaps, hceil, h13, hle⟩ := exists_gaps h2 h14
  obtain ⟨spacing, hspacing, hone, hwide⟩ := exists_spacing hx h2 hle h13
  have hcount : v.ceil.toNat = gaps + 1 := by
    rw [rat_ceil]
    omega
  refine ⟨gaps, _, hceil, by rw [samplePositions, hcount], fun i hi => ?_⟩
  exact exists_storedPosition_gap hspacing hone hwide h13 hi

/-- The encoded value of a point is the stored position of its sample. -/
theorem getElem?_xs {noise : Single → Single} {count : PointCount} {c : ScalingCurve} {m i : Nat}
    {d : Single} {n : Int} (h : sampleNoise noise count = .ok c)
    (hpositions : samplePositions count = multiples m d) (hi : i < m)
    (hn : (storedPosition (const (i : Rat) / d)).toInt? = some n) :
    ∃ k : Nat, c.xs[i]? = some k ∧ n = k := by
  have hxs := congrArg (fun l => l[i]?) (xs_of_sampleNoise h)
  simp only [hpositions, multiples, List.map_map, List.getElem?_map, List.getElem?_range hi,
    Option.map_some, Function.comp_apply] at hxs
  obtain ⟨k, hk, hval⟩ := Option.map_eq_some_iff.1 hxs.symm
  exact ⟨k, hk, Option.some.inj (hn.symm.trans hval.symm)⟩

/-- **A number of points that is not an integer gives a curve or is refused.** -/
theorem sampleNoise_real {x : Double} {v : Rat} (hx : x.toRat = some v) (h2 : 2 ≤ v) (h14 : v ≤ 14)
    (noise : Single → Single) :
    (∃ fault, sampleNoise noise (.real x v) = .error (.curve fault)) ∨
      ∃ c, sampleNoise noise (.real x v) = .ok c ∧ c.Spans ⌈v⌉ := by
  obtain ⟨gaps, d, hceil, hpositions, hstored⟩ := exists_multiples hx h2 h14
  cases hsample : sampleNoise noise (.real x v) with
  | error e =>
      have hfinite : ∀ y ∈ samplePositions (.real x v),
          ∃ n, (storedPosition y).toInt? = some n := by
        intro y hy
        rw [hpositions] at hy
        obtain ⟨i, hi, rfl⟩ := List.mem_map.1 hy
        obtain ⟨n, hn, -⟩ := hstored i (Nat.le_of_lt_succ (List.mem_range.1 hi))
        exact ⟨n, hn⟩
      obtain ⟨fault, rfl⟩ := sampleNoise_error hfinite hsample
      exact Or.inl ⟨fault, rfl⟩
  | ok c =>
      have hlength : c.points.length = gaps + 1 := by
        rw [← (sampleNoise_eq_ok_iff.1 hsample).length_eq, hpositions, multiples, List.length_map,
          List.length_range]
      refine Or.inr ⟨c, rfl, hceil ▸ ScalingCurve.spans_of_ends hlength ?_ ?_⟩
      · obtain ⟨n, hn, hzero, -⟩ := hstored 0 (Nat.zero_le gaps)
        obtain ⟨k, hk, rfl⟩ := getElem?_xs hsample hpositions (Nat.succ_pos gaps) hn
        rw [hk, Int.natCast_eq_zero.1 (hzero rfl)]
      · obtain ⟨n, hn, -, hfull⟩ := hstored gaps (le_refl gaps)
        obtain ⟨k, hk, rfl⟩ := getElem?_xs hsample hpositions (Nat.lt_succ_self gaps) hn
        have hle := ScalingCurve.le_of_mem_xs (List.mem_of_getElem? hk)
        have hge : 255 ≤ k := by exact_mod_cast hfull rfl
        rw [hk, le_antisymm hle hge]

/-! ### Settings -/

namespace CameraSettings

variable {s : CameraSettings}

/-- Settings whose number of pixels has a number of double precision are sampled as far as the
number of points and the samples allow. -/
theorem sampleWith_eq {pixels : Double} (hpixels : s.pixelCount = .ok pixels)
    (noise : SensorModel Single → Single → Single) (count : Setting) :
    s.sampleWith noise count = checkCount count >>= sampleNoise (noise s.sensorModel) := by
  have hsensor : (s.sensor : Except SettingsError (SensorModel Single)) = .ok s.sensorModel := by
    rw [sensor, hpixels]
    rfl
  rw [sampleWith, hsensor]
  rfl

end CameraSettings

theorem checkCount_integer {n : Int} (h2 : 2 ≤ n) (h14 : n ≤ 14) :
    checkCount (.integer n) = .ok (.integer n.toNat) := by
  have hrange : countInRange n = true := by
    rw [countInRange, decide_eq_true_iff, maxPoints]
    exact ⟨by exact_mod_cast h2, by exact_mod_cast h14⟩
  rw [checkCount, if_pos hrange]

theorem checkCount_real {x : Double} {v : Rat} (hx : x.toRat = some v) (h2 : 2 ≤ v)
    (h14 : v ≤ 14) : checkCount (.real x) = .ok (.real x v) := by
  have hrange : countInRange v = true := by
    rw [countInRange, decide_eq_true_iff, maxPoints]
    exact ⟨h2, by exact_mod_cast h14⟩
  simp only [checkCount, hx]
  rw [if_pos hrange]

namespace CameraSettings

/-- **Sampling gives a scaling curve for all settings and every noise.**  An integer number of
points is never refused and its positions are the exact ones, whatever the settings; any other
number of points gives a curve from zero to 255, or the checks of a curve refuse the samples. -/
theorem sampleWith_spans (s : CameraSettings) {pixels : Double}
    (hpixels : s.pixelCount = .ok pixels) :
    (∀ count, s.sample count = s.sampleWith (encodedNoise s.function.curve) count) ∧
    ∀ noise : SensorModel Single → Single → Single,
      (∀ n : Int, 2 ≤ n → n ≤ 14 →
        ∃ c, s.sampleWith noise (.integer n) = .ok c ∧ c.Spans n ∧
          (c.xs.map fun x : Nat => (x : Int)) =
            (List.range n.toNat).map fun i : Nat => halfAway (255 * i / ((n : Rat) - 1))) ∧
      ∀ (x : Double) (v : Rat), x.toRat = some v → 2 ≤ v → v ≤ 14 →
        (∃ fault, s.sampleWith noise (.real x) = .error (.curve fault)) ∨
          ∃ c, s.sampleWith noise (.real x) = .ok c ∧ c.Spans ⌈v⌉ := by
  refine ⟨fun _ => rfl, fun noise => ⟨?_, ?_⟩⟩
  · intro n h2 h14
    obtain ⟨m, rfl⟩ := Int.eq_ofNat_of_zero_le (by omega : 0 ≤ n)
    have hm2 : 2 ≤ m := by omega
    obtain ⟨c, hc, hxs⟩ := exists_sampleNoise_integer hm2 (by omega) (noise s.sensorModel)
    refine ⟨c, ?_, spans_of_even hm2 hxs, hxs⟩
    rw [sampleWith_eq hpixels, checkCount_integer h2 h14]
    exact hc
  · intro x v hx h2 h14
    rw [sampleWith_eq hpixels, checkCount_real hx h2 h14]
    exact sampleNoise_real hx h2 h14 (noise s.sensorModel)

/-- A number of pixels that is rounded to a finite number can be computed with. -/
theorem exists_pixelCount_of_inRange {s : CameraSettings} (h : Format.double.InRange s.pixels) :
    ∃ pixels, s.pixelCount = .ok pixels := by
  have hcount := Binary.ofInt?_of_inRange (f := .double) (n := s.pixels) (by exact_mod_cast h)
  exact ⟨Binary.ofRat (s.pixels : Int), by rw [pixelCount, hcount]⟩

/-- A number of pixels that a significand holds has a number of double precision. -/
theorem exists_pixelCount {s : CameraSettings} (h : s.pixels ≤ 2 * Format.double.binadeSize) :
    ∃ pixels, s.pixelCount = .ok pixels :=
  exists_pixelCount_of_inRange (Format.represents_natCast h).inRange

/-- A camera with images of 3840 by 2160 pixels is sampled at fourteen points. -/
theorem sampleWith_spans_wide :
    ∃ c, (⟨3840, 2160, 800, .hlg, by decide, by decide, by decide⟩ : CameraSettings).sample
      (.integer 14) = .ok c ∧ c.Spans 14 := by
  obtain ⟨pixels, hpixels⟩ := exists_pixelCount
    (s := ⟨3840, 2160, 800, .hlg, by decide, by decide, by decide⟩) (by decide)
  obtain ⟨hsample, hspans⟩ := sampleWith_spans _ hpixels
  obtain ⟨c, hc, hends, -⟩ := (hspans _).1 14 (by decide) (by decide)
  exact ⟨c, (hsample _).trans hc, hends⟩

end CameraSettings

end FilmGrain
