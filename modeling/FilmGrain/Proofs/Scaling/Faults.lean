/-
**Which given pairs are a scaling curve, and what is wrong with the others.**

Given pairs are a curve exactly if there are one to fourteen of them, all their values are integers
of eight bits, and each position is below every later one.  The checks compare neighbours only, but
that settles the order of all.  Pairs that are no curve may have any number of faults.  The one that
is reported is a wrong value in the first pair that has one, the position before the amplitude; or
else the number of pairs; or else the first position that is not above the one before it.

Main definitions:

* `Setting.IsByte`, `FilmGrain.IsCurveData` — the values and the pairs that make a curve;
* `FilmGrain.ValueFault`, `FilmGrain.PairFault`, `FilmGrain.EarliestFault` — **the fault of given
  pairs**;
* `ScalingCurve.Holds` — a curve holds given pairs, however it is read.

Main results:

* `ScalingPoint.ofSettings_eq_error_iff`, `ScalingCurve.ofPoints_eq_error_iff` — what each check
  refuses;
* `ScalingCurve.firstStall?_eq_some_iff` — the first position that is not above the one before it;
* `ScalingCurve.ofSettings_answer` — **the answer to given pairs**.
-/

import FilmGrain.Proofs.Scaling.Curve

set_option autoImplicit false

namespace FilmGrain

/-! ### Given pairs -/

/-- A value that is an integer of eight bits. -/
def Setting.IsByte (given : Setting) : Prop := ∃ n : Int, given = .integer n ∧ 0 ≤ n ∧ n ≤ 255

/-- Two values that are integers, the first below the second. -/
def Setting.Below (a b : Setting) : Prop := ∃ m n : Int, a = .integer m ∧ b = .integer n ∧ m < n

/-- A pair of integers of eight bits. -/
def IsPointData (pair : Setting × Setting) : Prop := pair.1.IsByte ∧ pair.2.IsByte

/-- Pairs that make a curve. -/
structure IsCurveData (pairs : List (Setting × Setting)) : Prop where
  nonempty : 1 ≤ pairs.length
  length_le : pairs.length ≤ 14
  points : ∀ pair ∈ pairs, IsPointData pair
  increasing : pairs.Pairwise fun p q => p.1.Below q.1

/-! ### Faults -/

/-- The fault of a value that is to be a coordinate: its kind, or else its range. -/
inductive ValueFault (coordinate : Coordinate) : Setting → CurveError → Prop
  | kind {given : Setting} (h : ∀ n, given ≠ .integer n) :
      ValueFault coordinate given (.notInteger coordinate given)
  | range {n : Int} (h : ¬ (0 ≤ n ∧ n ≤ 255)) :
      ValueFault coordinate (.integer n) (.outOfRange coordinate n)

/-- The fault of a pair: that of the position, or else that of the amplitude. -/
inductive PairFault : Setting × Setting → CurveError → Prop
  | position {x noise : Setting} {error : CurveError} (h : ValueFault .position x error) :
      PairFault (x, noise) error
  | amplitude {x noise : Setting} {error : CurveError} (hx : x.IsByte)
      (h : ValueFault .amplitude noise error) : PairFault (x, noise) error

/-- The coordinates of a point as given values. -/
def ScalingPoint.given (p : ScalingPoint) : Setting × Setting :=
  (.integer p.x.val, .integer p.noise.val)

/-- **The earliest fault of given pairs**: that of the first pair which has one, or else the number
of pairs, or else the first position that is not above the one before it. -/
inductive EarliestFault (pairs : List (Setting × Setting)) : CurveError → Prop
  | pair {before after : List (Setting × Setting)} {pair : Setting × Setting} {error : CurveError}
      (hpairs : pairs = before ++ pair :: after) (hbefore : ∀ p ∈ before, IsPointData p)
      (hfault : PairFault pair error) : EarliestFault pairs error
  | count (hpoints : ∀ p ∈ pairs, IsPointData p)
      (hcount : ¬ (1 ≤ pairs.length ∧ pairs.length ≤ 14)) :
      EarliestFault pairs (.wrongCount pairs.length)
  | order {before after : List (Setting × Setting)} {p q : ScalingPoint}
      (hpoints : ∀ p ∈ pairs, IsPointData p) (hcount : 1 ≤ pairs.length ∧ pairs.length ≤ 14)
      (hpairs : pairs = before ++ p.given :: q.given :: after)
      (hbefore : (before ++ [p.given]).Pairwise fun p q => p.1.Below q.1) (hstall : q.x ≤ p.x) :
      EarliestFault pairs (.notIncreasing p.x q.x)

/-! ### Points -/

theorem ValueFault.not_isByte {coordinate : Coordinate} {given : Setting} {error : CurveError}
    (h : ValueFault coordinate given error) : ¬ given.IsByte := by
  rintro ⟨n, rfl, hrange⟩
  cases h with
  | kind h => exact h n rfl
  | range h => exact h hrange

theorem PairFault.not_isPointData {pair : Setting × Setting} {error : CurveError}
    (h : PairFault pair error) : ¬ IsPointData pair := by
  intro hpair
  cases h with
  | position h => exact h.not_isByte hpair.1
  | amplitude _ h => exact h.not_isByte hpair.2

theorem Setting.isByte_iff {given : Setting} :
    given.IsByte ↔ ∃ v : Fin 256, given = .integer v.val := by
  constructor
  · rintro ⟨n, rfl, hlow, hhigh⟩
    exact ⟨⟨n.toNat, by omega⟩, by simp [Int.toNat_of_nonneg hlow]⟩
  · rintro ⟨v, rfl⟩
    exact ⟨v.val, rfl, by omega, by omega⟩

namespace ScalingPoint

theorem checkCoordinate_eq_error_iff {coordinate : Coordinate} {given : Setting}
    {error : CurveError} :
    checkCoordinate coordinate given = .error error ↔ ValueFault coordinate given error := by
  constructor
  · intro h
    cases given with
    | integer n =>
        rw [checkCoordinate, checkRange] at h
        split at h
        · cases h
        · rename_i hrange
          obtain rfl := Except.error.inj h
          exact .range hrange
    | real | text | flag | absent | list =>
        obtain rfl := Except.error.inj h
        exact .kind fun _ hn => by cases hn
  · intro h
    cases h with
    | kind h =>
        cases given with
        | integer n => exact absurd rfl (h n)
        | real | text | flag | absent | list => rfl
    | range h => rw [checkCoordinate, checkRange, dif_neg h]

/-- **What the check of a point refuses.** -/
theorem ofSettings_eq_error_iff {x noise : Setting} {error : CurveError} :
    ofSettings x noise = .error error ↔ PairFault (x, noise) error := by
  rw [ofSettings, bind_eq_error_iff, checkCoordinate_eq_error_iff]
  constructor
  · rintro (h | ⟨v, hv, h⟩)
    · exact .position h
    · rcases bind_eq_error_iff.1 h with hnoise | ⟨_, -, h⟩
      · exact .amplitude (Setting.isByte_iff.2 ⟨v, checkCoordinate_eq_ok_iff.1 hv⟩)
          (checkCoordinate_eq_error_iff.1 hnoise)
      · cases h
  · intro h
    cases h with
    | position h => exact Or.inl h
    | amplitude hx h =>
        obtain ⟨v, hv⟩ := Setting.isByte_iff.1 hx
        exact Or.inr ⟨v, checkCoordinate_eq_ok_iff.2 hv,
          bind_eq_error_iff.2 (Or.inl (checkCoordinate_eq_error_iff.2 h))⟩

theorem given_injective : Function.Injective given := by
  intro p q h
  have hx := Setting.integer.inj (Prod.ext_iff.1 h).1
  have hnoise := Setting.integer.inj (Prod.ext_iff.1 h).2
  rw [ScalingPoint.mk.injEq]
  omega

theorem ofSettings_eq_ok_iff_given {pair : Setting × Setting} {p : ScalingPoint} :
    ofSettings pair.1 pair.2 = .ok p ↔ pair = p.given := by
  rw [ofSettings_eq_ok_iff, given, Prod.ext_iff]

/-- Given pairs are all points exactly if they are the coordinates of points. -/
theorem forall_isPointData_iff {pairs : List (Setting × Setting)} :
    (∀ pair ∈ pairs, IsPointData pair) ↔
      ∃ points : List ScalingPoint, pairs = points.map given := by
  constructor
  · intro h
    induction pairs with
    | nil => exact ⟨[], rfl⟩
    | cons pair pairs ih =>
        obtain ⟨points, rfl⟩ := ih fun p hp => h p (List.mem_cons_of_mem _ hp)
        obtain ⟨hx, hnoise⟩ := h pair List.mem_cons_self
        obtain ⟨x, hx⟩ := Setting.isByte_iff.1 hx
        obtain ⟨noise, hnoise⟩ := Setting.isByte_iff.1 hnoise
        exact ⟨⟨x, noise⟩ :: points, by rw [List.map_cons, given, ← hx, ← hnoise]⟩
  · rintro ⟨points, rfl⟩ pair hpair
    obtain ⟨p, -, rfl⟩ := List.mem_map.1 hpair
    exact ⟨Setting.isByte_iff.2 ⟨p.x, rfl⟩, Setting.isByte_iff.2 ⟨p.noise, rfl⟩⟩

/-- The points of given pairs. -/
theorem mapM_ofSettings_eq_ok_iff {pairs : List (Setting × Setting)} {points : List ScalingPoint} :
    (pairs.mapM fun pair => ofSettings pair.1 pair.2) = .ok points ↔ pairs = points.map given := by
  simp only [mapM_eq_ok_iff, ofSettings_eq_ok_iff_given]
  rw [← List.forall₂_map_right_iff, List.forall₂_eq_eq_eq]

theorem given_below_iff {p q : ScalingPoint} : p.given.1.Below q.given.1 ↔ p.x < q.x := by
  constructor
  · rintro ⟨m, n, hm, hn, hlt⟩
    obtain rfl := Setting.integer.inj hm
    obtain rfl := Setting.integer.inj hn
    exact_mod_cast hlt
  · intro h
    exact ⟨p.x.val, q.x.val, rfl, rfl, by exact_mod_cast h⟩

theorem pairwise_given_iff {points : List ScalingPoint} :
    (points.map given).Pairwise (fun p q => p.1.Below q.1) ↔
      points.Pairwise fun p q => p.x < q.x := by
  simp only [List.pairwise_map, given_below_iff]

end ScalingPoint

/-! ### Curves -/

namespace ScalingCurve

open ScalingPoint

/-- A point to the left of the next one is no predecessor of a stall. -/
theorem firstStall?_cons {p : ScalingPoint} {rest : List ScalingPoint}
    (h : ∀ q ∈ rest.head?, p.x < q.x) : firstStall? (p :: rest) = firstStall? rest := by
  cases rest with
  | nil => rfl
  | cons q rest =>
      have hlt : p.x < q.x := h q rfl
      rw [firstStall?, if_neg (by omega)]

theorem exists_of_firstStall? {points : List ScalingPoint} {p q : ScalingPoint}
    (h : firstStall? points = some (p, q)) :
    ∃ before after, points = before ++ p :: q :: after ∧ firstStall? (before ++ [p]) = none ∧
      q.x ≤ p.x := by
  induction points with
  | nil => cases h
  | cons a rest ih =>
      cases rest with
      | nil => cases h
      | cons b rest =>
          by_cases hstall : b.x ≤ a.x
          · rw [firstStall?, if_pos hstall] at h
            cases h
            exact ⟨[], rest, rfl, rfl, hstall⟩
          · have hlt : a.x < b.x := by omega
            rw [firstStall?_cons (by simpa using hlt)] at h
            obtain ⟨before, after, hrest, hnone, hle⟩ := ih h
            -- the next point is the first of those up to the stall
            have hhead : (before ++ [p]).head? = some b := by
              have := congrArg List.head? hrest
              cases before <;> simp_all
            refine ⟨a :: before, after, by rw [hrest, List.cons_append], ?_, hle⟩
            rw [List.cons_append, firstStall?_cons (by simpa [hhead] using hlt)]
            exact hnone

theorem firstStall?_append {before after : List ScalingPoint} {p q : ScalingPoint}
    (hbefore : (before ++ [p]).Pairwise fun p q => p.x < q.x) (hstall : q.x ≤ p.x) :
    firstStall? (before ++ p :: q :: after) = some (p, q) := by
  induction before with
  | nil => rw [List.nil_append, firstStall?, if_pos hstall]
  | cons a before ih =>
      obtain ⟨habove, hbefore⟩ := List.pairwise_cons.1 hbefore
      rw [List.cons_append, firstStall?_cons, ih hbefore]
      intro b hb
      refine habove b ?_
      cases before <;> simp_all

/-- **The first point that is not to the right of its predecessor.** -/
theorem firstStall?_eq_some_iff {points : List ScalingPoint} {p q : ScalingPoint} :
    firstStall? points = some (p, q) ↔
      ∃ before after, points = before ++ p :: q :: after ∧
        ((before ++ [p]).Pairwise fun p q => p.x < q.x) ∧ q.x ≤ p.x := by
  constructor
  · intro h
    obtain ⟨before, after, hpoints, hnone, hstall⟩ := exists_of_firstStall? h
    exact ⟨before, after, hpoints, (firstStall?_eq_none_iff _).1 hnone, hstall⟩
  · rintro ⟨before, after, rfl, hbefore, hstall⟩
    exact firstStall?_append hbefore hstall

/-- **What the check of a curve refuses.** -/
theorem ofPoints_eq_error_iff {points : List ScalingPoint} {error : CurveError} :
    ofPoints points = .error error ↔
      (¬ (1 ≤ points.length ∧ points.length ≤ 14) ∧ error = .wrongCount points.length) ∨
      (1 ≤ points.length ∧ points.length ≤ 14) ∧
        ∃ p q, firstStall? points = some (p, q) ∧ error = .notIncreasing p.x q.x := by
  unfold ofPoints
  split
  · rename_i hcount
    have hcount' : 1 ≤ points.length ∧ points.length ≤ 14 := hcount
    simp only [hcount', not_true_eq_false, false_and, and_self, true_and, false_or]
    split
    · rename_i hnone
      simp [hnone]
    · rename_i before after hsome
      simp only [Except.error.injEq, hsome, Option.some.injEq, Prod.mk.injEq]
      constructor
      · rintro rfl
        exact ⟨before, after, ⟨rfl, rfl⟩, rfl⟩
      · rintro ⟨p, q, ⟨rfl, rfl⟩, rfl⟩
        rfl
  · rename_i hcount
    have hcount' : ¬ (1 ≤ points.length ∧ points.length ≤ 14) := hcount
    simp only [hcount', not_false_eq_true, true_and, false_and, or_false, Except.error.injEq]
    exact eq_comm

/-! ### Answers -/

/-- A curve holds given pairs: their number, its points one by one, the positions, the amplitudes
and the pairs of both are all those that were given, in their order. -/
structure Holds (c : ScalingCurve) (pairs : List (Setting × Setting)) : Prop where
  length : c.points.length = pairs.length
  points : c.points.map given = pairs
  xs : (c.xs.map fun n : Nat => Setting.integer n) = pairs.map Prod.fst
  noiseValues : (c.noiseValues.map fun n : Nat => Setting.integer n) = pairs.map Prod.snd
  pairs : (c.pairs.map fun p : Nat × Nat => (Setting.integer p.1, Setting.integer p.2)) = pairs

variable {pairs : List (Setting × Setting)} {c : ScalingCurve} {error : CurveError}

/-- Every reading of a curve follows from its points. -/
theorem holds_iff : Holds c pairs ↔ pairs = c.points.map given := by
  constructor
  · exact fun h => h.points.symm
  · rintro rfl
    constructor <;> simp [xs, noiseValues, ScalingCurve.pairs, given, Function.comp_def]

theorem ofSettings_eq_ok_iff : ofSettings pairs = .ok c ↔ Holds c pairs := by
  rw [ofSettings, bind_eq_ok_iff, holds_iff]
  simp only [mapM_ofSettings_eq_ok_iff, ofPoints_eq_ok_iff]
  exact ⟨fun ⟨points, hpairs, hpoints⟩ => hpoints ▸ hpairs, fun h => ⟨c.points, h, rfl⟩⟩

/-- **Which pairs are a curve.** -/
theorem exists_holds_iff : (∃ c, Holds c pairs) ↔ IsCurveData pairs := by
  simp only [holds_iff]
  constructor
  · rintro ⟨c, rfl⟩
    exact ⟨by simpa using c.nonempty, by simpa [maxPoints] using c.length_le,
      forall_isPointData_iff.2 ⟨c.points, rfl⟩, pairwise_given_iff.2 c.increasing⟩
  · rintro ⟨hnonempty, hlength, hpoints, hincreasing⟩
    obtain ⟨points, rfl⟩ := forall_isPointData_iff.1 hpoints
    rw [List.length_map] at hnonempty hlength
    exact ⟨⟨points, hnonempty, hlength, pairwise_given_iff.1 hincreasing⟩, rfl⟩

/-- The fault of pairs of which each is a point. -/
theorem earliestFault_given_iff {points : List ScalingPoint} :
    EarliestFault (points.map given) error ↔ ofPoints points = .error error := by
  have hpoints := forall_isPointData_iff.2 ⟨points, rfl⟩
  rw [ofPoints_eq_error_iff]
  constructor
  · intro h
    cases h with
    | pair hpairs _ hfault =>
        exact absurd (hpoints _ (by rw [hpairs]; simp)) hfault.not_isPointData
    | count _ hcount =>
        rw [List.length_map] at hcount ⊢
        exact Or.inl ⟨hcount, rfl⟩
    | @order before after p q _ hcount hpairs hbefore hstall =>
        obtain ⟨first, rest, rfl, rfl, hrest⟩ := List.map_eq_append_iff.1 hpairs
        obtain ⟨p', rest, rfl, hp, hrest⟩ := List.map_eq_cons_iff.1 hrest
        obtain ⟨q', rest, rfl, hq, -⟩ := List.map_eq_cons_iff.1 hrest
        obtain rfl := given_injective hp
        obtain rfl := given_injective hq
        rw [List.length_map] at hcount
        rw [← List.map_singleton, ← List.map_append, pairwise_given_iff] at hbefore
        exact Or.inr ⟨hcount, _, _, firstStall?_append hbefore hstall, rfl⟩
  · rintro (⟨hcount, rfl⟩ | ⟨hcount, p, q, hfirst, rfl⟩)
    · rw [← List.length_map given] at hcount ⊢
      exact .count hpoints hcount
    · obtain ⟨before, after, rfl, hbefore, hstall⟩ := firstStall?_eq_some_iff.1 hfirst
      have hpairs : (before ++ p :: q :: after).map given =
          before.map given ++ p.given :: q.given :: after.map given := by
        rw [List.map_append, List.map_cons, List.map_cons]
      rw [← List.length_map given] at hcount
      refine .order hpoints hcount hpairs ?_ hstall
      rw [← List.map_singleton, ← List.map_append, pairwise_given_iff]
      exact hbefore

/-- **What is wrong with pairs that are no curve.** -/
theorem ofSettings_eq_error_iff : ofSettings pairs = .error error ↔ EarliestFault pairs error := by
  rw [ofSettings, bind_eq_error_iff]
  constructor
  · rintro (h | ⟨points, hpoints, h⟩)
    · obtain ⟨before, pair, after, points, rfl, hbefore, hpair⟩ := mapM_eq_error_iff.1 h
      exact .pair rfl (forall_isPointData_iff.2 ⟨points, mapM_ofSettings_eq_ok_iff.1 hbefore⟩)
        (ScalingPoint.ofSettings_eq_error_iff.1 hpair)
    · rw [mapM_ofSettings_eq_ok_iff.1 hpoints]
      exact earliestFault_given_iff.2 h
  · intro h
    by_cases hpoints : ∀ pair ∈ pairs, IsPointData pair
    · obtain ⟨points, rfl⟩ := forall_isPointData_iff.1 hpoints
      exact Or.inr ⟨points, mapM_ofSettings_eq_ok_iff.2 rfl, earliestFault_given_iff.1 h⟩
    · -- a pair that is no point is the first fault there is
      cases h with
      | pair hpairs hbefore hfault =>
          obtain ⟨points, hbefore⟩ := forall_isPointData_iff.1 hbefore
          exact Or.inl (mapM_eq_error_iff.2 ⟨_, _, _, points, hpairs,
            mapM_ofSettings_eq_ok_iff.2 hbefore, ScalingPoint.ofSettings_eq_error_iff.2 hfault⟩)
      | count h _ => exact absurd h hpoints
      | order h => exact absurd h hpoints

/-- **The answer to given pairs.**  They are accepted exactly if they are one to fourteen pairs of
integers of eight bits whose positions all increase; the curve then holds these pairs and no others.
Any other pairs are refused for their earliest fault, and a position that does not increase is
reported with the one before it. -/
theorem ofSettings_answer (pairs : List (Setting × Setting)) :
    ((∃ c, ofSettings pairs = .ok c) ↔ IsCurveData pairs) ∧
    (∀ c, ofSettings pairs = .ok c ↔ Holds c pairs) ∧
    (∀ error, ofSettings pairs = .error error ↔ EarliestFault pairs error) ∧
    ∀ limit before after, (CurveError.notIncreasing before after).message limit =
      "x values must be strictly increasing (" ++ toString before.val ++ " → "
        ++ toString after.val ++ ")" := by
  refine ⟨?accepted, fun _ => ofSettings_eq_ok_iff, fun _ => ofSettings_eq_error_iff,
    fun _ _ _ => rfl⟩
  simp only [ofSettings_eq_ok_iff]
  exact exists_holds_iff

end ScalingCurve

end FilmGrain
