/-
**Scaling curves.**

A decoder adds grain whose amplitude is a piecewise linear function of the encoded value, given by
one to fourteen points of eight bits in both coordinates, from left to right.

Given values are checked point by point, and in a point the position before the amplitude and the
kind of a value before its range; only then the number of points and their order.  The first fault
found is the one that is reported.

Main definitions:

* `FilmGrain.ScalingPoint`, `FilmGrain.ScalingCurve` — points and curves;
* `ScalingPoint.ofSettings`, `ScalingCurve.ofPoints`, `ScalingCurve.ofSettings` — the checks, with
  `FilmGrain.CurveError` for what they refuse;
* `ScalingCurve.firstStall?` — the first point that is not to the right of its predecessor.

Main results:

* `ScalingCurve.firstStall?_eq_none_iff` — **neighbours in order are all in order**.
-/

import FilmGrain.Setting

set_option autoImplicit false

namespace FilmGrain

/-! ### Points -/

/-- A coordinate of a scaling point. -/
inductive Coordinate where
  | position
  | amplitude
deriving DecidableEq

/-- The name of a coordinate in messages. -/
def Coordinate.name : Coordinate → String
  | position => "x"
  | amplitude => "noise"

/-- A point of a scaling curve. -/
structure ScalingPoint where
  /-- The encoded value. -/
  x : Fin 256
  /-- The amplitude of the grain there. -/
  noise : Fin 256
deriving DecidableEq

/-- Why given values are no scaling curve. -/
inductive CurveError where
  /-- A coordinate is not an integer. -/
  | notInteger (coordinate : Coordinate) (given : Setting)
  /-- A coordinate has more than eight bits or is negative. -/
  | outOfRange (coordinate : Coordinate) (given : Int)
  /-- The number of points is not from one to fourteen. -/
  | wrongCount (count : Nat)
  /-- A point is not to the right of its predecessor. -/
  | notIncreasing (before after : Fin 256)
deriving DecidableEq

/-- The largest number of points of a scaling curve. -/
def maxPoints : Nat := 14

/-- The message of a fault. -/
def CurveError.message (limit : DigitLimit) : CurveError → String
  | notInteger coordinate given =>
      limit.phrase given.integers (coordinate.name ++ " must be an integer, got " ++ given.display)
  | outOfRange coordinate given =>
      limit.phrase [given] (coordinate.name ++ " must be in [0, 255], got " ++ toString given)
  | wrongCount count =>
      "a scaling curve holds 1.." ++ toString maxPoints ++ " points, got " ++ toString count
  | notIncreasing before after =>
      "x values must be strictly increasing (" ++ toString before.val ++ " → "
        ++ toString after.val ++ ")"

namespace ScalingPoint

/-- An integer as a coordinate, if it has eight bits. -/
def checkRange (coordinate : Coordinate) (n : Int) : Except CurveError (Fin 256) :=
  if h : 0 ≤ n ∧ n ≤ 255 then .ok ⟨n.toNat, by omega⟩ else .error (.outOfRange coordinate n)

/-- A given value as a coordinate, if it is an integer of eight bits. -/
def checkCoordinate (coordinate : Coordinate) : Setting → Except CurveError (Fin 256)
  | .integer n => checkRange coordinate n
  | given => .error (.notInteger coordinate given)

/-- The point of two given values. -/
def ofSettings (x noise : Setting) : Except CurveError ScalingPoint := do
  let x ← checkCoordinate .position x
  let noise ← checkCoordinate .amplitude noise
  return ⟨x, noise⟩

end ScalingPoint

/-! ### Curves -/

/-- The points of a scaling curve, from left to right. -/
structure ScalingCurve where
  /-- The points. -/
  points : List ScalingPoint
  /-- There is a point. -/
  nonempty : 1 ≤ points.length
  /-- There are no more points than a decoder takes. -/
  length_le : points.length ≤ maxPoints
  /-- Each point is to the left of all that follow. -/
  increasing : points.Pairwise fun p q => p.x < q.x

namespace ScalingCurve

/-- The first point that is not to the right of its predecessor, with the predecessor. -/
def firstStall? : List ScalingPoint → Option (ScalingPoint × ScalingPoint)
  | p :: q :: rest => if q.x ≤ p.x then some (p, q) else firstStall? (q :: rest)
  | _ => none

/-- **Neighbours in order are all in order.** -/
theorem firstStall?_eq_none_iff (points : List ScalingPoint) :
    firstStall? points = none ↔ points.Pairwise fun p q => p.x < q.x := by
  induction points with
  | nil => simp [firstStall?]
  | cons p rest ih =>
      cases rest with
      | nil => simp [firstStall?]
      | cons q rest =>
          by_cases hle : q.x ≤ p.x
          · have hnot : ¬ p.x < q.x := by omega
            simp [firstStall?, hle, hnot]
          · have hlt : p.x < q.x := by omega
            rw [firstStall?, if_neg hle, ih]
            constructor
            · intro h
              refine List.pairwise_cons.2 ⟨?_, h⟩
              intro r hr
              rcases List.mem_cons.1 hr with rfl | hr
              · exact hlt
              · have := (List.pairwise_cons.1 h).1 r hr
                omega
            · exact fun h => (List.pairwise_cons.1 h).2

/-- The curve of a list of points, if it is short enough and in order. -/
def ofPoints (points : List ScalingPoint) : Except CurveError ScalingCurve :=
  if hcount : 1 ≤ points.length ∧ points.length ≤ maxPoints then
    match hstall : firstStall? points with
    | none => .ok ⟨points, hcount.1, hcount.2, (firstStall?_eq_none_iff points).1 hstall⟩
    | some (before, after) => .error (.notIncreasing before.x after.x)
  else .error (.wrongCount points.length)

/-- **The curve of a list of given pairs.** -/
def ofSettings (pairs : List (Setting × Setting)) : Except CurveError ScalingCurve := do
  let points ← pairs.mapM fun pair => ScalingPoint.ofSettings pair.1 pair.2
  ofPoints points

/-- The encoded values of the points. -/
def xs (c : ScalingCurve) : List Nat := c.points.map fun p => p.x.val

/-- The amplitudes of the points. -/
def noiseValues (c : ScalingCurve) : List Nat := c.points.map fun p => p.noise.val

/-- The coordinates of the points. -/
def pairs (c : ScalingCurve) : List (Nat × Nat) := c.points.map fun p => (p.x.val, p.noise.val)

end ScalingCurve

end FilmGrain
