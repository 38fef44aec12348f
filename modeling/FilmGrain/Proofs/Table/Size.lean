/-
**The size of the table of a curve.**

What is shorter than the buffer is written when the file is closed, so a table that is small enough
has no block of its own to be written before.  The table of a curve is: a curve has at most fourteen
points, whose coordinates have at most three digits, and every other line is the same for all
curves.  None of its integers has more than nineteen digits, which no limit on integers excludes.

Main definitions:

* `GrainTable.linesBefore`, `GrainTable.lumaLine`, `GrainTable.linesAfter` — the lines of the table
  of a curve.

Main results:

* `GrainTable.lines_wholeStream` — **only one line depends on the curve**;
* `GrainTable.utf8ByteSize_wholeStream_lt` — **the table of a curve fits into the buffer**;
* `GrainTable.print_wholeStream` — **the table of a curve always has a text**.
-/

import FilmGrain.Proofs.Decimal.ReadBack
import FilmGrain.Table.File

set_option autoImplicit false

namespace FilmGrain

/-! ### Bytes and characters -/

/-- No character has more than four bytes. -/
theorem utf8ByteSize_ofList_le (l : List Char) :
    (String.ofList l).utf8ByteSize ≤ 4 * l.length := by
  induction l with
  | nil => simp
  | cons c l ih =>
      have hcons : String.ofList (c :: l) = String.singleton c ++ String.ofList l := by
        rw [String.singleton_eq_ofList, ← String.ofList_append, List.singleton_append]
      have hchar := Char.utf8Size_le_four c
      rw [hcons, String.utf8ByteSize_append, String.utf8ByteSize_singleton, List.length_cons]
      omega

/-! ### The lines of one curve -/

theorem length_integerText_le (n : Fin 256) : (integerText (n.val : Int)).length ≤ 3 := by
  revert n
  decide +kernel

/-- The coordinates of the points of a curve as a table holds them. -/
def storedPairs (points : List ScalingPoint) : List (Int × Int) :=
  points.map fun p => ((p.x.val : Int), (p.noise.val : Int))

theorem length_storedPairs (points : List ScalingPoint) :
    (storedPairs points).length = points.length := List.length_map _

/-- A point with coordinates of eight bits takes two blanks and at most six digits. -/
theorem length_coordinates_le (points : List ScalingPoint) :
    (numbers (coordinates (storedPairs points))).length ≤ 8 * points.length := by
  induction points with
  | nil => simp [storedPairs, coordinates, numbers]
  | cons p rest ih =>
      have hx := length_integerText_le p.x
      have hnoise := length_integerText_le p.noise
      simp only [storedPairs, coordinates, numbers, List.map_cons, List.flatMap_cons,
        List.flatMap_nil, List.flatMap_append, List.length_append, List.length_cons,
        List.length_nil] at ih ⊢
      omega

theorem length_pointCount_le {points : List ScalingPoint} (h : points.length ≤ maxPoints) :
    (numbers [((storedPairs points).length : Int)]).length ≤ 4 := by
  have hdigits := length_integerText_le ⟨points.length, Nat.lt_of_le_of_lt h (by decide)⟩
  rw [length_storedPairs]
  simp only [numbers, List.flatMap_cons, List.flatMap_nil, List.length_append, List.length_cons,
    List.length_nil] at hdigits ⊢
  omega

/-- A coordinate of a point is an integer of eight bits. -/
theorem lt_of_mem_coordinates {points : List ScalingPoint} {n : Int}
    (h : n ∈ coordinates (storedPairs points)) : 0 ≤ n ∧ n < 256 := by
  obtain ⟨pair, hpair, hn⟩ := List.mem_flatMap.1 h
  obtain ⟨p, -, rfl⟩ := List.mem_map.1 hpair
  rcases List.mem_cons.1 hn with rfl | hn
  · exact ⟨Int.natCast_nonneg _, Int.ofNat_lt.2 p.x.isLt⟩
  · rw [List.mem_singleton.1 hn]
    exact ⟨Int.natCast_nonneg _, Int.ofNat_lt.2 p.noise.isLt⟩

namespace GrainTable

/-- Even the empty table has a first line. -/
theorem isEmpty_text (t : GrainTable) : t.text.isEmpty = false := by
  rw [Bool.eq_false_iff, ne_eq, String.isEmpty_iff, ← String.toList_inj, text, String.toList_ofList,
    lines, List.flatMap_cons]
  exact List.append_ne_nil_of_left_ne_nil (by decide) _

/-- The lines before that of the scaling function of luma. -/
def linesBefore : List Line := [
  [.mark magic], numberLine "E" [streamStart, streamStop, 1, 7391, 1],
  numberLine "\tp" [0, 6, 0, 8, 0, 1, 0, 0, 0, 0, 0, 0]]

/-- The lines after that of the scaling function of luma. -/
def linesAfter : List Line := [
  scalingLine "\tsCb" "" [], scalingLine "\tsCr" "" [],
  numberLine "\tcY" [], numberLine "\tcCb" [0], numberLine "\tcCr" [0]]

/-- The line of the scaling function of luma. -/
def lumaLine (points : List (Int × Int)) : Line := scalingLine "\tsY" " " points

/-- Of the lines of the table of a curve only one depends on the curve. -/
theorem lines_wholeStream (curve : ScalingCurve) :
    (wholeStream curve).lines =
      linesBefore ++ lumaLine (storedPairs curve.points) :: linesAfter := by
  have hupdate : (GrainParams.ofCurve curve).updateParameters ≠ 0 := Int.one_ne_zero
  simp only [lines, wholeStream, List.flatMap_cons, List.flatMap_nil, GrainEntry.lines,
    if_neg hupdate, List.append_nil]
  rfl

theorem length_lumaLine_le (curve : ScalingCurve) :
    (lumaLine (storedPairs curve.points)).text.length ≤ 120 := by
  have hcount := length_pointCount_le curve.length_le
  have hpoints := length_coordinates_le curve.points
  have hmax : curve.points.length ≤ 14 := curve.length_le
  have hword : "\tsY".toList.length = 3 := by decide
  have hgap : " ".toList.length = 1 := by decide
  simp only [lumaLine, scalingLine, Line.text, Piece.text, List.flatMap_cons, List.flatMap_nil,
    List.length_append, List.length_nil, hword, hgap] at hcount hpoints ⊢
  omega

/-- **The table of a curve fits into the buffer**, so it is written when the file is closed. -/
theorem utf8ByteSize_wholeStream_lt (curve : ScalingCurve) :
    (wholeStream curve).text.utf8ByteSize < bufferSize := by
  have hbefore : (linesBefore.flatMap fun line => line.text ++ ['\n']).length ≤ 100 := by
    decide +kernel
  have hafter : (linesAfter.flatMap fun line => line.text ++ ['\n']).length ≤ 100 := by
    decide +kernel
  have hluma := length_lumaLine_le curve
  have hlength :
      ((wholeStream curve).lines.flatMap fun line => line.text ++ ['\n']).length ≤ 321 := by
    simp only [lines_wholeStream, List.flatMap_append, List.flatMap_cons, List.length_append,
      List.length_cons, List.length_nil]
    omega
  calc (wholeStream curve).text.utf8ByteSize
      ≤ 4 * ((wholeStream curve).lines.flatMap fun line => line.text ++ ['\n']).length :=
        utf8ByteSize_ofList_le _
    _ < bufferSize := by
        rw [bufferSize]
        omega

/-- Every integer of the table of a curve has at most nineteen digits. -/
theorem natAbs_lt_of_mem_integers {curve : ScalingCurve} {n : Int}
    (h : n ∈ (wholeStream curve).integers) : n.natAbs < 10 ^ 19 := by
  have hfixed : ∀ m ∈ (linesBefore ++ linesAfter).flatMap Line.integers, m.natAbs < 10 ^ 19 := by
    decide +kernel
  simp only [integers, lines_wholeStream, List.flatMap_append, List.flatMap_cons,
    List.mem_append] at h hfixed
  rcases h with hbefore | hluma | hafter
  · exact hfixed n (.inl hbefore)
  · simp only [lumaLine, scalingLine, Line.integers, Piece.integers, List.flatMap_cons,
      List.flatMap_nil, List.nil_append, List.append_nil, List.mem_append,
      List.mem_singleton] at hluma
    rcases hluma with rfl | hcoordinate
    · have hmax : curve.points.length ≤ 14 := curve.length_le
      rw [length_storedPairs]
      omega
    · obtain ⟨hnonneg, hlt⟩ := lt_of_mem_coordinates hcoordinate
      omega
  · exact hfixed n (.inr hafter)

/-- **The table of a curve always has a text**, whatever limit there is on integers. -/
theorem print_wholeStream (limit : DigitLimit) (curve : ScalingCurve) :
    (wholeStream curve).print limit = .ok (wholeStream curve).text :=
  DigitLimit.print_of_admits (fun _ hn =>
    DigitLimit.admits_of_lt (by decide) (natAbs_lt_of_mem_integers hn)) _

end GrainTable

end FilmGrain
