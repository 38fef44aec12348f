/-
**The text of a grain table.**

A table is written as a first line that names the format and one paragraph for each entry.  The
line of an entry holds its interval and three flags; the parameters follow on seven more lines,
unless the entry leaves the parameters in force.  Each line is a word and integers, all separated
by blanks; scaling functions give the number of their points first.

Main definitions:

* `FilmGrain.Piece`, `FilmGrain.Line` — lines, put together from words and integers;
* `GrainEntry.lines` — the paragraph of an entry;
* `GrainTable.text` — **the text of a table**, and `GrainTable.integers`, the integers in it;
* `GrainTable.print` — the text where there is a limit on integers.

Main results:

* `GrainEntry.lines_of_keep` — an entry that leaves the parameters in force is one line;
* `GrainTable.print_eq_ok_iff` — **which tables have a text where there is a limit**.
-/

import FilmGrain.Decimal.Limit
import FilmGrain.Table.Basic

set_option autoImplicit false

namespace FilmGrain

/-! ### Lines -/

/-- Integers, each behind a blank. -/
def numbers (values : List Int) : List Char := values.flatMap fun n => ' ' :: integerText n

/-- A piece of a line. -/
inductive Piece where
  /-- A text that stands as it is. -/
  | mark (text : String)
  /-- Integers, each behind a blank. -/
  | numbers (values : List Int)

/-- The text of a piece. -/
def Piece.text : Piece → List Char
  | mark text => text.toList
  | numbers values => FilmGrain.numbers values

/-- The integers of a piece. -/
def Piece.integers : Piece → List Int
  | mark _ => []
  | numbers values => values

/-- A line, by its pieces. -/
abbrev Line : Type := List Piece

/-- The text of a line. -/
def Line.text (line : Line) : List Char := line.flatMap Piece.text

/-- The integers of a line. -/
def Line.integers (line : Line) : List Int := line.flatMap Piece.integers

/-- The coordinates of points. -/
def coordinates (points : List (Int × Int)) : List Int := points.flatMap fun p => [p.1, p.2]

theorem coordinates_cons (p : Int × Int) (points : List (Int × Int)) :
    coordinates (p :: points) = p.1 :: p.2 :: coordinates points := rfl

/-- The line of a scaling function: the number of its points and their coordinates, with a text
between them. -/
def scalingLine (name gap : String) (points : List (Int × Int)) : Line :=
  [.mark name, .numbers [(points.length : Int)], .mark gap, .numbers (coordinates points)]

/-- The line of integers behind a name. -/
def numberLine (name : String) (values : List Int) : Line := [.mark name, .numbers values]

namespace GrainFields

/-- The lines of the parameters.  In the line of the luma scaling function one more blank follows
the number of points. -/
def lines (g : GrainFields) : List Line := [
  numberLine "\tp" [g.arCoeffLag, g.arCoeffShift, g.grainScaleShift, g.scalingShift,
    g.chromaScalingFromLuma, g.overlapFlag, g.cbMult, g.cbLumaMult, g.cbOffset, g.crMult,
    g.crLumaMult, g.crOffset],
  scalingLine "\tsY" " " g.scalingPointsY,
  scalingLine "\tsCb" "" g.scalingPointsCb,
  scalingLine "\tsCr" "" g.scalingPointsCr,
  numberLine "\tcY" g.arCoeffsY,
  numberLine "\tcCb" g.arCoeffsCb,
  numberLine "\tcCr" g.arCoeffsCr]

end GrainFields

namespace GrainEntry

/-- The line of an entry's interval and flags. -/
def headLine (e : GrainEntry) : Line :=
  numberLine "E" [e.start, e.stop, e.params.applyGrain, e.params.randomSeed,
    e.params.updateParameters]

/-- The lines of an entry. -/
def lines (e : GrainEntry) : List Line :=
  if e.params.updateParameters = 0 then [e.headLine]
  else e.headLine :: e.params.toGrainFields.lines

/-- An entry that leaves the parameters in force is one line. -/
theorem lines_of_keep {e : GrainEntry} (h : e.params.updateParameters = 0) :
    e.lines = [e.headLine] := by
  rw [lines, if_pos h]

end GrainEntry

/-! ### Tables -/

namespace GrainTable

/-- The first line of the text of a table. -/
def magic : String := "filmgrn1"

/-- The lines of a table. -/
def lines (t : GrainTable) : List Line :=
  [.mark magic] :: t.entries.flatMap GrainEntry.lines

/-- **The text of a table**: its lines, each with a line end. -/
def text (t : GrainTable) : String :=
  String.ofList (t.lines.flatMap fun line => line.text ++ ['\n'])

/-- The integers in the text of a table. -/
def integers (t : GrainTable) : List Int := t.lines.flatMap Line.integers

/-- **The text of a table as it is written**: a refusal if one of its integers is too long. -/
def print (limit : DigitLimit) (t : GrainTable) : Except Overlong String :=
  limit.print t.integers t.text

/-- **A table has a text if all its integers may be written.** -/
theorem print_eq_ok_iff {limit : DigitLimit} {t : GrainTable} {text : String} :
    t.print limit = .ok text ↔ (∀ n ∈ t.integers, limit.Admits n) ∧ text = t.text :=
  DigitLimit.print_eq_ok_iff

end GrainTable

end FilmGrain
