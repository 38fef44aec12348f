/-
**A reader of table texts.**

The reader sees the words of a text only, without the line ends and the tabs that lay it out.  It
takes them from the front in the order of the format: a paragraph is the word of its interval with
five integers, and, if the last of these is not zero, the words of the parameters with what belongs
to each.  Where the number of integers varies, the reader finds it in what it has read already: a
scaling function gives the number of its points, and the lag of the filters that of their
coefficients.

Main definitions:

* `FilmGrain.Text.words` — the words of a text;
* `FilmGrain.WordReader` — readers of words, with `WordReader.word`, `WordReader.integer`,
  `WordReader.integers`, `WordReader.points`, `WordReader.counted`;
* `FilmGrain.Paragraph` — what the text says of an entry;
* `WordReader.fields`, `WordReader.paragraph` — **the order of the format**;
* `GrainTable.read?` — the reader of a whole text.

Main results:

* `Text.words_append_blank` — a blank separates words;
* `WordReader.integer_bind` and its companions — what is read from the words of a print, whatever
  follows them.
-/

import FilmGrain.Proofs.Decimal.ReadBack
import FilmGrain.Table.Text

set_option autoImplicit false

namespace FilmGrain

/-! ### Words -/

namespace Text

/-- The words of a text: the longest pieces without a blank. -/
def words (text : List Char) : List (List Char) :=
  (text.splitOnP isBlank).filter fun piece => !piece.isEmpty

@[simp] theorem words_nil : words [] = [] := rfl

/-- A blank separates the words before it from those behind it. -/
theorem words_append_blank (before behind : List Char) {c : Char} (h : isBlank c = true) :
    words (before ++ c :: behind) = words before ++ words behind := by
  rw [words, List.splitOnP_append_cons before behind h, List.filter_append]
  rfl

/-- A text without blanks is a word. -/
theorem words_of_isWord {text : List Char} (hne : text ≠ [])
    (h : ∀ c ∈ text, isBlank c = false) : words text = [text] := by
  rw [words, List.splitOnP_eq_singleton h]
  simp [hne]

end Text

open Text

/-! ### Readers -/

/-- A reader takes words from the front of a list and leaves the others; it fails where it finds
none of the kind that it expects. -/
abbrev WordReader (α : Type) : Type := StateT (List (List Char)) Option α

namespace WordReader

variable {α : Type}

/-- The reader that finds nothing. -/
def mismatch : WordReader α := fun _ => none

/-- The reader of one given word. -/
def word (expected : String) : WordReader Unit
  | [] => none
  | first :: rest => if first = expected.toList then some ((), rest) else none

/-- The reader of an integer. -/
def integer : WordReader Int
  | [] => none
  | first :: rest => (Decimal.readInteger? .unlimited first).map fun n => (n, rest)

/-- The reader of a given number of integers. -/
def integers : Nat → WordReader (List Int)
  | 0 => pure []
  | count + 1 => do
      let n ← integer
      let others ← integers count
      return n :: others

/-- The reader of a given number of points. -/
def points : Nat → WordReader (List (Int × Int))
  | 0 => pure []
  | count + 1 => do
      let x ← integer
      let y ← integer
      let others ← points count
      return (x, y) :: others

/-- The reader of points behind their number. -/
def counted : WordReader (List (Int × Int)) := do
  let count ← integer
  if 0 ≤ count then points count.toNat else mismatch

/-- The reader of the coefficients of a filter. -/
def filter (plane : Plane) (lag : Int) : WordReader (List Int) :=
  integers (plane.coefficients lag).toNat

end WordReader

/-! ### The order of the format -/

/-- What the text says of an entry. -/
structure Paragraph where
  /-- The first instant. -/
  start : Int
  /-- The last instant. -/
  stop : Int
  /-- Whether grain is added at all. -/
  applyGrain : Int
  /-- The seed of the grain. -/
  randomSeed : Int
  /-- Whether parameters follow. -/
  updateParameters : Int
  /-- The fields of the parameters, if they follow. -/
  fields : Option GrainFields
deriving DecidableEq

namespace WordReader

/-- **The parameters in the order of the format**, behind the flags of the entry. -/
def fields (applyGrain randomSeed updateParameters : Int) : WordReader GrainFields := do
  word "p"
  let arCoeffLag ← integer
  let arCoeffShift ← integer
  let grainScaleShift ← integer
  let scalingShift ← integer
  let chromaScalingFromLuma ← integer
  let overlapFlag ← integer
  let cbMult ← integer
  let cbLumaMult ← integer
  let cbOffset ← integer
  let crMult ← integer
  let crLumaMult ← integer
  let crOffset ← integer
  word "sY"
  let scalingPointsY ← counted
  word "sCb"
  let scalingPointsCb ← counted
  word "sCr"
  let scalingPointsCr ← counted
  word "cY"
  let arCoeffsY ← filter .luma arCoeffLag
  word "cCb"
  let arCoeffsCb ← filter .blue arCoeffLag
  word "cCr"
  let arCoeffsCr ← filter .red arCoeffLag
  return {
    applyGrain, updateParameters, scalingPointsY, scalingPointsCb, scalingPointsCr, scalingShift,
    arCoeffLag, arCoeffsY, arCoeffsCb, arCoeffsCr, arCoeffShift, grainScaleShift, cbMult,
    cbLumaMult, cbOffset, crMult, crLumaMult, crOffset, overlapFlag, randomSeed,
    chromaScalingFromLuma }

/-- **The paragraph of an entry in the order of the format.** -/
def paragraph : WordReader Paragraph := do
  word "E"
  let start ← integer
  let stop ← integer
  let applyGrain ← integer
  let randomSeed ← integer
  let updateParameters ← integer
  if updateParameters = 0 then
    return { start, stop, applyGrain, randomSeed, updateParameters, fields := none }
  else
    let fields ← fields applyGrain randomSeed updateParameters
    return { start, stop, applyGrain, randomSeed, updateParameters, fields := some fields }

end WordReader

/-- The paragraphs that words make up, one behind the other and with nothing left. -/
def readParagraphs? (words : List (List Char)) : Option (List Paragraph) :=
  match words with
  | [] => some []
  | first :: rest =>
      match WordReader.paragraph (first :: rest) with
      | none => none
      | some (p, others) =>
          -- a paragraph takes a word at least, which is what the recursion ends by
          if others.length ≤ rest.length then (readParagraphs? others).map fun ps => p :: ps
          else none
termination_by words.length

/-- **What the text of a table says of its entries.** -/
def GrainTable.read? (text : String) : Option (List Paragraph) :=
  match Text.words text.toList with
  | [] => none
  | first :: rest => if first = magic.toList then readParagraphs? rest else none

/-! ### What is read from a print -/

namespace WordReader

variable {α : Type}

/-- A given word is taken. -/
theorem word_bind (expected : String) (next : Unit → WordReader α) (rest : List (List Char)) :
    (word expected >>= next) (expected.toList :: rest) = next () rest := by
  simp [bind, StateT.bind, word]

/-- The text of an integer is taken as that integer. -/
theorem integer_bind (n : Int) (next : Int → WordReader α) (rest : List (List Char)) :
    (integer >>= next) (integerText n :: rest) = next n rest := by
  simp [bind, StateT.bind, integer,
    Decimal.readInteger?_integerText (DigitLimit.admits_unlimited n)]

/-- The texts of integers are taken as these integers, if they are as many as expected. -/
theorem integers_bind {values : List Int} {count : Nat} (h : values.length = count)
    (next : List Int → WordReader α) (rest : List (List Char)) :
    (integers count >>= next) (values.map integerText ++ rest) = next values rest := by
  induction values generalizing count next with
  | nil =>
      subst h
      rfl
  | cons n others ih =>
      obtain ⟨k, rfl⟩ : ∃ k, count = k + 1 := ⟨others.length, by simpa using h.symm⟩
      have hk : others.length = k := by simpa using h
      simp only [integers, bind_assoc, pure_bind, List.map_cons, List.cons_append, integer_bind,
        ih hk]

/-- The coordinates of points are taken as these points, if they are as many as expected. -/
theorem points_bind {values : List (Int × Int)} {count : Nat} (h : values.length = count)
    (next : List (Int × Int) → WordReader α) (rest : List (List Char)) :
    (points count >>= next) ((coordinates values).map integerText ++ rest) =
      next values rest := by
  induction values generalizing count next with
  | nil =>
      subst h
      rfl
  | cons p others ih =>
      obtain ⟨k, rfl⟩ : ∃ k, count = k + 1 := ⟨others.length, by simpa using h.symm⟩
      have hk : others.length = k := by simpa using h
      rw [coordinates_cons]
      simp only [points, bind_assoc, pure_bind, List.cons_append, List.map_cons, integer_bind,
        ih hk]

/-- Points are taken behind their number. -/
theorem counted_bind (values : List (Int × Int)) (next : List (Int × Int) → WordReader α)
    (rest : List (List Char)) :
    (counted >>= next)
        (integerText values.length :: ((coordinates values).map integerText ++ rest)) =
      next values rest := by
  have hcount : (0 : Int) ≤ values.length := Int.natCast_nonneg _
  simp only [counted, bind_assoc, integer_bind, if_pos hcount, Int.toNat_natCast, points_bind rfl]

/-- The coefficients of a filter are taken, if they are as many as the lag asks for. -/
theorem filter_bind {plane : Plane} {g : GrainFields} {coefficients : List Int}
    (h : g.HasFilter plane coefficients) (next : List Int → WordReader α)
    (rest : List (List Char)) :
    (filter plane g.arCoeffLag >>= next) (coefficients.map integerText ++ rest) =
      next coefficients rest := by
  have hcount : coefficients.length = (plane.coefficients g.arCoeffLag).toNat := by
    have h : (coefficients.length : Int) = plane.coefficients g.arCoeffLag := h
    omega
  exact integers_bind hcount next rest

end WordReader

end FilmGrain
