/-
**The text of a grain table delimits itself.**

The words of a text are laid out in paragraphs whose lengths are not written down as such: they
follow from the flag of an entry, from the numbers of its points and from the lag of its filters.
The reader of `FilmGrain.Proofs.Table.Reader` finds the ends of all of them, since the filters of a
set of parameters have the length that the lag asks for.  It takes the paragraph of an entry from
the front of any words, whatever follows; so it takes a whole text, and what it recovers is all that
the text depends on.

Whether there is a text at all is up to the limit on integers, which is a setting of the host and no
part of the layout.  Where it is switched off every table has a text, with integers of any size;
else a table has one unless an integer in it is too long, and what is read back from a text is the
same for every limit.

Main definitions:

* `GrainEntry.paragraph` — what the text of a table says of an entry;
* `GrainEntry.Agree` — two entries agree on all of that;
* `GrainEntry.words`, `GrainFields.words` — the words of an entry and of its parameters.

Main results:

* `GrainTable.words_text` — the words of a text are those of the entries, in order;
* `GrainEntry.read_words` — **the paragraph of an entry is read whatever follows it**;
* `GrainTable.text_selfDelimiting` — **a text is read back whole, and two texts are the same
  exactly if the entries agree on what they print**.
-/

import FilmGrain.Proofs.Table.Reader
import Mathlib.Data.List.Forall2

set_option autoImplicit false

namespace FilmGrain

open Text

/-! ### The words of a line -/

theorem words_integerText (n : Int) : words (integerText n) = [integerText n] :=
  words_of_isWord (integerText_ne_nil n) fun _ hc => isBlank_of_mem_integerText hc

/-- Integers behind blanks are words of their own. -/
theorem words_append_numbers (before : List Char) (values : List Int) :
    words (before ++ numbers values) = words before ++ values.map integerText := by
  induction values generalizing before with
  | nil => simp [numbers]
  | cons n others ih =>
      have hnumbers : numbers (n :: others) = ' ' :: (integerText n ++ numbers others) := rfl
      rw [hnumbers, words_append_blank before _ (by decide), ih, words_integerText]
      rfl

/-- Blanks at the end of a text are no words. -/
theorem words_append_blanks (before : List Char) {gap : List Char}
    (h : ∀ c ∈ gap, isBlank c = true) : words (before ++ gap) = words before := by
  induction gap generalizing before with
  | nil => rw [List.append_nil]
  | cons c rest ih =>
      have hrest : words rest = [] := ih [] fun d hd => h d (List.mem_cons_of_mem c hd)
      rw [words_append_blank before rest (h c List.mem_cons_self), hrest, List.append_nil]

/-- A line of integers holds its name and the integers. -/
theorem words_numberLine {name : String} {first : List Char} (hname : words name.toList = [first])
    (values : List Int) :
    words (numberLine name values).text = first :: values.map integerText := by
  have htext : (numberLine name values).text = name.toList ++ numbers values := by
    simp [Line.text, numberLine, Piece.text]
  rw [htext, words_append_numbers, hname]
  rfl

/-- Lines are texts that the line ends separate. -/
theorem words_lines (lines : List Line) :
    words (lines.flatMap fun line => line.text ++ ['\n']) =
      lines.flatMap fun line => words line.text := by
  induction lines with
  | nil => rfl
  | cons line others ih =>
      have hjoin : (line :: others).flatMap (fun line => line.text ++ ['\n'])
          = line.text ++ '\n' :: others.flatMap fun line => line.text ++ ['\n'] := by
        simp
      rw [hjoin, words_append_blank line.text _ (by decide), ih, List.flatMap_cons]

/-! ### The words of an entry -/

/-- The words of a scaling function: its name, the number of its points and their coordinates. -/
def scalingWords (name : String) (points : List (Int × Int)) : List (List Char) :=
  name.toList :: integerText points.length :: (coordinates points).map integerText

/-- A line of a scaling function holds its words, whatever blanks there are behind the number. -/
theorem words_scalingLine {name : String} {first gap : String}
    (hname : words name.toList = [first.toList]) (hgap : ∀ c ∈ gap.toList, isBlank c = true)
    (points : List (Int × Int)) :
    words (scalingLine name gap points).text = scalingWords first points := by
  have htext : (scalingLine name gap points).text =
      name.toList ++ numbers [(points.length : Int)] ++ gap.toList
        ++ numbers (coordinates points) := by
    simp [Line.text, scalingLine, Piece.text]
  rw [htext, words_append_numbers, words_append_blanks _ hgap, words_append_numbers, hname]
  rfl

/-- The words of a filter: its name and its coefficients. -/
def filterWords (name : String) (coefficients : List Int) : List (List Char) :=
  name.toList :: coefficients.map integerText

namespace GrainFields

/-- The words of the parameters. -/
def words (g : GrainFields) : List (List Char) :=
  "p".toList :: ([g.arCoeffLag, g.arCoeffShift, g.grainScaleShift, g.scalingShift,
      g.chromaScalingFromLuma, g.overlapFlag, g.cbMult, g.cbLumaMult, g.cbOffset, g.crMult,
      g.crLumaMult, g.crOffset].map integerText
    ++ (scalingWords "sY" g.scalingPointsY
    ++ (scalingWords "sCb" g.scalingPointsCb
    ++ (scalingWords "sCr" g.scalingPointsCr
    ++ (filterWords "cY" g.arCoeffsY
    ++ (filterWords "cCb" g.arCoeffsCb
    ++ filterWords "cCr" g.arCoeffsCr))))))

/-- The lines of the parameters hold their words. -/
theorem words_lines (g : GrainFields) :
    (g.lines.flatMap fun line => Text.words line.text) = g.words := by
  have hp : Text.words "\tp".toList = ["p".toList] := by decide
  have hsY : Text.words "\tsY".toList = ["sY".toList] := by decide
  have hsCb : Text.words "\tsCb".toList = ["sCb".toList] := by decide
  have hsCr : Text.words "\tsCr".toList = ["sCr".toList] := by decide
  have hcY : Text.words "\tcY".toList = ["cY".toList] := by decide
  have hcCb : Text.words "\tcCb".toList = ["cCb".toList] := by decide
  have hcCr : Text.words "\tcCr".toList = ["cCr".toList] := by decide
  have hblank : ∀ c ∈ " ".toList, isBlank c = true := List.forall_mem_singleton.2 rfl
  have hnone : ∀ c ∈ "".toList, isBlank c = true := List.forall_mem_nil _
  simp only [lines, List.flatMap_cons, List.flatMap_nil, List.append_nil, words_numberLine hp,
    words_scalingLine hsY hblank, words_scalingLine hsCb hnone, words_scalingLine hsCr hnone,
    words_numberLine hcY, words_numberLine hcCb, words_numberLine hcCr]
  rfl

end GrainFields

namespace GrainEntry

/-- What the text of a table says of an entry. -/
def paragraph (e : GrainEntry) : Paragraph where
  start := e.start
  stop := e.stop
  applyGrain := e.params.applyGrain
  randomSeed := e.params.randomSeed
  updateParameters := e.params.updateParameters
  fields := if e.params.updateParameters = 0 then none else some e.params.toGrainFields

/-- The words of an entry. -/
def words (e : GrainEntry) : List (List Char) :=
  "E".toList :: ([e.start, e.stop, e.params.applyGrain, e.params.randomSeed,
      e.params.updateParameters].map integerText
    ++ if e.params.updateParameters = 0 then [] else e.params.toGrainFields.words)

/-- The lines of an entry hold its words. -/
theorem words_lines (e : GrainEntry) :
    (e.lines.flatMap fun line => Text.words line.text) = e.words := by
  have hhead : Text.words e.headLine.text = "E".toList :: [e.start, e.stop, e.params.applyGrain,
      e.params.randomSeed, e.params.updateParameters].map integerText :=
    words_numberLine (by decide) _
  by_cases hkeep : e.params.updateParameters = 0
  · rw [lines_of_keep hkeep, words, if_pos hkeep, List.flatMap_singleton, hhead, List.append_nil]
  · rw [lines, if_neg hkeep, words, if_neg hkeep, List.flatMap_cons, hhead,
      GrainFields.words_lines]
    rfl

end GrainEntry

/-- The words of a text are those of its entries, in order, behind the name of the format. -/
theorem GrainTable.words_text (t : GrainTable) :
    Text.words t.text.toList = magic.toList :: t.entries.flatMap GrainEntry.words := by
  have hmagic : Text.words (Line.text [.mark magic]) = [magic.toList] := by decide
  have hentries : ((t.entries.flatMap GrainEntry.lines).flatMap fun line => Text.words line.text)
      = t.entries.flatMap GrainEntry.words := by
    rw [List.flatMap_assoc]
    exact List.flatMap_congr fun e _ => e.words_lines
  rw [text, String.toList_ofList, FilmGrain.words_lines, lines, List.flatMap_cons, hmagic, hentries]
  rfl

/-! ### Reading the words -/

/-- The parameters are read whatever follows them. -/
theorem GrainParams.read_words (p : GrainParams) (rest : List (List Char)) :
    WordReader.fields p.applyGrain p.randomSeed p.updateParameters
        (p.toGrainFields.words ++ rest) = some (p.toGrainFields, rest) := by
  simp only [WordReader.fields, GrainFields.words, scalingWords, filterWords, List.map_cons,
    List.map_nil, List.cons_append, List.nil_append, List.append_assoc, WordReader.word_bind,
    WordReader.integer_bind, WordReader.counted_bind, WordReader.filter_bind p.luma_filter,
    WordReader.filter_bind p.blue_filter, WordReader.filter_bind p.red_filter]
  rfl

/-- **The paragraph of an entry is read whatever follows it.** -/
theorem GrainEntry.read_words (e : GrainEntry) (rest : List (List Char)) :
    WordReader.paragraph (e.words ++ rest) = some (e.paragraph, rest) := by
  simp only [WordReader.paragraph, words, List.map_cons, List.map_nil, List.cons_append,
    List.nil_append, WordReader.word_bind, WordReader.integer_bind]
  by_cases hkeep : e.params.updateParameters = 0
  · simp only [if_pos hkeep, paragraph, List.nil_append]
    rfl
  · have hfields := e.params.read_words rest
    simp only [if_neg hkeep, paragraph, bind, StateT.bind, hfields]
    rfl

/-- The paragraphs of entries are read one behind the other. -/
theorem readParagraphs?_words (entries : List GrainEntry) :
    readParagraphs? (entries.flatMap GrainEntry.words) =
      some (entries.map GrainEntry.paragraph) := by
  induction entries with
  | nil => rw [List.flatMap_nil, readParagraphs?, List.map_nil]
  | cons e others ih =>
      obtain ⟨tail, hwords⟩ : ∃ tail, e.words = "E".toList :: tail := ⟨_, rfl⟩
      have hread := e.read_words (others.flatMap GrainEntry.words)
      rw [hwords, List.cons_append] at hread
      have hshorter : (others.flatMap GrainEntry.words).length
          ≤ (tail ++ others.flatMap GrainEntry.words).length := by
        rw [List.length_append]
        omega
      rw [List.flatMap_cons, hwords, List.cons_append, readParagraphs?, hread]
      simp only [if_pos hshorter, ih, Option.map_some, List.map_cons]

namespace GrainTable

theorem read?_text (t : GrainTable) : read? t.text = some (t.entries.map GrainEntry.paragraph) := by
  rw [read?, words_text]
  simp only [if_true, readParagraphs?_words]

end GrainTable

/-! ### What a text depends on -/

/-- Two entries agree on their intervals and flags, and on all parameters unless the flag says that
those in force are left. -/
structure GrainEntry.Agree (d e : GrainEntry) : Prop where
  start : d.start = e.start
  stop : d.stop = e.stop
  applyGrain : d.params.applyGrain = e.params.applyGrain
  randomSeed : d.params.randomSeed = e.params.randomSeed
  updateParameters : d.params.updateParameters = e.params.updateParameters
  fields : d.params.updateParameters ≠ 0 → d.params.toGrainFields = e.params.toGrainFields

namespace GrainEntry

theorem paragraph_eq_iff (d e : GrainEntry) : d.paragraph = e.paragraph ↔ d.Agree e := by
  constructor
  · intro h
    simp only [paragraph, Paragraph.mk.injEq] at h
    obtain ⟨hstart, hstop, happly, hseed, hupdate, hfields⟩ := h
    refine ⟨hstart, hstop, happly, hseed, hupdate, fun hne => ?_⟩
    rwa [if_neg hne, if_neg (hupdate ▸ hne), Option.some.injEq] at hfields
  · rintro ⟨hstart, hstop, happly, hseed, hupdate, hfields⟩
    have hbody : d.paragraph.fields = e.paragraph.fields := by
      by_cases hkeep : d.params.updateParameters = 0
      · simp only [paragraph, if_pos hkeep, if_pos (hupdate ▸ hkeep)]
      · simp only [paragraph, if_neg (hupdate ▸ hkeep), hfields hkeep]
    simp only [Paragraph.mk.injEq, paragraph]
    exact ⟨hstart, hstop, happly, hseed, hupdate, hbody⟩

/-- Entries that agree have the same lines. -/
theorem Agree.lines_eq {d e : GrainEntry} (h : d.Agree e) : d.lines = e.lines := by
  have hhead : d.headLine = e.headLine := by
    simp only [headLine, h.start, h.stop, h.applyGrain, h.randomSeed, h.updateParameters]
  by_cases hkeep : d.params.updateParameters = 0
  · rw [lines_of_keep hkeep, lines_of_keep (h.updateParameters ▸ hkeep), hhead]
  · rw [lines, if_neg hkeep, lines, if_neg (h.updateParameters ▸ hkeep), hhead, h.fields hkeep]

end GrainEntry

theorem flatMap_lines_of_agree {ds es : List GrainEntry} (h : List.Forall₂ GrainEntry.Agree ds es) :
    ds.flatMap GrainEntry.lines = es.flatMap GrainEntry.lines := by
  induction h with
  | nil => rfl
  | cons hagree _ ih => rw [List.flatMap_cons, List.flatMap_cons, hagree.lines_eq, ih]

namespace GrainTable

variable {limit : DigitLimit} {t u : GrainTable}

/-- Tables whose entries agree have the same lines. -/
theorem lines_eq_of_agree (h : List.Forall₂ GrainEntry.Agree t.entries u.entries) :
    t.lines = u.lines := by
  rw [lines, lines, flatMap_lines_of_agree h]

/-- Tables with the same text agree. -/
theorem agree_of_text_eq (h : t.text = u.text) :
    List.Forall₂ GrainEntry.Agree t.entries u.entries := by
  have hread : some (t.entries.map GrainEntry.paragraph)
      = some (u.entries.map GrainEntry.paragraph) := by
    rw [← read?_text, ← read?_text, h]
  have hmap := Option.some.inj hread
  rw [← List.forall₂_eq_eq_eq, List.forall₂_map_left_iff, List.forall₂_map_right_iff] at hmap
  exact hmap.imp fun d e => (d.paragraph_eq_iff e).1

/-- What may be written depends on the lines only, and so does the text. -/
theorem print_eq_of_agree (h : List.Forall₂ GrainEntry.Agree t.entries u.entries) :
    t.print limit = u.print limit := by
  rw [print, print, integers, integers, text, text, lines_eq_of_agree h]

/-- **A text is read back whole, and two texts are the same exactly if the entries agree on what
they print.**  Without a limit on integers every table has a text, and with one those tables have
one whose integers are all short enough. -/
theorem text_selfDelimiting (limit : DigitLimit) (t : GrainTable) :
    (∃ text, t.print .unlimited = .ok text) ∧
    ((∃ text, t.print limit = .ok text) ↔ ∀ n ∈ t.integers, limit.Admits n) ∧
    ∀ text, t.print limit = .ok text →
      read? text = some (t.entries.map GrainEntry.paragraph) ∧
      ∀ u : GrainTable,
        u.print limit = .ok text ↔ List.Forall₂ GrainEntry.Agree t.entries u.entries := by
  refine ⟨⟨_, print_eq_ok_iff.2 ⟨fun n _ => DigitLimit.admits_unlimited n, rfl⟩⟩, ?_, ?_⟩
  · constructor
    · rintro ⟨text, hprint⟩
      exact (print_eq_ok_iff.1 hprint).1
    · exact fun hadmits => ⟨_, print_eq_ok_iff.2 ⟨hadmits, rfl⟩⟩
  · intro text hprint
    obtain ⟨hadmits, rfl⟩ := print_eq_ok_iff.1 hprint
    refine ⟨t.read?_text, fun u => ⟨fun hother => ?_, fun hagree => ?_⟩⟩
    · exact agree_of_text_eq (print_eq_ok_iff.1 hother).2
    · rw [← print_eq_of_agree hagree, hprint]

end GrainTable

end FilmGrain
