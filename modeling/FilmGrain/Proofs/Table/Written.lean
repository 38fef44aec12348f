/-
**What becomes of a table that is written.**

The file of a table is opened, written and closed, and each of the three may fail.  A file that is
not opened or not written is reported with its path.  A file that is not closed is not: the fault is
passed on as the system describes it, also in the place of one of the writing.  A text that is
shorter than the buffer reaches the file only when it is closed, so for such a text there is no
fault of the writing, and a device without space is reported for the long texts only.

Two more things keep a table from its file, and neither is a fault of the file system: its name may
have no form in the encoding of the system, and there may be no text, where an integer is longer
than the limit.

Main definitions:

* `GrainTable.Flushed` — what a file takes before it is closed;
* `GrainTable.WriteEnd` — **what the writing of a table can come to**;
* `FilmGrain.Stage`, `GrainTable.Fails` — the stages of the writing, and their faults;
* `WriteError.Reports` — a failure that is reported with the path of the file.

Main results:

* `GrainTable.write_eq_iff` — **the writing of a table comes to exactly one of its ends**;
* `GrainTable.write_fullDevice` — what a device without space comes to;
* `GrainTable.write_reports_iff` — **a fault is reported exactly if the file can be closed**.
-/

import FilmGrain.Proofs.Files.Frame
import FilmGrain.Proofs.Table.Size

set_option autoImplicit false

namespace FilmGrain

/-! ### Steps -/

section Steps

variable {σ δ ε α β : Type} {s after : σ} {fault : δ}

/-- The next step after one that succeeds. -/
theorem run_bind_of_ok {p : ExceptT ε (StateM σ) α} {a : α} (h : p.run.run s = (.ok a, after))
    (f : α → ExceptT ε (StateM σ) β) : (p >>= f).run.run s = (f a).run.run after := by
  rw [ExceptT.run_bind, StateT.run_bind, h]
  rfl

/-- Nothing is done after a step that fails. -/
theorem run_bind_of_error {p : ExceptT ε (StateM σ) α} {error : ε}
    (h : p.run.run s = (.error error, after)) (f : α → ExceptT ε (StateM σ) β) :
    (p >>= f).run.run s = (.error error, after) := by
  rw [ExceptT.run_bind, StateT.run_bind, h]
  rfl

theorem run_lift_of_eq {action : StateM σ α} {a : α} (h : action.run s = (a, after)) :
    (liftM action : ExceptT ε (StateM σ) α).run.run s = (.ok a, after) := by
  change (Except.ok (action.run s).1, (action.run s).2) = _
  rw [h]

theorem run_causing {operation : StateM σ (Except δ α)} {result : Except δ α}
    (h : operation.run s = (result, after)) (cause : δ → ε) :
    (causing cause operation).run.run s = (result.mapError cause, after) := by
  change ((operation.run s).1.mapError cause, (operation.run s).2) = _
  rw [h]

end Steps

namespace GrainTable

variable {σ : Type} {disk : Disk (StateM σ)} {limit : DigitLimit} {t : GrainTable} {path : Path}
  {s opened flushed after : σ} {text rest : String} {fault : FileFault}
  {printed : Except Overlong String} {taken : Except WriteError Unit}
  {result : Except WriteError Path}

/-! ### What a file takes before it is closed -/

/-- What the file has taken of what a table is printed to before it is closed, and what is left of
the text.  A text that is shorter than the buffer is all left. -/
inductive Flushed (disk : Disk (StateM σ)) (path : Path) (s : σ) :
    Except Overlong String → Except WriteError Unit → String → σ → Prop
  /-- There is no text. -/
  | unprinted {error : Overlong} :
      Flushed disk path s (.error error) (.error (.overlong error)) "" s
  /-- Nothing is written yet. -/
  | short {text : String} (hshort : text.utf8ByteSize < bufferSize) :
      Flushed disk path s (.ok text) (.ok ()) text s
  /-- The text was written, or refused. -/
  | long {text : String} {written : Except FileFault Unit} {after : σ}
      (hlong : bufferSize ≤ text.utf8ByteSize)
      (hwrite : (disk.write path text).run s = (written, after)) :
      Flushed disk path s (.ok text) (written.mapError (.notWritten path)) "" after

theorem exists_flushed (disk : Disk (StateM σ)) (path : Path) (printed : Except Overlong String)
    (s : σ) : ∃ taken rest after, Flushed disk path s printed taken rest after := by
  rcases printed with error | text
  · exact ⟨_, _, _, .unprinted⟩
  · rcases Nat.lt_or_ge text.utf8ByteSize bufferSize with hshort | hlong
    · exact ⟨_, _, _, .short hshort⟩
    · exact ⟨_, _, _, .long hlong rfl⟩

/-- A file that refuses nothing was given a text. -/
theorem Flushed.exists_text (h : Flushed disk path s printed taken rest after)
    (htaken : taken = .ok ()) : ∃ text, printed = .ok text := by
  cases h with
  | unprinted => cases htaken
  | short | long => exact ⟨_, rfl⟩

/-- Where the closing fails, nothing else is reported. -/
theorem writePrinted_of_notClosed (hflush : Flushed disk path s printed taken rest flushed)
    (hclose : (disk.close path rest).run flushed = (.error fault, after)) :
    (writePrinted disk path printed).run.run s = (.error (.notClosed fault), after) := by
  cases hflush with
  | unprinted => exact run_bind_of_error (run_causing hclose _) _
  | short hshort =>
      rw [writePrinted, writeOpen, if_pos hshort]
      exact run_causing hclose _
  | long hlong hwrite =>
      rw [writePrinted, writeOpen, if_neg (Nat.not_lt.2 hlong)]
      exact (run_bind_of_ok (run_lift_of_eq hwrite) _).trans
        (run_bind_of_error (run_causing hclose _) _)

/-- Where it does not, what kept the file from taking the text is reported, if there is such a
thing. -/
theorem writePrinted_of_closed (hflush : Flushed disk path s printed taken rest flushed)
    (hclose : (disk.close path rest).run flushed = (.ok (), after)) :
    (writePrinted disk path printed).run.run s = (taken, after) := by
  cases hflush with
  | unprinted => exact run_bind_of_ok (run_causing hclose _) _
  | short hshort =>
      rw [writePrinted, writeOpen, if_pos hshort]
      exact run_causing hclose _
  | long hlong hwrite =>
      rw [writePrinted, writeOpen, if_neg (Nat.not_lt.2 hlong)]
      exact (run_bind_of_ok (run_lift_of_eq hwrite) _).trans
        (run_bind_of_ok (run_causing hclose _) _)

/-! ### The ends of the writing -/

/-- **What the writing of a table can come to**: a result, and the state after it. -/
inductive WriteEnd (disk : Disk (StateM σ)) (limit : DigitLimit) (t : GrainTable) (path : Path)
    (s : σ) : Except WriteError Path → σ → Prop
  /-- The name of the file has no form. -/
  | unnameable {fault : Fault} {after : σ}
      (hopen : (disk.openFile path).run s = (.error (.unnameable fault), after)) :
      WriteEnd disk limit t path s (.error (.unnameable fault)) after
  /-- The file is not opened. -/
  | notOpened {fault : FileFault} {after : σ}
      (hopen : (disk.openFile path).run s = (.error (.refused fault), after)) :
      WriteEnd disk limit t path s (.error (.notOpened path fault)) after
  /-- It is not closed, whatever became of the text before. -/
  | notClosed {fault : FileFault} {taken : Except WriteError Unit} {opened flushed after : σ}
      {rest : String} (hopen : (disk.openFile path).run s = (.ok (), opened))
      (hflush : Flushed disk path opened (t.print limit) taken rest flushed)
      (hclose : (disk.close path rest).run flushed = (.error fault, after)) :
      WriteEnd disk limit t path s (.error (.notClosed fault)) after
  /-- It is closed, and there is no text. -/
  | overlong {error : Overlong} {opened after : σ}
      (hopen : (disk.openFile path).run s = (.ok (), opened))
      (hprint : t.print limit = .error error)
      (hclose : (disk.close path "").run opened = (.ok (), after)) :
      WriteEnd disk limit t path s (.error (.overlong error)) after
  /-- It is closed, but did not take the text. -/
  | notWritten {text : String} {fault : FileFault} {opened flushed after : σ}
      (hopen : (disk.openFile path).run s = (.ok (), opened))
      (hprint : t.print limit = .ok text) (hlong : bufferSize ≤ text.utf8ByteSize)
      (hwrite : (disk.write path text).run opened = (.error fault, flushed))
      (hclose : (disk.close path "").run flushed = (.ok (), after)) :
      WriteEnd disk limit t path s (.error (.notWritten path fault)) after
  /-- The text is written. -/
  | written {opened flushed after : σ} {rest : String}
      (hopen : (disk.openFile path).run s = (.ok (), opened))
      (hflush : Flushed disk path opened (t.print limit) (.ok ()) rest flushed)
      (hclose : (disk.close path rest).run flushed = (.ok (), after)) :
      WriteEnd disk limit t path s (.ok path) after

theorem write_of_opened {taken : Except WriteError Unit}
    (hopen : (disk.openFile path).run s = (.ok (), opened))
    (hprinted : (writePrinted disk path (t.print limit)).run.run opened = (taken, after)) :
    (t.write disk limit path).run.run s = (taken.map fun _ => path, after) := by
  refine (run_bind_of_ok (run_causing hopen _) _).trans ?_
  cases taken with
  | error error => exact run_bind_of_error hprinted _
  | ok => exact run_bind_of_ok hprinted _

/-- What is written where an end is due. -/
theorem WriteEnd.write_eq (h : WriteEnd disk limit t path s result after) :
    (t.write disk limit path).run.run s = (result, after) := by
  cases h with
  | unnameable hopen | notOpened hopen => exact run_bind_of_error (run_causing hopen _) _
  | notClosed hopen hflush hclose =>
      exact write_of_opened hopen (writePrinted_of_notClosed hflush hclose)
  | overlong hopen hprint hclose =>
      exact write_of_opened hopen (hprint ▸ writePrinted_of_closed .unprinted hclose)
  | notWritten hopen hprint hlong hwrite hclose =>
      exact write_of_opened hopen (hprint ▸ writePrinted_of_closed (.long hlong hwrite) hclose)
  | written hopen hflush hclose =>
      exact write_of_opened hopen (writePrinted_of_closed hflush hclose)

/-- There is an end of every file that is closed. -/
theorem exists_writeEnd_of_closed (hopen : (disk.openFile path).run s = (.ok (), opened))
    (hflush : Flushed disk path opened (t.print limit) taken rest flushed)
    (hclose : (disk.close path rest).run flushed = (.ok (), after)) :
    ∃ result, WriteEnd disk limit t path s result after := by
  generalize hprint : t.print limit = printed at hflush
  cases hflush with
  | unprinted => exact ⟨_, .overlong hopen hprint hclose⟩
  | short hshort => exact ⟨_, .written hopen (hprint ▸ .short hshort) hclose⟩
  | @long _ written _ hlong hwrite =>
      rcases written with fault | ⟨⟩
      · exact ⟨_, .notWritten hopen hprint hlong hwrite hclose⟩
      · exact ⟨_, .written hopen (hprint ▸ .long hlong hwrite) hclose⟩

/-- There is always an end. -/
theorem exists_writeEnd (disk : Disk (StateM σ)) (limit : DigitLimit) (t : GrainTable) (path : Path)
    (s : σ) : ∃ result after, WriteEnd disk limit t path s result after := by
  rcases hopen : (disk.openFile path).run s with ⟨(fault | fault) | ⟨⟩, opened⟩
  · exact ⟨_, _, .notOpened hopen⟩
  · exact ⟨_, _, .unnameable hopen⟩
  · obtain ⟨taken, rest, flushed, hflush⟩ := exists_flushed disk path (t.print limit) opened
    rcases hclose : (disk.close path rest).run flushed with ⟨fault | ⟨⟩, after⟩
    · exact ⟨_, _, .notClosed hopen hflush hclose⟩
    · obtain ⟨result, hend⟩ := exists_writeEnd_of_closed hopen hflush hclose
      exact ⟨result, after, hend⟩

/-- **The writing of a table comes to exactly one of its ends.** -/
theorem write_eq_iff :
    (t.write disk limit path).run.run s = (result, after) ↔
      WriteEnd disk limit t path s result after := by
  refine ⟨fun hwrite => ?_, WriteEnd.write_eq⟩
  obtain ⟨other, place, hend⟩ := exists_writeEnd disk limit t path s
  obtain ⟨rfl, rfl⟩ := Prod.mk.inj (hwrite.symm.trans hend.write_eq)
  exact hend

end GrainTable

/-! ### Faults -/

/-- The stages of the writing of a file. -/
inductive Stage where
  | opening
  | writing
  | closing
deriving DecidableEq

/-- A failure that is reported with the path of the file, and with what was tried. -/
def WriteError.Reports (path : Path) (error : WriteError) : Prop :=
  ∃ fault,
    (error = .notOpened path fault ∧
      error.message = "Unable to open file " ++ path.text ++ " (" ++ fault.reason ++ ")") ∨
    (error = .notWritten path fault ∧
      error.message = "Unable to write file " ++ path.text ++ " (" ++ fault.reason ++ ")")

namespace WriteError

theorem reports_notOpened (path : Path) (fault : FileFault) : (notOpened path fault).Reports path :=
  ⟨fault, .inl ⟨rfl, rfl⟩⟩

theorem reports_notWritten (path : Path) (fault : FileFault) :
    (notWritten path fault).Reports path := ⟨fault, .inr ⟨rfl, rfl⟩⟩

end WriteError

namespace GrainTable

variable {σ : Type} {disk : Disk (StateM σ)} {limit : DigitLimit} {t : GrainTable} {path : Path}
  {s : σ} {fault : FileFault}

/-- **The fault of a stage.**  The file is closed also after a fault of the writing. -/
inductive Fails (disk : Disk (StateM σ)) (limit : DigitLimit) (t : GrainTable) (path : Path)
    (s : σ) : Stage → FileFault → Prop
  | opening {fault : FileFault} {after : σ}
      (hopen : (disk.openFile path).run s = (.error (.refused fault), after)) :
      Fails disk limit t path s .opening fault
  | writing {fault : FileFault} {text : String} {opened flushed : σ}
      (hopen : (disk.openFile path).run s = (.ok (), opened))
      (hprint : t.print limit = .ok text) (hlong : bufferSize ≤ text.utf8ByteSize)
      (hwrite : (disk.write path text).run opened = (.error fault, flushed)) :
      Fails disk limit t path s .writing fault
  | closing {fault : FileFault} {taken : Except WriteError Unit} {opened flushed after : σ}
      {rest : String} (hopen : (disk.openFile path).run s = (.ok (), opened))
      (hflush : Flushed disk path opened (t.print limit) taken rest flushed)
      (hclose : (disk.close path rest).run flushed = (.error fault, after)) :
      Fails disk limit t path s .closing fault

/-- The name of the file has no form in the encoding of the system. -/
def Unnameable (disk : Disk (StateM σ)) (path : Path) (s : σ) : Prop :=
  path.hasNull = true ∨
    ∃ fault after, (disk.openEmpty path).run s = (.error (.unnameable fault), after)

/-- Some integer of the table is too long to be written. -/
def HasOverlong (limit : DigitLimit) (t : GrainTable) : Prop :=
  ∃ n ∈ t.integers, ¬ limit.Admits n

/-! ### What is reported -/

/-- That is when the file is not opened for its name. -/
theorem unnameable_iff :
    Unnameable disk path s ↔
      ∃ fault after, (disk.openFile path).run s = (.error (.unnameable fault), after) := by
  rw [Unnameable, Disk.openFile]
  cases path.hasNull with
  | true => exact iff_of_true (.inl rfl) ⟨_, _, rfl⟩
  | false => simp

/-- A fault of the closing is passed on, whatever failed before. -/
theorem fails_closing_iff :
    Fails disk limit t path s .closing fault ↔
      ∃ after, (t.write disk limit path).run.run s = (.error (.notClosed fault), after) := by
  constructor
  · rintro (_ | _ | ⟨hopen, hflush, hclose⟩)
    exact ⟨_, (WriteEnd.notClosed hopen hflush hclose).write_eq⟩
  · rintro ⟨after, hwrite⟩
    cases write_eq_iff.1 hwrite with
    | notClosed hopen hflush hclose => exact .closing hopen hflush hclose

/-- A file that was written to and can be closed is reported for what was not written. -/
theorem Fails.writing_or_closing (h : Fails disk limit t path s .writing fault) :
    (∃ after, (t.write disk limit path).run.run s = (.error (.notWritten path fault), after)) ∨
      ∃ other, Fails disk limit t path s .closing other := by
  cases h with
  | @writing _ text opened flushed hopen hprint hlong hwrite =>
      have hflush : Flushed disk path opened (t.print limit) (.error (.notWritten path fault)) ""
          flushed := by
        rw [hprint]
        exact .long hlong hwrite
      rcases hclose : (disk.close path "").run flushed with ⟨other | ⟨⟩, closed⟩
      · exact .inr ⟨other, .closing hopen hflush hclose⟩
      · exact .inl ⟨closed, (WriteEnd.notWritten hopen hprint hlong hwrite hclose).write_eq⟩

/-- **Every fault but one of the closing is reported.** -/
theorem exists_reports_iff :
    (∃ error after, (t.write disk limit path).run.run s = (.error error, after) ∧
        error.Reports path) ↔
      (∃ stage fault, Fails disk limit t path s stage fault) ∧
        ∀ fault, ¬ Fails disk limit t path s .closing fault := by
  constructor
  · rintro ⟨error, after, hwrite, hreports⟩
    refine ⟨?_, fun fault hfails => ?_⟩
    · cases write_eq_iff.1 hwrite with
      | notOpened hopen => exact ⟨_, _, .opening hopen⟩
      | notClosed hopen hflush hclose => exact ⟨_, _, .closing hopen hflush hclose⟩
      | notWritten hopen hprint hlong hblock => exact ⟨_, _, .writing hopen hprint hlong hblock⟩
      | unnameable | overlong => obtain ⟨_, ⟨heq, -⟩ | ⟨heq, -⟩⟩ := hreports <;> cases heq
    · obtain ⟨closed, hclosed⟩ := fails_closing_iff.1 hfails
      cases hwrite.symm.trans hclosed
      obtain ⟨_, ⟨heq, -⟩ | ⟨heq, -⟩⟩ := hreports <;> cases heq
  · rintro ⟨⟨stage, fault, hfails⟩, hclosing⟩
    cases stage with
    | opening =>
        obtain ⟨hopen⟩ := hfails
        exact ⟨_, _, (WriteEnd.notOpened hopen).write_eq, WriteError.reports_notOpened path _⟩
    | writing =>
        obtain ⟨after, hwrite⟩ | ⟨other, hother⟩ := hfails.writing_or_closing
        · exact ⟨_, after, hwrite, WriteError.reports_notWritten path _⟩
        · exact absurd hother (hclosing other)
    | closing => exact absurd hfails (hclosing fault)

/-- **Where no stage fails, and there are a name and a text, the path is returned.** -/
theorem exists_returned_iff :
    (∃ after, (t.write disk limit path).run.run s = (.ok path, after)) ↔
      (∀ stage fault, ¬ Fails disk limit t path s stage fault) ∧ ¬ Unnameable disk path s ∧
        ¬ HasOverlong limit t := by
  constructor
  · rintro ⟨after, hwrite⟩
    refine ⟨fun stage fault hfails => ?_, fun hunnameable => ?_, fun ⟨n, hn, hlong⟩ => ?_⟩
    · cases stage with
      | opening =>
          obtain ⟨hopen⟩ := hfails
          cases hwrite.symm.trans (WriteEnd.notOpened hopen).write_eq
      | writing =>
          obtain ⟨_, herror⟩ | ⟨other, hother⟩ := hfails.writing_or_closing
          · cases hwrite.symm.trans herror
          · obtain ⟨_, herror⟩ := fails_closing_iff.1 hother
            cases hwrite.symm.trans herror
      | closing =>
          obtain ⟨_, herror⟩ := fails_closing_iff.1 hfails
          cases hwrite.symm.trans herror
    · obtain ⟨fault, _, hopen⟩ := unnameable_iff.1 hunnameable
      cases hwrite.symm.trans (WriteEnd.unnameable hopen).write_eq
    · cases write_eq_iff.1 hwrite with
      | written hopen hflush hclose =>
          obtain ⟨text, hprint⟩ := hflush.exists_text rfl
          exact hlong ((DigitLimit.print_eq_ok_iff.1 hprint).1 n hn)
  · rintro ⟨hnone, hnameable, hshort⟩
    obtain ⟨result, after, hend⟩ := exists_writeEnd disk limit t path s
    refine ⟨after, ?_⟩
    rw [hend.write_eq]
    cases hend with
    | unnameable hopen => exact absurd (unnameable_iff.2 ⟨_, _, hopen⟩) hnameable
    | notOpened hopen => exact absurd (.opening hopen) (hnone _ _)
    | notClosed hopen hflush hclose => exact absurd (.closing hopen hflush hclose) (hnone _ _)
    | overlong hopen hprint => exact absurd (DigitLimit.print_eq_error_iff.1 hprint).1 hshort
    | notWritten hopen hprint hlong hblock =>
        exact absurd (.writing hopen hprint hlong hblock) (hnone _ _)
    | written => rfl

/-- **A name without a form is refused as such.** -/
theorem exists_unnameable_iff :
    (∃ fault after, (t.write disk limit path).run.run s = (.error (.unnameable fault), after)) ↔
      Unnameable disk path s := by
  rw [unnameable_iff]
  constructor
  · rintro ⟨fault, after, hwrite⟩
    cases write_eq_iff.1 hwrite with
    | unnameable hopen => exact ⟨_, _, hopen⟩
  · rintro ⟨fault, after, hopen⟩
    exact ⟨_, _, (WriteEnd.unnameable hopen).write_eq⟩

/-- **A table without a text is refused as such**, where its file is opened and closed. -/
theorem exists_overlong_iff :
    (∃ error after, (t.write disk limit path).run.run s = (.error (.overlong error), after)) ↔
      HasOverlong limit t ∧ ¬ Unnameable disk path s ∧
        (∀ fault, ¬ Fails disk limit t path s .opening fault) ∧
        ∀ fault, ¬ Fails disk limit t path s .closing fault := by
  constructor
  · rintro ⟨error, after, hwrite⟩
    cases write_eq_iff.1 hwrite with
    | overlong hopen hprint hclose =>
        refine ⟨(DigitLimit.print_eq_error_iff.1 hprint).1, ?_, ?_, ?_⟩
        · intro hunnameable
          obtain ⟨fault, _, hrefused⟩ := unnameable_iff.1 hunnameable
          cases hopen.symm.trans hrefused
        · rintro fault ⟨hrefused⟩
          cases hopen.symm.trans hrefused
        · intro fault hfails
          obtain ⟨_, hclosed⟩ := fails_closing_iff.1 hfails
          cases hwrite.symm.trans hclosed
  · rintro ⟨hoverlong, hnameable, hopening, hclosing⟩
    obtain ⟨most, -, hrefused⟩ := DigitLimit.print_of_not_admits hoverlong t.text
    obtain ⟨result, after, hend⟩ := exists_writeEnd disk limit t path s
    cases hend with
    | unnameable hopen => exact absurd (unnameable_iff.2 ⟨_, _, hopen⟩) hnameable
    | notOpened hopen => exact absurd (.opening hopen) (hopening _)
    | notClosed hopen hflush hclose => exact absurd (.closing hopen hflush hclose) (hclosing _)
    | overlong hopen hprint hclose => exact ⟨_, _, (WriteEnd.overlong hopen hprint hclose).write_eq⟩
    | notWritten hopen hprint => cases hrefused.symm.trans hprint
    | written hopen hflush =>
        obtain ⟨text, hprint⟩ := hflush.exists_text rfl
        cases hrefused.symm.trans hprint

/-! ### Trees of files -/

section Trees

open FileTree

variable {tree tree' : FileTree} {location : Location}

/-- **A file that was written holds the text of the table**, unless it is a device. -/
theorem eq_keep_of_write (h : (t.write FileTree.disk limit path).run.run tree = (.ok path, tree')) :
    tree.node? (path.locate tree.working) ≠ some .directory ∧
      tree' = tree.keep (path.locate tree.working) (.text t.text) := by
  cases write_eq_iff.1 h with
  | written hopen hflush hclose =>
      have hopened := run_openFile_eq_ok hopen
      obtain ⟨hlocate, hplace, rfl⟩ := openEmpty_eq_ok_iff.1 hopened
      refine ⟨hplace, ?_⟩
      generalize hprint : t.print limit = printed at hflush
      generalize htaken : Except.ok () = taken at hflush
      cases hflush with
      | unprinted => cases htaken
      | short =>
          obtain ⟨-, rfl⟩ := print_eq_ok_iff.1 hprint
          exact eq_keep_of_written hopened (changing_eq_ok hclose)
      | @long _ written _ hlong hblock =>
          obtain ⟨-, rfl⟩ := print_eq_ok_iff.1 hprint
          obtain rfl : written = .ok () := mapError_eq_ok_iff.1 htaken.symm
          have hheld := eq_keep_of_written hopened (changing_eq_ok hblock)
          have hclosed := changing_eq_ok hclose
          rw [hheld, append_keep hlocate hplace] at hclosed
          simpa using hclosed.symm

/-- **Where a path leads to a file, or to where there may be one, every table with a text is
written.** -/
theorem write_of_locate (hnull : path.hasNull = false) (hprint : t.print limit = .ok t.text)
    (hlocate : tree.locate path = .ok location) (hplace : tree.node? location ≠ some .directory)
    (hspace : tree.node? location ≠ some (.device false)) :
    (t.write FileTree.disk limit path).run.run tree =
      (.ok path, tree.keep location (.text t.text)) := by
  have hopen :
      (FileTree.disk.openFile path).run tree = (.ok (), tree.keep location (.text "")) := by
    rw [openFile_of_hasNull hnull]
    refine run_openEmpty_of_ok ?_
    rw [openEmpty_of_locate hlocate, if_neg hplace]
  have htaken (held text : String) : (tree.keep location (.text held)).append path text =
      .ok (tree.keep location (.text (held ++ text))) := by
    rw [append_keep hlocate hplace, if_neg fun h => hspace h.1]
  have hwhole := htaken "" t.text
  rw [String.empty_append] at hwhole
  refine write_eq_iff.2 ?_
  rcases Nat.lt_or_ge t.text.utf8ByteSize bufferSize with hshort | hlong
  · exact .written hopen (hprint ▸ .short hshort) (changing_of_ok hwhole)
  · have hrest := htaken t.text ""
    rw [String.append_empty] at hrest
    have hblock : (FileTree.disk.write path t.text).run (tree.keep location (.text "")) =
        (.ok (), tree.keep location (.text t.text)) := changing_of_ok hwhole
    have hflush := Flushed.long hlong hblock
    exact .written hopen (hprint ▸ hflush) (changing_of_ok hrest)

/-- **A device without space refuses every table with a text, and only the long ones are
reported.** -/
theorem write_fullDevice (hnull : path.hasNull = false) (hprint : t.print limit = .ok t.text)
    (hlocate : tree.locate path = .ok location)
    (hdevice : tree.node? location = some (.device false)) :
    (t.write FileTree.disk limit path).run.run tree =
      (.error (if t.text.utf8ByteSize < bufferSize then .notClosed .noSpace
        else .notWritten path .noSpace), tree) := by
  have hopen : (FileTree.disk.openFile path).run tree = (.ok (), tree) := by
    rw [openFile_of_hasNull hnull]
    refine run_openEmpty_of_ok ?_
    rw [openEmpty_of_locate hlocate, hdevice, keep_of_device hdevice]
    rfl
  have hrefused : tree.append path t.text = .error .noSpace := by
    rw [append_of_locate hlocate, hdevice, isEmpty_text]
    rfl
  refine write_eq_iff.2 ?_
  split
  · rename_i hshort
    have hflush : Flushed FileTree.disk path tree (t.print limit) (.ok ()) t.text tree :=
      hprint ▸ .short hshort
    exact .notClosed hopen hflush (changing_of_error hrefused)
  · rename_i hlong
    have hclose : tree.append path "" = .ok tree := by
      rw [append_of_locate hlocate, hdevice]
      rfl
    exact .notWritten hopen hprint (Nat.not_lt.1 hlong) (changing_of_error hrefused)
      (changing_of_ok hclose)

end Trees

/-! ### The writing of a table -/

/-- **What the writing of a table comes to**, told by what fails. -/
structure WriteAnswer (disk : Disk (StateM σ)) (limit : DigitLimit) (t : GrainTable) (path : Path)
    (s : σ) : Prop where
  /-- A failure is reported with the path exactly if a stage fails and the closing does not. -/
  reported :
    (∃ error after, (t.write disk limit path).run.run s = (.error error, after) ∧
        error.Reports path) ↔
      (∃ stage fault, Fails disk limit t path s stage fault) ∧
        ∀ fault, ¬ Fails disk limit t path s .closing fault
  /-- A fault of the closing is passed on. -/
  passedOn : ∀ fault,
    (∃ after, (t.write disk limit path).run.run s = (.error (.notClosed fault), after)) ↔
      Fails disk limit t path s .closing fault
  /-- The path is returned exactly if no stage fails and there are a name and a text. -/
  returned :
    (∃ after, (t.write disk limit path).run.run s = (.ok path, after)) ↔
      (∀ stage fault, ¬ Fails disk limit t path s stage fault) ∧ ¬ Unnameable disk path s ∧
        ¬ HasOverlong limit t
  /-- A name without a form is refused as such. -/
  unnameable :
    (∃ fault after, (t.write disk limit path).run.run s = (.error (.unnameable fault), after)) ↔
      Unnameable disk path s
  /-- A table without a text is refused as such where its file is opened and closed. -/
  overlong :
    (∃ error after, (t.write disk limit path).run.run s = (.error (.overlong error), after)) ↔
      HasOverlong limit t ∧ ¬ Unnameable disk path s ∧
        (∀ fault, ¬ Fails disk limit t path s .opening fault) ∧
        ∀ fault, ¬ Fails disk limit t path s .closing fault

/-- **The writing of a table fails with the path of the file exactly if a stage fails and the
closing does not.**  A fault of the closing is passed on instead, whatever the size of the table and
whatever happened before.  Where no stage fails the path is returned, without the components that
name nothing, and the file holds the text of the table; a device keeps nothing.  Only a name that
has no form for the system and an integer that is longer than the limit stand in the way of that. -/
theorem write_reports_iff (limit : DigitLimit) (t : GrainTable) (name : String) :
    (∀ {σ : Type} (disk : Disk (StateM σ)) (s : σ), WriteAnswer disk limit t (.ofText name) s) ∧
    (∀ part ∈ (Path.ofText name).parts, part ≠ "" ∧ part ≠ ".") ∧
    ∀ tree after : FileTree,
      (t.write FileTree.disk limit (.ofText name)).run.run tree = (.ok (.ofText name), after) →
        after.node? (tree.place name) =
          FileTree.holding (tree.node? (tree.place name)) (.text t.text) := by
  refine ⟨?answer, ?parts, ?held⟩
  case answer =>
    intro σ disk s
    exact ⟨exists_reports_iff, fun _ => fails_closing_iff.symm, exists_returned_iff,
      exists_unnameable_iff, exists_overlong_iff⟩
  case parts =>
    intro part hpart
    have hidle := Path.mem_parts_ofText hpart
    constructor <;> rintro rfl <;> cases hidle
  case held =>
    intro tree after hwrite
    obtain ⟨hplace, rfl⟩ := eq_keep_of_write hwrite
    exact FileTree.node?_keep_self hplace _

/-- The empty table is written to a new file of the working directory, and no stage fails. -/
theorem write_reports_iff_fresh :
    (∀ stage fault,
      ¬ Fails FileTree.disk .usual {} (.ofText ".//table.txt") FileTree.fresh stage fault) ∧
    ∃ after, (({} : GrainTable).write FileTree.disk .usual (.ofText ".//table.txt")).run.run
        FileTree.fresh = (.ok ⟨.working, ["table.txt"]⟩, after) ∧
      after.node? ["tmp", "work", "table.txt"] =
        some (.file (.text ({} : GrainTable).text)) := by
  obtain ⟨hanswer, -, hheld⟩ := write_reports_iff .usual {} ".//table.txt"
  have hlocate : FileTree.fresh.locate (.ofText ".//table.txt") =
      .ok ["tmp", "work", "table.txt"] := rfl
  have hnew : FileTree.fresh.node? ["tmp", "work", "table.txt"] = none := by decide +kernel
  have hwrite : (({} : GrainTable).write FileTree.disk .usual (.ofText ".//table.txt")).run.run
      FileTree.fresh = (.ok _, _) :=
    write_of_locate (by decide) rfl hlocate (hnew ▸ nofun) (hnew ▸ nofun)
  exact ⟨((hanswer FileTree.disk FileTree.fresh).returned.1 ⟨_, hwrite⟩).1, _, hwrite,
    hheld _ _ hwrite⟩

/-- A device without space refuses the empty table when its file is closed, and the refusal is not
reported. -/
theorem write_unreported :
    Fails FileTree.disk .usual {} (.ofText "/dev/full") FileTree.fresh .closing .noSpace ∧
    ¬ ∃ error after, (({} : GrainTable).write FileTree.disk .usual (.ofText "/dev/full")).run.run
        FileTree.fresh = (.error error, after) ∧ error.Reports (.ofText "/dev/full") := by
  have hlocate : FileTree.fresh.locate (.ofText "/dev/full") = .ok ["dev", "full"] := rfl
  have hwrite : (({} : GrainTable).write FileTree.disk .usual (.ofText "/dev/full")).run.run
      FileTree.fresh = (.error (.notClosed .noSpace), FileTree.fresh) :=
    write_fullDevice (by decide) rfl hlocate (by decide +kernel)
  have hfails := fails_closing_iff.2 ⟨_, hwrite⟩
  exact ⟨hfails, fun hreported => (exists_reports_iff.1 hreported).2 _ hfails⟩

end GrainTable

end FilmGrain
