/-
**What the operations on a tree of files change.**

A path that can be followed leads where it says, and it still does after a file was put where there
was no directory.  So a file that was opened can be written, and an operation changes what is at the
location of its path and nothing else.

Main definitions:

* `FileTree.SameBut` — two trees are equal apart from some locations;
* `FileTree.keep`, `FileTree.holding` — a tree, and what is at a location, after something was
  written to a file;
* `Saving.InPlace` — what a library may change that saves a figure.

Main results:

* `FileTree.locate_eq` — **a path that can be followed leads to its own location**;
* `FileTree.locate_put` — it still does after a file was put;
* `FileTree.openEmpty_of_locate`, `FileTree.append_keep`, `FileTree.saveImage_of_locate` — **what
  the operations do where a path leads somewhere**;
* `FileTree.eq_keep_of_written` — a file that was opened and written holds the text, unless it is a
  device.
-/

import FilmGrain.Files.Tree
import FilmGrain.Proofs.Check

set_option autoImplicit false

namespace FilmGrain

namespace FileTree

variable {t u v : FileTree} {p : Path} {location : Location}

/-! ### Trees that differ at some locations -/

/-- Two trees are equal apart from some locations. -/
structure SameBut (places : List Location) (t u : FileTree) : Prop where
  working : u.working = t.working
  nodes : ∀ location, location ∉ places → u.node? location = t.node? location

namespace SameBut

theorem refl (places : List Location) (t : FileTree) : SameBut places t t :=
  ⟨rfl, fun _ _ => rfl⟩

theorem put (t : FileTree) (location : Location) (node : Node) :
    SameBut [location] t (t.put location node) where
  working := rfl
  nodes := by
    intro other hnot
    exact node?_put_of_ne t (by simpa using hnot) node

end SameBut

/-! ### Following a path -/

theorem enter_eq_ok_iff {part : String} {next : Location} :
    t.enter location part = .ok next ↔
      t.node? location = some .directory ∧ part.utf8ByteSize ≤ maxNameBytes ∧
        next = Path.step location part := by
  rw [enter]
  by_cases hdirectory : t.node? location = some .directory
  · rw [if_neg (fun h => h hdirectory)]
    by_cases hshort : part.utf8ByteSize ≤ maxNameBytes
    · rw [if_neg (Nat.not_lt.2 hshort)]
      simp only [hdirectory, hshort, true_and, Except.ok.injEq, eq_comm]
    · rw [if_pos (Nat.not_le.1 hshort)]
      exact iff_of_false nofun fun h => hshort h.2.1
  · rw [if_pos hdirectory]
    exact iff_of_false nofun fun h => hdirectory h.1

/-- On the way to a last component everything exists. -/
theorem follow_cons_eq_ok_iff {start : Location} {part other : String} {rest : List String} :
    t.follow start (part :: other :: rest) = .ok location ↔
      ∃ next, t.enter start part = .ok next ∧ (t.node? next).isSome ∧
        t.follow next (other :: rest) = .ok location := by
  rw [follow]
  · cases t.enter start part with
    | error fault => exact iff_of_false nofun nofun
    | ok next =>
        cases hnode : t.node? next with
        | none => simp [hnode, bind, Except.bind, throw, throwThe, MonadExceptOf.throw]
        | some node => simp [hnode, bind, Except.bind]
  · exact nofun

/-- A way that can be followed leads where its components say. -/
theorem follow_eq {parts : List String} {start : Location}
    (h : t.follow start parts = .ok location) : location = parts.foldl Path.step start := by
  induction parts generalizing start with
  | nil => exact (Except.ok.inj h).symm
  | cons part rest ih =>
      cases rest with
      | nil => exact (enter_eq_ok_iff.1 h).2.2
      | cons other rest =>
          obtain ⟨next, henter, -, hfollow⟩ := follow_cons_eq_ok_iff.1 h
          rw [List.foldl_cons, ← (enter_eq_ok_iff.1 henter).2.2]
          exact ih hfollow

/-- **A path that can be followed leads to its own location.** -/
theorem locate_eq (h : t.locate p = .ok location) : location = p.locate t.working := by
  rw [locate] at h
  split at h
  · cases h
  · exact follow_eq h

/-! ### A way after a file was put -/

/-- A directory is still there after a node was put where there was none. -/
theorem node?_put_directory {place : Location} (hplace : t.node? place ≠ some .directory)
    (node : Node) (h : t.node? location = some .directory) :
    (t.put place node).node? location = some .directory := by
  have hne : location ≠ place := by
    rintro rfl
    exact hplace h
  rw [node?_put_of_ne t hne, h]

theorem isSome_node?_put {place : Location} (hplace : place ≠ []) (node : Node)
    (h : (t.node? location).isSome) : ((t.put place node).node? location).isSome := by
  by_cases heq : location = place
  · rw [heq, node?_put_self t hplace]
    rfl
  · rwa [node?_put_of_ne t heq]

theorem ne_root (h : t.node? location ≠ some .directory) : location ≠ [] := by
  rintro rfl
  exact h rfl

theorem enter_put {place start next : Location} {part : String}
    (hplace : t.node? place ≠ some .directory) (node : Node) (h : t.enter start part = .ok next) :
    (t.put place node).enter start part = .ok next := by
  obtain ⟨hdirectory, hrest⟩ := enter_eq_ok_iff.1 h
  exact enter_eq_ok_iff.2 ⟨node?_put_directory hplace node hdirectory, hrest⟩

theorem follow_put {place start : Location} {parts : List String}
    (hplace : t.node? place ≠ some .directory) (node : Node)
    (h : t.follow start parts = .ok location) :
    (t.put place node).follow start parts = .ok location := by
  -- every component but the last is stepped from, so it is a directory and was not replaced
  induction parts generalizing start with
  | nil => exact h
  | cons part rest ih =>
      cases rest with
      | nil => exact enter_put hplace node h
      | cons other rest =>
          obtain ⟨next, henter, hsome, hfollow⟩ := follow_cons_eq_ok_iff.1 h
          exact follow_cons_eq_ok_iff.2 ⟨next, enter_put hplace node henter,
            isSome_node?_put (ne_root hplace) node hsome, ih hfollow⟩

/-- **A path that can be followed can still be followed after a node was put where there was no
directory.** -/
theorem locate_put {place : Location} (hplace : t.node? place ≠ some .directory) (node : Node)
    (h : t.locate p = .ok location) : (t.put place node).locate p = .ok location := by
  rw [locate] at h ⊢
  split at h
  · cases h
  · rename_i hlong
    rw [if_neg hlong]
    exact follow_put hplace node h

/-! ### Contents -/

/-- A tree after something was written to a file; a device keeps nothing. -/
def keep (t : FileTree) (place : Location) (content : Content) : FileTree :=
  match t.node? place with
  | some (.device _) => t
  | _ => t.put place (.file content)

theorem put_put (t : FileTree) (place : Location) (a b : Node) :
    (t.put place a).put place b = t.put place b := by
  simp [put]

theorem keep_of_device {place : Location} {space : Bool}
    (h : t.node? place = some (.device space)) (content : Content) : t.keep place content = t := by
  rw [keep, h]

theorem keep_of_ne_device {place : Location} (h : ∀ space, t.node? place ≠ some (.device space))
    (content : Content) : t.keep place content = t.put place (.file content) := by
  rw [keep]
  split
  · exact absurd ‹_› (h _)
  · rfl

/-- What is at a location after something was written there. -/
def holding (before : Option Node) (content : Content) : Option Node :=
  match before with
  | some (.device space) => some (.device space)
  | some .directory | some (.file _) | none => some (.file content)

theorem node?_keep_self {place : Location} (hplace : t.node? place ≠ some .directory)
    (content : Content) :
    (t.keep place content).node? place = holding (t.node? place) content := by
  by_cases hdevice : ∃ space, t.node? place = some (.device space)
  · obtain ⟨space, hdevice⟩ := hdevice
    rw [keep_of_device hdevice, hdevice]
    rfl
  · rw [not_exists] at hdevice
    rw [keep_of_ne_device hdevice, node?_put_self t (ne_root hplace)]
    cases hnode : t.node? place with
    | none => rfl
    | some node =>
        cases node with
        | device space => exact absurd hnode (hdevice space)
        | directory | file => rfl

theorem sameBut_keep (t : FileTree) (place : Location) (content : Content) :
    SameBut [place] t (t.keep place content) := by
  rw [keep]
  split
  · exact .refl _ t
  · exact .put t place _

/-- Writing to a file makes nothing but files. -/
theorem node?_keep (t : FileTree) (place : Location) (content : Content) (location : Location) :
    (t.keep place content).node? location = t.node? location ∨
      (t.keep place content).node? location = some (.file content) := by
  rw [keep]
  split
  · exact Or.inl rfl
  · by_cases heq : location = place
    · by_cases hroot : place = []
      · rw [heq, hroot]
        exact Or.inl rfl
      · rw [heq]
        exact Or.inr (node?_put_self t hroot _)
    · exact Or.inl (node?_put_of_ne t heq _)

theorem locate_keep {place : Location} (hplace : t.node? place ≠ some .directory)
    (content : Content) (h : t.locate p = .ok location) :
    (t.keep place content).locate p = .ok location := by
  rw [keep]
  split
  · exact h
  · exact locate_put hplace _ h

/-! ### Operations -/

theorem ok_bind {ε α β : Type} (a : α) (next : α → Except ε β) : (.ok a >>= next) = next a := rfl

theorem openEmpty_of_locate (h : t.locate p = .ok location) :
    t.openEmpty p =
      if t.node? location = some .directory then .error .isDirectory
      else .ok (t.keep location (.text "")) := by
  rw [openEmpty, h, ok_bind, keep]
  cases t.node? location with
  | none => rfl
  | some node => cases node <;> rfl

theorem append_of_locate {text : String} (h : t.locate p = .ok location) :
    t.append p text =
      match t.node? location with
      | some (.device hasSpace) =>
          if hasSpace || text.isEmpty then .ok t else .error .noSpace
      | some (.file (.text s)) => .ok (t.put location (.file (.text (s ++ text))))
      | some (.file (.image _)) => .ok t
      | some .directory => .error .isDirectory
      | none => .error .notFound := by
  rw [append, h]
  rfl

/-- **What the opening of a file does.** -/
theorem openEmpty_eq_ok_iff :
    t.openEmpty p = .ok u ↔
      t.locate p = .ok (p.locate t.working) ∧ t.node? (p.locate t.working) ≠ some .directory ∧
        u = t.keep (p.locate t.working) (.text "") := by
  cases hlocate : t.locate p with
  | error fault =>
      rw [openEmpty, hlocate]
      exact iff_of_false nofun nofun
  | ok place =>
      obtain rfl := locate_eq hlocate
      rw [openEmpty_of_locate hlocate]
      split <;> simp_all [eq_comm]

/-- **What the writing to an open file does**: a device without space takes nothing. -/
theorem append_keep {held text : String} (hlocate : t.locate p = .ok location)
    (hplace : t.node? location ≠ some .directory) :
    (t.keep location (.text held)).append p text =
      if t.node? location = some (.device false) ∧ text.isEmpty = false then .error .noSpace
      else .ok (t.keep location (.text (held ++ text))) := by
  by_cases hdevice : ∃ space, t.node? location = some (.device space)
  · obtain ⟨space, hdevice⟩ := hdevice
    rw [keep_of_device hdevice, keep_of_device hdevice, append_of_locate hlocate, hdevice]
    cases space with
    | true => rfl
    | false => cases text.isEmpty <;> rfl
  · rw [not_exists] at hdevice
    -- what was opened is a file by now, and the path still leads to it
    have hnode := node?_put_self t (ne_root hplace) (.file (.text held))
    rw [keep_of_ne_device hdevice, keep_of_ne_device hdevice, if_neg fun h => hdevice false h.1,
      append_of_locate (locate_put hplace _ hlocate), hnode]
    exact congrArg Except.ok (put_put t _ _ _)

/-- **A file that was opened and written holds the text**, unless it is a device. -/
theorem eq_keep_of_written {text : String} (hopen : t.openEmpty p = .ok u)
    (hwrite : u.append p text = .ok v) : v = t.keep (p.locate t.working) (.text text) := by
  obtain ⟨hlocate, hplace, rfl⟩ := openEmpty_eq_ok_iff.1 hopen
  rw [append_keep hlocate hplace, String.empty_append] at hwrite
  split at hwrite
  · cases hwrite
  · exact (Except.ok.inj hwrite).symm

theorem saveImage_of_locate {figure : Figure} (hlocate : t.locate p = .ok location)
    (hplace : t.node? location ≠ some .directory) :
    t.saveImage p figure =
      if t.node? location = some (.device false) then .error .noSpace
      else .ok (t.keep location (.image figure)) := by
  rw [saveImage, openEmpty_of_locate hlocate, if_neg hplace, hlocate, ok_bind, ok_bind]
  by_cases hdevice : ∃ space, t.node? location = some (.device space)
  · obtain ⟨space, hdevice⟩ := hdevice
    rw [keep_of_device hdevice, keep_of_device hdevice, hdevice]
    cases space <;> rfl
  · rw [not_exists] at hdevice
    rw [keep_of_ne_device hdevice, keep_of_ne_device hdevice, put_put, if_neg (hdevice false)]
    split
    · exact absurd ‹_› (hdevice _)
    · rfl

/-- An image that is saved goes where a path leads and there is no directory. -/
theorem locate_of_saveImage {figure : Figure} (h : t.saveImage p figure = .ok u) :
    t.locate p = .ok (p.locate t.working) ∧ t.node? (p.locate t.working) ≠ some .directory := by
  cases hopen : t.openEmpty p with
  | error fault =>
      rw [saveImage, hopen] at h
      cases h
  | ok opened =>
      obtain ⟨hlocate, hplace, -⟩ := openEmpty_eq_ok_iff.1 hopen
      exact ⟨hlocate, hplace⟩

/-- **What the saving of an image does.** -/
theorem eq_keep_of_saveImage {figure : Figure} (h : t.saveImage p figure = .ok u) :
    u = t.keep (p.locate t.working) (.image figure) := by
  obtain ⟨hlocate, hplace⟩ := locate_of_saveImage h
  rw [saveImage_of_locate hlocate hplace] at h
  split at h
  · cases h
  · exact (Except.ok.inj h).symm

/-! ### Libraries that save figures -/

/-- The location of the file with a given name. -/
def place (t : FileTree) (name : String) : Location := (Path.ofText name).locate t.working

/-- The location of a name depends on the working directory alone. -/
theorem place_eq_of_working {t u : FileTree} (h : u.working = t.working) (name : String) :
    u.place name = t.place name := by
  rw [place, h, place]

end FileTree

/-- What is saved changes its own file and no other: the one that a name asks for. -/
def Saving.InPlace (save : Saving) : Prop :=
  ∀ {name : String} {figure : Figure} {t u : FileTree} {notices : List String},
    save name figure t = (notices, .ok u) →
      ∀ location, location ≠ t.place (ImageFile.ofName name).name →
        u.node? location = t.node? location

namespace FileTree

variable {t u : FileTree} {p : Path}

theorem saving_eq_ok {name : String} {figure : Figure} {notices : List String}
    (h : saving name figure t = (notices, .ok u)) :
    notices = [] ∧ t.saveImage (.ofText (ImageFile.ofName name).name) figure = .ok u := by
  simp only [saving] at h
  split at h
  · cases h
  · obtain ⟨hnotices, hsaved⟩ := Prod.mk.inj h
    exact ⟨hnotices.symm, mapError_eq_ok_iff.1 hsaved⟩

theorem plain_save : plain.save = saving := by rw [plain]

theorem plain_inPlace : plain.save.InPlace := by
  intro name figure t u notices h location hne
  rw [plain_save] at h
  rw [eq_keep_of_saveImage (saving_eq_ok h).2]
  exact (sameBut_keep t _ _).nodes location (by simpa [place] using hne)

/-! ### Steps on a tree -/

section Changing

variable {ε : Type} {change : FileTree → Except ε FileTree} {t u : FileTree} {fault : ε}

theorem changing_of_ok (h : change t = .ok u) : (changing change).run t = (.ok (), u) := by
  rw [StateT.run, changing, h]

theorem changing_of_error (h : change t = .error fault) :
    (changing change).run t = (.error fault, t) := by
  rw [StateT.run, changing, h]

theorem changing_eq_ok (h : (changing change).run t = (.ok (), u)) : change t = .ok u := by
  cases hchange : change t with
  | ok changed =>
      rw [changing_of_ok hchange] at h
      rw [(Prod.mk.inj h).2]
  | error fault =>
      rw [changing_of_error hchange] at h
      cases h

theorem changing_eq_error (h : (changing change).run t = (.error fault, u)) : u = t := by
  cases hchange : change t with
  | ok changed =>
      rw [changing_of_ok hchange] at h
      cases h
  | error fault =>
      rw [changing_of_error hchange] at h
      exact (Prod.mk.inj h).2.symm

end Changing

section Steps

variable {around : Surroundings} {name : String} {figure : Figure} {notices : List String}
  {fault : OpenFault}

theorem run_openEmpty_of_ok (h : t.openEmpty p = .ok u) :
    (disk.openEmpty p).run t = (.ok (), u) :=
  changing_of_ok (mapError_eq_ok_iff.2 h)

theorem run_openEmpty_eq_ok (h : (disk.openEmpty p).run t = (.ok (), u)) : t.openEmpty p = .ok u :=
  mapError_eq_ok_iff.1 (changing_eq_ok h)

theorem run_openEmpty_of_error {refusal : FileFault} (h : t.openEmpty p = .error refusal) :
    (disk.openEmpty p).run t = (.error (.refused refusal), t) := by
  refine changing_of_error ?_
  rw [h]
  rfl

/-- A name without the null character is one that a tree takes. -/
theorem openFile_of_hasNull (h : p.hasNull = false) : disk.openFile p = disk.openEmpty p := by
  rw [Disk.openFile, if_neg (by rw [h]; exact Bool.false_ne_true)]

/-- Where a file is not opened, nothing has changed. -/
theorem run_openFile_eq_error (h : (disk.openFile p).run t = (.error fault, u)) : u = t := by
  rw [Disk.openFile] at h
  split at h
  · cases h
    rfl
  · exact changing_eq_error h

/-- Where it is, it was opened by the tree. -/
theorem run_openFile_eq_ok (h : (disk.openFile p).run t = (.ok (), u)) : t.openEmpty p = .ok u := by
  rw [Disk.openFile] at h
  split at h
  · cases h
  · exact run_openEmpty_eq_ok h

theorem run_saveFigure :
    ((host around).saveFigure name figure).run t =
      (((around.save name figure t).1,
        ((changing fun _ => (around.save name figure t).2).run t).1),
        ((changing fun _ => (around.save name figure t).2).run t).2) := rfl

theorem run_saveFigure_of_ok (h : around.save name figure t = (notices, .ok u)) :
    ((host around).saveFigure name figure).run t = ((notices, .ok ()), u) := by
  rw [run_saveFigure, changing_of_ok (congrArg Prod.snd h), h]

/-- A figure that is not saved leaves everything as it is. -/
theorem run_saveFigure_eq_error {fault : SaveFault}
    (h : ((host around).saveFigure name figure).run t = ((notices, .error fault), u)) : u = t := by
  obtain ⟨hanswer, hafter⟩ := Prod.mk.inj (run_saveFigure.symm.trans h)
  exact changing_eq_error (Prod.ext (Prod.mk.inj hanswer).2 hafter)

/-- A figure that is saved is saved by the library. -/
theorem run_saveFigure_eq_ok
    (h : ((host around).saveFigure name figure).run t = ((notices, .ok ()), u)) :
    around.save name figure t = (notices, .ok u) := by
  obtain ⟨hanswer, hafter⟩ := Prod.mk.inj (run_saveFigure.symm.trans h)
  obtain ⟨hnotices, hresult⟩ := Prod.mk.inj hanswer
  exact Prod.ext hnotices (changing_eq_ok (Prod.ext hresult hafter))

end Steps

end FileTree

end FilmGrain
