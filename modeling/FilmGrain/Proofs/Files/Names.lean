/-
**Names and the locations that they stand for.**

The text of a path reads back as the path, and the text of a location, which is what is shown of a
path, leads back to the location from anywhere.  So a shown name can be followed by whoever reads
it.

A name for an image that has no suffix is completed before it is used: its last component loses the
dots at its end and gets the default suffix.  The completed name never stands for the same location
as the name itself.

Main definitions:

* `FilmGrain.IsComponent`, `FilmGrain.IsProper` — what the components of a path, and the names on
  the way to a location, are like;
* `Path.completed` — a path whose last component got the default suffix;
* `ImageFile.hasSuffix` — whether a name for an image has one.

Main results:

* `Path.ofText_text` — **the text of a path reads back as the path**;
* `Path.ofText_locationText`, `FileTree.place_locationText` — so does that of a location, which
  leads back to it;
* `ImageFile.ofText_ofName`, `ImageFile.ofText_ofName_of_suffix` — the file of an image, by the
  path of the name that was given for it;
* `Path.locate_completed_ne` — **a completed path leads elsewhere**.
-/

import Mathlib.Data.List.Basic
import FilmGrain.Figure.File
import FilmGrain.Proofs.Files.Frame

set_option autoImplicit false

namespace FilmGrain

/-! ### Components -/

theorem pieces_eq_splitOn (text : List Char) : pieces text = text.splitOn '/' := by
  rw [List.splitOn_eq_splitOnP]
  induction text with
  | nil => rfl
  | cons c rest ih =>
      rw [pieces, ih, List.splitOnP_cons_eq_if_modifyHead]
      by_cases hslash : c = '/'
      · simp [hslash]
      · have hne := List.splitOnP_ne_nil (fun x => x == '/') rest
        cases hpieces : rest.splitOnP (fun x => x == '/') with
        | nil => exact absurd hpieces hne
        | cons piece others => simp [hslash]

theorem slash_notMem_of_mem_pieces {text piece : List Char} (h : piece ∈ pieces text) :
    '/' ∉ piece := by
  induction text generalizing piece with
  | nil =>
      rw [List.mem_singleton.1 h]
      exact List.not_mem_nil
  | cons c rest ih =>
      rw [pieces] at h
      split at h
      · rcases List.mem_cons.1 h with rfl | hrest
        · exact List.not_mem_nil
        · exact ih hrest
      · rename_i hslash
        split at h
        · rw [List.mem_singleton.1 h, List.mem_singleton]
          exact Ne.symm hslash
        · rename_i first others hrest
          rcases List.mem_cons.1 h with rfl | hothers
          · have hfirst : '/' ∉ first := ih (hrest ▸ List.mem_cons_self)
            simp [Ne.symm hslash, hfirst]
          · exact ih (hrest ▸ List.mem_cons_of_mem first hothers)

/-- What a component of a path is like: it has no slash, and it names something. -/
def IsComponent (part : String) : Prop := '/' ∉ part.toList ∧ Path.isIdle part.toList = false

instance (part : String) : Decidable (IsComponent part) := inferInstanceAs (Decidable (_ ∧ _))

theorem isComponent_of_mem_parts {name part : String} (h : part ∈ (Path.ofText name).parts) :
    IsComponent part := by
  refine ⟨?_, Path.mem_parts_ofText h⟩
  obtain ⟨piece, hpiece, rfl⟩ := List.mem_map.1 h
  rw [String.toList_ofList]
  exact slash_notMem_of_mem_pieces (List.mem_filter.1 hpiece).1

/-- The components of a text that joins them. -/
theorem components_intercalate {parts : List String} (h : ∀ part ∈ parts, IsComponent part) :
    ((pieces ("/".intercalate parts).toList).filter fun piece => !Path.isIdle piece).map
      String.ofList = parts := by
  cases parts with
  | nil => rfl
  | cons first rest =>
      have hslash : ∀ piece ∈ (first :: rest).map String.toList, '/' ∉ piece := by
        intro piece hpiece
        obtain ⟨part, hpart, rfl⟩ := List.mem_map.1 hpiece
        exact (h part hpart).1
      have hkept : ∀ piece ∈ (first :: rest).map String.toList, (!Path.isIdle piece) = true := by
        intro piece hpiece
        obtain ⟨part, hpart, rfl⟩ := List.mem_map.1 hpiece
        rw [(h part hpart).2]
        rfl
      have hjoined : ("/".intercalate (first :: rest)).toList =
          List.intercalate ['/'] ((first :: rest).map String.toList) := String.toList_intercalate
      rw [hjoined, pieces_eq_splitOn, List.splitOn_intercalate _ hslash (List.cons_ne_nil _ _),
        List.filter_eq_self.2 hkept, List.map_map]
      simp [Function.comp_def]

/-! ### Texts of paths -/

/-- A text that joins components does not begin with a slash. -/
theorem head_intercalate {parts : List String} (h : ∀ part ∈ parts, IsComponent part) :
    ∀ c ∈ ("/".intercalate parts).toList.head?, c ≠ '/' := by
  cases parts with
  | nil => exact nofun
  | cons first rest =>
      intro c hc
      obtain ⟨hslash, hidle⟩ := h first List.mem_cons_self
      have hjoined : ∃ more, ("/".intercalate (first :: rest)).toList = first.toList ++ more := by
        cases rest with
        | nil => exact ⟨[], by simp⟩
        | cons second rest => exact ⟨_, by rw [String.intercalate_cons_cons]; simp; rfl⟩
      obtain ⟨more, hmore⟩ := hjoined
      cases hfirst : first.toList with
      | nil =>
          rw [hfirst] at hidle
          cases hidle
      | cons d others =>
          rw [hmore, hfirst] at hc
          rw [hfirst] at hslash
          rintro rfl
          obtain rfl : d = '/' := by simpa using hc
          exact hslash List.mem_cons_self

/-- A root is known by its slashes. -/
theorem Root.ofText_append (root : Root) {rest : List Char} (h : ∀ c ∈ rest.head?, c ≠ '/') :
    Root.ofText (root.text.toList ++ rest) = root := by
  cases rest with
  | nil => cases root <;> rfl
  | cons c rest =>
      have hc : c ≠ '/' := h c rfl
      cases root <;> simp [Root.text, Root.ofText, hc]

/-- The slashes of a root are no part of a component. -/
theorem components_root (root : Root) (rest : List Char) :
    (pieces (root.text.toList ++ rest)).filter (fun piece => !Path.isIdle piece) =
      (pieces rest).filter fun piece => !Path.isIdle piece := by
  cases root <;> simp [Root.text, pieces, Path.isIdle]

namespace Path

variable {p : Path}

/-- **The text of a path reads back as the path.** -/
theorem ofText_text (h : ∀ part ∈ p.parts, IsComponent part) : ofText p.text = p := by
  obtain ⟨root, parts⟩ := p
  rw [text]
  split
  · rename_i hdot
    obtain ⟨rfl, rfl⟩ := hdot
    rfl
  · rw [ofText, String.toList_append, Root.ofText_append root (head_intercalate h),
      components_root, components_intercalate h]

/-- The text of the path of a name stands for the same path. -/
theorem ofText_text_ofText (name : String) : ofText (ofText name).text = ofText name :=
  ofText_text fun _ => isComponent_of_mem_parts

/-! ### Locations -/

theorem locationText_eq (location : Location) :
    locationText location = text ⟨.system, location⟩ := by
  rw [text, if_neg fun h => nomatch h.1]
  rfl

end Path

/-- The names on the way to a location are components, and none of them leads back. -/
def IsProper (location : Location) : Prop := ∀ name ∈ location, IsComponent name ∧ name ≠ ".."

instance (location : Location) : Decidable (IsProper location) :=
  inferInstanceAs (Decidable (∀ _ ∈ _, _))

theorem IsProper.step {location : Location} (h : IsProper location) {part : String}
    (hpart : IsComponent part) : IsProper (Path.step location part) := by
  rw [Path.step]
  split
  · exact fun name hname => h name (List.dropLast_subset _ hname)
  · rename_i hdown
    intro name hname
    rcases List.mem_append.1 hname with hmem | hmem
    · exact h name hmem
    · exact List.mem_singleton.1 hmem ▸ ⟨hpart, hdown⟩

theorem IsProper.foldl_step {parts : List String} (hparts : ∀ part ∈ parts, IsComponent part)
    {location : Location} (h : IsProper location) : IsProper (parts.foldl Path.step location) := by
  induction parts generalizing location with
  | nil => exact h
  | cons part rest ih =>
      exact ih (fun part hpart => hparts part (List.mem_cons_of_mem _ hpart))
        (h.step (hparts part List.mem_cons_self))

/-- A way down leads where its names say. -/
theorem IsProper.foldl_eq {names : Location} (h : IsProper names) (location : Location) :
    names.foldl Path.step location = location ++ names := by
  induction names generalizing location with
  | nil => exact (List.append_nil location).symm
  | cons name rest ih =>
      have hdown : Path.step location name = location ++ [name] :=
        if_neg (h name List.mem_cons_self).2
      rw [List.foldl_cons, hdown, ih fun name hname => h name (List.mem_cons_of_mem _ hname),
        List.append_assoc, List.singleton_append]

namespace FileTree

variable {t : FileTree}

theorem isProper_place (h : IsProper t.working) (name : String) : IsProper (t.place name) := by
  rw [place, Path.locate]
  refine IsProper.foldl_step (fun _ => isComponent_of_mem_parts) ?_
  split
  · exact h
  · exact List.forall_mem_nil _

/-- **The text of a location leads back to it**, from any working directory. -/
theorem place_locationText (t : FileTree) {location : Location} (h : IsProper location) :
    t.place (Path.locationText location) = location := by
  rw [place, Path.locationText_eq, Path.ofText_text fun name hname => (h name hname).1, Path.locate,
    if_neg (by decide : Root.system ≠ .working), h.foldl_eq, List.nil_append]

end FileTree

/-! ### Completed names -/

theorem mem_of_mem_withoutLastDots {name : List Char} {c : Char} (h : c ∈ withoutLastDots name) :
    c ∈ name := by
  rw [withoutLastDots, List.mem_reverse] at h
  exact List.mem_reverse.1 ((List.dropWhile_sublist _).subset h)

/-- Dots are taken from the end only. -/
theorem withoutLastDots_append {front : List Char} (h : ∀ c ∈ front.getLast?, c ≠ '.')
    (name : List Char) : withoutLastDots (front ++ name) = front ++ withoutLastDots name := by
  have hfront : front.reverse.dropWhile (· == '.') = front.reverse := by
    rw [← List.head?_reverse] at h
    cases hreverse : front.reverse with
    | nil => rfl
    | cons c rest =>
        have hc : c ≠ '.' := h c (by rw [hreverse]; rfl)
        simp [hc]
  rw [withoutLastDots, withoutLastDots, List.reverse_append, List.dropWhile_append]
  split
  · rename_i hdots
    rw [hfront, List.isEmpty_iff.1 hdots, List.reverse_reverse, List.reverse_nil, List.append_nil]
  · rw [List.reverse_append, List.reverse_reverse]

namespace Path

/-- The last component of a path without the dots at its end, and with the default suffix. -/
def completedPart (part : String) : String :=
  String.ofList (withoutLastDots part.toList) ++ "." ++ ImageFile.defaultEnding

/-- A path whose last component got the default suffix. -/
def completed (p : Path) : Path :=
  { p with parts := p.parts.dropLast ++ [completedPart (p.parts.getLastD "")] }

theorem toList_completedPart (part : String) :
    (completedPart part).toList = withoutLastDots part.toList ++ ['.', 'p', 'n', 'g'] := by
  have hsuffix : ImageFile.defaultEnding.toList = ['p', 'n', 'g'] := by decide
  rw [completedPart, String.toList_append, String.toList_append, String.toList_ofList, hsuffix,
    List.append_assoc]
  rfl

theorem isComponent_completedPart {part : String} (h : '/' ∉ part.toList) :
    IsComponent (completedPart part) := by
  rw [IsComponent, toList_completedPart]
  constructor
  · intro hslash
    rcases List.mem_append.1 hslash with hpart | hsuffix
    · exact h (mem_of_mem_withoutLastDots hpart)
    · exact absurd hsuffix (by decide)
  · cases withoutLastDots part.toList with
    | nil => rfl
    | cons c rest => simp [isIdle]

theorem completedPart_ne_up (part : String) : completedPart part ≠ ".." := by
  intro h
  have hlength := congrArg (fun text : String => text.toList.length) h
  have hup : "..".toList.length = 2 := by decide
  rw [toList_completedPart, hup, List.length_append, List.length_cons] at hlength
  simp at hlength

/-- A completed component is another one: what ends like a completed one loses nothing. -/
theorem completedPart_ne_self (part : String) : completedPart part ≠ part := by
  intro h
  have hpart : part.toList = withoutLastDots part.toList ++ ['.', 'p', 'n', 'g'] := by
    rw [← toList_completedPart, h]
  have hlast : ∀ c ∈ part.toList.getLast?, c ≠ '.' := by
    rw [hpart, List.getLast?_append]
    simp
  have hnone := withoutLastDots_append hlast []
  rw [List.append_nil] at hnone
  have hlength := congrArg List.length hpart
  rw [hnone] at hlength
  simp [withoutLastDots] at hlength

/-- What stands before the last component in the text of a path. -/
def folder (root : Root) (parts : List String) : String :=
  root.text ++ if parts = [] then "" else "/".intercalate parts ++ "/"

theorem text_concat (root : Root) (parts : List String) (last : String) :
    text ⟨root, parts ++ [last]⟩ = folder root parts ++ last := by
  rw [text, if_neg (by simp), folder]
  cases parts with
  | nil => simp
  | cons first rest =>
      have hjoined := String.intercalate_append_of_ne_nil (s := "/") (List.cons_ne_nil first rest)
        (List.cons_ne_nil last [])
      simp only [hjoined, String.intercalate_singleton, reduceCtorEq, if_false,
        String.append_assoc]

theorem getLast_folder (root : Root) (parts : List String) :
    ∀ c ∈ (folder root parts).toList.getLast?, c ≠ '.' := by
  rw [folder]
  cases parts with
  | nil => cases root <;> simp [Root.text]
  | cons first rest =>
      simp

/-- The text of a completed path, from the text of the path. -/
theorem text_completed (p : Path) :
    String.ofList (withoutLastDots p.text.toList) ++ "." ++ ImageFile.defaultEnding =
      p.completed.text := by
  obtain ⟨root, parts⟩ := p
  rcases List.eq_nil_or_concat' parts with rfl | ⟨parts, last, rfl⟩
  · cases root <;> decide
  · have hcompleted :
        completed ⟨root, parts ++ [last]⟩ = ⟨root, parts ++ [completedPart last]⟩ := by
      simp [completed]
    rw [hcompleted, text_concat, text_concat, String.toList_append,
      withoutLastDots_append (getLast_folder root parts), String.ofList_append,
      String.ofList_toList, completedPart, String.append_assoc, String.append_assoc,
      String.append_assoc]

theorem isComponent_of_mem_completed {p : Path} (h : ∀ part ∈ p.parts, IsComponent part) :
    ∀ part ∈ p.completed.parts, IsComponent part := by
  intro part hpart
  rcases List.mem_append.1 hpart with hmem | hmem
  · exact h part (List.dropLast_subset _ hmem)
  · rw [List.mem_singleton.1 hmem]
    refine isComponent_completedPart ?_
    rcases List.eq_nil_or_concat' p.parts with hnil | ⟨parts, last, hparts⟩
    · simp [hnil]
    · rw [hparts, List.getLastD_concat]
      exact (h last (by simp [hparts])).1

theorem step_completedPart (location : Location) (part : String) :
    step location (completedPart part) = location ++ [completedPart part] :=
  if_neg (completedPart_ne_up part)

theorem step_completedPart_ne (location : Location) (part : String) :
    step location (completedPart part) ≠ step location part := by
  intro h
  rw [step_completedPart, step] at h
  split at h
  · -- two dots lead up, and the completed component down
    have hlength := congrArg List.length h
    rw [List.length_append, List.length_dropLast, List.length_singleton] at hlength
    omega
  · exact completedPart_ne_self part (List.singleton_inj.1 (List.append_cancel_left h))

/-- **A completed path leads elsewhere.** -/
theorem locate_completed_ne (p : Path) (working : Location) :
    p.completed.locate working ≠ p.locate working := by
  obtain ⟨root, parts⟩ := p
  rcases List.eq_nil_or_concat' parts with rfl | ⟨parts, last, rfl⟩
  · intro h
    have hlength := congrArg List.length h
    simp [locate, completed, step_completedPart] at hlength
  · simp only [locate, completed, List.dropLast_concat, List.getLastD_concat, List.foldl_append,
      List.foldl_cons, List.foldl_nil]
    exact step_completedPart_ne _ last

end Path

namespace ImageFile

variable {given : String}

/-- Whether a name for an image has a suffix. -/
def hasSuffix (given : String) : Bool := !(suffix (Path.ofText given).text.toList).isEmpty

/-- The file of an image whose name has a suffix is the one that is named. -/
theorem ofText_ofName_of_suffix (h : hasSuffix given = true) :
    Path.ofText (ofName given).name = Path.ofText given := by
  rw [hasSuffix, Bool.not_eq_true'] at h
  simp only [ofName, h]
  exact Path.ofText_text_ofText given

/-- The file of an image whose name has none is that of the completed name. -/
theorem ofText_ofName (h : hasSuffix given = false) :
    Path.ofText (ofName given).name = (Path.ofText given).completed := by
  rw [hasSuffix, Bool.not_eq_false'] at h
  simp only [ofName, h, if_true]
  rw [Path.text_completed]
  exact Path.ofText_text (Path.isComponent_of_mem_completed fun _ => isComponent_of_mem_parts)

end ImageFile

end FilmGrain
