/-
**What the lines of a pass say, and what is there.**

A pass that ends well says where the table is, and where the figure is if one was asked for.  Both
are said of the names that were given, not of what was written.  So the line on a figure is wrong
where its name has no suffix: the image is in the file of the completed name, and the location that
is said holds what it held before.  Apart from that a line is wrong where its file is a device,
which keeps nothing, and the line on the table also where the figure went into the same file after
it.

Main definitions:

* `Saving.Exact` — a library that puts a figure into its file and does nothing else;
* `Report.Truthful` — the lines with a given beginning name files that hold a given content;
* `Request.Finished` — what a pass that ends well has said and done.

Main results:

* `Request.Ran.finished` — **every pass that ends well has said and done just that**;
* `Request.Finished.tableStart_mem_iff`, `Request.Finished.figureStart_mem_iff` — what is named;
* `Request.run_truthful_iff` — **when the lines of a pass are true**;
* `Request.run_elsewhere` — a figure without a suffix is not where the line says.
-/

import FilmGrain.Proofs.Files.Names
import FilmGrain.Proofs.Pass.Frame

set_option autoImplicit false

namespace FilmGrain

open Number FileTree

variable {around : Surroundings} {t u : FileTree} {said : Report}

/-! ### Libraries that save figures -/

/-- A figure that is saved is in the file that its name asks for, unless that is a device, and
nothing else is changed. -/
structure Saving.Exact (save : Saving) : Prop where
  held : ∀ {name : String} {figure : Figure} {t u : FileTree} {notices : List String},
    save name figure t = (notices, .ok u) →
      u.node? (t.place (ImageFile.ofName name).name) =
        holding (t.node? (t.place (ImageFile.ofName name).name)) (.image figure)
  inPlace : save.InPlace
  working : ∀ {name : String} {figure : Figure} {t u : FileTree} {notices : List String},
    save name figure t = (notices, .ok u) → u.working = t.working

theorem FileTree.plain_exact : plain.save.Exact where
  held := by
    intro name figure t u notices h
    rw [plain_save] at h
    have hsaved := (saving_eq_ok h).2
    rw [eq_keep_of_saveImage hsaved]
    exact node?_keep_self (locate_of_saveImage hsaved).2 _
  inPlace := plain_inPlace
  working := by
    intro name figure t u notices h
    rw [plain_save] at h
    rw [eq_keep_of_saveImage (saving_eq_ok h).2]
    exact (sameBut_keep t _ _).working

/-! ### What is held -/

/-- A location holds what was written there exactly if it is no device. -/
theorem FileTree.holding_eq_iff {before : Option Node} {content : Content} :
    holding before content = some (.file content) ↔ ∀ space, before ≠ some (.device space) := by
  cases before with
  | none => simp [holding]
  | some node => cases node <;> simp [holding]

/-- It holds nothing else. -/
theorem FileTree.holding_ne {before : Option Node} {content other : Content}
    (h : content ≠ other) : holding before content ≠ some (.file other) := by
  cases before with
  | none => simpa [holding] using h
  | some node => cases node <;> simp [holding, h]

/-- What was there before matters only if it is a device. -/
theorem FileTree.holding_congr {a b : Option Node} {content : Content}
    (h : ∀ space, a = some (.device space) ↔ b = some (.device space)) :
    holding a content = holding b content := by
  by_cases hdevice : ∃ space, a = some (.device space)
  · obtain ⟨space, hdevice⟩ := hdevice
    rw [(h space).1 hdevice, hdevice]
  · rw [not_exists] at hdevice
    have hother : ∀ space, b ≠ some (.device space) :=
      fun space hb => hdevice space ((h space).2 hb)
    rw [holding_eq_iff.2 hdevice, holding_eq_iff.2 hother]

/-- Writing to a file makes no device and takes none away. -/
theorem FileTree.node?_keep_eq_device_iff {place location : Location} {content : Content}
    {space : Bool} :
    (t.keep place content).node? location = some (.device space) ↔
      t.node? location = some (.device space) := by
  constructor
  · intro h
    rcases node?_keep t place content location with hsame | hfile
    · rwa [← hsame]
    · rw [h] at hfile
      cases hfile
  · intro h
    by_cases heq : location = place
    · rw [keep_of_device (heq ▸ h), h]
    · rw [(sameBut_keep t place content).nodes location (by simpa using heq), h]

/-! ### True lines -/

/-- The lines with a given beginning are true of a content: every file that is named after the
beginning holds it. -/
def Report.Truthful (said : Report) (u : FileTree) (start : String) (content : Content) : Prop :=
  ∀ name, start ++ name ∈ said.lines → u.node? (u.place name) = some (.file content)

namespace Request

theorem begins_tableStart (location : String) :
    begins figureStart (tableStart ++ location) = false := by
  -- the two part before the shorter beginning ends
  have hshort : begins "[OK] Saved s" (tableStart ++ location) = false :=
    begins_append_of_false (by decide +kernel) (by decide +kernel) location
  exact begins_of_longer (by decide +kernel) hshort

/-- The figure of a request, if there is a curve for it. -/
def figure? (r : Request) : Option Figure :=
  match r.settings .unlimited with
  | .error _ => none
  | .ok settings =>
      match settings.sampleAll with
      | .error _ => none
      | .ok curve => some (settings.figure curve)

variable {r : Request} {settings : CameraSettings} {curve : ScalingCurve} {output : String}
  {plot : Option String} {verbose : Bool}

theorem Planned.figure?_eq (h : r.Planned settings curve) :
    r.figure? = some (settings.figure curve) := by
  simp only [figure?, h.checked, h.sampled]

/-! ### Passes that end well -/

/-- What a pass that ends well has said and done. -/
structure Finished (save : Saving) (r : Request) (output : String) (plot : Option String)
    (t : FileTree) (settings : CameraSettings) (curve : ScalingCurve) (said : Report)
    (u : FileTree) : Prop where
  opened : t.node? (t.place output) ≠ some .directory
  lines : said.lines = r.listing settings curve ++
    (tableStart ++ Path.locationText (t.place output)) ::
      (plot.map fun file => figureStart ++ Path.locationText (t.place file)).toList
  unasked : plot = none →
    u = t.keep (t.place output) (.text (GrainTable.wholeStream curve).text)
  saved : ∀ file ∈ plot, ∃ notices, save file (settings.figure curve)
    (t.keep (t.place output) (.text (GrainTable.wholeStream curve).text)) = (notices, .ok u)

/-- The line on a file names the place of the file. -/
theorem eq_of_named {beginning name : String} {shown : List String}
    (h : Named (host around) beginning (.ofText name) t (.ok ()) shown u) :
    u = t ∧ shown = [beginning ++ Path.locationText (t.place name)] := by
  refine ⟨h.tree_eq, ?_⟩
  cases h with
  | resolved hresolve hprinted =>
      obtain rfl := Except.ok.inj (congrArg Prod.fst hresolve)
      exact hprinted.eq_of_ok rfl

/-- **What a pass that ends well has said and done.** -/
theorem Ran.finished (hsave : around.save.Exact) {path : Path}
    (h : Ran (host around) (r.asking output plot verbose) t (.ok path) said u) :
    ∃ settings curve, r.Planned settings curve ∧
      Finished around.save (r.asking output plot verbose) output plot t settings curve said u := by
  generalize hresult : (Except.ok path : Except Failure Path) = result at h
  cases h with
  | unsettled | tooManyPixels | unlisted => cases hresult
  | @planned settings curve _ _ _ _ _ hplan hlisted hdelivered =>
      refine ⟨settings, curve, ⟨hplan.checked, hplan.representable, hplan.sampled⟩, ?_⟩
      obtain rfl := hlisted.tree_eq.symm
      obtain rfl := hlisted.eq_of_ok rfl
      -- a path is returned only where the table is written and the figure does not fail
      cases hdelivered with
      | nameless | unopened | notClosed | unnamed => cases hresult
      | @written _ _ _ _ _ _ result _ houtput hopen hclose hnamed hfigure =>
          cases houtput
          obtain ⟨hplace, rfl⟩ := eq_keep_of_delivered hopen hclose
          obtain ⟨rfl, rfl⟩ := eq_of_named hnamed
          have hworking := (sameBut_keep t (t.place output)
            (.text (GrainTable.wholeStream curve).text)).working
          have hplaces := place_eq_of_working hworking
          generalize hfigured : (r.asking output plot verbose).plot = asked at hfigure
          cases hfigure with
          | nameless | unsaved => cases hresult
          | unasked hplot =>
              obtain rfl : plot = none := Option.map_eq_none_iff.1 (hfigured.trans hplot)
              refine ⟨hplace, ?_, fun _ => rfl, nofun⟩
              rw [hplaces]
              rfl
          | @saved name notices _ _ _ _ hplot hsaved hnamed =>
              obtain ⟨file, rfl, htext⟩ := Option.map_eq_some_iff.1 (hfigured.trans hplot)
              obtain rfl : file = name := Setting.text.inj htext
              obtain rfl : result = .ok () := by
                cases result with
                | ok => rfl
                | error => cases hresult
              obtain ⟨rfl, rfl⟩ := eq_of_named hnamed
              have hdone := run_saveFigure_eq_ok hsaved
              refine ⟨hplace, ?_, nofun, ?_⟩
              · rw [hplaces, place_eq_of_working (hsave.working hdone), hplaces]
                rfl
              · intro other hother
                obtain rfl := Option.some.inj hother
                exact ⟨_, hdone⟩

/-! ### What is named -/

theorem append_notMem_listing {start : String} (h : begins doneStart start = true)
    (name : String) : start ++ name ∉ r.listing settings curve := fun hmem =>
  List.countP_eq_zero.1 (countP_listing h) _ hmem (begins_append_self start name)

theorem append_ne_of_begins {start line : String} (h : begins start line = false) (name : String) :
    start ++ name ≠ line := by
  rintro rfl
  rw [begins_append_self] at h
  cases h

namespace Finished

variable {save : Saving} (h : Finished save r output plot t settings curve said u)
include h

/-- **The location of the table is named**, and no other in its place. -/
theorem tableStart_mem_iff {name : String} :
    tableStart ++ name ∈ said.lines ↔ name = Path.locationText (t.place output) := by
  have hlisting : tableStart ++ name ∉ r.listing settings curve :=
    append_notMem_listing begins_doneStart.1 name
  have hfigure (location : String) : tableStart ++ name ≠ figureStart ++ location :=
    append_ne_of_begins (begins_figureStart location) name
  rw [h.lines, List.mem_append, or_iff_right hlisting, List.mem_cons, or_iff_left]
  · exact String.append_right_inj _
  · cases plot <;> simp [hfigure]

/-- **The location of the given name is named for the figure.** -/
theorem figureStart_mem_iff {name : String} :
    figureStart ++ name ∈ said.lines ↔
      ∃ file ∈ plot, name = Path.locationText (t.place file) := by
  have hlisting : figureStart ++ name ∉ r.listing settings curve :=
    append_notMem_listing begins_doneStart.2 name
  have htable (location : String) : figureStart ++ name ≠ tableStart ++ location :=
    append_ne_of_begins (begins_tableStart location) name
  have hsame (location : String) :
      figureStart ++ name = figureStart ++ location ↔ name = location := String.append_right_inj _
  rw [h.lines, List.mem_append, or_iff_right hlisting, List.mem_cons, or_iff_right (htable _)]
  cases plot <;> simp [hsame]

theorem countP_tableStart : said.lines.countP (begins tableStart) = 1 := by
  rw [h.lines, List.countP_append, countP_listing begins_doneStart.1, List.countP_cons,
    begins_append_self]
  cases plot <;> simp [begins_figureStart]

theorem countP_figureStart : said.lines.countP (begins figureStart) = plot.toList.length := by
  rw [h.lines, List.countP_append, countP_listing begins_doneStart.2, List.countP_cons,
    begins_tableStart]
  cases plot <;> simp [begins_append_self]

/-! ### What is there -/

/-- What is where no figure went. -/
theorem node?_of_ne (hsave : save.Exact) {location : Location}
    (hne : ∀ file ∈ plot, location ≠ t.place (ImageFile.ofName file).name) :
    u.node? location =
      (t.keep (t.place output) (.text (GrainTable.wholeStream curve).text)).node? location := by
  cases plot with
  | none => rw [h.unasked rfl]
  | some file =>
      obtain ⟨notices, hsaved⟩ := h.saved file rfl
      refine hsave.inPlace hsaved location ?_
      rw [place_eq_of_working (sameBut_keep t _ _).working]
      exact hne file rfl

/-- **The image is in the file of the completed name**, unless that is a device. -/
theorem node?_image (hsave : save.Exact) {file : String} (hfile : file ∈ plot) :
    u.node? (t.place (ImageFile.ofName file).name) =
      holding (t.node? (t.place (ImageFile.ofName file).name))
        (.image (settings.figure curve)) := by
  obtain ⟨notices, hsaved⟩ := h.saved file hfile
  have hheld := hsave.held hsaved
  rw [place_eq_of_working (sameBut_keep t _ _).working] at hheld
  rw [hheld]
  exact holding_congr fun space => node?_keep_eq_device_iff

/-- **The file of the table holds it**, unless that is a device or the figure went there too. -/
theorem node?_table_iff (hsave : save.Exact) :
    u.node? (t.place output) = some (.file (.text (GrainTable.wholeStream curve).text)) ↔
      (∀ space, t.node? (t.place output) ≠ some (.device space)) ∧
        ∀ file ∈ plot, t.place (ImageFile.ofName file).name ≠ t.place output := by
  by_cases hover : ∃ file ∈ plot, t.place (ImageFile.ofName file).name = t.place output
  · obtain ⟨file, hfile, hsame⟩ := hover
    rw [← hsame, h.node?_image hsave hfile]
    exact iff_of_false (holding_ne (by simp)) fun hapart => hapart.2 file hfile rfl
  · have hapart : ∀ file ∈ plot, t.place (ImageFile.ofName file).name ≠ t.place output :=
      fun file hfile hsame => hover ⟨file, hfile, hsame⟩
    rw [h.node?_of_ne hsave fun file hfile => (hapart file hfile).symm, node?_keep_self h.opened,
      holding_eq_iff, and_iff_left hapart]

/-- **The location that is named for the figure holds it** unless it is a device, if the name has a
suffix.  If it has none, nothing is done there, or the table is written. -/
theorem node?_figure_iff (hsave : save.Exact) {file : String} (hfile : file ∈ plot) :
    u.node? (t.place file) = some (.file (.image (settings.figure curve))) ↔
      if ImageFile.hasSuffix file then ∀ space, t.node? (t.place file) ≠ some (.device space)
      else t.place file ≠ t.place output ∧
        t.node? (t.place file) = some (.file (.image (settings.figure curve))) := by
  split
  · rename_i hsuffix
    have hplace : t.place (ImageFile.ofName file).name = t.place file := by
      rw [place, ImageFile.ofText_ofName_of_suffix hsuffix, place]
    rw [← hplace, h.node?_image hsave hfile, holding_eq_iff]
  · rename_i hsuffix
    have hplace : t.place file ≠ t.place (ImageFile.ofName file).name := by
      rw [place, place, ImageFile.ofText_ofName (Bool.not_eq_true _ ▸ hsuffix)]
      exact (Path.locate_completed_ne _ _).symm
    rw [h.node?_of_ne hsave fun other hother => Option.mem_unique hfile hother ▸ hplace]
    by_cases htable : t.place file = t.place output
    · rw [htable, node?_keep_self h.opened]
      exact iff_of_false (holding_ne (by simp)) fun hkept => hkept.1 rfl
    · rw [(sameBut_keep t _ _).nodes _ (by simpa using htable), and_iff_right htable]

/-- The line on the table is true if what it names holds the table. -/
theorem truthful_table_iff (hworking : IsProper t.working) {content : Content} :
    said.Truthful u tableStart content ↔ u.node? (t.place output) = some (.file content) := by
  have hplace := u.place_locationText (isProper_place hworking output)
  constructor
  · intro htrue
    rw [← hplace]
    exact htrue _ (h.tableStart_mem_iff.2 rfl)
  · intro hnode name hname
    rwa [h.tableStart_mem_iff.1 hname, hplace]

/-- So is that on a figure. -/
theorem truthful_figure_iff (hworking : IsProper t.working) {content : Content} :
    said.Truthful u figureStart content ↔
      ∀ file ∈ plot, u.node? (t.place file) = some (.file content) := by
  have hplace (file : String) := u.place_locationText (isProper_place hworking file)
  constructor
  · intro htrue file hfile
    rw [← hplace]
    exact htrue _ (h.figureStart_mem_iff.2 ⟨file, hfile, rfl⟩)
  · intro hnode name hname
    obtain ⟨file, hfile, rfl⟩ := h.figureStart_mem_iff.1 hname
    rw [hplace]
    exact hnode file hfile

end Finished

/-! ### The lines of a pass -/

/-- **When the lines of a pass are true.**  A pass that ends well has one line on the table, and one
on the figure if there is to be one.  The line on the table is true unless the file is a device or
takes the figure as well.  That on a figure is true of a name with a suffix unless the file is a
device; it is wrong of every name without one, unless the same image was already there. -/
theorem run_truthful_iff (hsave : around.save.Exact) (r : Request) (output : String)
    (plot : Option String) (verbose : Bool) (t : FileTree) (hworking : IsProper t.working)
    {path : Path}
    (hrun : Pass.exec ((r.asking output plot verbose).run (host around)) {} t =
      ((.ok path, said), u)) :
    ∃ text figure, r.tableText? = some text ∧ r.figure? = some figure ∧
      said.lines.countP (begins tableStart) = 1 ∧
      said.lines.countP (begins figureStart) = plot.toList.length ∧
      (said.Truthful u tableStart (.text text) ↔
        (∀ space, t.node? (t.place output) ≠ some (.device space)) ∧
          ∀ file ∈ plot, t.place (ImageFile.ofName file).name ≠ t.place output) ∧
      (said.Truthful u figureStart (.image figure) ↔
        ∀ file ∈ plot,
          if ImageFile.hasSuffix file then ∀ space, t.node? (t.place file) ≠ some (.device space)
          else t.place file ≠ t.place output ∧
            t.node? (t.place file) = some (.file (.image figure))) := by
  obtain ⟨settings, curve, hplan, hfinished⟩ := (exec_eq_iff.1 hrun).finished hsave
  refine ⟨_, _, hplan.tableText?_eq, hplan.figure?_eq, hfinished.countP_tableStart,
    hfinished.countP_figureStart, ?_, ?_⟩
  · rw [hfinished.truthful_table_iff hworking, hfinished.node?_table_iff hsave]
  · rw [hfinished.truthful_figure_iff hworking]
    exact forall₂_congr fun file hfile => hfinished.node?_figure_iff hsave hfile

/-- A pass whose image goes to a new file of the working directory ends well. -/
theorem exists_run_fresh {name : String} (hfile : ImageFile.ofName name = ⟨"curve.png", "png"⟩)
    (verbose : Bool) :
    ∃ said u, Pass.exec ((ordinary.asking "grain.tbl" (some name) verbose).run (host plain)) {}
      fresh = ((.ok (.ofText "grain.tbl"), said), u) := by
  obtain ⟨settings, curve, hplan⟩ := exists_planned_ordinary
  have hlocate : fresh.locate (.ofText "grain.tbl") = .ok ["tmp", "work", "grain.tbl"] := by
    decide +kernel
  have hlocates : fresh.locate (.ofText (ImageFile.ofName name).name) =
      .ok ["tmp", "work", "curve.png"] := by
    rw [hfile]
    decide +kernel
  have hnull : (ImageFile.ofName name).name.toList.contains '\x00' = false := by
    rw [hfile]
    decide
  obtain ⟨said, hran⟩ := exists_ran_of_locate hplan (by decide) hlocate (by decide) (by decide)
    hnull hlocates (by decide) (by decide) verbose
  exact ⟨said, _, exec_eq_iff.2 hran⟩

/-- Both lines are true of a table and a figure in a new directory. -/
theorem run_truthful_iff_fresh :
    plain.save.Exact ∧ IsProper fresh.working ∧
    ∃ said u text figure,
      Pass.exec ((ordinary.asking "grain.tbl" (some "curve.png") true).run (host plain)) {}
        fresh = ((.ok (.ofText "grain.tbl"), said), u) ∧
      ordinary.tableText? = some text ∧ ordinary.figure? = some figure ∧
      said.Truthful u tableStart (.text text) ∧ said.Truthful u figureStart (.image figure) := by
  obtain ⟨said, u, hrun⟩ := exists_run_fresh (show ImageFile.ofName "curve.png" = _ by decide) true
  have hproper : IsProper fresh.working := by decide
  obtain ⟨text, figure, htext, hfigure, -, -, htable, himage⟩ :=
    run_truthful_iff plain_exact ordinary "grain.tbl" (some "curve.png") true fresh hproper hrun
  refine ⟨plain_exact, hproper, said, u, text, figure, hrun, htext, hfigure, htable.2 ?_,
    himage.2 ?_⟩
  · have hnew : fresh.node? (fresh.place "grain.tbl") = none := by decide
    exact ⟨hnew ▸ nofun, by decide⟩
  · have hnew : fresh.node? (fresh.place "curve.png") = none := by decide
    intro file hfile
    obtain rfl := Option.some.inj hfile
    rw [if_pos (by decide), hnew]
    exact nofun

/-- A figure without a suffix is not where the line says: the image is in another file, and there is
nothing in the one that is named. -/
theorem run_elsewhere :
    ∃ said u figure,
      Pass.exec ((ordinary.asking "grain.tbl" (some "curve") false).run (host plain)) {} fresh =
        ((.ok (.ofText "grain.tbl"), said), u) ∧
      ordinary.figure? = some figure ∧ figureStart ++ "/tmp/work/curve" ∈ said.lines ∧
      u.node? ["tmp", "work", "curve"] = none ∧
      u.node? ["tmp", "work", "curve.png"] = some (.file (.image figure)) ∧
      ¬ said.Truthful u figureStart (.image figure) := by
  obtain ⟨said, u, hrun⟩ := exists_run_fresh (show ImageFile.ofName "curve" = _ by decide) false
  obtain ⟨settings, curve, hplan, hfinished⟩ := (exec_eq_iff.1 hrun).finished plain_exact
  have hnamed : fresh.place "curve" = ["tmp", "work", "curve"] := by decide
  have hshown : fresh.place (ImageFile.ofName "curve").name = ["tmp", "work", "curve.png"] := by
    decide
  have hmissing : fresh.node? ["tmp", "work", "curve.png"] = none ∧
      fresh.node? ["tmp", "work", "curve"] = none := by decide
  have himage := hfinished.node?_image plain_exact (Option.mem_some_self "curve")
  rw [hshown, hmissing.1] at himage
  have helsewhere : ∀ file ∈ some "curve",
      ["tmp", "work", "curve"] ≠ fresh.place (ImageFile.ofName file).name := by decide
  have hnothing := hfinished.node?_of_ne plain_exact helsewhere
  rw [(sameBut_keep fresh _ _).nodes _ (by decide), hmissing.2] at hnothing
  refine ⟨said, u, _, hrun, hplan.figure?_eq, ?_, hnothing, himage, ?_⟩
  · exact hfinished.figureStart_mem_iff.2 ⟨"curve", rfl, by decide⟩
  · rw [hfinished.truthful_figure_iff (by decide)]
    intro htrue
    have hthere := htrue "curve" rfl
    rw [hnamed, hnothing] at hthere
    cases hthere

end Request

end FilmGrain
