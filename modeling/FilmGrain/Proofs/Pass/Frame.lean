/-
**What a pass leaves in the files.**

A pass on a tree of files writes the table and may save a figure, and touches nothing else.  The
text of the table follows from the settings alone: listing the points or asking for a figure does
not change it.  What surrounds the tree is left open here: the limit on integers, what standard
output takes, and the library that saves figures, as long as saving one changes its own file only.
Where a pass ends before the file of the table is open, there is no trace of it.

A figure whose name has no suffix is saved under another name, without the dots at its end, and that
file may be the file of the table; and a device keeps no text.  Apart from these two the file of the
table holds the text of the table.

Main definitions:

* `FilmGrain.wroteTable`, `FilmGrain.endedEarly` — how far a pass has come;
* `Request.asking` — a request with another file, another figure or another list.

Main results:

* `Request.Figured.node?_eq` — a figure changes its own file and no other;
* `Request.Ran.wrote`, `Request.Ran.early` — what is left by a pass that wrote its table, and by one
  that ended early;
* `Request.run_frame` — **what a pass leaves, and what it does not depend on**;
* `Request.run_overwritten` — a device keeps no table, and a figure may replace it.
-/

import FilmGrain.Proofs.Files.Frame
import FilmGrain.Proofs.Pass.Lines

set_option autoImplicit false

namespace FilmGrain

open Number

/-! ### Lines beside a tree -/

section Lines

open FileTree

variable {around : Surroundings} {lines shown : List String} {t u : FileTree} {beginning : String}
  {path : Path} {result : Except Failure Unit}

/-- Lines are printed beside the tree. -/
theorem Printed.tree_eq (h : Printed (host around) lines t result shown u) : u = t := by
  induction h with
  | nil => rfl
  | refused hprint => exact (congrArg Prod.snd hprint).symm
  | cons hprint _ ih => exact ih.trans (congrArg Prod.snd hprint).symm

/-- A tree is only read to say where a file is. -/
theorem Named.tree_eq (h : Named (host around) beginning path t result shown u) : u = t := by
  cases h with
  | unresolved hresolve => cases hresolve
  | resolved hresolve hprinted => exact hprinted.tree_eq.trans (congrArg Prod.snd hresolve).symm

theorem printed_plain (lines : List String) (t : FileTree) :
    Printed (host plain) lines t (.ok ()) lines t := by
  induction lines with
  | nil => exact .nil
  | cons line rest ih => exact .cons rfl ih

theorem named_plain (beginning : String) (path : Path) (t : FileTree) :
    Named (host plain) beginning path t (.ok ())
      [beginning ++ Path.locationText (path.locate t.working)] t :=
  .resolved rfl (printed_plain _ t)

end Lines

/-! ### What the figure and the table change -/

/-- A request for a table in another file, with another figure and another list. -/
def Request.asking (r : Request) (output : String) (plot : Option String) (verbose : Bool) :
    Request :=
  { r with output := .text output, plot := plot.map .text, verbose := verbose }

/-- The table was written, whatever became of the figure. -/
def wroteTable : Except Failure Path → Bool
  | .ok _ | .error (.figure _) => true
  | .error _ => false

/-- The settings were refused or not sampled, or the file of the table was not opened. -/
def endedEarly : Except Failure Path → Bool
  | .error (.lookup _) | .error (.settings _) | .error (.sampling _) => true
  | .error (.table (.unnameable _)) | .error (.table (.notOpened _ _)) => true
  | .error _ | .ok _ => false

theorem endedEarly_of_wroteTable {result : Except Failure Path} (h : wroteTable result = true) :
    endedEarly result = false := by
  cases result with
  | ok => rfl
  | error failure =>
      cases failure with
      | figure => rfl
      | lookup | settings | sampling | notPath | table | unresolved | unprinted => cases h

/-- Where the line on a file fails, the file was opened before. -/
theorem Named.not_early {σ : Type} {host : Host (StateM σ)} {beginning : String} {path : Path}
    {s after : σ} {result : Except Failure Unit} {shown : List String}
    (h : Named host beginning path s result shown after) (file : Path) :
    endedEarly (result.map fun _ => file) = false := by
  cases result with
  | ok => rfl
  | error failure =>
      obtain ⟨fault, rfl | rfl⟩ := h.exists_fault rfl
      · rfl
      · rfl

namespace Request

open FileTree

variable {around : Surroundings} {r : Request} {settings : CameraSettings} {curve : ScalingCurve}
  {t u : FileTree} {said : Report}

/-- A figure changes its own file and no other. -/
theorem Figured.node?_eq {plot : Option String} {result : Except Failure Unit}
    (hsave : around.save.InPlace)
    (h : Figured (host around) settings curve (plot.map .text) t result said u)
    {location : Location} (hne : ∀ file ∈ plot, location ≠ t.place (ImageFile.ofName file).name) :
    u.node? location = t.node? location := by
  cases h with
  | unasked | nameless => rfl
  | unsaved _ hunsaved => rw [run_saveFigure_eq_error hunsaved]
  | saved hplot hsaved hnamed =>
      obtain ⟨file, hfile, htext⟩ := Option.map_eq_some_iff.1 hplot
      cases htext
      rw [hnamed.tree_eq]
      exact hsave (run_saveFigure_eq_ok hsaved) location (hne _ hfile)

/-- Nothing that is said of a figure is about a table. -/
theorem Figured.begins_of_mem {σ : Type} {host : Host (StateM σ)} {plot : Option Setting}
    {s after : σ} {result : Except Failure Unit}
    (h : Figured host settings curve plot s result said after)
    {line : String} (hline : line ∈ said.lines) : begins tableStart line = false := by
  cases h with
  | unasked | nameless | unsaved => cases hline
  | saved _ _ hnamed =>
      obtain ⟨location, rfl⟩ := hnamed.exists_of_mem hline
      exact begins_figureStart location

/-- The figure of a request comes after the file of the table was opened. -/
theorem Figured.not_early {σ : Type} {host : Host (StateM σ)} {plot : Option Setting}
    {s after : σ} {result : Except Failure Unit}
    (h : Figured host settings curve plot s result said after) (path : Path) :
    endedEarly (result.map fun _ => path) = false := by
  cases h with
  | unasked | nameless | unsaved => rfl
  | saved _ _ hnamed => exact hnamed.not_early path

/-- What is written through the buffer of a file stays in it. -/
theorem eq_keep_of_delivered {name text : String} {opened closed : FileTree}
    (hopen : ((host around).openFile (.ofText name)).run t = (.ok (), opened))
    (hclose : ((host around).close (.ofText name) text).run opened = (.ok (), closed)) :
    t.node? (t.place name) ≠ some .directory ∧ closed = t.keep (t.place name) (.text text) :=
  have hopened := run_openFile_eq_ok hopen
  ⟨(openEmpty_eq_ok_iff.1 hopened).2.1, eq_keep_of_written hopened (changing_eq_ok hclose)⟩

/-- Settings are refused before anything else. -/
theorem endedEarly_of_settings {failure : Failure} {limit : DigitLimit}
    (h : r.settings limit = .error failure) : endedEarly (.error failure) = true := by
  obtain ⟨error, -, rfl⟩ | ⟨function, error, -, -, rfl⟩ := settings_eq_error_iff.1 h
  · rfl
  · rfl

/-- The line on the table is said once, whatever is said of a figure after it. -/
theorem Figured.countP_tableStart {plot : Option Setting} {σ : Type} {host : Host (StateM σ)}
    {s after : σ} {result : Except Failure Unit}
    (h : Figured host settings curve plot s result said after) (location : String) :
    ([tableStart ++ location] ++ said.lines).countP (begins tableStart) = 1 := by
  have hfigure : said.lines.countP (begins tableStart) = 0 :=
    List.countP_eq_zero.2 fun line hline => Bool.eq_false_iff.1 (h.begins_of_mem hline)
  rw [List.countP_append, List.countP_singleton, hfigure, if_pos (begins_append_self _ _)]

/-- A table that was written is in its file, and nothing but the files of the table and the figure
has changed. -/
theorem Delivered.wrote {output : String} {plot : Option String} {verbose : Bool}
    {result : Except Failure Path} (hsave : around.save.InPlace)
    (h : Delivered (host around) (r.asking output plot verbose) settings curve t result said u)
    (hwrote : wroteTable result = true)
    (hapart : ∀ file ∈ plot, t.place (ImageFile.ofName file).name ≠ t.place output) :
    u.node? (t.place output) =
      holding (t.node? (t.place output)) (.text (GrainTable.wholeStream curve).text) ∧
    said.lines.countP (begins tableStart) = 1 ∧
    ∀ location, location ≠ t.place output →
      (∀ file ∈ plot, location ≠ t.place (ImageFile.ofName file).name) →
      u.node? location = t.node? location := by
  cases h with
  | nameless | notClosed => cases hwrote
  | @unopened _ fault => cases fault <;> cases hwrote
  | unnamed _ _ _ hnamed =>
      obtain ⟨fault, rfl | rfl⟩ := hnamed.exists_fault rfl
      · cases hwrote
      · cases hwrote
  | written houtput hopen hclose hnamed hfigure =>
      cases houtput
      obtain ⟨hplace, rfl⟩ := eq_keep_of_delivered hopen hclose
      obtain rfl := hnamed.tree_eq.symm
      obtain ⟨location, rfl⟩ := hnamed.exists_of_ok rfl
      have hsame := sameBut_keep t (t.place output) (.text (GrainTable.wholeStream curve).text)
      -- the figure is located from the tree with the table, whose working directory is the same
      have hfiles := place_eq_of_working hsame.working
      refine ⟨?_, hfigure.countP_tableStart location, fun other hne hfigures => ?_⟩
      · rw [hfigure.node?_eq hsave fun file hfile => ?_]
        · exact node?_keep_self hplace _
        · rw [hfiles]
          exact (hapart file hfile).symm
      · rw [hfigure.node?_eq hsave fun file hfile => ?_]
        · exact hsame.nodes other (by simpa using hne)
        · rw [hfiles]
          exact hfigures file hfile

/-- **A pass that wrote its table** left its text there, and changed nothing but the files of the
table and the figure. -/
theorem Ran.wrote {output : String} {plot : Option String} {verbose : Bool}
    {result : Except Failure Path} (hsave : around.save.InPlace)
    (h : Ran (host around) (r.asking output plot verbose) t result said u)
    (hwrote : wroteTable result = true)
    (hapart : ∀ file ∈ plot, t.place (ImageFile.ofName file).name ≠ t.place output) :
    ∃ text, r.tableText? = some text ∧
      u.node? (t.place output) = holding (t.node? (t.place output)) (.text text) ∧
      said.lines.countP (begins tableStart) = 1 ∧
      ∀ location, location ≠ t.place output →
        (∀ file ∈ plot, location ≠ t.place (ImageFile.ofName file).name) →
        u.node? location = t.node? location := by
  cases h with
  | unsettled hsettings =>
      have hearly := endedEarly_of_settings hsettings
      rw [endedEarly_of_wroteTable hwrote] at hearly
      cases hearly
  | tooManyPixels => cases hwrote
  | unlisted _ hlisted =>
      obtain ⟨fault, rfl⟩ := hlisted.exists_fault rfl
      cases hwrote
  | planned hplan hlisted hdelivered =>
      obtain rfl := hlisted.tree_eq.symm
      obtain rfl := hlisted.eq_of_ok rfl
      obtain ⟨htable, hcount, hframe⟩ := hdelivered.wrote hsave hwrote hapart
      refine ⟨_, hplan.tableText?_eq, htable, ?_, hframe⟩
      rw [List.countP_append, countP_listing begins_doneStart.1, hcount]

/-- **A pass that ended early** left everything as it was, whichever way figures are saved. -/
theorem Ran.early {output : String} {plot : Option String} {verbose : Bool}
    {result : Except Failure Path}
    (h : Ran (host around) (r.asking output plot verbose) t result said u)
    (hearly : endedEarly result = true) :
    u = t ∧ (∀ line ∈ said.lines, begins doneStart line = false) ∧ said.notices = [] ∧
      ∀ other, Ran (host { around with save := other }) (r.asking output plot verbose) t result
        said u := by
  cases h with
  | unsettled hsettings => exact ⟨rfl, nofun, rfl, fun _ => .unsettled hsettings⟩
  | tooManyPixels hsettings hpixels =>
      exact ⟨rfl, nofun, rfl, fun _ => .tooManyPixels hsettings hpixels⟩
  | unlisted _ hlisted =>
      obtain ⟨fault, rfl⟩ := hlisted.exists_fault rfl
      cases hearly
  | planned hplan hlisted hdelivered =>
      cases hdelivered with
      | nameless htext => cases htext
      | unopened houtput hopen =>
          -- no way to save figures prints a line or opens the file of a table
          refine ⟨(run_openFile_eq_error hopen).trans hlisted.tree_eq, fun line hline => ?_, rfl,
            fun other => .planned hplan (hlisted.congr fun _ => rfl) (.unopened houtput hopen)⟩
          rw [List.append_nil] at hline
          exact begins_of_mem_listing (hlisted.mem hline)
      | notClosed => cases hearly
      | unnamed _ _ _ hnamed =>
          have hlate := hnamed.not_early (.ofText output)
          rw [Except.map, hearly] at hlate
          cases hlate
      | written _ _ _ _ hfigure =>
          rw [hfigure.not_early] at hearly
          cases hearly

/-! ### Passes on files that can be opened -/

/-- A request for an image of 1920 by 1080 pixels. -/
def ordinary : Request where
  width := .integer 1920
  height := .integer 1080
  iso := .real (Arith.const 800)
  output := .text "grain.tbl"

theorem exists_planned_ordinary : ∃ settings curve, ordinary.Planned settings curve := by
  have hpixels :
      ((ordinary.settings .unlimited).toOption.map fun s => s.pixels) = some 2073600 := by
    decide +kernel
  obtain ⟨failure, hsettings⟩ | ⟨settings, hsettings, hlimit⟩ | hplan :=
    ordinary.planned_or .unlimited
  · rw [hsettings] at hpixels
    cases hpixels
  · rw [hsettings] at hpixels
    have hvalue : settings.pixels = 2073600 := Option.some.inj hpixels
    have hsmall : 2073600 < pixelLimit := by decide +kernel
    omega
  · exact hplan

theorem Planned.asking (h : r.Planned settings curve) (output : String) (plot : Option String)
    (verbose : Bool) : (r.asking output plot verbose).Planned settings curve :=
  ⟨h.checked, h.representable, h.sampled⟩

/-- A file that can be opened takes the text of a table. -/
theorem exists_delivered_of_locate (r : Request) (settings : CameraSettings)
    (curve : ScalingCurve) {output : String} {place : Location} {result : Except Failure Unit}
    (houtput : r.output = .text output) (hnull : (Path.ofText output).hasNull = false)
    (hlocate : t.locate (.ofText output) = .ok place) (hplace : t.node? place ≠ some .directory)
    (hspace : t.node? place ≠ some (.device false))
    (hfigure : Figured (host plain) settings curve r.plot
      (t.keep place (.text (GrainTable.wholeStream curve).text)) result said u) :
    ∃ more,
      Delivered (host plain) r settings curve t (result.map fun _ => .ofText output) more u := by
  have hopen : t.openEmpty (.ofText output) = .ok (t.keep place (.text "")) := by
    rw [openEmpty_of_locate hlocate, if_neg hplace]
  have hopened : (disk.openFile (.ofText output)).run t = (.ok (), t.keep place (.text "")) := by
    rw [openFile_of_hasNull hnull, run_openEmpty_of_ok hopen]
  have hclose :
      (t.keep place (.text "")).append (.ofText output) (GrainTable.wholeStream curve).text =
        .ok (t.keep place (.text (GrainTable.wholeStream curve).text)) := by
    rw [append_keep hlocate hplace, if_neg fun h => hspace h.1, String.empty_append]
  exact ⟨_, .written houtput hopened (changing_of_ok hclose) (named_plain _ _ _) hfigure⟩

/-- A file that can be opened takes a figure. -/
theorem exists_figured_of_locate (settings : CameraSettings) (curve : ScalingCurve) {name : String}
    {shown : Location} (hnull : (ImageFile.ofName name).name.toList.contains '\x00' = false)
    (hlocate : t.locate (.ofText (ImageFile.ofName name).name) = .ok shown)
    (hshown : t.node? shown ≠ some .directory) (hspace : t.node? shown ≠ some (.device false)) :
    ∃ more, Figured (host plain) settings curve (some (.text name)) t (.ok ()) more
      (t.keep shown (.image (settings.figure curve))) := by
  have hsave : plain.save name (settings.figure curve) t =
      ([], .ok (t.keep shown (.image (settings.figure curve)))) := by
    simp only [plain, saving, hnull, saveImage_of_locate hlocate hshown, if_neg hspace]
    rfl
  exact ⟨_, .saved rfl (run_saveFigure_of_ok hsave) (named_plain _ _ _)⟩

/-- A pass on two files that can be opened writes the table, and then saves the figure. -/
theorem exists_ran_of_locate {output name : String} {place shown : Location}
    (hplan : r.Planned settings curve) (hnull : (Path.ofText output).hasNull = false)
    (hlocate : t.locate (.ofText output) = .ok place) (hplace : t.node? place ≠ some .directory)
    (hspace : t.node? place ≠ some (.device false))
    (hname : (ImageFile.ofName name).name.toList.contains '\x00' = false)
    (hlocates : t.locate (.ofText (ImageFile.ofName name).name) = .ok shown)
    (hshown : t.node? shown ≠ some .directory) (hfull : t.node? shown ≠ some (.device false))
    (verbose : Bool) :
    ∃ said, Ran (host plain) (r.asking output (some name) verbose) t (.ok (.ofText output)) said
      ((t.keep place (.text (GrainTable.wholeStream curve).text)).keep shown
        (.image (settings.figure curve))) := by
  have hkept (node : Node) (h : t.node? shown ≠ some node)
      (hfile : ∀ content, node ≠ .file content) :
      (t.keep place (.text (GrainTable.wholeStream curve).text)).node? shown ≠ some node := by
    rcases node?_keep t place (.text (GrainTable.wholeStream curve).text) shown with heq | heq
    · rwa [heq]
    · rw [heq]
      exact fun hnode => hfile _ (Option.some.inj hnode).symm
  obtain ⟨more, hfigured⟩ := exists_figured_of_locate settings curve hname
    (locate_keep hplace _ hlocates) (hkept _ hshown fun _ => nofun) (hkept _ hfull fun _ => nofun)
  obtain ⟨said, hdelivered⟩ := exists_delivered_of_locate (r.asking output (some name) verbose)
    settings curve rfl hnull hlocate hplace hspace hfigured
  exact ⟨_, .planned (hplan.asking _ _ _) (printed_plain _ _) hdelivered⟩

/-! ### The frame of a pass -/

/-- **What a pass leaves.**  If it writes its table, the text follows from the settings alone, the
file of the table holds it unless it is a device, and apart from the files of the table and the
figure nothing has changed.  If it ends early nothing has changed at all, and no figure was begun:
the pass is the same whichever way figures are saved. -/
theorem run_frame {around : Surroundings} (hsave : around.save.InPlace) (r : Request)
    (output : String) (plot : Option String) (verbose : Bool) (t : FileTree)
    (hapart : ∀ file ∈ plot, t.place (ImageFile.ofName file).name ≠ t.place output)
    {result : Except Failure Path}
    (hrun : Pass.exec ((r.asking output plot verbose).run (host around)) {} t =
      ((result, said), u)) :
    (wroteTable result = true →
      ∃ text, r.tableText? = some text ∧
        u.node? (t.place output) = holding (t.node? (t.place output)) (.text text) ∧
        said.lines.countP (begins tableStart) = 1 ∧
        ∀ location, location ≠ t.place output →
          (∀ file ∈ plot, location ≠ t.place (ImageFile.ofName file).name) →
          u.node? location = t.node? location) ∧
    (endedEarly result = true →
      u = t ∧ (∀ line ∈ said.lines, begins doneStart line = false) ∧ said.notices = [] ∧
        ∀ other,
          Pass.exec ((r.asking output plot verbose).run (host { around with save := other })) {} t =
            ((result, said), u)) := by
  have hran := exec_eq_iff.1 hrun
  refine ⟨fun hwrote => hran.wrote hsave hwrote hapart, fun hearly => ?_⟩
  obtain ⟨hsame, hlines, hnotices, hothers⟩ := hran.early hearly
  exact ⟨hsame, hlines, hnotices, fun other => exec_eq_iff.2 (hothers other)⟩

/-- A pass that writes its table and saves its figure, and one that finds no directory for them. -/
theorem run_frame_fresh :
    plain.save.InPlace ∧
    (∀ file ∈ some "curve.png",
      fresh.place (ImageFile.ofName file).name ≠ fresh.place "grain.tbl") ∧
    (∀ file ∈ some "curve.png",
      fresh.place (ImageFile.ofName file).name ≠ fresh.place "none/grain.tbl") ∧
    (∃ said u,
      Pass.exec ((ordinary.asking "grain.tbl" (some "curve.png") true).run (host plain)) {}
        fresh = ((.ok (.ofText "grain.tbl"), said), u) ∧
      ∃ text, ordinary.tableText? = some text ∧
        u.node? (fresh.place "grain.tbl") = some (.file (.text text)) ∧
        said.lines.countP (begins tableStart) = 1) ∧
    ∃ failure said,
      Pass.exec ((ordinary.asking "none/grain.tbl" (some "curve.png") true).run
        (host plain)) {} fresh = ((.error failure, said), fresh) ∧
      ∀ line ∈ said.lines, begins doneStart line = false := by
  obtain ⟨settings, curve, hplan⟩ := exists_planned_ordinary
  have hapart : ∀ file ∈ some "curve.png",
      fresh.place (ImageFile.ofName file).name ≠ fresh.place "grain.tbl" := by decide +kernel
  have hmissing : ∀ file ∈ some "curve.png",
      fresh.place (ImageFile.ofName file).name ≠ fresh.place "none/grain.tbl" := by decide +kernel
  refine ⟨plain_inPlace, hapart, hmissing, ?_, ?_⟩
  · have hlocate : fresh.locate (.ofText "grain.tbl") = .ok ["tmp", "work", "grain.tbl"] := by
      decide +kernel
    have hlocates : fresh.locate (.ofText (ImageFile.ofName "curve.png").name) =
        .ok ["tmp", "work", "curve.png"] := by decide +kernel
    obtain ⟨said, hran⟩ := exists_ran_of_locate hplan (by decide +kernel) hlocate
      (by decide +kernel) (by decide +kernel) (by decide +kernel) hlocates
      (by decide +kernel) (by decide +kernel) true
    have hrun := exec_eq_iff.2 hran
    obtain ⟨text, htext, hnode, hcount, -⟩ :=
      (run_frame plain_inPlace ordinary _ _ _ fresh hapart hrun).1 rfl
    have hnew : fresh.node? (fresh.place "grain.tbl") = none := by decide +kernel
    rw [hnew] at hnode
    exact ⟨said, _, hrun, text, htext, hnode, hcount⟩
  · have hnull : (Path.ofText "none/grain.tbl").hasNull = false := by decide +kernel
    have habsent : fresh.openEmpty (.ofText "none/grain.tbl") = .error .notFound := by
      decide +kernel
    have hopen : (disk.openFile (.ofText "none/grain.tbl")).run fresh =
        (.error (.refused .notFound), fresh) := by
      rw [openFile_of_hasNull hnull, run_openEmpty_of_error habsent]
    -- the failure is the one that comes of this opening
    have hran : Ran (host plain) (ordinary.asking "none/grain.tbl" (some "curve.png") true) fresh
        (.error (.table (.ofOpening (.ofText "none/grain.tbl") (.refused .notFound)))) _ fresh :=
      .planned (hplan.asking _ _ _) (printed_plain _ _) (.unopened rfl hopen)
    have hrun := exec_eq_iff.2 hran
    obtain ⟨-, hlines, -⟩ := (run_frame plain_inPlace ordinary _ _ _ fresh hmissing hrun).2 rfl
    exact ⟨_, _, hrun, hlines⟩

/-- A device keeps no table, and a figure may replace it: a name without a suffix that ends in a dot
loses the dot before it gets the default suffix. -/
theorem run_overwritten :
    (∃ said u,
      Pass.exec ((ordinary.asking "/dev/null" none false).run (host plain)) {} fresh =
        ((.ok (.ofText "/dev/null"), said), u) ∧
      ∀ text, u.node? (fresh.place "/dev/null") ≠ some (.file (.text text))) ∧
    suffix "foo.".toList = [] ∧ fresh.place ("foo." ++ ".png") ≠ fresh.place "foo.png" ∧
    ∃ said u,
      Pass.exec ((ordinary.asking "foo.png" (some "foo.") false).run (host plain)) {} fresh =
        ((.ok (.ofText "foo.png"), said), u) ∧
      ∀ text, u.node? (fresh.place "foo.png") ≠ some (.file (.text text)) := by
  obtain ⟨settings, curve, hplan⟩ := exists_planned_ordinary
  refine ⟨?_, by decide +kernel, by decide +kernel, ?_⟩
  · have hlocate : fresh.locate (.ofText "/dev/null") = .ok ["dev", "null"] := by decide +kernel
    have hplace : fresh.place "/dev/null" = ["dev", "null"] := by decide +kernel
    have hdevice : fresh.node? ["dev", "null"] = some (.device true) := by decide +kernel
    obtain ⟨said, hdelivered⟩ := exists_delivered_of_locate
      (ordinary.asking "/dev/null" none false) settings curve rfl (by decide +kernel) hlocate
      (by decide +kernel) (by decide +kernel) (.unasked rfl)
    refine ⟨_, _, exec_eq_iff.2 (.planned (hplan.asking _ _ _) (printed_plain _ _) hdelivered),
      fun text => ?_⟩
    rw [keep_of_device hdevice, hplace, hdevice]
    exact nofun
  · have hlocate : fresh.locate (.ofText "foo.png") = .ok ["tmp", "work", "foo.png"] := by
      decide +kernel
    have hlocates : fresh.locate (.ofText (ImageFile.ofName "foo.").name) =
        .ok ["tmp", "work", "foo.png"] := by decide +kernel
    obtain ⟨said, hran⟩ := exists_ran_of_locate hplan (by decide +kernel) hlocate
      (by decide +kernel) (by decide +kernel) (by decide +kernel) hlocates
      (by decide +kernel) (by decide +kernel) false
    have hplace : fresh.place "foo.png" = ["tmp", "work", "foo.png"] := by decide +kernel
    have hnew : fresh.node? ["tmp", "work", "foo.png"] = none := by decide +kernel
    have htable (content : Content) :
        (fresh.keep ["tmp", "work", "foo.png"] content).node? ["tmp", "work", "foo.png"] =
          some (.file content) := by
      rw [node?_keep_self (by decide +kernel), hnew]
      rfl
    refine ⟨said, _, exec_eq_iff.2 hran, fun text => ?_⟩
    rw [hplace, node?_keep_self, htable]
    · exact nofun
    · rw [htable]
      exact nofun

end Request

end FilmGrain
