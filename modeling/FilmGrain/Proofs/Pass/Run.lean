/-
**What a pass can come to.**

A pass ends in one of a few ways, each with its own result, its own report and its own state.  This
module says once which they are and when they occur, for any kind of host.  Everything else about a
pass is read off from there.

Main definitions:

* `Request.listing` — the lines of the list of the model and the points;
* `Request.Figured`, `Request.Delivered`, `Request.Ran` — **what the figure, the files and the whole
  of a pass can come to**.

Main results:

* `Request.exec_of_figured`, `Request.exec_of_delivered`, `Request.exec_of_ran` — what is run where
  an end is due;
* `Request.exists_ran` — there is always one;
* `Request.exec_eq_iff` — **a pass comes to exactly one of its ends**.
-/

import FilmGrain.Proofs.Pass.Plan
import FilmGrain.Proofs.Pass.Steps
import FilmGrain.Proofs.Table.Written

set_option autoImplicit false

namespace FilmGrain

open Number

/-! ### The ends of a pass -/

namespace CameraSettings

/-- The figure of a curve of given settings. -/
def figure (settings : CameraSettings) (curve : ScalingCurve) : Figure :=
  .ofCurve curve (some (settings.function, settings.sensorModel)) settings.figureTitle

/-- The lines of the list of the model and the points. -/
def pointLines (settings : CameraSettings) (curve : ScalingCurve) : List String :=
  match settings.pixelArea with
  | .error _ => []
  | .ok area =>
      settings.describe (settings.sensorModel : SensorModel Double) :: settings.quantitiesLine area
        :: curve.points.map ScalingPoint.line

end CameraSettings

theorem Setting.eq_text_of_toText? {given : Setting} {name : String}
    (h : given.toText? = some name) : given = .text name := by
  cases given with
  | text s => exact congrArg Setting.text (Option.some.inj h)
  | _ => exact absurd h nofun

namespace Request

/-- The lines that come before the table is written. -/
def listing (r : Request) (settings : CameraSettings) (curve : ScalingCurve) : List String :=
  if r.verbose then settings.pointLines curve else []

/-- How the line on a table begins. -/
def tableStart : String := "[OK] Saved film grain table to: "

/-- How the line on a figure begins. -/
def figureStart : String := "[OK] Saved scaling curve plot to: "

variable {σ : Type}

/-- What the figure of a pass can come to: a result, what is said, and the state after it. -/
inductive Figured (host : Host (StateM σ)) (settings : CameraSettings) (curve : ScalingCurve)
    (plot : Option Setting) (s : σ) : Except Failure Unit → Report → σ → Prop
  /-- No figure is asked for. -/
  | unasked (hplot : plot = none) : Figured host settings curve plot s (.ok ()) {} s
  /-- What is given in the place of its file is not a text. -/
  | nameless {file : Setting} (hplot : plot = some file) (htext : file.toText? = none) :
      Figured host settings curve plot s (.error (.notPath file)) {} s
  /-- It is not saved. -/
  | unsaved {name : String} {notices : List String} {fault : SaveFault} {after : σ}
      (hplot : plot = some (.text name))
      (hsave : (host.saveFigure name (settings.figure curve)).run s =
        ((notices, .error fault), after)) :
      Figured host settings curve plot s (.error (.figure (.ofSaving name fault))) ⟨[], notices⟩
        after
  /-- It is saved, and the line on it is next. -/
  | saved {name : String} {notices shown : List String} {drawn after : σ}
      {result : Except Failure Unit} (hplot : plot = some (.text name))
      (hsave : (host.saveFigure name (settings.figure curve)).run s = ((notices, .ok ()), drawn))
      (hnamed : Named host figureStart (.ofText name) drawn result shown after) :
      Figured host settings curve plot s result ⟨shown, notices⟩ after

/-- What the files of a planned pass can come to. -/
inductive Delivered (host : Host (StateM σ)) (r : Request) (settings : CameraSettings)
    (curve : ScalingCurve) (s : σ) : Except Failure Path → Report → σ → Prop
  /-- What is given in the place of the file of the table is not a text. -/
  | nameless (htext : r.output.toText? = none) :
      Delivered host r settings curve s (.error (.notPath r.output)) {} s
  /-- The file is not opened. -/
  | unopened {name : String} {fault : OpenFault} {after : σ} (houtput : r.output = .text name)
      (hopen : (host.openFile (.ofText name)).run s = (.error fault, after)) :
      Delivered host r settings curve s (.error (.table (.ofOpening (.ofText name) fault))) {} after
  /-- The text is not written, which shows when the file is closed. -/
  | notClosed {name : String} {fault : FileFault} {opened after : σ}
      (houtput : r.output = .text name)
      (hopen : (host.openFile (.ofText name)).run s = (.ok (), opened))
      (hclose : (host.close (.ofText name) (GrainTable.wholeStream curve).text).run opened =
        (.error fault, after)) :
      Delivered host r settings curve s (.error (.table (.notClosed fault))) {} after
  /-- The table is written, and the line on it fails. -/
  | unnamed {name : String} {shown : List String} {failure : Failure} {opened closed after : σ}
      (houtput : r.output = .text name)
      (hopen : (host.openFile (.ofText name)).run s = (.ok (), opened))
      (hclose : (host.close (.ofText name) (GrainTable.wholeStream curve).text).run opened =
        (.ok (), closed))
      (hnamed : Named host tableStart (.ofText name) closed (.error failure) shown after) :
      Delivered host r settings curve s (.error failure) ⟨shown, []⟩ after
  /-- The table is written, and the figure is next. -/
  | written {name : String} {shown : List String} {opened closed told after : σ}
      {result : Except Failure Unit} {said : Report} (houtput : r.output = .text name)
      (hopen : (host.openFile (.ofText name)).run s = (.ok (), opened))
      (hclose : (host.close (.ofText name) (GrainTable.wholeStream curve).text).run opened =
        (.ok (), closed))
      (hnamed : Named host tableStart (.ofText name) closed (.ok ()) shown told)
      (hfigure : Figured host settings curve r.plot told result said after) :
      Delivered host r settings curve s (result.map fun _ => .ofText name)
        ⟨shown ++ said.lines, said.notices⟩ after

/-- **What a pass can come to**: its result, its report, and the state after it. -/
inductive Ran (host : Host (StateM σ)) (r : Request) (s : σ) :
    Except Failure Path → Report → σ → Prop
  /-- The settings are refused. -/
  | unsettled {failure : Failure} (hsettings : r.settings host.limit = .error failure) :
      Ran host r s (.error failure) {} s
  /-- The image has too many pixels. -/
  | tooManyPixels {settings : CameraSettings} (hsettings : r.settings host.limit = .ok settings)
      (hpixels : pixelLimit ≤ settings.pixels) :
      Ran host r s (.error (.sampling (.settings .integerTooLarge))) {} s
  /-- There is a curve, and it is not listed. -/
  | unlisted {settings : CameraSettings} {curve : ScalingCurve} {failure : Failure}
      {shown : List String} {after : σ} (hplan : r.Planned settings curve)
      (hlisted : Printed host (r.listing settings curve) s (.error failure) shown after) :
      Ran host r s (.error failure) ⟨shown, []⟩ after
  /-- There is a curve, and the files are next. -/
  | planned {settings : CameraSettings} {curve : ScalingCurve} {result : Except Failure Path}
      {shown : List String} {said : Report} {listed after : σ} (hplan : r.Planned settings curve)
      (hlisted : Printed host (r.listing settings curve) s (.ok ()) shown listed)
      (hdelivered : Delivered host r settings curve listed result said after) :
      Ran host r s result ⟨shown ++ said.lines, said.notices⟩ after

/-! ### Every pass comes to one of them -/

variable {host : Host (StateM σ)} {r : Request} {settings : CameraSettings} {curve : ScalingCurve}
  {said more : Report} {s after : σ} {result : Except Failure Unit} {shown : List String}

/-- Neither the sensor nor the area is missing, so the list is its lines. -/
theorem exec_listPoints (h : settings.pixels < pixelLimit)
    (hlisted : Printed host (settings.pointLines curve) s result shown after) :
    Pass.exec (listPoints host settings curve) said s =
      ((result, { said with lines := said.lines ++ shown }), after) := by
  obtain ⟨count, hcount⟩ := CameraSettings.pixelCount_of_lt h
  obtain ⟨area, harea⟩ : ∃ area, settings.pixelArea = .ok area := by
    rw [CameraSettings.pixelArea, hcount]
    exact ⟨_, rfl⟩
  have hlines : listPoints host settings curve =
      (settings.pointLines curve).forM (report host) := by
    rw [listPoints, CameraSettings.sensor_of_lt h, harea, CameraSettings.pointLines, harea]
    have hpoints : (curve.points.map ScalingPoint.line).forM (report host) =
        curve.points.forM fun p => report host p.line := List.forM_map
    have hhead : ∀ (first second : String) (rest : List String),
        (first :: second :: rest).forM (report host) =
          (do
            report host first
            report host second
            rest.forM (report host)) := fun _ _ _ => rfl
    rw [hhead, hpoints]
    rfl
  rw [hlines, Pass.exec_of_printed hlisted]

/-- A pass goes on from where its list ends. -/
theorem exec_listing_of_ok {α : Type} (h : settings.pixels < pixelLimit)
    (hlisted : Printed host (r.listing settings curve) s (.ok ()) shown after)
    (next : Unit → Pass (StateM σ) α) :
    Pass.exec (if r.verbose then listPoints host settings curve >>= next else next ()) said s =
      Pass.exec (next ()) { said with lines := said.lines ++ shown } after := by
  rw [listing] at hlisted
  split at hlisted
  · rename_i hverbose
    rw [if_pos hverbose]
    exact Pass.exec_bind_of_ok (exec_listPoints h hlisted) next
  · rename_i hquiet
    cases hlisted
    rw [if_neg hquiet, List.append_nil]

/-- A pass ends where its list fails. -/
theorem exec_listing_of_error {α : Type} {failure : Failure} (h : settings.pixels < pixelLimit)
    (hlisted : Printed host (r.listing settings curve) s (.error failure) shown after)
    (next : Unit → Pass (StateM σ) α) :
    Pass.exec (if r.verbose then listPoints host settings curve >>= next else next ()) said s =
      ((.error failure, { said with lines := said.lines ++ shown }), after) := by
  rw [listing] at hlisted
  split at hlisted
  · rename_i hverbose
    rw [if_pos hverbose]
    exact Pass.exec_bind_of_error (exec_listPoints h hlisted) next
  · cases hlisted

theorem fileName_eq_ok {file : Setting} {name : String} (h : file.toText? = some name) :
    fileName file = .ok name := by
  rw [fileName, h]

theorem fileName_eq_error {file : Setting} (h : file.toText? = none) :
    fileName file = .error (.notPath file) := by
  rw [fileName, h]

/-- Up to the saving the steps of a figure only check. -/
theorem exec_saveFigure (h : settings.pixels < pixelLimit) {name : String} {notices : List String}
    {saved : Except SaveFault Unit}
    (hsave : (host.saveFigure name (settings.figure curve)).run s = ((notices, saved), after)) :
    Pass.exec (saveFigure host settings curve (.text name)) said s =
      Pass.exec (do
        Pass.check (fun fault => .figure (.ofSaving name fault)) saved
        reportSaved host figureStart (.ofText name))
        { said with notices := said.notices ++ notices } after := by
  rw [saveFigure, CameraSettings.sensor_of_lt h, fileName_eq_ok rfl]
  exact (Pass.exec_bind_of_ok rfl _).trans ((Pass.exec_bind_of_ok rfl _).trans
    ((Pass.exec_bind_of_ok (Pass.exec_lift_of_eq hsave) _).trans
      (Pass.exec_bind_of_ok (Pass.exec_forM_notify notices) _)))

theorem exec_of_figured {file : Setting} (h : settings.pixels < pixelLimit)
    (hfigured : Figured host settings curve (some file) s result more after) :
    Pass.exec (saveFigure host settings curve file) said s =
      ((result, ⟨said.lines ++ more.lines, said.notices ++ more.notices⟩), after) := by
  cases hfigured with
  | unasked hplot => cases hplot
  | nameless hplot htext =>
      cases hplot
      rw [saveFigure, CameraSettings.sensor_of_lt h, fileName_eq_error htext]
      refine (Pass.exec_bind_of_ok rfl _).trans ((Pass.exec_bind_of_error rfl _).trans ?_)
      simp
  | unsaved hplot hsave =>
      cases hplot
      rw [exec_saveFigure h hsave, Pass.exec_bind_of_error (Pass.exec_check _ _), List.append_nil]
  | saved hplot hsave hnamed =>
      cases hplot
      rw [exec_saveFigure h hsave, Pass.exec_bind_of_ok (Pass.exec_check _ _),
        exec_of_named hnamed]

/-- The figure is the last part of a pass, and does not change the path that it ends with. -/
theorem exec_of_figured_last {plot : Option Setting} (h : settings.pixels < pixelLimit)
    (hfigured : Figured host settings curve plot s result more after) (path : Path) :
    Pass.exec (match plot with
      | some file => do
          saveFigure host settings curve file
          pure path
      | none => pure path) said s =
    ((result.map fun _ => path, ⟨said.lines ++ more.lines, said.notices ++ more.notices⟩),
      after) := by
  cases plot with
  | none =>
      obtain ⟨-⟩ | ⟨⟨⟩⟩ | ⟨⟨⟩⟩ | ⟨⟨⟩⟩ := hfigured
      simp [Pass.exec_pure, Except.map]
  | some file =>
      cases result with
      | error failure => exact Pass.exec_bind_of_error (exec_of_figured h hfigured) _
      | ok => exact Pass.exec_bind_of_ok (exec_of_figured h hfigured) _

/-- The file of a table that is opened is closed with the whole text. -/
theorem writeEnd_wholeStream {path : Path} {opened : σ} {closed : Except FileFault Unit}
    (hopen : (host.openFile path).run s = (.ok (), opened))
    (hclose : (host.close path (GrainTable.wholeStream curve).text).run opened = (closed, after)) :
    ((GrainTable.wholeStream curve).write host.toDisk host.limit path).run.run s =
      (closed.mapError .notClosed |>.map fun _ => path, after) := by
  have hflush : GrainTable.Flushed host.toDisk path opened
      ((GrainTable.wholeStream curve).print host.limit) (.ok ())
      (GrainTable.wholeStream curve).text opened := by
    rw [GrainTable.print_wholeStream]
    exact .short (GrainTable.utf8ByteSize_wholeStream_lt curve)
  rcases closed with fault | ⟨⟩
  · exact (GrainTable.WriteEnd.notClosed hopen hflush hclose).write_eq
  · exact (GrainTable.WriteEnd.written hopen hflush hclose).write_eq

theorem exec_of_delivered {result : Except Failure Path} (h : settings.pixels < pixelLimit)
    (hdelivered : Delivered host r settings curve s result more after) :
    Pass.exec (do
      let output ← Pass.check id (fileName r.output)
      let path ← Pass.on .table
        ((GrainTable.wholeStream curve).write host.toDisk host.limit (.ofText output)).run
      reportSaved host tableStart path
      match r.plot with
      | some file => do
          saveFigure host settings curve file
          pure path
      | none => pure path) said s =
    ((result, ⟨said.lines ++ more.lines, said.notices ++ more.notices⟩), after) := by
  cases hdelivered with
  | nameless htext =>
      rw [fileName_eq_error htext, Pass.exec_bind_of_error (Pass.exec_check _ _)]
      simp
  | @unopened name fault _ houtput hopen =>
      have hwrite : ((GrainTable.wholeStream curve).write host.toDisk host.limit
          (.ofText name)).run.run s = (.error (.ofOpening (.ofText name) fault), after) := by
        cases fault with
        | refused => exact (GrainTable.WriteEnd.notOpened hopen).write_eq
        | unnameable => exact (GrainTable.WriteEnd.unnameable hopen).write_eq
      rw [houtput, fileName_eq_ok rfl, Pass.exec_bind_of_ok (Pass.exec_check _ _),
        Pass.exec_bind_of_error (Pass.exec_on_of_error hwrite _)]
      simp
  | notClosed houtput hopen hclose =>
      rw [houtput, fileName_eq_ok rfl, Pass.exec_bind_of_ok (Pass.exec_check _ _),
        Pass.exec_bind_of_error (Pass.exec_on_of_error (writeEnd_wholeStream hopen hclose) _)]
      simp
  | unnamed houtput hopen hclose hnamed =>
      rw [houtput, fileName_eq_ok rfl, Pass.exec_bind_of_ok (Pass.exec_check _ _),
        Pass.exec_bind_of_ok (Pass.exec_on_of_ok (writeEnd_wholeStream hopen hclose) _),
        Pass.exec_bind_of_error (exec_of_named hnamed)]
      simp
  | written houtput hopen hclose hnamed hfigure =>
      rw [houtput, fileName_eq_ok rfl, Pass.exec_bind_of_ok (Pass.exec_check _ _),
        Pass.exec_bind_of_ok (Pass.exec_on_of_ok (writeEnd_wholeStream hopen hclose) _),
        Pass.exec_bind_of_ok (exec_of_named hnamed), exec_of_figured_last h hfigure]
      simp

theorem exec_of_ran {result : Except Failure Path} (h : Ran host r s result said after) :
    Pass.exec (r.run host) {} s = ((result, said), after) := by
  rw [run]
  cases h with
  | unsettled hsettings =>
      rw [hsettings]
      exact Pass.exec_bind_of_error rfl _
  | tooManyPixels hsettings hpixels =>
      rw [hsettings]
      refine (Pass.exec_bind_of_ok rfl _).trans ?_
      rw [CameraSettings.sampleAll_of_le hpixels]
      exact Pass.exec_bind_of_error rfl _
  | unlisted hplan hlisted =>
      rw [settings_of_ok hplan.checked]
      refine (Pass.exec_bind_of_ok rfl _).trans ?_
      rw [hplan.sampled]
      refine (Pass.exec_bind_of_ok rfl _).trans ?_
      rw [exec_listing_of_error hplan.representable hlisted, List.nil_append]
  | planned hplan hlisted hdelivered =>
      rw [settings_of_ok hplan.checked]
      refine (Pass.exec_bind_of_ok rfl _).trans ?_
      rw [hplan.sampled]
      refine (Pass.exec_bind_of_ok rfl _).trans ?_
      rw [exec_listing_of_ok hplan.representable hlisted]
      exact exec_of_delivered hplan.representable hdelivered

/-! ### There is always an end -/

theorem exists_figured (host : Host (StateM σ)) (settings : CameraSettings) (curve : ScalingCurve)
    (plot : Option Setting) (s : σ) :
    ∃ result said after, Figured host settings curve plot s result said after := by
  cases plot with
  | none => exact ⟨_, _, _, .unasked rfl⟩
  | some file =>
      cases htext : file.toText? with
      | none => exact ⟨_, _, _, .nameless rfl htext⟩
      | some name =>
          obtain rfl := Setting.eq_text_of_toText? htext
          rcases hsave : (host.saveFigure name (settings.figure curve)).run s with
            ⟨⟨notices, fault | ⟨⟩⟩, drawn⟩
          · exact ⟨_, _, _, .unsaved rfl hsave⟩
          · obtain ⟨result, shown, after, hnamed⟩ :=
              exists_named host figureStart (.ofText name) drawn
            exact ⟨_, _, _, .saved rfl hsave hnamed⟩

theorem exists_delivered (host : Host (StateM σ)) (r : Request) (settings : CameraSettings)
    (curve : ScalingCurve) (s : σ) :
    ∃ result said after, Delivered host r settings curve s result said after := by
  cases htext : r.output.toText? with
  | none => exact ⟨_, _, _, .nameless htext⟩
  | some name =>
      have houtput := Setting.eq_text_of_toText? htext
      rcases hopen : (host.openFile (.ofText name)).run s with ⟨fault | ⟨⟩, opened⟩
      · exact ⟨_, _, _, .unopened houtput hopen⟩
      · rcases hclose : (host.close (.ofText name) (GrainTable.wholeStream curve).text).run
          opened with ⟨fault | ⟨⟩, closed⟩
        · exact ⟨_, _, _, .notClosed houtput hopen hclose⟩
        · obtain ⟨result, shown, told, hnamed⟩ := exists_named host tableStart (.ofText name) closed
          rcases result with failure | ⟨⟩
          · exact ⟨_, _, _, .unnamed houtput hopen hclose hnamed⟩
          · obtain ⟨result, said, after, hfigure⟩ := exists_figured host settings curve r.plot told
            exact ⟨_, _, _, .written houtput hopen hclose hnamed hfigure⟩

theorem exists_ran (host : Host (StateM σ)) (r : Request) (s : σ) :
    ∃ result said after, Ran host r s result said after := by
  obtain ⟨failure, hsettings⟩ | ⟨settings, hsettings, hpixels⟩ | ⟨settings, curve, hplan⟩ :=
    r.planned_or host.limit
  · exact ⟨_, _, _, .unsettled hsettings⟩
  · exact ⟨_, _, _, .tooManyPixels hsettings hpixels⟩
  · obtain ⟨result, shown, listed, hlisted⟩ := exists_printed host (r.listing settings curve) s
    rcases result with failure | ⟨⟩
    · exact ⟨_, _, _, .unlisted hplan hlisted⟩
    · obtain ⟨result, said, after, hdelivered⟩ := exists_delivered host r settings curve listed
      exact ⟨_, _, _, .planned hplan hlisted hdelivered⟩

/-- **A pass comes to exactly one of its ends**, the one that its run shows. -/
theorem exec_eq_iff {result : Except Failure Path} :
    Pass.exec (r.run host) {} s = ((result, said), after) ↔ Ran host r s result said after := by
  refine ⟨fun hexec => ?_, exec_of_ran⟩
  obtain ⟨_, _, _, hran⟩ := exists_ran host r s
  cases (exec_of_ran hran).symm.trans hexec
  exact hran

end Request

end FilmGrain
