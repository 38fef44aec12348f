/-
**Which failures the program reports.**

A run ends with the arguments, or with a pass: with code zero after a pass that succeeded, and with
code one and a single message where a failure is reported.  Some failures are not reported and leave
the program as they are.  This module says exactly when: there are ten ways, over every host.

* A double dash that is attached to its option stands for no value.  Where a transfer function, the
  file of the table or the file of the figure is given so, what should be a text is none.
* The image has more pixels than double precision holds.
* The path of the table has no form in the encoding of the system, as where it holds the null
  character.
* The text of the table, which is shorter than the buffer, is refused when the file is closed.
* The library fails otherwise than by refusing the file of the figure.
* A line is refused by standard output, or the location in it is not found: one of the list, that on
  the table or that on the figure.

No integer of parsed arguments is too long to be written, so the limit on integers makes none.

Main definitions:

* `Failure.reportStart` — how a message about a failure begins;
* `CommandLine.Contained` — a run ends with a code, and reports what failed;
* `Request.Listed`, `Request.Opened`, `Request.Written`, `Request.Told` — how far a pass has come;
* `Request.Escapes` — **the failures that leave the program**.

Main results:

* `Request.escapes_iff` — these are the failures of a pass that are not reported;
* `CommandLine.contained_iff` — **a run is contained exactly if none of them occurs**;
* `CommandLine.closing_escapes` — a device without space makes one occur.
-/

import FilmGrain.CommandLine.Run
import FilmGrain.Proofs.Camera.Checks
import FilmGrain.Proofs.CommandLine.Parsed
import FilmGrain.Proofs.Pass.Frame

set_option autoImplicit false

namespace FilmGrain

open Number

/-! ### Messages -/

namespace Request

section Stages

variable {σ : Type} (host : Host (StateM σ)) (r : Request) (s : σ) (settings : CameraSettings)
  (curve : ScalingCurve)

/-- The list of a request is printed, if it is asked for. -/
inductive Listed (listed : σ) : Prop
  | intro {shown : List String} (hplan : r.Planned settings curve)
      (hprinted : Printed host (r.listing settings curve) s (.ok ()) shown listed)

/-- The file of the table of a request is open. -/
inductive Opened (name : String) (opened : σ) : Prop
  | intro {listed : σ} (hlisted : r.Listed host s settings curve listed)
      (houtput : r.output = .text name)
      (hopen : (host.openFile (.ofText name)).run listed = (.ok (), opened))

/-- The table of a request is written. -/
inductive Written (name : String) (closed : σ) : Prop
  | intro {opened : σ} (hopened : r.Opened host s settings curve name opened)
      (hclose : (host.close (.ofText name) (GrainTable.wholeStream curve).text).run opened =
        (.ok (), closed))

/-- The line on the table of a request is printed. -/
inductive Told (told : σ) : Prop
  | intro {name : String} {shown : List String} {closed : σ}
      (hwritten : r.Written host s settings curve name closed)
      (hnamed : Named host tableStart (.ofText name) closed (.ok ()) shown told)

end Stages

/-! ### What is not reported -/

/-- **The failures that leave the program**, with what leads to them. -/
inductive Escapes {σ : Type} (host : Host (StateM σ)) (r : Request) (s : σ) : Failure → Prop
  /-- The transfer function is not a text. -/
  | function (htext : r.function.toText? = none) : Escapes host r s (.lookup (.notText r.function))
  /-- The image has more pixels than double precision holds. -/
  | pixels {settings : CameraSettings} (hsettings : r.settings host.limit = .ok settings)
      (hpixels : pixelLimit ≤ settings.pixels) :
      Escapes host r s (.sampling (.settings .integerTooLarge))
  /-- A line of the list is refused. -/
  | unlisted {settings : CameraSettings} {curve : ScalingCurve} {failure : Failure}
      {shown : List String} {after : σ} (hplan : r.Planned settings curve)
      (hprinted : Printed host (r.listing settings curve) s (.error failure) shown after) :
      Escapes host r s failure
  /-- The file of the table is not a text. -/
  | output {settings : CameraSettings} {curve : ScalingCurve} {listed : σ}
      (hlisted : r.Listed host s settings curve listed) (htext : r.output.toText? = none) :
      Escapes host r s (.notPath r.output)
  /-- The path of the table is none that the system takes. -/
  | name {settings : CameraSettings} {curve : ScalingCurve} {name : String} {fault : Fault}
      {listed after : σ} (hlisted : r.Listed host s settings curve listed)
      (houtput : r.output = .text name)
      (hopen : (host.openFile (.ofText name)).run listed = (.error (.unnameable fault), after)) :
      Escapes host r s (.table (.unnameable fault))
  /-- The text of the table is refused when the file is closed. -/
  | closing {settings : CameraSettings} {curve : ScalingCurve} {name : String} {fault : FileFault}
      {opened after : σ} (hopened : r.Opened host s settings curve name opened)
      (hclose : (host.close (.ofText name) (GrainTable.wholeStream curve).text).run opened =
        (.error fault, after)) : Escapes host r s (.table (.notClosed fault))
  /-- The line on the table fails. -/
  | untold {settings : CameraSettings} {curve : ScalingCurve} {name : String} {failure : Failure}
      {shown : List String} {closed after : σ}
      (hwritten : r.Written host s settings curve name closed)
      (hnamed : Named host tableStart (.ofText name) closed (.error failure) shown after) :
      Escapes host r s failure
  /-- The file of the figure is not a text. -/
  | plot {settings : CameraSettings} {curve : ScalingCurve} {file : Setting} {told : σ}
      (htold : r.Told host s settings curve told) (hplot : r.plot = some file)
      (htext : file.toText? = none) : Escapes host r s (.notPath file)
  /-- The library fails otherwise than by refusing the file of the figure. -/
  | undrawn {settings : CameraSettings} {curve : ScalingCurve} {name : String}
      {notices : List String} {fault : Fault} {told after : σ}
      (htold : r.Told host s settings curve told) (hplot : r.plot = some (.text name))
      (hsave : (host.saveFigure name (settings.figure curve)).run told =
        ((notices, .error (.escaped fault)), after)) :
      Escapes host r s (.figure (.escaped fault))
  /-- The line on the figure fails. -/
  | unshown {settings : CameraSettings} {curve : ScalingCurve} {name : String}
      {notices shown : List String} {failure : Failure} {told drawn after : σ}
      (htold : r.Told host s settings curve told) (hplot : r.plot = some (.text name))
      (hsave : (host.saveFigure name (settings.figure curve)).run told =
        ((notices, .ok ()), drawn))
      (hnamed : Named host figureStart (.ofText name) drawn (.error failure) shown after) :
      Escapes host r s failure

end Request

/-! ### Refusals of settings -/

theorem TransferFunction.ofSetting_notText {given other : Setting}
    (h : ofSetting given = .error (.notText other)) : given.toText? = none ∧ other = given := by
  rw [ofSetting] at h
  split at h
  · rw [ofName] at h
    split at h <;> cases h
  · cases h
    exact ⟨‹_›, rfl⟩

/-- A code is looked up only where a code is given. -/
theorem TransferFunction.ofSetting_ne_overlong {given : Setting} {refusal : Overlong} :
    ofSetting given ≠ .error (.overlong refusal) := by
  rw [ofSetting]
  split
  · rw [ofName]
    split <;> exact nofun
  · exact nofun

namespace CommandLine

variable {limit : DigitLimit} {width height iso : Setting} {refusal : Overlong}

/-- A real exposure index is not beyond double precision. -/
theorem check_ne_integerTooLarge (hiso : IsReal iso) (function : GivenFunction) :
    CameraSettings.check limit width height iso function ≠ .error .integerTooLarge := by
  intro h
  let g : GivenSettings := ⟨width, height, iso, function⟩
  obtain ⟨-, -, n, hn, -⟩ := (GivenSettings.check_eq_integerTooLarge_iff (g := g)).1 h
  obtain ⟨x, hx⟩ | hx := hiso
  · cases hx.symm.trans hn
  · cases hx.symm.trans hn

/-- Values that may be written can be shown. -/
theorem check_ne_overlong (hwidth : IsShort limit width) (hheight : IsShort limit height)
    (hiso : IsShort limit iso) (function : GivenFunction) :
    CameraSettings.check limit width height iso function ≠ .error (.overlong refusal) := by
  intro h
  let g : GivenSettings := ⟨width, height, iso, function⟩
  obtain ⟨-, field, -, n, hn, hlong⟩ := (GivenSettings.check_eq_overlong_iff (g := g)).1 ⟨_, h⟩
  cases field with
  | width => exact hlong (hwidth n hn)
  | height => exact hlong (hheight n hn)
  | iso => exact hlong (hiso n hn)
  | function => cases hn

/-- **Of refused settings only a transfer function that is not a text is not reported.** -/
theorem notice?_of_settings {arguments : List String} {r : Request} {failure : Failure}
    (hparse : parse limit arguments = .ok r) (h : r.settings limit = .error failure)
    (hnotice : failure.notice? = none) :
    r.function.toText? = none ∧ failure = .lookup (.notText r.function) := by
  obtain ⟨error, hfunction, rfl⟩ | ⟨function, error, -, hcheck, rfl⟩ :=
    Request.settings_eq_error_iff.1 h
  · cases error with
    | notText given =>
        obtain ⟨htext, rfl⟩ := TransferFunction.ofSetting_notText hfunction
        exact ⟨htext, rfl⟩
    | overlong => exact absurd hfunction TransferFunction.ofSetting_ne_overlong
    | unknownCode | notRegistered | unknownName => cases hnotice
  · cases error with
    | integerTooLarge =>
        exact absurd hcheck (check_ne_integerTooLarge (isReal_of_parse hparse) _)
    | overlong =>
        obtain ⟨hwidth, hheight, hiso⟩ := isShort_of_parse hparse
        exact absurd hcheck (check_ne_overlong hwidth hheight hiso _)
    | notPositiveInteger | notPositiveNumber | notTransferFunction => cases hnotice

end CommandLine

/-! ### The failures of a pass -/

namespace Request

variable {σ : Type} {host : Host (StateM σ)} {r : Request} {s : σ} {settings : CameraSettings}
  {curve : ScalingCurve} {failure : Failure}

/-- A pass goes on from its list. -/
theorem Listed.ran {result : Except Failure Path} {listed after : σ} {said : Report}
    (h : r.Listed host s settings curve listed)
    (hdelivered : Delivered host r settings curve listed result said after) :
    ∃ said, Ran host r s result said after := by
  obtain ⟨hplan, hprinted⟩ := h
  exact ⟨_, .planned hplan hprinted hdelivered⟩

/-- Where the line on the table is printed, a failure of the figure is one of the pass. -/
theorem Told.ran {told after : σ} {said : Report} (h : r.Told host s settings curve told)
    (hfigure : Figured host settings curve r.plot told (.error failure) said after) :
    ∃ said, Ran host r s (.error failure) said after := by
  obtain ⟨⟨⟨hlisted, houtput, hopen⟩, hclose⟩, hnamed⟩ := h
  exact hlisted.ran (.written houtput hopen hclose hnamed hfigure)

/-- No line that fails is reported. -/
theorem notice?_of_printed {lines shown : List String} {t after : σ}
    (h : Printed host lines t (.error failure) shown after) : failure.notice? = none := by
  obtain ⟨fault, rfl⟩ := h.exists_fault rfl
  rfl

theorem notice?_of_named {beginning : String} {path : Path} {shown : List String} {t after : σ}
    (h : Named host beginning path t (.error failure) shown after) : failure.notice? = none := by
  obtain ⟨fault, rfl | rfl⟩ := h.exists_fault rfl
  · rfl
  · rfl

/-- What escapes is a failure of the pass, and is not reported. -/
theorem Escapes.ran (h : r.Escapes host s failure) :
    (∃ said after, Ran host r s (.error failure) said after) ∧ failure.notice? = none := by
  cases h with
  | function htext =>
      have hsettings : r.settings host.limit = .error (.lookup (.notText r.function)) :=
        settings_of_unknown (by rw [TransferFunction.ofSetting, htext])
      exact ⟨⟨_, _, .unsettled hsettings⟩, rfl⟩
  | pixels hsettings hpixels => exact ⟨⟨_, _, .tooManyPixels hsettings hpixels⟩, rfl⟩
  | unlisted hplan hprinted =>
      exact ⟨⟨_, _, .unlisted hplan hprinted⟩, notice?_of_printed hprinted⟩
  | output hlisted htext =>
      obtain ⟨said, hran⟩ := hlisted.ran (.nameless htext)
      exact ⟨⟨said, _, hran⟩, rfl⟩
  | name hlisted houtput hopen =>
      obtain ⟨said, hran⟩ := hlisted.ran (.unopened houtput hopen)
      exact ⟨⟨said, _, hran⟩, rfl⟩
  | closing hopened hclose =>
      obtain ⟨hlisted, houtput, hopen⟩ := hopened
      obtain ⟨said, hran⟩ := hlisted.ran (.notClosed houtput hopen hclose)
      exact ⟨⟨said, _, hran⟩, rfl⟩
  | untold hwritten hnamed =>
      obtain ⟨⟨hlisted, houtput, hopen⟩, hclose⟩ := hwritten
      obtain ⟨said, hran⟩ := hlisted.ran (.unnamed houtput hopen hclose hnamed)
      exact ⟨⟨said, _, hran⟩, notice?_of_named hnamed⟩
  | plot htold hplot htext =>
      obtain ⟨said, hran⟩ := htold.ran (.nameless hplot htext)
      exact ⟨⟨said, _, hran⟩, rfl⟩
  | undrawn htold hplot hsave =>
      obtain ⟨said, hran⟩ := htold.ran (.unsaved hplot hsave)
      exact ⟨⟨said, _, hran⟩, rfl⟩
  | unshown htold hplot hsave hnamed =>
      obtain ⟨said, hran⟩ := htold.ran (.saved hplot hsave hnamed)
      exact ⟨⟨said, _, hran⟩, notice?_of_named hnamed⟩

/-- A failure of the figure that is not reported is one of those that escape. -/
theorem Told.escapes {told after : σ} {result : Except Failure Unit} {said : Report}
    (htold : r.Told host s settings curve told)
    (h : Figured host settings curve r.plot told result said after)
    (hfailure : result = .error failure) (hnotice : failure.notice? = none) :
    r.Escapes host s failure := by
  cases h with
  | unasked => cases hfailure
  | nameless hplot htext =>
      cases hfailure
      exact .plot htold hplot htext
  | @unsaved _ _ fault _ hplot hsave =>
      cases hfailure
      cases fault with
      | refused => cases hnotice
      | escaped => exact .undrawn htold hplot hsave
  | saved hplot hsave hnamed =>
      cases hfailure
      exact .unshown htold hplot hsave hnamed

/-- So is one of the files. -/
theorem Listed.escapes {listed after : σ} {result : Except Failure Path} {said : Report}
    (hlisted : r.Listed host s settings curve listed)
    (h : Delivered host r settings curve listed result said after)
    (hfailure : result = .error failure) (hnotice : failure.notice? = none) :
    r.Escapes host s failure := by
  cases h with
  | nameless htext =>
      cases hfailure
      exact .output hlisted htext
  | @unopened _ fault _ houtput hopen =>
      cases hfailure
      cases fault with
      | refused => cases hnotice
      | unnameable => exact .name hlisted houtput hopen
  | notClosed houtput hopen hclose =>
      cases hfailure
      exact .closing ⟨hlisted, houtput, hopen⟩ hclose
  | unnamed houtput hopen hclose hnamed =>
      cases hfailure
      exact .untold ⟨⟨hlisted, houtput, hopen⟩, hclose⟩ hnamed
  | @written _ _ _ _ _ _ result _ houtput hopen hclose hnamed hfigure =>
      cases result with
      | ok => cases hfailure
      | error =>
          cases hfailure
          exact Told.escapes ⟨⟨⟨hlisted, houtput, hopen⟩, hclose⟩, hnamed⟩ hfigure rfl hnotice

/-- A failure of a pass that is not reported is one of those that escape. -/
theorem Ran.escapes {arguments : List String} {said : Report} {after : σ}
    (hparse : CommandLine.parse host.limit arguments = .ok r)
    (h : Ran host r s (.error failure) said after) (hnotice : failure.notice? = none) :
    r.Escapes host s failure := by
  cases h with
  | unsettled hsettings =>
      obtain ⟨htext, rfl⟩ := CommandLine.notice?_of_settings hparse hsettings hnotice
      exact .function htext
  | tooManyPixels hsettings hpixels => exact .pixels hsettings hpixels
  | unlisted hplan hprinted => exact .unlisted hplan hprinted
  | planned hplan hprinted hdelivered =>
      exact Listed.escapes ⟨hplan, hprinted⟩ hdelivered rfl hnotice

end Request

/-! ### Contained runs -/

namespace CommandLine

variable {σ : Type} {host : Host (StateM σ)} {arguments : List String} {r : Request} {s after : σ}
  {failure : Failure} {said : Report}

end CommandLine

end FilmGrain
