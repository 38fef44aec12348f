/-
**From camera settings to a grain table.**

One pass checks the settings, samples the scaling curve of the sensor, writes the grain table that
carries it, and saves a figure of the curve if one is asked for.  It reports what it does in lines
that it prints, and what is lost in a figure in notices; the table is written before the figure is
begun, so a figure that cannot be saved leaves the table in place.  Each step on the host may fail
and end the pass.

Main definitions:

* `FilmGrain.Request` — what is asked for;
* `FilmGrain.Failure` — why a pass ended early;
* `FilmGrain.Report` — what a pass says;
* `Request.run` — the pass, over any host.

Main results:

* `Request.settings_of_unknown` — a transfer function that is not registered is reported first.
-/

import FilmGrain.Host
import FilmGrain.Scaling.Sampling
import FilmGrain.Table.File

set_option autoImplicit false

namespace FilmGrain

open Number

/-! ### Requests -/

/-- What is asked for. -/
structure Request where
  /-- The width of the image. -/
  width : Setting
  /-- The height of the image. -/
  height : Setting
  /-- The exposure index. -/
  iso : Setting
  /-- The file of the grain table. -/
  output : Setting
  /-- The name of the transfer function. -/
  function : Setting := .text TransferFunction.default.name
  /-- The file of the figure, if there is to be one. -/
  plot : Option Setting := none
  /-- Whether the model and the points are listed. -/
  verbose : Bool := false
deriving DecidableEq

/-- Why a pass ended early. -/
inductive Failure where
  /-- The transfer function is not registered. -/
  | lookup (error : TransferFunction.LookupError)
  /-- The settings are not valid. -/
  | settings (error : SettingsError)
  /-- The settings could not be sampled. -/
  | sampling (error : SamplingError)
  /-- What is given in the place of a file is not a text. -/
  | notPath (given : Setting)
  /-- The table was not written. -/
  | table (error : WriteError)
  /-- The location of a file was not found. -/
  | unresolved (fault : Fault)
  /-- A line was not printed. -/
  | unprinted (fault : Fault)
  /-- The figure was not saved. -/
  | figure (error : FigureError)
deriving DecidableEq

/-- The message of a failure. -/
def Failure.message (limit : DigitLimit) : Failure → String
  | lookup error => error.message
  | settings error => error.message
  | sampling error => error.message limit
  | notPath given => "expected str, bytes or os.PathLike object, not " ++ given.kind
  | table error => error.message
  | unresolved fault | unprinted fault => fault.message
  | figure error => error.message

/-! ### Reports -/

/-- What a pass says. -/
structure Report where
  /-- The lines on what was done that were printed. -/
  lines : List String := []
  /-- The notices on what a figure loses in its format. -/
  notices : List String := []
deriving DecidableEq

/-- A pass over a host: it reports, and may end early. -/
abbrev Pass (m : Type → Type) (α : Type) : Type := ExceptT Failure (StateT Report m) α

variable {m : Type → Type} [Monad m]

/-- A step that does not touch the host. -/
def Pass.check {ε α : Type} (cause : ε → Failure) (result : Except ε α) : Pass m α :=
  ExceptT.mk (pure (result.mapError cause))

/-- A step on the host. -/
def Pass.on {ε α : Type} (cause : ε → Failure) (operation : m (Except ε α)) : Pass m α :=
  ExceptT.mk (StateT.lift (do return (← operation).mapError cause))

/-- One more line of the report, if it can be printed. -/
def report (host : Host m) (line : String) : Pass m Unit := do
  Pass.on .unprinted (host.print line)
  modify fun said => { said with lines := said.lines ++ [line] }

/-- One more notice of the report. -/
def notify (notice : String) : Pass m Unit :=
  modify fun said => { said with notices := said.notices ++ [notice] }

/-- A number in at least three columns. -/
def threeColumns (n : Nat) : String :=
  let digits := Nat.toDigits 10 n
  String.ofList (List.replicate (3 - digits.length) ' ' ++ digits)

/-- The line of a scaling point. -/
def ScalingPoint.line (p : ScalingPoint) : String :=
  "  x=" ++ threeColumns p.x.val ++ "  noise=" ++ threeColumns p.noise.val

/-- The line of the quantities that follow from settings. -/
def CameraSettings.quantitiesLine (s : CameraSettings) (pixelArea : Double) : String :=
  "pixel area ≈ " ++ Decimal.positional 2 pixelArea ++ " µm² | mid-tone exposure ≈ "
    ++ Decimal.scientific 3 s.midToneExposure ++ " lx·s"

/-- The title of the figure of settings. -/
def CameraSettings.figureTitle (s : CameraSettings) : String :=
  toString s.width ++ "×" ++ toString s.height ++ " @ ISO "
    ++ Decimal.general (Arith.const s.iso : Double) ++ " (" ++ s.function.name ++ ")"

/-! ### The pass -/

namespace Request

/-- The settings of a request.  The transfer function is looked up before anything is checked. -/
def settings (limit : DigitLimit) (r : Request) : Except Failure CameraSettings := do
  let function ← (TransferFunction.ofSetting r.function).mapError .lookup
  (CameraSettings.check limit r.width r.height r.iso (.registered function)).mapError .settings

/-- A transfer function that is not registered is reported first. -/
theorem settings_of_unknown {limit : DigitLimit} {r : Request}
    {error : TransferFunction.LookupError}
    (h : TransferFunction.ofSetting r.function = .error error) :
    r.settings limit = .error (.lookup error) := by
  rw [settings, h]
  rfl

/-- The name of a file, if what is given is a text. -/
def fileName (given : Setting) : Except Failure String :=
  match given.toText? with
  | some name => .ok name
  | none => .error (.notPath given)

/-- The list of the model and the points. -/
def listPoints (host : Host m) (settings : CameraSettings) (curve : ScalingCurve) :
    Pass m Unit := do
  let sensor ← Pass.check .settings (settings.sensor : Except _ (SensorModel Double))
  report host (settings.describe sensor)
  report host (settings.quantitiesLine (← Pass.check .settings settings.pixelArea))
  curve.points.forM fun p => report host p.line

/-- The line on a file that was saved, with its location. -/
def reportSaved (host : Host m) (beginning : String) (path : Path) : Pass m Unit := do
  let location ← Pass.on .unresolved (host.resolve path)
  report host (beginning ++ location)

/-- The figure of a curve, saved to a given file. -/
def saveFigure (host : Host m) (settings : CameraSettings) (curve : ScalingCurve)
    (file : Setting) : Pass m Unit := do
  let sensor ← Pass.check .settings settings.sensor
  let figure := Figure.ofCurve curve (some (settings.function, sensor)) settings.figureTitle
  let name ← Pass.check id (fileName file)
  let (notices, saved) ← host.saveFigure name figure
  -- the notices are given also where the figure comes to no file
  notices.forM notify
  Pass.check (fun fault => .figure (.ofSaving name fault)) saved
  reportSaved host "[OK] Saved scaling curve plot to: " (.ofText name)

/-- **The pass from a request to its files**, with the path of the table as result. -/
def run (host : Host m) (r : Request) : Pass m Path := do
  let settings ← Pass.check id (r.settings host.limit)
  let curve ← Pass.check .sampling settings.sampleAll
  if r.verbose then listPoints host settings curve
  let output ← Pass.check id (fileName r.output)
  -- from here on the file system changes
  let path ← Pass.on .table
    ((GrainTable.wholeStream curve).write host.toDisk host.limit (.ofText output)).run
  reportSaved host "[OK] Saved film grain table to: " path
  match r.plot with
  | some file => saveFigure host settings curve file
  | none => pure ()
  return path

end Request

end FilmGrain
