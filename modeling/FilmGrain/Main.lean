/-
**The executable.**

The program of `FilmGrain.CommandLine.Run` on the machine.  Images are drawn in the default format
only; saving one in another format is refused.

Main definitions:

* `FilmGrain.machine` — the machine as a host;
* `main` — the entry point.
-/

import FilmGrain.CommandLine.Run
import FilmGrain.Figure.Image

set_option autoImplicit false

namespace FilmGrain

/-- The fault that an error of the machine reports. -/
def FileFault.ofError : IO.Error → FileFault
  | .alreadyExists _ code details => ⟨code.toNat, details⟩
  | .otherError code details => ⟨code.toNat, details⟩
  | .resourceBusy code details => ⟨code.toNat, details⟩
  | .resourceVanished code details => ⟨code.toNat, details⟩
  | .unsupportedOperation code details => ⟨code.toNat, details⟩
  | .hardwareFault code details => ⟨code.toNat, details⟩
  | .unsatisfiedConstraints code details => ⟨code.toNat, details⟩
  | .illegalOperation code details => ⟨code.toNat, details⟩
  | .protocolError code details => ⟨code.toNat, details⟩
  | .timeExpired code details => ⟨code.toNat, details⟩
  | .interrupted _ code details => ⟨code.toNat, details⟩
  | .noFileOrDirectory _ code details => ⟨code.toNat, details⟩
  | .invalidArgument _ code details => ⟨code.toNat, details⟩
  | .permissionDenied _ code details => ⟨code.toNat, details⟩
  | .resourceExhausted _ code details => ⟨code.toNat, details⟩
  | .inappropriateType _ code details => ⟨code.toNat, details⟩
  | .noSuchThing _ code details => ⟨code.toNat, details⟩
  | .unexpectedEof => ⟨5, "Input/output error"⟩
  | .userError details => ⟨5, details⟩

/-- The fault that an error of the machine reports where it is not about a file that is written. -/
def Fault.ofError (error : IO.Error) : Fault := ⟨"OSError", (FileFault.ofError error).line⟩

/-- An action of the machine, with its error as a fault. -/
def attempt {ε α : Type} (fault : IO.Error → ε) (action : IO α) : IO (Except ε α) := do
  return (← action.toIO').mapError fault

/-- Adds a text to the end of a file. -/
def appendText (path : Path) (text : String) : IO Unit :=
  IO.FS.withFile path.text .append fun handle => do
    handle.putStr text
    handle.flush

/-- The location that a path names on the machine. -/
def resolveText (path : Path) : IO String := do
  let working := Path.ofText (← IO.currentDir).toString
  return Path.locationText (path.locate working.parts)

/-- What is said about a format that no image is drawn in. -/
def unsupported (ending : String) : String :=
  "Format " ++ Text.quoted ending ++ " is not supported (supported formats: "
    ++ ImageFile.defaultEnding ++ ")"

/-- The saving of an image by the machine. -/
def saveImage (name : String) (figure : Figure) : IO (Except SaveFault Unit) := do
  let file := ImageFile.ofName name
  if file.ending = ImageFile.defaultEnding then
    attempt (fun error => .refused (FileFault.ofError error).line)
      (IO.FS.writeBinFile file.name figure.draw.encode)
  else return .error (.refused (unsupported file.ending))

/-- The machine as a host. -/
def machine : Host IO where
  openEmpty path := attempt (fun error => .refused (.ofError error))
    (IO.FS.withFile path.text .write fun _ => pure ())
  write path text := attempt .ofError (appendText path text)
  close path text := attempt .ofError (appendText path text)
  resolve path := attempt .ofError (resolveText path)
  limit := .usual
  print line := attempt .ofError (IO.println line)
  saveFigure name figure := return ([], ← saveImage name figure)

/-- The line that shows how the program is called. -/
def usage : String :=
  "usage: " ++ CommandLine.programName ++ " "
    ++ " ".intercalate (CommandOption.all.map fun o =>
      let text := o.label ++ (if o.takesValue then " VALUE" else "")
      if o.isRequired then text else "[" ++ text ++ "]")

/-- Prints what is left to be said after a run; the code of a failure that is not reported is one.
-/
def CommandLine.Outcome.print (outcome : CommandLine.Outcome) : IO UInt32 := do
  match outcome.exit with
  | .help => IO.println usage
  | .refused => IO.eprintln usage
  | .success | .reported | .failed _ => pure ()
  outcome.notices.forM IO.eprintln
  outcome.errors.forM IO.eprintln
  match outcome.exit with
  | .failed failure => IO.eprintln (failure.message machine.limit)
  | .success | .help | .reported | .refused => pure ()
  return UInt32.ofNat (outcome.exit.code?.getD 1)

end FilmGrain

/-- The entry point. -/
def main (arguments : List String) : IO UInt32 := do
  (← FilmGrain.CommandLine.run FilmGrain.machine arguments).print
