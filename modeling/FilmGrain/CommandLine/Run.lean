/-
**The program behind its command line.**

The arguments are turned into a request, and the request is run.  Settings that are not valid, a
table that cannot be written and a figure that cannot be saved are reported in one line and end the
program with code one; other failures are not the program's to report and end it with themselves.

Main definitions:

* `Failure.notice?` — the line that reports a failure, if the program reports it;
* `CommandLine.Outcome` — what a run leaves behind;
* `CommandLine.run` — **the program**, over any host.
-/

import FilmGrain.CommandLine.Arguments

set_option autoImplicit false

namespace FilmGrain

namespace Failure

/-- The line that reports a fault of the settings. -/
def errorLine (message : String) : String := "[ERROR] " ++ message

/-- The line that reports a failure, if the program reports it: faults of the settings apart from
integers that are too large or too long, files that cannot be opened or written, and figures that
cannot be saved.  Nothing else is reported, nor is what is given in the place of a name and is not a
text. -/
def notice? : Failure → Option String
  | lookup (.notText _) | lookup (.overlong _) => none
  | lookup error => some (errorLine error.message)
  | settings .integerTooLarge | settings (.overlong _) => none
  | settings error => some (errorLine error.message)
  | sampling _ | notPath _ | unresolved _ | unprinted _ => none
  | table error =>
      match error with
      | .notOpened _ _ | .notWritten _ _ =>
          some ("Failed to write film grain table: " ++ error.message)
      | .unnameable _ | .overlong _ | .notClosed _ => none
  | figure (.escaped _) => none
  | figure error => some (errorLine error.message)

end Failure

namespace CommandLine

/-- How a run ends. -/
inductive Exit where
  /-- The request was carried out. -/
  | success
  /-- Help was asked for. -/
  | help
  /-- A failure was reported. -/
  | reported
  /-- The arguments were refused. -/
  | refused
  /-- A failure was not the program's to report. -/
  | failed (failure : Failure)
deriving DecidableEq

/-- The code that a run ends with, if the program gives one. -/
def Exit.code? : Exit → Option Nat
  | success | help => some 0
  | reported => some 1
  | refused => some 2
  | failed _ => none

/-- What a run leaves behind apart from files. -/
structure Outcome where
  /-- How the run ended. -/
  exit : Exit
  /-- The lines that were printed. -/
  output : List String
  /-- The notices on a figure that was to be saved. -/
  notices : List String
  /-- The lines on standard error, which follow the notices. -/
  errors : List String
deriving DecidableEq

/-- The name of the program. -/
def programName : String := "photon-noise-table"

/-- The outcome of a pass. -/
def Outcome.ofPass (result : Except Failure Path) (said : Report) : Outcome :=
  match result with
  | .ok _ => ⟨.success, said.lines, said.notices, []⟩
  | .error failure =>
      match failure.notice? with
      | some line => ⟨.reported, said.lines, said.notices, [line]⟩
      | none => ⟨.failed failure, said.lines, said.notices, []⟩

/-- The outcome of arguments that lead to no request. -/
def Outcome.ofEnding : Ending → Outcome
  | .help => ⟨.help, [], [], []⟩
  | .refused error => ⟨.refused, [], [], [programName ++ ": error: " ++ error.message]⟩

/-- **The program.** -/
def run {m : Type → Type} [Monad m] (host : Host m) (arguments : List String) : m Outcome := do
  match parse host.limit arguments with
  | .error ending => return .ofEnding ending
  | .ok request =>
      let (result, said) ← ((request.run host).run).run {}
      return .ofPass result said

end CommandLine

end FilmGrain
