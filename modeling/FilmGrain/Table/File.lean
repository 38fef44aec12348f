/-
**Grain tables written to files.**

The text of a table goes through a buffer: a text that is shorter than the buffer is written only
when the file is closed.  A fault while the file is opened or written names the file; a fault while
it is closed is passed on as the system describes it.  The text is put together when the file is
open already, so a table with an integer that is too long to be written leaves an empty file.

Main definitions:

* `FilmGrain.WriteError` — why a table was not written;
* `GrainTable.write` — writing a table to a file.
-/

import FilmGrain.Files.Disk
import FilmGrain.Table.Text

set_option autoImplicit false

namespace FilmGrain

/-- Why a table was not written. -/
inductive WriteError where
  /-- The name of the file has no form in the encoding of the system. -/
  | unnameable (fault : Fault)
  /-- The file was not opened. -/
  | notOpened (path : Path) (fault : FileFault)
  /-- An integer of the table is too long to be written. -/
  | overlong (error : Overlong)
  /-- A block was not written. -/
  | notWritten (path : Path) (fault : FileFault)
  /-- The file was not closed, and what was left in the buffer may be lost. -/
  | notClosed (fault : FileFault)
deriving DecidableEq

/-- The failure that comes of a file that was not opened. -/
def WriteError.ofOpening (path : Path) : OpenFault → WriteError
  | .refused fault => notOpened path fault
  | .unnameable fault => unnameable fault

/-- The message of a failure. -/
def WriteError.message : WriteError → String
  | unnameable fault => fault.message
  | notOpened path fault => "Unable to open file " ++ path.text ++ " (" ++ fault.reason ++ ")"
  | overlong error => error.message
  | notWritten path fault => "Unable to write file " ++ path.text ++ " (" ++ fault.reason ++ ")"
  | notClosed fault => fault.line

namespace GrainTable

variable {m : Type → Type} [Monad m]

/-- The size of the buffer in bytes. -/
def bufferSize : Nat := 8192

/-- The writing of a text to an open file.  The file is closed also when a block was not written;
of two faults the last one is reported. -/
def writeOpen (disk : Disk m) (path : Path) (text : String) : ExceptT WriteError m Unit := do
  if text.utf8ByteSize < bufferSize then
    causing .notClosed (disk.close path text)
  else
    let written ← disk.write path text
    -- the file is closed before the fault of the block is looked at
    causing .notClosed (disk.close path "")
    causing (.notWritten path) (pure written)

/-- The writing of what a table is printed to, to an open file.  The file is closed also when there
is no text. -/
def writePrinted (disk : Disk m) (path : Path) :
    Except Overlong String → ExceptT WriteError m Unit
  | .ok text => writeOpen disk path text
  | .error error => do
      causing .notClosed (disk.close path "")
      throw (.overlong error)

/-- **Writing a table to a file**, with the path of the file as result. -/
def write (disk : Disk m) (limit : DigitLimit) (t : GrainTable) (path : Path) :
    ExceptT WriteError m Path := do
  causing (.ofOpening path) (disk.openFile path)
  writePrinted disk path (t.print limit)
  return path

end GrainTable

end FilmGrain
