/-
**What the program asks of a file system.**

The program writes one file of text.  It sees the file system only through the operations listed
here, each of which may fail with a fault that the system names by a number and a sentence.  A text
is written in three steps, opening, writing and closing, since it reaches the file in blocks: what
is left in the buffer is written when the file is closed.

A name is put into the encoding of the system before the system sees it.  A name that holds the null
character has no form there, and a host may know of more names that have none.

Main definitions:

* `FilmGrain.FileFault` — a fault of the file system;
* `FilmGrain.Fault` — any other fault, by its kind;
* `FilmGrain.Disk` — the operations, in any monad, and `Disk.openFile`.
-/

import FilmGrain.Files.Path

set_option autoImplicit false

namespace FilmGrain

/-- A fault of the file system: its number and its description. -/
structure FileFault where
  /-- The number that the system gives the fault. -/
  number : Nat
  /-- The description of the fault. -/
  reason : String
deriving DecidableEq

namespace FileFault

/-- A directory on the way, or the file itself, does not exist. -/
def notFound : FileFault := ⟨2, "No such file or directory"⟩

/-- A component on the way is not a directory. -/
def notDirectory : FileFault := ⟨20, "Not a directory"⟩

/-- The file is a directory. -/
def isDirectory : FileFault := ⟨21, "Is a directory"⟩

/-- No space is left for what is written. -/
def noSpace : FileFault := ⟨28, "No space left on device"⟩

/-- A component or the whole path is too long. -/
def nameTooLong : FileFault := ⟨36, "File name too long"⟩

/-- The line in which a fault is reported where nothing else is said about it. -/
def line (f : FileFault) : String := "[Errno " ++ toString f.number ++ "] " ++ f.reason

end FileFault

/-- A fault of the host that is none of its file system. -/
structure Fault where
  /-- The name of its kind. -/
  kind : String
  /-- What is said about it. -/
  message : String
deriving DecidableEq

/-- The fault of a name that holds the null character. -/
def Fault.nullInName : Fault := ⟨"ValueError", "embedded null byte"⟩

/-- Why a file was not opened. -/
inductive OpenFault where
  /-- The file system refused. -/
  | refused (fault : FileFault)
  /-- The name has no form in the encoding of the system. -/
  | unnameable (fault : Fault)
deriving DecidableEq

/-- The operations of a file system. -/
structure Disk (m : Type → Type) where
  /-- Opens a file for writing, creating or emptying it. -/
  openEmpty : Path → m (Except OpenFault Unit)
  /-- Writes a block of text to the open file. -/
  write : Path → String → m (Except FileFault Unit)
  /-- Writes what is left of a text and closes the file. -/
  close : Path → String → m (Except FileFault Unit)
  /-- The text of the location that a path names; one whose links lead round has none. -/
  resolve : Path → m (Except Fault String)

/-- Opens a file for writing; a name with the null character is not given to the system. -/
def Disk.openFile {m : Type → Type} [Monad m] (disk : Disk m) (path : Path) :
    m (Except OpenFault Unit) :=
  if path.hasNull then pure (.error (.unnameable .nullInName)) else disk.openEmpty path

/-- An operation that may fail, whose fault is the cause of a failure. -/
def causing {m : Type → Type} [Monad m] {δ ε α : Type} (cause : δ → ε)
    (operation : m (Except δ α)) : ExceptT ε m α :=
  ExceptT.mk (do return (← operation).mapError cause)

end FilmGrain
