/-
**Figures saved to files.**

Figures are drawn and saved by the host.  The suffix of a name asks for the format of the image; a
name without a suffix loses the dots at its end and gets the default suffix.  Of what keeps a host
from saving a figure, faults of the file system and values that it refuses are about the file that
was asked for, and anything else is not.

Main definitions:

* `FilmGrain.ImageFile`, `ImageFile.ofName` — the file for a given name;
* `FilmGrain.SaveFault` — what keeps a host from saving a figure;
* `FilmGrain.FigureError` — why there is no file of a figure.
-/

import FilmGrain.Files.Disk
import FilmGrain.Text.LowerCase

set_option autoImplicit false

namespace FilmGrain

/-! ### Names -/

/-- A file for an image. -/
structure ImageFile where
  /-- The name of the file. -/
  name : String
  /-- The suffix that asks for the format, in lower case. -/
  ending : String
deriving DecidableEq

/-- A name without the dots at its end. -/
def withoutLastDots (name : List Char) : List Char :=
  (name.reverse.dropWhile (· == '.')).reverse

namespace ImageFile

/-- The suffix of a file without another. -/
def defaultEnding : String := "png"

/-- **The file for an image of a given name**, which is read as a path.  A name without a suffix
loses the dots at its end and gets the default suffix. -/
def ofName (given : String) : ImageFile :=
  let name := (Path.ofText given).text
  let ending := FilmGrain.suffix name.toList
  if ending.isEmpty then
    ⟨String.ofList (withoutLastDots name.toList) ++ "." ++ defaultEnding, defaultEnding⟩
  else ⟨name, String.ofList (Text.lowerCase ending)⟩

end ImageFile

/-! ### Failures -/

/-- What keeps a host from saving a figure. -/
inductive SaveFault where
  /-- The file system refused, or a value was refused. -/
  | refused (reason : String)
  /-- Something else. -/
  | escaped (fault : Fault)
deriving DecidableEq

/-- Why there is no file of a figure. -/
inductive FigureError where
  /-- The figure was not saved under the given name. -/
  | notSaved (name reason : String)
  /-- Something that is not about the file. -/
  | escaped (fault : Fault)
deriving DecidableEq

/-- The failure that comes of a figure that was to be saved under a name. -/
def FigureError.ofSaving (name : String) : SaveFault → FigureError
  | .refused reason => notSaved name reason
  | .escaped fault => escaped fault

/-- The message of a failure. -/
def FigureError.message : FigureError → String
  | notSaved name reason => "Unable to save plot " ++ name ++ " (" ++ reason ++ ")"
  | escaped fault => fault.message

end FilmGrain
