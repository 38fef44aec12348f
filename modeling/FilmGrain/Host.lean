/-
**What the program asks of its host.**

Next to the file system a host has standard output, an interpreter that may limit the integers that
are written and read, and a library that draws figures and saves them.  A line may be refused by
standard output, for one that holds a character without a form in the encoding there.  What the
library says of a figure that it saves is a list of notices, whether it comes to a file or not.
Nothing is asked of standard error, which takes whatever is said there after a run.

Main definitions:

* `FilmGrain.Host` — the operations, in any monad.
-/

import FilmGrain.Decimal.Limit
import FilmGrain.Figure.Basic
import FilmGrain.Figure.File

set_option autoImplicit false

namespace FilmGrain

/-- The operations of a host. -/
structure Host (m : Type → Type) extends Disk m where
  /-- The limit on integers. -/
  limit : DigitLimit
  /-- Prints a line. -/
  print : String → m (Except Fault Unit)
  /-- Saves a figure under a name, with notices on what it loses in the format that this asks for.
  -/
  saveFigure : String → Figure → m (List String × Except SaveFault Unit)

end FilmGrain
