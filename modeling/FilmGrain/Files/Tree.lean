/-
**File systems in memory.**

A tree of files maps locations to directories, files and devices.  A path is followed component by
component: what is stepped from must be a directory, no name has more than 255 bytes, and only the
last component may be new.  A device takes everything that is written to it, or nothing.

A tree has no links, so every path has a location.  What else there is in a host is left open: the
limit on integers, what standard output takes, and the library that saves figures.  That library is
known by the trees that it leaves and by what it says.

Main definitions:

* `FilmGrain.FileTree` — nodes by their locations, and the working directory;
* `FileTree.locate` — following a path, with the fault that stops it;
* `FileTree.disk` — **the file system of a tree**;
* `FilmGrain.Saving`, `FilmGrain.Surroundings` — what else there is in a host, and `FileTree.host`,
  **the host of a tree**;
* `FileTree.saving`, `FileTree.plain` — a library that saves images in any format, and surroundings
  with it that refuse nothing;
* `FileTree.makeDirectories` — the directories on the way to a path.

Main results:

* `FileTree.node?_put_self`, `FileTree.node?_put_of_ne` — putting a node changes one location.
-/

import FilmGrain.Host
import FilmGrain.Text.Quoted

set_option autoImplicit false

namespace FilmGrain

/-- The location of a node, by the names on the way from the root. -/
abbrev Location : Type := List String

/-- What a file holds. -/
inductive Content where
  /-- A text. -/
  | text (s : String)
  /-- An image. -/
  | image (figure : Figure)
deriving DecidableEq

/-- What is at a location. -/
inductive Node where
  /-- A directory. -/
  | directory
  /-- A file. -/
  | file (content : Content)
  /-- A device that has space for what is written, or none. -/
  | device (hasSpace : Bool)
deriving DecidableEq

/-- A file system in memory. -/
structure FileTree where
  /-- The nodes by their locations. -/
  nodes : List (Location × Node)
  /-- The working directory. -/
  working : Location
deriving DecidableEq

namespace FileTree

/-! ### Nodes -/

/-- What is at a location; the root is a directory. -/
def node? (t : FileTree) (location : Location) : Option Node :=
  if location = [] then some .directory
  else (t.nodes.find? fun entry => entry.1 = location).map Prod.snd

/-- A tree with a node put at a location. -/
def put (t : FileTree) (location : Location) (node : Node) : FileTree :=
  { t with nodes := (location, node) :: t.nodes.filter fun entry => entry.1 ≠ location }

@[simp] theorem node?_put_self (t : FileTree) {location : Location} (h : location ≠ [])
    (node : Node) : (t.put location node).node? location = some node := by
  simp [node?, put, h]

theorem node?_put_of_ne (t : FileTree) {location other : Location} (h : other ≠ location)
    (node : Node) : (t.put location node).node? other = t.node? other := by
  by_cases hroot : other = []
  · simp [node?, hroot]
  · have hfind : ∀ entries : List (Location × Node),
        (entries.filter fun entry => entry.1 ≠ location).find? (fun entry => entry.1 = other)
          = entries.find? fun entry => entry.1 = other := by
      intro entries
      rw [List.find?_filter]
      congr 1
      funext entry
      by_cases hentry : entry.1 = other
      · simp [hentry, h]
      · simp [hentry]
    have hhead : ¬ location = other := fun heq => h heq.symm
    simp only [node?, put, hroot, if_false, List.find?_cons, hhead, decide_false, hfind]

/-! ### Following a path -/

/-- The largest number of bytes of a name. -/
def maxNameBytes : Nat := 255

/-- The number of bytes from which on a path is too long. -/
def maxPathBytes : Nat := 4096

/-- The location of a name in a directory. -/
def enter (t : FileTree) (location : Location) (part : String) : Except FileFault Location :=
  if t.node? location ≠ some .directory then .error .notDirectory
  else if maxNameBytes < part.utf8ByteSize then .error .nameTooLong
  else .ok (Path.step location part)

/-- The location that components lead to; only the last may name nothing. -/
def follow (t : FileTree) (location : Location) : List String → Except FileFault Location
  | [] => .ok location
  | [part] => t.enter location part
  | part :: rest => do
      let next ← t.enter location part
      if (t.node? next).isNone then throw .notFound
      t.follow next rest

/-- **The location that a path leads to**, or the fault that stops on the way. -/
def locate (t : FileTree) (p : Path) : Except FileFault Location :=
  if maxPathBytes ≤ p.text.utf8ByteSize then .error .nameTooLong
  else t.follow (if p.root = .working then t.working else []) p.parts

/-! ### Files -/

/-- A tree after a file was opened for writing. -/
def openEmpty (t : FileTree) (p : Path) : Except FileFault FileTree := do
  let location ← t.locate p
  match t.node? location with
  | some .directory => throw .isDirectory
  | some (.device _) => return t
  | some (.file _) | none => return t.put location (.file (.text ""))

/-- A tree after a text was written to the end of a file. -/
def append (t : FileTree) (p : Path) (text : String) : Except FileFault FileTree := do
  let location ← t.locate p
  match t.node? location with
  | some (.device hasSpace) => if hasSpace || text.isEmpty then return t else throw .noSpace
  | some (.file (.text s)) => return t.put location (.file (.text (s ++ text)))
  | some (.file (.image _)) => return t
  | some .directory => throw .isDirectory
  | none => throw .notFound

/-- A tree after an image was saved. -/
def saveImage (t : FileTree) (p : Path) (figure : Figure) : Except FileFault FileTree := do
  let opened ← t.openEmpty p
  let location ← t.locate p
  match t.node? location with
  | some (.device hasSpace) => if hasSpace then return t else throw .noSpace
  | _ => return opened.put location (.file (.image figure))

/-- A change of the tree that is made unless it fails. -/
def changing {ε : Type} (change : FileTree → Except ε FileTree) :
    StateM FileTree (Except ε Unit) :=
  fun t =>
    match change t with
    | .ok changed => (.ok (), changed)
    | .error fault => (.error fault, t)

/-- **The file system of a tree.** -/
def disk : Disk (StateM FileTree) where
  openEmpty p := changing fun t => (t.openEmpty p).mapError .refused
  write p text := changing fun t => t.append p text
  close p text := changing fun t => t.append p text
  resolve p := fun t => (.ok (Path.locationText (p.locate t.working)), t)

end FileTree

/-! ### Hosts -/

/-- How a library saves figures under names: what it says, and the tree after a figure was saved or
what keeps it from that. -/
abbrev Saving : Type := String → Figure → FileTree → List String × Except SaveFault FileTree

/-- What surrounds the file system of a host. -/
structure Surroundings where
  /-- The limit on integers. -/
  limit : DigitLimit
  /-- What standard output says to a line. -/
  print : String → Except Fault Unit
  /-- The library that saves figures. -/
  save : Saving

namespace FileTree

/-- The saving of a figure by a library, which leaves the tree as it is if it fails. -/
def saveFigure (save : Saving) (name : String) (figure : Figure) :
    StateM FileTree (List String × Except SaveFault Unit) := do
  let answer := save name figure (← get)
  return (answer.1, ← changing fun _ => answer.2)

/-- **The host of a tree with given surroundings.** -/
def host (around : Surroundings) : Host (StateM FileTree) where
  toDisk := disk
  limit := around.limit
  print line := pure (around.print line)
  saveFigure name figure := saveFigure around.save name figure

/-- A library that saves images in any format, in the file that a name asks for. -/
def saving : Saving := fun name figure t =>
  let file := (ImageFile.ofName name).name
  if file.toList.contains '\x00' then ([], .error (.refused Fault.nullInName.message))
  else
    ([], (t.saveImage (.ofText file) figure).mapError fun fault =>
      .refused (fault.line ++ ": " ++ Text.quoted file))

/-- Surroundings that refuse nothing. -/
def plain : Surroundings := ⟨.unlimited, fun _ => .ok (), saving⟩

/-! ### Directories -/

/-- A tree with directories at a location and on the way to it, where there is nothing yet. -/
def makeDirectories (t : FileTree) (p : Path) : FileTree :=
  let location := p.locate t.working
  (List.range location.length).foldl
    -- the locations on the way, the shortest first
    (fun tree i =>
      let way := location.take (i + 1)
      if (tree.node? way).isNone then tree.put way .directory else tree)
    t

/-- A system with a device that takes everything, a device that takes nothing, and an empty working
directory. -/
def fresh : FileTree where
  nodes := [
    (["dev"], .directory), (["dev", "null"], .device true), (["dev", "full"], .device false),
    (["tmp"], .directory), (["tmp", "work"], .directory)]
  working := ["tmp", "work"]

/-- The files below the working directory, by their paths from there. -/
def files (t : FileTree) : List (String × Content) :=
  t.nodes.filterMap fun entry =>
    match entry.2 with
    | .file content =>
        if t.working.isPrefixOf entry.1 then
          some ("/".intercalate (entry.1.drop t.working.length), content)
        else none
    | _ => none

end FileTree

end FilmGrain
