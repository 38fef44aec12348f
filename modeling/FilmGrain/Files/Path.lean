/-
**Paths of files.**

A path is the list of its components behind a root.  Components that are empty or a single dot name
nothing and are left out; two dots are kept, since what they stand for is known only when the path
is followed.  Exactly two slashes at the start are a root of their own.

The suffix of a name is what follows the last dot of its last component, dots at the start of the
component apart.

Main definitions:

* `FilmGrain.Path` — roots and components;
* `Path.ofText`, `Path.text` — reading and writing a path;
* `Path.locate` — the location that a path names from a working directory;
* `FilmGrain.suffix` — the suffix of a name.

Main results:

* `Path.mem_parts_ofText` — **no component of a path is empty or a single dot**.
-/

set_option autoImplicit false

namespace FilmGrain

/-! ### Components -/

/-- The pieces of a text between slashes. -/
def pieces : List Char → List (List Char)
  | [] => [[]]
  | c :: rest =>
      if c = '/' then [] :: pieces rest
      else
        match pieces rest with
        | [] => [[c]]
        | piece :: others => (c :: piece) :: others

/-- The root that a path starts from. -/
inductive Root where
  /-- The working directory. -/
  | working
  /-- The root of the file system. -/
  | system
  /-- The root written with two slashes. -/
  | doubled
deriving DecidableEq

/-- The slashes of a root. -/
def Root.text : Root → String
  | working => ""
  | system => "/"
  | doubled => "//"

/-- The root of a path by the slashes that it starts with. -/
def Root.ofText : List Char → Root
  | '/' :: '/' :: '/' :: _ => system
  | '/' :: '/' :: _ => doubled
  | '/' :: _ => system
  | _ => working

/-- A path: a root and components. -/
structure Path where
  /-- Where the path starts. -/
  root : Root
  /-- The components that are followed. -/
  parts : List String
deriving DecidableEq

namespace Path

/-- Whether a piece names nothing. -/
def isIdle (piece : List Char) : Bool := piece.isEmpty || piece == ['.']

/-- **The path that a text stands for.** -/
def ofText (text : String) : Path where
  root := .ofText text.toList
  parts := ((pieces text.toList).filter fun piece => !isIdle piece).map String.ofList

/-- **No component of a path is empty or a single dot.** -/
theorem mem_parts_ofText {text part : String} (h : part ∈ (ofText text).parts) :
    isIdle part.toList = false := by
  simp only [ofText, List.mem_map, List.mem_filter] at h
  obtain ⟨piece, ⟨-, hidle⟩, rfl⟩ := h
  simpa using hidle

/-- The text of a path; that of the working directory itself is a dot. -/
def text (p : Path) : String :=
  if p.root = .working ∧ p.parts = [] then "."
  else p.root.text ++ "/".intercalate p.parts

/-- Whether the text of a path holds the character that ends a name for the system. -/
def hasNull (p : Path) : Bool := p.parts.any fun part => part.toList.contains '\x00'

/-! ### Locations -/

/-- One step of the way from a location: up for two dots, down for a name. -/
def step (location : List String) (part : String) : List String :=
  if part = ".." then location.dropLast else location ++ [part]

/-- The location that a path names from a working directory. -/
def locate (working : List String) (p : Path) : List String :=
  p.parts.foldl step (if p.root = .working then working else [])

/-- The text of a location. -/
def locationText (location : List String) : String := "/" ++ "/".intercalate location

end Path

/-! ### Suffixes -/

/-- The last component of a name. -/
def lastPiece (name : List Char) : List Char := (pieces name).getLastD []

/-- The suffix of a name without its dot; nothing if there is no dot after the first character that
is none. -/
def suffix (name : List Char) : List Char :=
  let body := (lastPiece name).dropWhile (· == '.')
  if body.contains '.' then (body.reverse.takeWhile (· != '.')).reverse else []

end FilmGrain
