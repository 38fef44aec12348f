/-
**The arguments of the command line.**

Arguments are taken from left to right.  An option that is given twice counts with its last value,
and the request for help ends everything that follows it.  Arguments that belong to no option, and
options that are missing, are reported at the end, the missing ones first.

The letters after a short option without a value are short options themselves, also behind an
equals sign; a letter that is none is refused before any option of the argument counts.  A value
that is attached to its option and is a double dash stands for no value: the option is given the
empty list, which is refused where the value is used.  An integer with more digits than the limit is
no value of an option.

Main definitions:

* `CommandLine.Group` — the options that one argument stands for;
* `CommandLine.Arguments` — what has been given so far;
* `CommandLine.parse` — **the request that arguments stand for**, or why there is none.
-/

import FilmGrain.CommandLine.Option
import FilmGrain.Request

set_option autoImplicit false

namespace FilmGrain

open Number

namespace CommandLine

/-- Why arguments do not lead to a request. -/
inductive Ending where
  /-- Help was asked for. -/
  | help
  /-- The arguments are refused. -/
  | refused (error : UsageError)
deriving DecidableEq

/-! ### Groups of options -/

/-- The options that one argument stands for: options without a value, then at most one that takes
a value. -/
structure Group where
  /-- The options without a value. -/
  flags : List CommandOption := []
  /-- The option that takes a value, with the value if it is attached. -/
  valued : Option (CommandOption × Option String) := none
deriving DecidableEq

/-- The group of an option without attached value. -/
def Group.single (o : CommandOption) : Group :=
  if o.takesValue then { valued := some (o, none) } else { flags := [o] }

/-- A group with one more option in front. -/
def Group.cons (o : CommandOption) (g : Group) : Group := { g with flags := o :: g.flags }

/-- The short option of a letter. -/
def ofLetter? (letter : Char) : Option CommandOption :=
  CommandOption.ofSpelling? (String.ofList ['-', letter])

/-- The group of a short option with what is attached to it: its value if it takes one, else the
letters of more short options. -/
def letterGroup (o : CommandOption) (attached : List Char) : Except UsageError Group :=
  if o.takesValue then .ok { valued := some (o, some (String.ofList attached)) }
  else
    match attached with
    | [] => .error (.attachedValue o "")
    | letter :: rest =>
        match ofLetter? letter, rest with
        | none, _ => .error (.attachedValue o (String.ofList (letter :: rest)))
        | some next, [] => .ok (Group.cons o (Group.single next))
        | some next, c :: others => (letterGroup next (c :: others)).map (Group.cons o)

/-- The group of a token. -/
def optionGroup (o : CommandOption) (short : Bool) : Option (List Char) → Except UsageError Group
  | none => .ok (Group.single o)
  | some attached =>
      if short then letterGroup o attached
      else if o.takesValue then .ok { valued := some (o, some (String.ofList attached)) }
      else .error (.attachedValue o (String.ofList attached))

/-! ### Values -/

/-- What has been given so far. -/
structure Arguments where
  /-- The width. -/
  width : Option Setting := none
  /-- The height. -/
  height : Option Setting := none
  /-- The exposure index. -/
  iso : Option Setting := none
  /-- The file of the table. -/
  output : Option Setting := none
  /-- The name of the transfer function. -/
  function : Setting := .text TransferFunction.default.name
  /-- The file of the figure. -/
  plot : Option Setting := none
  /-- Whether the points are listed. -/
  verbose : Bool := false
  /-- Arguments that belong to no option. -/
  others : List String := []
deriving DecidableEq

/-- An integer value of an option. -/
def integerValue (limit : DigitLimit) (o : CommandOption) (value : String) : Except Ending Int :=
  match Decimal.readInteger? limit value.toList with
  | some n => .ok n
  | none => .error (.refused (.invalidValue o "int" value))

/-- A real value of an option. -/
def realValue (o : CommandOption) (value : String) : Except Ending Double :=
  match Decimal.readReal? value.toList with
  | some x => .ok x
  | none => .error (.refused (.invalidValue o "float" value))

/-- The name of a transfer function, without regard to case. -/
def functionValue (o : CommandOption) (value : String) : Except Ending String :=
  let small := String.ofList (Text.lowerCase value.toList)
  if small ∈ TransferFunction.all.map TransferFunction.name then .ok small
  else .error (.refused (.invalidChoice o small))

/-- The value of an option as its kind asks for. -/
def valueOf (limit : DigitLimit) (o : CommandOption) (value : String) : Except Ending Setting :=
  match o with
  | .width | .height => (integerValue limit o value).map .integer
  | .iso => (realValue o value).map .real
  | .function => (functionValue o value).map .text
  | .output | .plot | .help | .verbose => .ok (.text value)

/-- What an option is given by the text of its value.  A double dash, which is a value only where it
is attached, stands for no value. -/
def givenBy (limit : DigitLimit) (o : CommandOption) (value : String) : Except Ending Setting :=
  if value = "--" then .ok (.list []) else valueOf limit o value

namespace Arguments

/-- The arguments with one more option that has no value. -/
def setFlag (a : Arguments) : CommandOption → Except Ending Arguments
  | .help => .error .help
  | .verbose => .ok { a with verbose := true }
  | _ => .ok a

/-- The arguments with one more option and what it is given. -/
def set (a : Arguments) (o : CommandOption) (given : Setting) : Arguments :=
  match o with
  | .width => { a with width := given }
  | .height => { a with height := given }
  | .iso => { a with iso := given }
  | .output => { a with output := given }
  | .function => { a with function := given }
  | .plot => { a with plot := given }
  | .help | .verbose => a

/-- The arguments with one more option and its value. -/
def setValue (limit : DigitLimit) (a : Arguments) (o : CommandOption) (value : String) :
    Except Ending Arguments :=
  (givenBy limit o value).map (a.set o)

/-- The arguments with one more that belongs to no option. -/
def addOther (a : Arguments) (argument : String) : Arguments :=
  { a with others := a.others ++ [argument] }

/-- The arguments with the options of a group; a value that is not attached is given apart. -/
def setGroup (limit : DigitLimit) (a : Arguments) (g : Group) (value : String) :
    Except Ending Arguments := do
  let a ← g.flags.foldlM setFlag a
  match g.valued with
  | some (o, attached) => a.setValue limit o (attached.getD value)
  | none => return a

/-- Whether an option has been given. -/
def has (a : Arguments) : CommandOption → Bool
  | .width => a.width.isSome
  | .height => a.height.isSome
  | .iso => a.iso.isSome
  | .output => a.output.isSome
  | _ => true

/-- The required options that have not been given. -/
def missing (a : Arguments) : List CommandOption :=
  CommandOption.all.filter fun o => o.isRequired && !a.has o

/-- The request of complete arguments. -/
def request (a : Arguments) : Except Ending Request :=
  match a.width, a.height, a.iso, a.output with
  | some width, some height, some iso, some output =>
      if a.others.isEmpty then
        .ok { width := width, height := height, iso := iso, output := output,
              function := a.function, plot := a.plot, verbose := a.verbose }
      else .error (.refused (.unrecognized a.others))
  | _, _, _, _ => .error (.refused (.missingOptions a.missing))

end Arguments

/-! ### Parsing -/

/-- The option of a group that still waits for its value. -/
def Group.waiting? (g : Group) : Option CommandOption :=
  match g.valued with
  | some (o, none) => some o
  | _ => none

/-- The arguments after some more tokens, where the last option of a group may wait for its value:
the next token must be an operand then. -/
def collect (limit : DigitLimit) (a : Arguments) (waiting : Option (CommandOption × Group)) :
    List (String × Token) → Except Ending Arguments
  | [] =>
      match waiting with
      | some (o, _) => .error (.refused (.missingValue o))
      | none => .ok a
  | (argument, token) :: rest =>
      match waiting, token with
      | some (_, group), .operand => do
          let a ← a.setGroup limit group argument
          collect limit a none rest
      -- an option came, or the double dash, where a value was to come
      | some (o, _), _ => .error (.refused (.missingValue o))
      | none, .option o short attached => do
          let group ← (optionGroup o short attached).mapError .refused
          match group.waiting? with
          | some valued => collect limit a (some (valued, group)) rest
          | none =>
              let a ← a.setGroup limit group ""
              collect limit a none rest
      | none, _ => collect limit (a.addOther argument) none rest

/-- **The request that arguments stand for**, or why there is none. -/
def parse (limit : DigitLimit) (arguments : List String) : Except Ending Request := do
  let tokens ← (tokens arguments).mapError .refused
  let collected ← collect limit {} none tokens
  collected.request

end CommandLine

end FilmGrain
