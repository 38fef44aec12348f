/-
**The options of the command line.**

An argument is an option if it begins with a dash, unless it is a single dash, looks like a negative
number, or holds a blank.  A long option may be abbreviated as long as only one option begins so,
and may carry its value behind an equals sign; the letter of a short option may be followed by its
value at once.  Everything after a double dash is an operand.

Main definitions:

* `FilmGrain.CommandOption` — the options, with their `spellings`;
* `CommandLine.Token` — what an argument is taken for;
* `CommandLine.classify`, `CommandLine.tokens` — the tokens of arguments;
* `CommandLine.UsageError` — why arguments are refused.
-/

import FilmGrain.Text.DecimalDigit
import FilmGrain.Text.Quoted
import FilmGrain.Tone.TransferFunction

set_option autoImplicit false

namespace FilmGrain

/-! ### Options -/

/-- An option of the command line. -/
inductive CommandOption where
  | help
  | width
  | height
  | iso
  | output
  | function
  | plot
  | verbose
deriving DecidableEq

namespace CommandOption

/-- The options in the order in which they are listed. -/
def all : List CommandOption := [help, width, height, iso, output, function, plot, verbose]

/-- The spellings of an option, the short one first. -/
def spellings : CommandOption → List String
  | help => ["-h", "--help"]
  | width => ["-w", "--width"]
  | height => ["-l", "--height"]
  | iso => ["-i", "--iso"]
  | output => ["-o", "--output"]
  | function => ["-t", "--transfer-function"]
  | plot => ["--plot"]
  | verbose => ["-v", "--verbose"]

/-- The name of an option in messages. -/
def label (o : CommandOption) : String := "/".intercalate o.spellings

/-- Whether an option is followed by a value. -/
def takesValue : CommandOption → Bool
  | help | verbose => false
  | _ => true

/-- Whether an option must be given. -/
def isRequired : CommandOption → Bool
  | width | height | iso | output => true
  | _ => false

/-- The spellings of all options, with their options. -/
def dictionary : List (String × CommandOption) :=
  all.flatMap fun o => o.spellings.map fun s => (s, o)

/-- The option with a given spelling. -/
def ofSpelling? (s : String) : Option CommandOption :=
  (dictionary.find? fun entry => entry.1 = s).map Prod.snd

end CommandOption

namespace CommandLine

/-! ### Faults -/

/-- Why arguments are refused. -/
inductive UsageError where
  /-- More than one option begins as an argument does. -/
  | ambiguous (argument : String) (spellings : List String)
  /-- An option has no value. -/
  | missingValue (option : CommandOption)
  /-- An option takes no value, and one is attached. -/
  | attachedValue (option : CommandOption) (value : String)
  /-- A value is not of the kind that its option takes. -/
  | invalidValue (option : CommandOption) (kind value : String)
  /-- A value is none of those that its option takes. -/
  | invalidChoice (option : CommandOption) (value : String)
  /-- Options that must be given are not. -/
  | missingOptions (options : List CommandOption)
  /-- Arguments that belong to no option. -/
  | unrecognized (arguments : List String)
deriving DecidableEq

/-- A message about one option. -/
def about (option : CommandOption) (text : String) : String :=
  "argument " ++ option.label ++ ": " ++ text

/-- The message of a fault. -/
def UsageError.message : UsageError → String
  | ambiguous argument spellings =>
      "ambiguous option: " ++ argument ++ " could match " ++ ", ".intercalate spellings
  | missingValue option => about option "expected one argument"
  | attachedValue option value =>
      about option ("ignored explicit argument " ++ Text.quoted value)
  | invalidValue option kind value =>
      about option ("invalid " ++ kind ++ " value: " ++ Text.quoted value)
  | invalidChoice option value =>
      about option ("invalid choice: " ++ Text.quoted value ++ " (choose from "
        ++ TransferFunction.nameList ++ ")")
  | missingOptions options =>
      "the following arguments are required: "
        ++ ", ".intercalate (options.map CommandOption.label)
  | unrecognized arguments => "unrecognized arguments: " ++ " ".intercalate arguments

/-! ### Tokens -/

/-- What an argument is taken for. -/
inductive Token where
  /-- A value, or an argument that belongs to no option. -/
  | operand
  /-- The double dash that ends the options. -/
  | separator
  /-- An option, spelled with one dash or with two, and what is attached to it in the same argument:
  what follows an equals sign or the letter of a short option. -/
  | option (option : CommandOption) (short : Bool) (attached : Option (List Char))
  /-- What looks like an option and is none. -/
  | unknown
deriving DecidableEq

/-- A text up to its first equals sign, and what follows the sign if there is one. -/
def splitAtSign (text : List Char) : List Char × Option (List Char) :=
  match text.dropWhile (· != '=') with
  | [] => (text, none)
  | _ :: value => (text.takeWhile (· != '='), some value)

/-- Whether a spelling has a single dash. -/
def isShort (spelling : String) : Bool :=
  match spelling.toList with
  | '-' :: '-' :: _ => false
  | _ => true

/-- Whether all of a text, of which there is some, is decimal digits. -/
def isDigits (text : List Char) : Bool :=
  !text.isEmpty && text.all fun c => (Text.digitValue? c).isSome

/-- Whether a text looks like a negative number: a dash, digits, and perhaps a point among them
that digits follow.  A line end after it does not count. -/
def isNegativeNumber (text : List Char) : Bool :=
  match text with
  | '-' :: rest =>
      let body := if rest.getLast? = some '\n' then rest.dropLast else rest
      let whole := body.takeWhile fun c => (Text.digitValue? c).isSome
      match body.drop whole.length with
      | [] => isDigits whole
      | '.' :: places => isDigits places
      | _ => false
  | _ => false

/-- The options that an argument may abbreviate, with what is attached to them. -/
def abbreviated (argument : List Char) : List (String × Token) :=
  match argument with
  | '-' :: '-' :: _ =>
      let (name, value) := splitAtSign argument
      CommandOption.dictionary.filterMap fun (spelling, o) =>
        if name.isPrefixOf spelling.toList then
          some (spelling, .option o (isShort spelling) value)
        else none
  | dash :: letter :: rest =>
      CommandOption.dictionary.filterMap fun (spelling, o) =>
        if spelling.toList = [dash, letter] then
          some (spelling, .option o true (some rest))
        else if argument.isPrefixOf spelling.toList then
          some (spelling, .option o (isShort spelling) none)
        else none
  | _ => []

/-- What an argument is taken for that begins with a dash and spells out no option. -/
def classifyDashed (argument : String) : Except UsageError Token :=
  match abbreviated argument.toList with
  | [(_, token)] => .ok token
  | [] =>
      if isNegativeNumber argument.toList || argument.toList.contains ' ' then .ok .operand
      else .ok .unknown
  | candidates => .error (.ambiguous argument (candidates.map Prod.fst))

/-- **What an argument is taken for.** -/
def classify (argument : String) : Except UsageError Token :=
  match CommandOption.ofSpelling? argument with
  | some o => .ok (.option o (isShort argument) none)
  | none =>
      match argument.toList with
      | '-' :: _ :: _ =>
          let (name, value) := splitAtSign argument.toList
          match value, CommandOption.ofSpelling? (String.ofList name) with
          | some _, some o => .ok (.option o (isShort (String.ofList name)) value)
          | _, _ => classifyDashed argument
      | _ => .ok .operand

/-- **The arguments with what they are taken for.** -/
def tokens : List String → Except UsageError (List (String × Token))
  | [] => .ok []
  | argument :: rest =>
      if argument = "--" then
        .ok ((argument, .separator) :: rest.map fun operand => (operand, .operand))
      else do
        let token ← classify argument
        let others ← tokens rest
        return (argument, token) :: others

end CommandLine

end FilmGrain
