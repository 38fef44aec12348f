/-
**Quoted texts.**

A text is quoted by apostrophes, or by double quotes if it holds an apostrophe and no double quote.
Inside, the quote in use and the backslash are escaped, line ends and tabulators are written by a
letter, and the other characters that are not printable by their code.

Main definitions:

* `FilmGrain.Text.quoted` — a text in quotes;
* `Text.escape` — how one character stands inside quotes.
-/

import FilmGrain.Text.Printable

set_option autoImplicit false

namespace FilmGrain

namespace Text

/-- A number in at least `width` hexadecimal digits. -/
def hexDigits (width n : Nat) : List Char :=
  let digits := Nat.toDigits 16 n
  List.replicate (width - digits.length) '0' ++ digits

/-- How a character stands inside quotes of a given kind. -/
def escape (quote c : Char) : List Char :=
  if c = quote ∨ c = '\\' then ['\\', c]
  else if c = '\n' then ['\\', 'n']
  else if c = '\t' then ['\\', 't']
  else if c = '\r' then ['\\', 'r']
  else if isPrintable c then [c]
  else if c.toNat < 0x100 then ['\\', 'x'] ++ hexDigits 2 c.toNat
  else if c.toNat < 0x10000 then ['\\', 'u'] ++ hexDigits 4 c.toNat
  else ['\\', 'U'] ++ hexDigits 8 c.toNat

/-- The quotes a text is put into. -/
def quoteFor (text : List Char) : Char :=
  if text.contains '\'' && !text.contains '"' then '"' else '\''

/-- **A text in quotes.** -/
def quoted (text : String) : String :=
  let quote := quoteFor text.toList
  String.ofList (quote :: text.toList.flatMap (escape quote) ++ [quote])

end Text

end FilmGrain
