/-
**Values given as settings, before they are checked.**

A caller may hand over a value of the wrong kind for a width, an exposure index, a scaling point or
the name of a file.  Such a value is kept as it was given until it is checked, and error messages
show it in the notation below: numbers of double precision by their shortest decimal, texts in
quotes, the truth values and the absent value by their names, and lists in brackets.

Main definitions:

* `FilmGrain.Setting` — an unchecked value;
* `Setting.display` — its notation in messages, `Setting.plain` the same without quotes;
* `Setting.integers` — the integers that its notation holds;
* `Setting.kind` — the name of its kind;
* `Setting.toRat?`, `Setting.toText?` — its exact numeric value, and its text;
* `Setting.decEq` — equality of values, which is decidable also for lists of lists.
-/

import FilmGrain.Decimal.Shortest
import FilmGrain.Decimal.Reading
import FilmGrain.Text.Quoted

set_option autoImplicit false

namespace FilmGrain

open Number

/-- An unchecked value. -/
inductive Setting where
  /-- An integer of any size. -/
  | integer (n : Int)
  /-- A number of double precision. -/
  | real (x : Double)
  /-- A text. -/
  | text (s : String)
  /-- A truth value. -/
  | flag (b : Bool)
  /-- No value. -/
  | absent
  /-- A list of values. -/
  | list (elements : List Setting)

namespace Setting

/-! ### Equality -/

mutual

/-- Whether two values are equal: of one kind, and equal in what they hold. -/
def decEq : (a b : Setting) → Decidable (a = b)
  | integer m, b => by
      cases b with
      | integer n => exact decidable_of_iff (m = n) (by simp)
      | _ => exact isFalse nofun
  | real x, b => by
      cases b with
      | real y => exact decidable_of_iff (x = y) (by simp)
      | _ => exact isFalse nofun
  | text s, b => by
      cases b with
      | text t => exact decidable_of_iff (s = t) (by simp)
      | _ => exact isFalse nofun
  | flag p, b => by
      cases b with
      | flag q => exact decidable_of_iff (p = q) (by simp)
      | _ => exact isFalse nofun
  | absent, b => by
      cases b with
      | absent => exact isTrue rfl
      | _ => exact isFalse nofun
  | list xs, b => by
      cases b with
      | list ys => exact @decidable_of_iff _ (xs = ys) (by simp) (decEqAll xs ys)
      | _ => exact isFalse nofun

/-- Whether two lists of values are equal. -/
def decEqAll : (xs ys : List Setting) → Decidable (xs = ys)
  | [], [] => isTrue rfl
  | [], _ :: _ | _ :: _, [] => isFalse nofun
  | x :: xs, y :: ys =>
      match decEq x y, decEqAll xs ys with
      | isTrue hx, isTrue hxs => isTrue (by rw [hx, hxs])
      | isFalse hx, _ => isFalse fun h => hx (List.cons.inj h).1
      | _, isFalse hxs => isFalse fun h => hxs (List.cons.inj h).2

end

instance : DecidableEq Setting := decEq

/-! ### Notation -/

mutual

/-- The notation of a value in messages. -/
def display : Setting → String
  | integer n => toString n
  | real x => Decimal.shortest x
  | text s => Text.quoted s
  | flag b => if b then "True" else "False"
  | absent => "None"
  | list elements => "[" ++ ", ".intercalate (displayAll elements) ++ "]"

/-- The notations of the elements of a list. -/
def displayAll : List Setting → List String
  | [] => []
  | value :: rest => value.display :: displayAll rest

end

/-- The notation of a value where a text stands without quotes. -/
def plain : Setting → String
  | text s => s
  | value => value.display

mutual

/-- The integers in the notation of a value, each of which must be one that may be written. -/
def integers : Setting → List Int
  | integer n => [n]
  | real _ | text _ | flag _ | absent => []
  | list elements => integersAll elements

/-- The integers in the notations of the elements of a list. -/
def integersAll : List Setting → List Int
  | [] => []
  | value :: rest => value.integers ++ integersAll rest

end

/-- The name of the kind of a value. -/
def kind : Setting → String
  | integer _ => "int"
  | real _ => "float"
  | text _ => "str"
  | flag _ => "bool"
  | absent => "NoneType"
  | list _ => "list"

/-! ### Contents -/

/-- The text of a value, if it is one. -/
def toText? : Setting → Option String
  | text s => some s
  | integer _ | real _ | flag _ | absent | list _ => none

/-- The exact numeric value of a finite number; a truth value counts as one or zero. -/
def toRat? : Setting → Option Rat
  | integer n => some n
  | real x => x.toRat
  | flag b => some (if b then 1 else 0)
  | text _ | absent | list _ => none

end Setting

end FilmGrain
