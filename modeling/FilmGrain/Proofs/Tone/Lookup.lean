/-
**The lookup of a transfer function.**

A transfer function is selected by a name, which users write with white space around it and in
either case, or by a code, which may be given as an integer or as a number of double precision.
Both lookups are searches of a list, and in both the entry found is the only one that fits, since
names and codes belong to one transfer function each.

The names consist of letters and digits of ASCII and have no `k`, so that the lower case of all of
Unicode, which is what a name is compared in, selects exactly the spellings in ASCII
(`Text.lowerCase_eq_iff`): nothing beyond them is accepted by accident.

Main definitions:

* `TransferFunction.NameLookup` — what the lookup of a text comes to.

Main results:

* `TransferFunction.ofName_eq_ok_iff` — **the texts that a transfer function is found by**;
* `TransferFunction.ofCode_eq_ok_iff` — **the codes that it is found by**;
* `TransferFunction.ofName_error` — a text that is no name is named by the error;
* `TransferFunction.nameLookup` — **lookup by name is trimming and case folding, and agrees with
  lookup by code**.
-/

import Mathlib
import FilmGrain.Tone.TransferFunction
import FilmGrain.Proofs.Number.Rounding
import FilmGrain.Proofs.Text.CaseFolding

set_option autoImplicit false

namespace FilmGrain

open Number Text

/-- A search finds an element exactly if it is the one that fits. -/
theorem find?_eq_some_iff_of_unique {β : Type} {p : β → Bool} {l : List β} {b : β}
    (hunique : ∀ x ∈ l, ∀ y ∈ l, p x → p y → x = y) : l.find? p = some b ↔ b ∈ l ∧ p b := by
  constructor
  · exact fun h => ⟨List.mem_of_find?_eq_some h, List.find?_some h⟩
  · rintro ⟨hb, hpb⟩
    cases hfind : l.find? p with
    | none => exact absurd hpb (List.find?_eq_none.1 hfind b hb)
    | some a => rw [hunique a (List.mem_of_find?_eq_some hfind) b hb (List.find?_some hfind) hpb]

/-! ### Codes -/

/-- **A characteristic is selected by what has the value of its code.** -/
theorem Characteristic.ofSetting?_eq_some_iff {code : Setting} {c : Characteristic} :
    ofSetting? code = some c ↔ code.toRat? = some (c.val : Rat) := by
  unfold ofSetting?
  cases code.toRat? with
  | none => simp
  | some value =>
      have hunique : ∀ x ∈ all, ∀ y ∈ all, decide ((x.val : Rat) = value) →
          decide ((y.val : Rat) = value) → x = y := by
        intro x _ y _ hx hy
        have hcodes : (x.val : Rat) = y.val :=
          (of_decide_eq_true hx).trans (of_decide_eq_true hy).symm
        exact Fin.ext (Nat.cast_injective hcodes)
      rw [Option.bind_some, find?_eq_some_iff_of_unique hunique, decide_eq_true_eq, eq_comm,
        Option.some_inj]
      exact and_iff_right (List.mem_finRange c)

namespace TransferFunction

variable {t : TransferFunction} {name : String}

/-- A lookup gives what its search finds. -/
theorem match_eq_ok_iff (found : Option TransferFunction) (error : LookupError) :
    (match found with
      | none => .error error
      | some s => .ok s : Except LookupError TransferFunction) = .ok t ↔ found = some t := by
  cases found <;> simp

/-- **A code belongs to one transfer function.** -/
theorem characteristic_injective {s t : TransferFunction}
    (h : s.characteristic = t.characteristic) : s = t := by
  revert h
  cases s <;> cases t <;> decide

/-- **The codes that a transfer function is found by.** -/
theorem ofCode_eq_ok_iff {limit : DigitLimit} {code : Setting} :
    ofCode limit code = .ok t ↔ code.toRat? = some (t.characteristic.val : Rat) := by
  rw [← Characteristic.ofSetting?_eq_some_iff, ofCode]
  cases Characteristic.ofSetting? code with
  | none => simp
  | some c =>
      have hfind : (all.find? fun t => t.characteristic = c) = some t ↔ t.characteristic = c := by
        rw [find?_eq_some_iff_of_unique, decide_eq_true_eq]
        · exact and_iff_right (mem_all t)
        · intro x _ y _ hx hy
          exact characteristic_injective ((of_decide_eq_true hx).trans (of_decide_eq_true hy).symm)
      rw [Option.some_inj, eq_comm (a := c), ← hfind]
      exact match_eq_ok_iff _ _

/-- Every code is a number of double precision. -/
theorem exists_toRat_characteristic (t : TransferFunction) :
    ∃ x : Double, x.toRat = some (t.characteristic.val : Rat) := by
  have hcode : t.characteristic.val ≤ 2 * Format.double.binadeSize :=
    t.characteristic.isLt.le.trans (by decide)
  have hrepresents := Format.represents_natCast (f := .double) hcode
  exact ⟨_, (Binary.toRat_ofRat hrepresents.inRange).trans
    (congrArg some (Format.rounded_eq_self hrepresents))⟩

/-! ### Names -/

/-- The characters of the names: of ASCII, not blank, and none of them `k`. -/
theorem of_mem_name : ∀ d ∈ t.name.toList, d.toNat < 128 ∧ d ≠ 'k' ∧ isBlank d = false := by
  have hall : t.name.toList.all fun d =>
      decide (d.toNat < 128 ∧ d ≠ 'k' ∧ isBlank d = false) := by
    cases t <;> decide
  exact fun d hd => of_decide_eq_true (List.all_eq_true.1 hall d hd)

/-- **What a text comes to before it is compared is a name exactly if the text spells it.** -/
theorem normalName_eq_iff : normalName name = t.name.toList ↔ Spells name.toList t.name.toList := by
  rw [normalName, spells_iff fun d hd => (of_mem_name d hd).2.2,
    lowerCase_eq_iff fun d hd => ⟨(of_mem_name d hd).1, (of_mem_name d hd).2.1⟩]

/-- **The texts that a transfer function is found by.** -/
theorem ofName_eq_ok_iff : ofName name = .ok t ↔ Spells name.toList t.name.toList := by
  have hfind : (all.find? fun t => t.name.toList = normalName name) = some t ↔
      t.name.toList = normalName name := by
    rw [find?_eq_some_iff_of_unique, decide_eq_true_eq]
    · exact and_iff_right (mem_all t)
    · intro x _ y _ hx hy
      exact name_injective
        (String.toList_inj.1 ((of_decide_eq_true hx).trans (of_decide_eq_true hy).symm))
  rw [← normalName_eq_iff, eq_comm (a := normalName name), ← hfind, ofName]
  exact match_eq_ok_iff _ _

/-- A text that is no name is named by the error. -/
theorem ofName_error {error : LookupError} (h : ofName name = .error error) :
    error = .unknownName name := by
  unfold ofName at h
  split at h
  · exact (Except.error.inj h).symm
  · cases h

/-! ### The lookup as a whole -/

/-- **What the lookup of a text comes to.** -/
structure NameLookup (name : String) : Prop where
  /-- A transfer function is found by the texts that spell its name. -/
  found : ∀ t, ofName name = .ok t ↔ Spells name.toList t.name.toList
  /-- Blank characters at the ends decide nothing. -/
  blank : ∀ before after : String, (∀ c ∈ before.toList, isBlank c) →
    (∀ c ∈ after.toList, isBlank c) →
      (ofName (before ++ name ++ after)).toOption = (ofName name).toOption
  /-- The case of ASCII letters decides nothing. -/
  letterCase : ∀ other : String, other.toList.map Char.toLower = name.toList.map Char.toLower →
    (ofName other).toOption = (ofName name).toOption
  /-- The message about a text that is no name holds it as it was given. -/
  refused : ∀ error, ofName name = .error error → error.message =
    "unknown transfer function '" ++ name ++ "'. " ++ LookupError.available
  /-- The code of what is found leads to it, as an integer and as a number of double precision. -/
  code : ∀ t, ofName name = .ok t → ∀ limit,
    ofCode limit (.integer t.characteristic.val) = .ok t ∧
      (∃ x : Double, x.toRat = some (t.characteristic.val : Rat)) ∧
        ∀ x : Double, x.toRat = some (t.characteristic.val : Rat) → ofCode limit (.real x) = .ok t

/-- A lookup of a name, but for its error, depends on what is left of the text only. -/
theorem toOption_ofName_congr {name other : String}
    (h : (trim isBlank other.toList).map Char.toLower =
      (trim isBlank name.toList).map Char.toLower) :
    (ofName other).toOption = (ofName name).toOption := by
  have hsame : ∀ t, ofName other = .ok t ↔ ofName name = .ok t := fun t => by
    have hword : ∀ d ∈ t.name.toList, isBlank d = false := fun d hd => (of_mem_name d hd).2.2
    rw [ofName_eq_ok_iff, ofName_eq_ok_iff, spells_iff hword, spells_iff hword, h]
  have hoption : ∀ (r : Except LookupError TransferFunction) (t : TransferFunction),
      r.toOption = some t ↔ r = .ok t := fun r t => by cases r <;> simp [Except.toOption]
  ext t
  rw [hoption, hoption, hsame]

/-- **A name is looked up up to blank characters at its ends and the case of ASCII letters, and to
the transfer function that its code is looked up to.** -/
theorem nameLookup (name : String) : NameLookup name where
  found t := ofName_eq_ok_iff
  blank before after hbefore hafter := toOption_ofName_congr <| by
    rw [String.toList_append, String.toList_append, trim_append hbefore hafter]
  letterCase other hother := toOption_ofName_congr <| by
    rw [← trim_map isBlank_toLower, ← trim_map isBlank_toLower, hother]
  refused error h := by
    obtain rfl := ofName_error h
    rfl
  code t _ limit := ⟨ofCode_eq_ok_iff.2 (by simp [Setting.toRat?]), exists_toRat_characteristic t,
    fun x hx => ofCode_eq_ok_iff.2 hx⟩

/-- An em space and an information separator are blank; the small letter of the sign for kelvin is
in ASCII, yet the sign spells nothing. -/
example : ofName "\u2003SmPtE2084\x1c" = .ok smpte2084 ∧ Text.lowerCase ['\u212a'] = ['k'] ∧
    ofName "\u212a" = .error (.unknownName "\u212a") := ⟨rfl, rfl, rfl⟩

end TransferFunction

end FilmGrain
