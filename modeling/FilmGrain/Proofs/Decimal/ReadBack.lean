/-
**Integers are read back from their text.**

A table writes its integers in decimal, behind a minus sign if they are negative, and the reader of
integers takes them back: reading the text of an integer gives that integer.  So no two integers
have the same text, and since no blank stands in such a text, a line of integers falls apart into
exactly the texts that it was put together from.

Where there is a limit on integers it is one for both: what may be written may be read, and what was
read may be written.

Main results:

* `DigitLimit.admits_iff` — an integer may be written if it is below a power of ten;
* `Decimal.takeDigits_toDigits` — the digits of a natural number are taken whole;
* `Decimal.readInteger?_integerText` — **the text of an integer is read back**;
* `Decimal.admits_of_readInteger?` — an integer that was read may be written;
* `FilmGrain.isBlank_of_mem_integerText`, `FilmGrain.integerText_ne_nil` — the text of an integer is
  a word.
-/

import FilmGrain.Decimal.Reading
import Mathlib.Algebra.Group.Nat.Defs

set_option autoImplicit false

namespace FilmGrain

open Text

/-! ### Digits of ASCII -/

/-- What a character between the digits zero and nine of ASCII can be. -/
theorem toNat_of_isDigit {c : Char} (h : c.isDigit = true) : 48 ≤ c.toNat ∧ c.toNat ≤ 57 := by
  simp only [Char.isDigit, Bool.and_eq_true, decide_eq_true_eq] at h
  exact ⟨UInt32.le_iff_toNat_le.1 h.1, UInt32.le_iff_toNat_le.1 h.2⟩

theorem digitValue?_of_isDigit {c : Char} (h : c.isDigit = true) :
    digitValue? c = some (c.toNat - 48) := by
  obtain ⟨hlow, hhigh⟩ := toNat_of_isDigit h
  have hfirst : decide (0x30 ≤ c.toNat ∧ c.toNat < 0x30 + 10) = true := by
    simp only [decide_eq_true_eq]
    omega
  have hzeros : digitZeros = 0x30 :: digitZeros.tail := rfl
  rw [digitValue?, hzeros, List.find?_cons, hfirst]
  rfl

/-- The characters of the text of an integer: digits of ASCII and the minus sign. -/
def isNumeral (c : Char) : Prop := c.isDigit = true ∨ c = '-'

theorem isBlank_of_isNumeral {c : Char} (h : isNumeral c) : isBlank c = false := by
  rcases h with h | rfl
  · obtain ⟨hlow, hhigh⟩ := toNat_of_isDigit h
    exact isBlank_eq_false (by omega) (by omega)
  · decide

theorem isLayout_of_isNumeral {c : Char} (h : isNumeral c) : isLayout c = false := by
  rcases h with h | rfl
  · obtain ⟨hlow, hhigh⟩ := toNat_of_isDigit h
    have hspace : (c == ' ') = false := by
      rw [beq_eq_false_iff_ne]
      rintro rfl
      exact absurd hlow (by decide)
    simp only [isLayout, if_pos (show c.toNat < 128 by omega), hspace, Bool.or_false,
      decide_eq_false_iff_not]
    omega
  · decide

/-! ### The text of an integer -/

theorem integerText_of_nonneg {n : Int} (h : 0 ≤ n) :
    integerText n = Nat.toDigits 10 n.toNat := by
  rw [integerText, Int.toString_eq_repr, Int.repr_eq_if, if_pos h, Nat.toList_repr]

theorem integerText_of_neg {n : Int} (h : n < 0) :
    integerText n = '-' :: Nat.toDigits 10 (-n).toNat := by
  rw [integerText, Int.toString_eq_repr, Int.repr_eq_if, if_neg (by omega), String.toList_append,
    Nat.toList_repr]
  rfl

theorem isDigit_of_mem_toDigits {n : Nat} {c : Char} (h : c ∈ Nat.toDigits 10 n) :
    c.isDigit = true :=
  Nat.isDigit_of_mem_toDigits (by decide) (by decide) h

theorem isNumeral_of_mem_integerText {n : Int} {c : Char} (h : c ∈ integerText n) :
    isNumeral c := by
  rcases Int.lt_or_le n 0 with hn | hn
  · rw [integerText_of_neg hn] at h
    rcases List.mem_cons.1 h with rfl | h
    · exact .inr rfl
    · exact .inl (isDigit_of_mem_toDigits h)
  · rw [integerText_of_nonneg hn] at h
    exact .inl (isDigit_of_mem_toDigits h)

/-- No blank stands in the text of an integer. -/
theorem isBlank_of_mem_integerText {n : Int} {c : Char} (h : c ∈ integerText n) :
    isBlank c = false :=
  isBlank_of_isNumeral (isNumeral_of_mem_integerText h)

theorem integerText_ne_nil (n : Int) : integerText n ≠ [] := by
  rcases Int.lt_or_le n 0 with hn | hn
  · simp [integerText_of_neg hn]
  · rw [integerText_of_nonneg hn]
    exact Nat.toDigits_ne_nil

/-! ### The limit as a bound -/

namespace DigitLimit

variable {limit : DigitLimit} {n : Int}

/-- An integer may be written if it is below a power of ten. -/
theorem admits_iff : limit.Admits n ↔ ∀ most ∈ limit.digits, n.natAbs < 10 ^ most := by
  refine forall₂_congr fun most hmost => ?_
  have hleast := limit.least most hmost
  exact Nat.length_toDigits_le_iff (by decide) (by omega)

/-- Integers of at most 640 digits may always be written. -/
theorem admits_of_lt {count : Nat} (hcount : count ≤ 640) (h : n.natAbs < 10 ^ count) :
    limit.Admits n :=
  admits_iff.2 fun most hmost =>
    Nat.lt_of_lt_of_le h
      (Nat.pow_le_pow_right (by decide) (Nat.le_trans hcount (limit.least most hmost)))

end DigitLimit

/-! ### Reading -/

namespace Text

/-- A text without characters of a class is not trimmed. -/
theorem trim_of_none {inClass : Char → Bool} {text : List Char}
    (h : ∀ c ∈ text, inClass c = false) : trim inClass text = text := by
  have hdrop : ∀ l : List Char, (∀ c ∈ l, inClass c = false) → l.dropWhile inClass = l := by
    intro l hl
    cases l with
    | nil => rfl
    | cons c rest => exact List.dropWhile_cons_of_neg (by simp [hl c List.mem_cons_self])
  rw [trim, hdrop text h, hdrop text.reverse fun c hc => h c (List.mem_reverse.1 hc),
    List.reverse_reverse]

end Text

namespace Decimal

/-- A text of digits is taken whole, each digit as its value. -/
theorem takeDigits_of_isDigit {text : List Char} (h : ∀ c ∈ text, c.isDigit = true) :
    ∀ afterDigit, takeDigits afterDigit text = (text.map fun c => c.toNat - 48, []) := by
  induction text with
  | nil => intro; rfl
  | cons c rest ih =>
      intro afterDigit
      have hrest := ih (fun d hd => h d (List.mem_cons_of_mem c hd)) true
      simp only [takeDigits, digitValue?_of_isDigit (h c List.mem_cons_self), hrest, List.map_cons]

theorem takeDigits_toDigits (n : Nat) (afterDigit : Bool) :
    takeDigits afterDigit (Nat.toDigits 10 n) =
      ((Nat.toDigits 10 n).map fun c => c.toNat - 48, []) :=
  takeDigits_of_isDigit (fun _ hc => isDigit_of_mem_toDigits hc) afterDigit

/-- The digits of a natural number stand for it. -/
theorem ofDigits_toDigits (n : Nat) :
    ofDigits ((Nat.toDigits 10 n).map fun c => c.toNat - 48) = n := by
  have h : ofDigits ((Nat.toDigits 10 n).map fun c => c.toNat - 48)
      = Nat.ofDigitChars 10 (Nat.toDigits 10 n) 0 := by
    rw [ofDigits, List.foldl_map, Nat.ofDigitChars_eq_foldl]
    rfl
  rw [h, Nat.ofDigitChars_ten_toDigits]

/-- A text that begins with no sign is taken as it is. -/
theorem takeSign_of_isDigit {text : List Char} (h : ∀ c ∈ text, c.isDigit = true) :
    takeSign text = (false, text) := by
  unfold takeSign
  split
  · exact absurd (h '-' List.mem_cons_self) (by decide)
  · exact absurd (h '+' List.mem_cons_self) (by decide)
  · rfl

/-- **The text of an integer is read back**, if it may be written. -/
theorem readInteger?_integerText {limit : DigitLimit} {n : Int} (h : limit.Admits n) :
    readInteger? limit (integerText n) = some n := by
  have htrim : trim isLayout (integerText n) = integerText n :=
    trim_of_none fun c hc => isLayout_of_isNumeral (isNumeral_of_mem_integerText hc)
  have hdigits : ∀ k : Nat, ((Nat.toDigits 10 k).map fun c => c.toNat - 48).isEmpty = false := by
    intro k
    simp [Nat.toDigits_ne_nil]
  have hallows : ∀ k : Nat, n.natAbs = k →
      limit.allows ((Nat.toDigits 10 k).map fun c => c.toNat - 48).length = true := by
    rintro k rfl
    rw [List.length_map]
    exact DigitLimit.allows_iff.2 h
  rcases Int.lt_or_le n 0 with hn | hn
  · have hsign : takeSign (integerText n) = (true, Nat.toDigits 10 (-n).toNat) := by
      rw [integerText_of_neg hn]
      rfl
    have hvalue : -((-n).toNat : Int) = n := by omega
    simp only [readInteger?, htrim, hsign, takeDigits_toDigits, hdigits, ofDigits_toDigits,
      hallows _ (show n.natAbs = (-n).toNat by omega)]
    simpa using hvalue
  · have hsign : takeSign (integerText n) = (false, Nat.toDigits 10 n.toNat) := by
      rw [integerText_of_nonneg hn]
      exact takeSign_of_isDigit fun _ hc => isDigit_of_mem_toDigits hc
    have hvalue : (n.toNat : Int) = n := Int.toNat_of_nonneg hn
    simp only [readInteger?, htrim, hsign, takeDigits_toDigits, hdigits, ofDigits_toDigits,
      hallows _ (show n.natAbs = n.toNat by omega)]
    simpa using hvalue

/-! ### What was read -/

theorem lt_of_mem_takeDigits {text : List Char} {afterDigit : Bool} {digit : Nat}
    (h : digit ∈ (takeDigits afterDigit text).1) : digit < 10 := by
  induction text generalizing afterDigit with
  | nil => cases h
  | cons c rest ih =>
      unfold takeDigits at h
      split at h
      · rename_i value hvalue
        rcases List.mem_cons.1 h with rfl | hrest
        · exact digitValue?_lt hvalue
        · exact ih hrest
      · split at h
        · exact ih h
        · cases h

/-- Digits behind a number raise it by the power of ten of their count at most. -/
theorem foldl_digits_lt {digits : List Nat} (n : Nat) (h : ∀ digit ∈ digits, digit < 10) :
    digits.foldl (fun n digit => 10 * n + digit) n < 10 ^ digits.length * (n + 1) := by
  induction digits generalizing n with
  | nil => simp
  | cons digit rest ih =>
      have hdigit := h digit List.mem_cons_self
      calc (digit :: rest).foldl (fun n digit => 10 * n + digit) n
          < 10 ^ rest.length * (10 * n + digit + 1) :=
            ih _ fun d hd => h d (List.mem_cons_of_mem _ hd)
        _ ≤ 10 ^ rest.length * (10 * (n + 1)) := Nat.mul_le_mul_left _ (by omega)
        _ = 10 ^ (digit :: rest).length * (n + 1) := by
            rw [List.length_cons, Nat.pow_succ, Nat.mul_assoc]

/-- Digits stand for a number below the power of ten of their count. -/
theorem ofDigits_lt {digits : List Nat} (h : ∀ digit ∈ digits, digit < 10) :
    ofDigits digits < 10 ^ digits.length := by
  have := foldl_digits_lt 0 h
  rwa [Nat.zero_add, Nat.mul_one] at this

/-- **An integer that was read may be written.** -/
theorem admits_of_readInteger? {limit : DigitLimit} {text : List Char} {n : Int}
    (h : readInteger? limit text = some n) : limit.Admits n := by
  rcases hsign : takeSign (trim isLayout text) with ⟨negative, body⟩
  rcases hdigits : takeDigits false body with ⟨digits, rest⟩
  simp only [readInteger?, hsign, hdigits] at h
  split at h
  · cases h
  · rename_i hread
    simp only [Bool.or_eq_true, Bool.not_eq_true', not_or, Bool.not_eq_false] at hread
    have habs : n.natAbs = ofDigits digits := by
      rw [← Option.some.inj h]
      split <;> omega
    have hlt : ofDigits digits < 10 ^ digits.length :=
      ofDigits_lt fun digit hdigit => lt_of_mem_takeDigits (by rw [hdigits]; exact hdigit)
    refine DigitLimit.admits_iff.2 fun most hmost => habs ▸ Nat.lt_of_lt_of_le hlt ?_
    exact Nat.pow_le_pow_right (by decide) (DigitLimit.allows_iff.1 hread.2 most hmost)

end Decimal

end FilmGrain
