/-
**A limit on integers in decimal.**

The work of writing an integer in decimal, or of reading one, grows with the square of the number of
its digits.  So a host may refuse integers with more digits than a limit.  No limit is below 640
digits, and a host may do without.  Where an integer is read zeros in front count as digits; a sign
never does.

Main definitions:

* `FilmGrain.integerText` — an integer in decimal;
* `FilmGrain.DigitLimit` — limits, with `DigitLimit.usual` and `DigitLimit.unlimited`;
* `DigitLimit.Admits` — whether an integer may be written;
* `DigitLimit.print` — **a text in which integers are written**, with `FilmGrain.Overlong` for what
  is refused.

Main results:

* `DigitLimit.print_eq_ok_iff`, `DigitLimit.print_eq_error_iff` — **a text is printed exactly if
  every integer in it may be written**.
-/

set_option autoImplicit false

namespace FilmGrain

/-- The decimal digits of an integer behind its sign. -/
def integerText (n : Int) : List Char := (toString n).toList

/-- The number of decimal digits of an integer. -/
def integerLength (n : Int) : Nat := (Nat.toDigits 10 n.natAbs).length

/-! ### Limits -/

/-- A limit on the digits of integers that are written or read. -/
structure DigitLimit where
  /-- The largest number of digits, if there is one. -/
  digits : Option Nat
  /-- Short integers are never refused. -/
  least : ∀ most ∈ digits, 640 ≤ most

/-- An integer was refused because it has more digits than the limit. -/
structure Overlong where
  /-- The largest number of digits. -/
  most : Nat
deriving DecidableEq

/-- The message of a refusal. -/
def Overlong.message (e : Overlong) : String :=
  "Exceeds the limit (" ++ toString e.most ++ " digits) for integer string conversion; "
    ++ "use sys.set_int_max_str_digits() to increase the limit"

namespace DigitLimit

/-- No limit. -/
def unlimited : DigitLimit := ⟨none, nofun⟩

/-- The limit of a host on which no other is set. -/
def usual : DigitLimit := ⟨some 4300, by decide⟩

/-- Whether a number of digits is within a limit. -/
def allows (limit : DigitLimit) (count : Nat) : Bool := limit.digits.all fun most => count ≤ most

/-- Whether an integer may be written. -/
def Admits (limit : DigitLimit) (n : Int) : Prop := ∀ most ∈ limit.digits, integerLength n ≤ most

/-- The check of an integer that is to be written. -/
def check (limit : DigitLimit) (n : Int) : Except Overlong Unit :=
  match limit.digits with
  | none => .ok ()
  | some most => if integerLength n ≤ most then .ok () else .error ⟨most⟩

/-- **A text in which integers are written**: a refusal if one of them is too long. -/
def print (limit : DigitLimit) (values : List Int) (text : String) : Except Overlong String := do
  values.forM limit.check
  return text

/-- A message in which integers are written; where it is refused, that is what is said. -/
def phrase (limit : DigitLimit) (values : List Int) (text : String) : String :=
  match limit.print values text with
  | .ok message => message
  | .error overlong => overlong.message

/-- An error whose message holds integers: where it is refused, the refusal is the error. -/
def raised {ε : Type} (limit : DigitLimit) (overlong : Overlong → ε) (values : List Int)
    (error : ε) : ε :=
  match limit.print values "" with
  | .ok _ => error
  | .error refusal => overlong refusal

/-! ### What is written -/

variable {limit : DigitLimit} {n : Int} {values : List Int} {text : String}

theorem allows_iff {count : Nat} :
    limit.allows count = true ↔ ∀ most ∈ limit.digits, count ≤ most := by
  rw [allows, Option.all_eq_true]
  simp only [Option.mem_def, decide_eq_true_eq]

theorem admits_unlimited (n : Int) : unlimited.Admits n := nofun

theorem check_of_admits (h : limit.Admits n) : limit.check n = .ok () := by
  rw [check]
  split
  · rfl
  · rename_i most hmost
    exact if_pos (h most hmost)

theorem check_of_not_admits (h : ¬ limit.Admits n) :
    ∃ most, limit.digits = some most ∧ limit.check n = .error ⟨most⟩ := by
  cases hdigits : limit.digits with
  | none => exact absurd (fun most hmost => by rw [hdigits] at hmost; cases hmost) h
  | some most =>
      refine ⟨most, rfl, ?_⟩
      have hlong : ¬ integerLength n ≤ most := fun hle => h fun other hother => by
        rw [hdigits] at hother
        exact Option.some.inj hother ▸ hle
      simp only [check, hdigits, if_neg hlong]

theorem print_cons (limit : DigitLimit) (n : Int) (rest : List Int) (text : String) :
    limit.print (n :: rest) text = limit.check n >>= fun _ => limit.print rest text := by
  simp only [print, List.forM_eq_forM, List.forM_cons, bind_assoc]

theorem print_of_admits (h : ∀ n ∈ values, limit.Admits n) (text : String) :
    limit.print values text = .ok text := by
  induction values with
  | nil => rfl
  | cons n rest ih =>
      have hrest := ih fun m hm => h m (List.mem_cons_of_mem n hm)
      rw [print_cons, check_of_admits (h n List.mem_cons_self)]
      exact hrest

theorem print_of_not_admits (h : ∃ n ∈ values, ¬ limit.Admits n) (text : String) :
    ∃ most, limit.digits = some most ∧ limit.print values text = .error ⟨most⟩ := by
  induction values with
  | nil =>
      obtain ⟨n, hn, -⟩ := h
      cases hn
  | cons n rest ih =>
      by_cases hn : limit.Admits n
      · obtain ⟨m, hm, hlong⟩ := h
        have hrest : m ∈ rest := (List.mem_cons.1 hm).resolve_left fun heq => hlong (heq ▸ hn)
        obtain ⟨most, hmost, hprint⟩ := ih ⟨m, hrest, hlong⟩
        refine ⟨most, hmost, ?_⟩
        rw [print_cons, check_of_admits hn]
        exact hprint
      · obtain ⟨most, hmost, hcheck⟩ := check_of_not_admits hn
        refine ⟨most, hmost, ?_⟩
        rw [print_cons, hcheck]
        rfl

/-- **A text is printed exactly if every integer in it may be written.** -/
theorem print_eq_ok_iff {printed : String} :
    limit.print values text = .ok printed ↔ (∀ n ∈ values, limit.Admits n) ∧ printed = text := by
  by_cases h : ∀ n ∈ values, limit.Admits n
  · rw [print_of_admits h, and_iff_right h, Except.ok.injEq, eq_comm]
  · obtain ⟨most, -, hprint⟩ := print_of_not_admits (by simpa using h) text
    rw [hprint]
    exact iff_of_false nofun fun hprinted => h hprinted.1

/-- Otherwise the limit is what is said. -/
theorem print_eq_error_iff {overlong : Overlong} :
    limit.print values text = .error overlong ↔
      (∃ n ∈ values, ¬ limit.Admits n) ∧ limit.digits = some overlong.most := by
  by_cases h : ∀ n ∈ values, limit.Admits n
  · rw [print_of_admits h]
    exact iff_of_false nofun fun ⟨⟨n, hn, hlong⟩, _⟩ => hlong (h n hn)
  · have hlong : ∃ n ∈ values, ¬ limit.Admits n := by simpa using h
    obtain ⟨most, hmost, hprint⟩ := print_of_not_admits hlong text
    rw [hprint, hmost, and_iff_right hlong, Except.error.injEq, Option.some.injEq]
    exact ⟨fun heq => heq ▸ rfl, fun heq => heq ▸ rfl⟩

theorem phrase_of_admits (h : ∀ n ∈ values, limit.Admits n) (text : String) :
    limit.phrase values text = text := by
  rw [phrase, print_of_admits h]

theorem raised_of_admits {ε : Type} (h : ∀ n ∈ values, limit.Admits n) (overlong : Overlong → ε)
    (error : ε) : limit.raised overlong values error = error := by
  rw [raised, print_of_admits h]

theorem raised_of_not_admits {ε : Type} (h : ∃ n ∈ values, ¬ limit.Admits n)
    (overlong : Overlong → ε) (error : ε) :
    ∃ most, limit.digits = some most ∧ limit.raised overlong values error = overlong ⟨most⟩ := by
  obtain ⟨most, hmost, hprint⟩ := print_of_not_admits h ""
  exact ⟨most, hmost, by rw [raised, hprint]⟩

end DigitLimit

end FilmGrain
