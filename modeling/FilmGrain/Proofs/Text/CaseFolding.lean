/-
**Texts up to white space at their ends and the case of letters.**

A name is looked up by what is left of it without the blank characters at its ends and in lower
case.  Lower case is that of all Unicode letters, so a capital outside ASCII might be taken for a
small letter of ASCII, a text might become longer, and the small letter might depend on what stands
before and after.  None of this matters to a text of ASCII characters other than `k`: the runs of
capitals beyond the first end in letters beyond ASCII, all but the sign for kelvin, and the two
letters with rules of their own leave a character beyond ASCII.  So a text has such a lower case
exactly if it is the same text up to the case of ASCII letters (`Char.toLower`), position by
position.

Main definitions:

* `Text.Spells` — a text is a word up to blank characters at its ends and the case of ASCII letters.

Main results:

* `Text.trim_append`, `Text.exists_trim` — **trimming takes away exactly the ends of a class**;
* `Text.lowerChar_of_ascii`, `Text.ascii_of_lowerChar` — the small letters of ASCII, and what is
  lowered to them;
* `Text.lowerCase_eq_iff` — **texts with a given lower case in ASCII**;
* `Text.isBlank_toLower` — the case of a letter does not make it blank;
* `Text.spells_iff` — spelling a word, in terms of trimming.
-/

import Mathlib
import FilmGrain.Proofs.Decimal.ReadBack
import FilmGrain.Text.LowerCase

set_option autoImplicit false

namespace FilmGrain

namespace Text

/-! ### Trimming -/

section Trimming

variable {inClass : Char → Bool} {text before after : List Char}

/-- **Characters of the class at the ends do not matter.** -/
theorem trim_append (hbefore : ∀ c ∈ before, inClass c) (hafter : ∀ c ∈ after, inClass c) :
    trim inClass (before ++ text ++ after) = trim inClass text := by
  have hreverse : ∀ c ∈ after.reverse, inClass c := fun c hc => hafter c (List.mem_reverse.1 hc)
  rw [trim, trim, List.append_assoc, List.dropWhile_append_of_pos hbefore, List.dropWhile_append]
  split
  · rename_i hempty
    have hdrop : after.dropWhile inClass = [] := List.dropWhile_eq_nil_iff.2 hafter
    rw [List.isEmpty_iff.1 hempty, hdrop]
  · rw [List.reverse_append, List.dropWhile_append_of_pos hreverse]

/-- **What is taken away stands at the ends and is of the class.** -/
theorem exists_trim (inClass : Char → Bool) (text : List Char) :
    ∃ before after, text = before ++ trim inClass text ++ after ∧
      (∀ c ∈ before, inClass c) ∧ ∀ c ∈ after, inClass c := by
  refine ⟨text.takeWhile inClass, (text.dropWhile inClass).rtakeWhile inClass, ?_,
    fun _ => List.mem_takeWhile_imp, fun _ => List.mem_rtakeWhile_imp⟩
  have hright : trim inClass text ++ (text.dropWhile inClass).rtakeWhile inClass =
      text.dropWhile inClass := List.rdropWhile_append_rtakeWhile
  rw [List.append_assoc, hright, List.takeWhile_append_dropWhile]

/-- A change of characters that keeps the class can be made before or after. -/
theorem trim_map {g : Char → Char} (h : ∀ c, inClass (g c) = inClass c) :
    trim inClass (text.map g) = (trim inClass text).map g := by
  have hclass : inClass ∘ g = inClass := funext h
  simp only [trim, List.dropWhile_map, hclass, ← List.map_reverse]

end Trimming

/-! ### Letters of ASCII -/

variable {c d : Char}

theorem isUpper_iff : c.isUpper ↔ 65 ≤ c.toNat ∧ c.toNat ≤ 90 := by
  simp [Char.isUpper, UInt32.le_iff_toNat_le]

theorem toNat_toLower (c : Char) :
    c.toLower.toNat = if 65 ≤ c.toNat ∧ c.toNat ≤ 90 then c.toNat + 32 else c.toNat := by
  split
  · rename_i h
    rw [Char.toLower_eq_of_isUpper (isUpper_iff.2 h), Char.toNat_ofNat, if_pos (.inl (by omega))]
  · rename_i h
    rw [Char.toLower_eq_of_not_isUpper (mt isUpper_iff.1 h)]

/-- The case of a letter decides neither whether it is of ASCII ... -/
theorem toNat_toLower_lt_iff : c.toLower.toNat < 128 ↔ c.toNat < 128 := by
  rw [toNat_toLower]
  split <;> omega

/-- ... nor whether it is blank. -/
theorem isBlank_toLower (c : Char) : isBlank c.toLower = isBlank c := by
  by_cases h : c.isUpper
  · have hsmall := toNat_toLower c
    obtain ⟨hlow, hhigh⟩ := isUpper_iff.1 h
    rw [if_pos ⟨hlow, hhigh⟩] at hsmall
    rw [isBlank_eq_false (by omega) (by omega), isBlank_eq_false (by omega) (by omega)]
  · rw [Char.toLower_eq_of_not_isUpper h]

/-! ### The runs of capitals -/

/-- A run holds a code point. -/
def InRun (run : Nat × Nat × Nat × Int) (n : Nat) : Prop :=
  run.1 ≤ n ∧ n ≤ run.2.1 ∧ (n - run.1) % run.2.2.1 = 0

/-- The small letter is that of a run, or there is none. -/
theorem lowerChar_cases (c : Char) :
    (∀ run ∈ lowerRuns, ¬ InRun run c.toNat) ∧ lowerChar c = c ∨
      ∃ run ∈ lowerRuns, InRun run c.toNat ∧
        lowerChar c = Char.ofNat ((c.toNat : Int) + run.2.2.2).toNat := by
  unfold lowerChar
  dsimp only
  split
  · rename_i run hfind
    have hin : InRun run c.toNat := by
      simpa only [InRun, decide_eq_true_eq] using List.find?_some hfind
    exact .inr ⟨run, List.mem_of_find?_eq_some hfind, hin, rfl⟩
  · rename_i hfind
    refine .inl ⟨fun run hrun hin => ?_, rfl⟩
    exact List.find?_eq_none.1 hfind run hrun (by simpa only [InRun, decide_eq_true_eq] using hin)

/-- The first run is that of ASCII.  The others begin beyond it and, but for the sign for kelvin,
end beyond it, all of them at characters. -/
theorem mem_lowerRuns {run : Nat × Nat × Nat × Int} (h : run ∈ lowerRuns) :
    run = (0x41, 0x5a, 1, 32) ∨ 128 ≤ run.1 ∧
      (run = (0x212a, 0x212a, 1, -8383) ∨ 128 ≤ run.1 + run.2.2.2 ∧
        (run.2.1 + run.2.2.2 < 0xd800 ∨
          0xdfff < run.1 + run.2.2.2 ∧ run.2.1 + run.2.2.2 < 0x110000)) := by
  revert run
  decide +kernel

/-- **The small letters of ASCII.** -/
theorem lowerChar_of_ascii (h : c.toNat < 128) : lowerChar c = c.toLower := by
  rcases lowerChar_cases c with ⟨hnone, hc⟩ | ⟨run, hrun, ⟨hlow, hhigh, -⟩, hc⟩
  · have hfirst := hnone (0x41, 0x5a, 1, 32) (by decide)
    have hupper : ¬ c.isUpper := fun hupper =>
      hfirst ⟨(isUpper_iff.1 hupper).1, (isUpper_iff.1 hupper).2, Nat.mod_one _⟩
    rw [hc, Char.toLower_eq_of_not_isUpper hupper]
  · rcases mem_lowerRuns hrun with rfl | ⟨hbeyond, -⟩
    · rw [hc, Char.toLower_eq_of_isUpper (isUpper_iff.2 ⟨hlow, hhigh⟩)]
      rfl
    · omega

/-- **Only the sign for kelvin is lowered to ASCII from outside.** -/
theorem ascii_of_lowerChar (h : (lowerChar c).toNat < 128) : c.toNat < 128 ∨ c = '\u212a' := by
  rcases lowerChar_cases c with ⟨-, hc⟩ | ⟨run, hrun, ⟨hlow, hhigh, -⟩, hc⟩
  · exact .inl (hc ▸ h)
  · rcases mem_lowerRuns hrun with rfl | ⟨-, rfl | ⟨hbeyond, hvalid⟩⟩
    · exact .inl (lt_of_le_of_lt hhigh (by decide))
    · exact .inr (Char.toNat_inj.1 (le_antisymm hhigh hlow))
    · -- the small letter is a character at or beyond 128
      rw [hc, Char.toNat_ofNat] at h
      split at h
      · omega
      · rename_i hinvalid
        refine absurd ?_ hinvalid
        rcases hvalid with hvalid | ⟨hleft, hright⟩
        · exact .inl (by omega)
        · exact .inr ⟨by omega, by omega⟩

/-- A character of ASCII, but for `k`, is the small letter of the same characters as in ASCII. -/
theorem lowerChar_eq_iff (hd : d.toNat < 128) (hk : d ≠ 'k') : lowerChar c = d ↔ c.toLower = d := by
  constructor
  · rintro rfl
    rcases ascii_of_lowerChar hd with hc | rfl
    · exact (lowerChar_of_ascii hc).symm
    · exact absurd (by decide +kernel) hk
  · rintro rfl
    exact lowerChar_of_ascii (toNat_toLower_lt_iff.1 hd)

/-! ### Words -/

/-- A text that begins outside ASCII is none that begins in it. -/
theorem cons_ne_of_ascii {rest tail : List Char} (hd : d.toNat < 128) (hc : 128 ≤ c.toNat) :
    c :: rest ≠ d :: tail := by
  intro h
  obtain ⟨rfl, -⟩ := List.cons.inj h
  omega

/-- **The texts with a given lower case in ASCII**, wherever they stand. -/
theorem lowerAfter_eq_iff {text target : List Char} (h : ∀ d ∈ target, d.toNat < 128 ∧ d ≠ 'k')
    (before : List Char) : lowerAfter before text = target ↔ text.map Char.toLower = target := by
  induction text generalizing before target with
  | nil => rfl
  | cons c rest ih =>
      rw [lowerAfter, List.map_cons]
      cases target with
      | nil => split_ifs <;> simp
      | cons d tail =>
          obtain ⟨hd, hk⟩ := h d List.mem_cons_self
          have htail : ∀ e ∈ tail, e.toNat < 128 ∧ e ≠ 'k' := fun e he =>
            h e (List.mem_cons_of_mem d he)
          -- the two letters with rules of their own give a character outside ASCII
          split_ifs with hsigma hfinal hdotted
          · subst hsigma
            exact iff_of_false (cons_ne_of_ascii hd (by decide)) (cons_ne_of_ascii hd (by decide))
          · subst hsigma
            exact iff_of_false (cons_ne_of_ascii hd (by decide)) (cons_ne_of_ascii hd (by decide))
          · subst hdotted
            refine iff_of_false (fun heq => ?_) (cons_ne_of_ascii hd (by decide))
            have hdot := htail '\u0307' ((List.cons.inj heq).2 ▸ List.mem_cons_self)
            exact absurd hdot.1 (by decide)
          · rw [List.singleton_append, List.cons.injEq, List.cons.injEq, lowerChar_eq_iff hd hk,
              ih htail]

theorem lowerCase_eq_iff {text target : List Char} (h : ∀ d ∈ target, d.toNat < 128 ∧ d ≠ 'k') :
    lowerCase text = target ↔ text.map Char.toLower = target :=
  lowerAfter_eq_iff h []

/-! ### Spelling -/

/-- **A text is a word up to blank characters at its ends and the case of ASCII letters.** -/
def Spells (text word : List Char) : Prop :=
  ∃ before core after, text = before ++ core ++ after ∧ (∀ c ∈ before, isBlank c) ∧
    (∀ c ∈ after, isBlank c) ∧ core.map Char.toLower = word

/-- For a word without blank characters, the part between the ends is what trimming leaves. -/
theorem spells_iff {text word : List Char} (hword : ∀ d ∈ word, isBlank d = false) :
    Spells text word ↔ (trim isBlank text).map Char.toLower = word := by
  constructor
  · rintro ⟨before, core, after, rfl, hbefore, hafter, rfl⟩
    have hcore : trim isBlank core = core := trim_of_none fun c hc => by
      rw [← isBlank_toLower]
      exact hword _ (List.mem_map_of_mem hc)
    rw [trim_append hbefore hafter, hcore]
  · intro h
    obtain ⟨before, after, htext, hbefore, hafter⟩ := exists_trim isBlank text
    exact ⟨before, trim isBlank text, after, htext, hbefore, hafter, h⟩

end Text

end FilmGrain
