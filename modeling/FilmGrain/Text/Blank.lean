/-
**Blank characters.**

Two classes of white space are in use.  Names are trimmed of every blank character: the white space
of Unicode and the four information separators.  Numbers are trimmed of the layout characters of
ASCII and of the blank characters outside ASCII.

Main definitions:

* `FilmGrain.Text.isBlank`, `FilmGrain.Text.isLayout` — the two classes;
* `FilmGrain.Text.trim` — a text without the characters of a class at its two ends.

Main results:

* `Text.isBlank_of_isWhitespace` — the white space of the core library is blank;
* `Text.isBlank_eq_false` — the visible characters of ASCII are not;
* `Text.trim_of_all` — a text of such characters only is trimmed to nothing.
-/

import FilmGrain.Text.Ranges

set_option autoImplicit false

namespace FilmGrain

namespace Text

/-- The blank characters. -/
def blankRanges : Ranges := [
  (0x9, 0xd), (0x1c, 0x20), (0x85, 0x85), (0xa0, 0xa0), (0x1680, 0x1680), (0x2000, 0x200a),
  (0x2028, 0x2029), (0x202f, 0x202f), (0x205f, 0x205f), (0x3000, 0x3000)]

/-- Whether a character is blank: white space, or one of the information separators. -/
def isBlank (c : Char) : Bool := blankRanges.contains c

/-- Whether a character is layout around a number: one of the six layout characters of ASCII, or a
blank character outside ASCII. -/
def isLayout (c : Char) : Bool :=
  if c.toNat < 128 then decide (9 ≤ c.toNat ∧ c.toNat ≤ 13) || c == ' ' else isBlank c

/-- A text without the characters of a class at its two ends. -/
def trim (inClass : Char → Bool) (text : List Char) : List Char :=
  ((text.dropWhile inClass).reverse.dropWhile inClass).reverse

theorem isBlank_of_isWhitespace {c : Char} (h : c.isWhitespace = true) : isBlank c = true := by
  simp only [Char.isWhitespace, Bool.or_eq_true, decide_eq_true_eq] at h
  rcases h with ((h | h) | h) | h <;> subst h <;> decide

/-- The blank characters lie outside the visible characters of ASCII. -/
theorem isBlank_eq_false {c : Char} (hlow : 32 < c.toNat) (hhigh : c.toNat < 133) :
    isBlank c = false := by
  have houtside : ∀ range ∈ blankRanges, range.2 ≤ 32 ∨ 133 ≤ range.1 := by decide
  rw [Bool.eq_false_iff]
  intro hblank
  obtain ⟨range, hrange, hfirst, hlast⟩ := (blankRanges.contains_iff c).1 hblank
  have := houtside range hrange
  omega

theorem trim_of_all {inClass : Char → Bool} {text : List Char}
    (h : ∀ c ∈ text, inClass c = true) : trim inClass text = [] := by
  have hdrop : text.dropWhile inClass = [] := by
    induction text with
    | nil => rfl
    | cons c rest ih =>
        rw [List.dropWhile_cons_of_pos (h c List.mem_cons_self)]
        exact ih fun d hd => h d (List.mem_cons_of_mem c hd)
  simp [trim, hdrop]

end Text

end FilmGrain
