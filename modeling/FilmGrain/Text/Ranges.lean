/-
**Classes of characters given by ranges of code points.**

Main definitions:

* `FilmGrain.Text.Ranges` — ranges of code points, first and last;
* `Ranges.contains` — whether a character is in one of them.

Main results:

* `Ranges.contains_iff` — membership in terms of the ranges.
-/

set_option autoImplicit false

namespace FilmGrain

namespace Text

/-- Ranges of code points, each by its first and last. -/
abbrev Ranges : Type := List (Nat × Nat)

/-- Whether a character lies in one of the ranges. -/
def Ranges.contains (ranges : Ranges) (c : Char) : Bool :=
  ranges.any fun range => decide (range.1 ≤ c.toNat) && decide (c.toNat ≤ range.2)

theorem Ranges.contains_iff (ranges : Ranges) (c : Char) :
    ranges.contains c = true ↔ ∃ range ∈ ranges, range.1 ≤ c.toNat ∧ c.toNat ≤ range.2 := by
  simp [Ranges.contains]

end Text

end FilmGrain
