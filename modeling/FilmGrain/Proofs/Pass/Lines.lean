/-
**How the lines of a pass begin.**

A line is known by how it begins: that something was done, that a table was written.  The lines of
the list begin otherwise, and so does the line on a figure.

Main definitions:

* `FilmGrain.begins` — whether a line begins with a text;
* `FilmGrain.doneStart` — how a line begins on something that was done.

Main results:

* `FilmGrain.begins_append` — what a line is known by, whatever it goes on with;
* `Request.begins_of_mem_listing` — **no line of the list is about something that was done**.
-/

import FilmGrain.Proofs.Pass.Run

set_option autoImplicit false

namespace FilmGrain

open Number

/-! ### How lines begin -/

/-- Whether a line begins with a text. -/
def begins (start line : String) : Bool := start.toList.isPrefixOf line.toList

theorem begins_append_self (start rest : String) : begins start (start ++ rest) = true := by
  rw [begins, String.toList_append, List.isPrefixOf_iff_prefix]
  exact List.prefix_append _ _

/-- A text that is long enough decides how a line begins that goes on after it. -/
theorem begins_append {start text : String} (h : start.toList.length ≤ text.toList.length)
    (rest : String) : begins start (text ++ rest) = begins start text := by
  rw [Bool.eq_iff_iff, begins, begins, String.toList_append, List.isPrefixOf_iff_prefix,
    List.isPrefixOf_iff_prefix]
  constructor
  · exact fun hstart => List.prefix_of_prefix_length_le hstart (List.prefix_append _ _) h
  · exact fun hstart => hstart.trans (List.prefix_append _ _)

/-- So a line begins with nothing that such a text does not begin with. -/
theorem begins_append_of_false {start text : String}
    (hlength : start.toList.length ≤ text.toList.length) (hstart : begins start text = false)
    (rest : String) : begins start (text ++ rest) = false :=
  (begins_append hlength rest).trans hstart

theorem begins_of_longer {short long line : String} (h : begins short long = true)
    (hline : begins short line = false) : begins long line = false := by
  rw [begins, List.isPrefixOf_iff_prefix] at h
  rw [begins, Bool.eq_false_iff, ne_eq, List.isPrefixOf_iff_prefix] at hline ⊢
  exact fun hlong => hline (h.trans hlong)

/-- How a line begins on something that was done. -/
def doneStart : String := "[OK]"

namespace Request

theorem begins_figureStart (location : String) :
    begins tableStart (figureStart ++ location) = false :=
  begins_append_of_false (by decide +kernel) (by decide +kernel) location

theorem begins_describe {f : Format} (settings : CameraSettings) (model : SensorModel (Binary f)) :
    begins doneStart (settings.describe model) = false := by
  delta CameraSettings.describe
  simp only [String.append_assoc]
  exact begins_append_of_false (by decide +kernel) (by decide +kernel) _

theorem begins_quantitiesLine (settings : CameraSettings) (area : Double) :
    begins doneStart (settings.quantitiesLine area) = false := by
  delta CameraSettings.quantitiesLine
  simp only [String.append_assoc]
  exact begins_append_of_false (by decide +kernel) (by decide +kernel) _

theorem begins_line (p : ScalingPoint) : begins doneStart p.line = false := by
  delta ScalingPoint.line
  simp only [String.append_assoc]
  exact begins_append_of_false (by decide +kernel) (by decide +kernel) _

theorem begins_doneStart :
    begins doneStart tableStart = true ∧ begins doneStart figureStart = true := by
  decide +kernel

variable {r : Request} {settings : CameraSettings} {curve : ScalingCurve}

/-- **No line of the list is about something that was done.** -/
theorem begins_of_mem_listing {line : String} (h : line ∈ r.listing settings curve) :
    begins doneStart line = false := by
  rw [listing] at h
  split at h
  · rw [CameraSettings.pointLines] at h
    split at h
    · cases h
    · rw [List.mem_cons, List.mem_cons, List.mem_map] at h
      obtain hline | hline | ⟨p, -, hline⟩ := h
      · rw [hline, begins_describe]
      · rw [hline, begins_quantitiesLine]
      · rw [← hline, begins_line]
  · cases h

/-- So none of them is counted where such lines are. -/
theorem countP_listing {start : String} (h : begins doneStart start = true) :
    (r.listing settings curve).countP (begins start) = 0 :=
  List.countP_eq_zero.2 fun _ hline =>
    Bool.eq_false_iff.1 (begins_of_longer h (begins_of_mem_listing hline))

end Request

end FilmGrain
