/-
**What parsed arguments hold.**

Arguments grow by one option, one value or one operand at a time.  What none of these steps can
break holds of all parsed arguments, and so of the request they stand for.  An integer that was read
has no more digits than the limit, so it can be written again.

Main definitions:

* `CommandLine.Kept` — what no step of the parsing breaks;
* `CommandLine.IsReal` — a number of double precision, or the empty list that stands for none;
* `CommandLine.IsShort` — a value whose integers may be written.

Main results:

* `CommandLine.Kept.collect` — **what no step breaks holds after every parsing**;
* `CommandLine.isReal_of_parse` — the exposure index of a request is a number of double precision or
  the empty list;
* `CommandLine.isShort_of_parse` — **no integer of a request is too long to be written**.
-/

import FilmGrain.CommandLine.Arguments
import FilmGrain.Proofs.Check
import FilmGrain.Proofs.Decimal.ReadBack

set_option autoImplicit false

namespace FilmGrain

namespace CommandLine

/-! ### Steps and runs -/

/-- What no step of the parsing breaks: it only has to be kept where a value is given. -/
structure Kept (limit : DigitLimit) (P : Arguments → Prop) : Prop where
  verbose : ∀ {a : Arguments}, P a → P { a with verbose := true }
  set : ∀ {a : Arguments} {o : CommandOption} {value : String} {given : Setting},
    P a → givenBy limit o value = .ok given → P (a.set o given)
  addOther : ∀ {a : Arguments} {argument : String}, P a → P (a.addOther argument)

variable {limit : DigitLimit} {P : Arguments → Prop} {a b : Arguments}

theorem Kept.setFlag (hkept : Kept limit P) {o : CommandOption} (h : P a)
    (hflag : a.setFlag o = .ok b) : P b := by
  cases o with
  | help => cases hflag
  | verbose =>
      cases hflag
      exact hkept.verbose h
  | width | height | iso | output | function | plot =>
      cases hflag
      exact h

theorem Kept.setValue (hkept : Kept limit P) {o : CommandOption} {value : String} (h : P a)
    (hvalue : a.setValue limit o value = .ok b) : P b := by
  rw [Arguments.setValue] at hvalue
  cases hgiven : givenBy limit o value with
  | error ending =>
      rw [hgiven] at hvalue
      cases hvalue
  | ok given =>
      rw [hgiven] at hvalue
      cases hvalue
      exact hkept.set h hgiven

theorem Kept.setFlags (hkept : Kept limit P) {flags : List CommandOption} (h : P a)
    (hflags : flags.foldlM Arguments.setFlag a = .ok b) : P b := by
  induction flags generalizing a with
  | nil =>
      cases hflags
      exact h
  | cons flag rest ih =>
      obtain ⟨c, hflag, hrest⟩ := bind_eq_ok_iff.1 hflags
      exact ih (hkept.setFlag h hflag) hrest

theorem Kept.setGroup (hkept : Kept limit P) {g : Group} {value : String} (h : P a)
    (hgroup : a.setGroup limit g value = .ok b) : P b := by
  obtain ⟨c, hflags, hvalue⟩ := bind_eq_ok_iff.1 hgroup
  have hc := hkept.setFlags h hflags
  split at hvalue
  · exact hkept.setValue hc hvalue
  · cases hvalue
    exact hc

/-- **What no step breaks holds after every parsing.** -/
theorem Kept.collect (hkept : Kept limit P) {waiting : Option (CommandOption × Group)}
    {tokens : List (String × Token)} (h : P a) (hcollect : collect limit a waiting tokens = .ok b) :
    P b := by
  -- an option waits for the next token or is set at once, so one token can lead to two calls
  fun_induction CommandLine.collect limit a waiting tokens with
  | case1 => cases hcollect
  | case2 =>
      cases hcollect
      exact h
  | case3 a argument rest o group ih =>
      obtain ⟨c, hgroup, hrest⟩ := bind_eq_ok_iff.1 hcollect
      exact ih c (hkept.setGroup h hgroup) hrest
  | case4 => cases hcollect
  | case5 a argument rest o short attached ihwaiting ihrest =>
      obtain ⟨group, -, hnext⟩ := bind_eq_ok_iff.1 hcollect
      split at hnext
      · exact ihwaiting group _ h hnext
      · obtain ⟨c, hgroup, hrest⟩ := bind_eq_ok_iff.1 hnext
        exact ihrest c (hkept.setGroup h hgroup) hrest
  | case6 a argument token rest hoption ih => exact ih (hkept.addOther h) hcollect

/-- What holds at the start and is kept holds of the arguments of a request. -/
theorem Kept.parse (hkept : Kept limit P) (hstart : P {}) {arguments : List String} {r : Request}
    (h : parse limit arguments = .ok r) :
    ∃ a, P a ∧ a.width = some r.width ∧ a.height = some r.height ∧ a.iso = some r.iso := by
  obtain ⟨tokens, -, hcollected⟩ := bind_eq_ok_iff.1 h
  obtain ⟨a, hcollect, hrequest⟩ := bind_eq_ok_iff.1 hcollected
  refine ⟨a, hkept.collect hstart hcollect, ?_⟩
  rw [Arguments.request] at hrequest
  split at hrequest
  · rename_i width height iso output hwidth hheight hiso houtput
    split at hrequest
    · cases hrequest
      exact ⟨hwidth, hheight, hiso⟩
    · cases hrequest
  · cases hrequest

/-! ### Values -/

/-- A number of double precision, or the empty list that stands for no value. -/
def IsReal (given : Setting) : Prop := (∃ x, given = .real x) ∨ given = .list []

/-- A value whose integers may be written. -/
def IsShort (limit : DigitLimit) (given : Setting) : Prop := ∀ n ∈ given.integers, limit.Admits n

theorem IsReal.isShort {given : Setting} (h : IsReal given) : IsShort limit given := by
  obtain ⟨x, rfl⟩ | rfl := h
  · exact List.forall_mem_nil _
  · exact List.forall_mem_nil _

theorem isReal_of_givenBy {given : Setting} {value : String}
    (h : givenBy limit .iso value = .ok given) : IsReal given := by
  rw [givenBy] at h
  split at h
  · exact Or.inr (Except.ok.inj h).symm
  · rw [valueOf] at h
    cases hreal : realValue .iso value with
    | error ending =>
        rw [hreal] at h
        cases h
    | ok x =>
        rw [hreal] at h
        exact Or.inl ⟨x, (Except.ok.inj h).symm⟩

/-- An integer that was read can be written. -/
theorem isShort_integer {o : CommandOption} {value : String} {given : Setting}
    (h : (integerValue limit o value).map Setting.integer = .ok given) : IsShort limit given := by
  rw [integerValue] at h
  split at h
  · rename_i n hread
    cases h
    intro m hm
    rw [List.mem_singleton.1 hm]
    exact Decimal.admits_of_readInteger? hread
  · cases h

/-- A side of the image can be written. -/
theorem isShort_of_givenBy {o : CommandOption} (ho : o = .width ∨ o = .height) {given : Setting}
    {value : String} (h : givenBy limit o value = .ok given) : IsShort limit given := by
  rw [givenBy] at h
  split at h
  · cases h
    exact List.forall_mem_nil _
  · obtain rfl | rfl := ho
    · exact isShort_integer h
    · exact isShort_integer h

/-! ### What requests hold -/

theorem kept_isReal : Kept limit fun a => ∀ given ∈ a.iso, IsReal given where
  verbose := id
  set := by
    intro a o value given h hgiven
    cases o with
    | iso =>
        intro other hother
        cases hother
        exact isReal_of_givenBy hgiven
    | help | width | height | output | function | plot | verbose => exact h
  addOther := id

theorem kept_isShort :
    Kept limit fun a =>
      (∀ given ∈ a.width, IsShort limit given) ∧ ∀ given ∈ a.height, IsShort limit given where
  verbose := id
  set := by
    intro a o value given h hgiven
    cases o with
    | width =>
        refine ⟨fun other hother => ?_, h.2⟩
        cases hother
        exact isShort_of_givenBy (.inl rfl) hgiven
    | height =>
        refine ⟨h.1, fun other hother => ?_⟩
        cases hother
        exact isShort_of_givenBy (.inr rfl) hgiven
    | help | iso | output | function | plot | verbose => exact h
  addOther := id

/-- **The exposure index of a request is real**, if there is one. -/
theorem isReal_of_parse {arguments : List String} {r : Request}
    (h : parse limit arguments = .ok r) : IsReal r.iso := by
  obtain ⟨a, hiso, -, -, hgiven⟩ := kept_isReal.parse nofun h
  exact hiso _ hgiven

/-- **No integer of a request is too long to be written.** -/
theorem isShort_of_parse {arguments : List String} {r : Request}
    (h : parse limit arguments = .ok r) :
    IsShort limit r.width ∧ IsShort limit r.height ∧ IsShort limit r.iso := by
  obtain ⟨a, ⟨hwidth, hheight⟩, hgivenWidth, hgivenHeight, -⟩ := kept_isShort.parse ⟨nofun, nofun⟩ h
  exact ⟨hwidth _ hgivenWidth, hheight _ hgivenHeight, (isReal_of_parse h).isShort⟩

end CommandLine

end FilmGrain
