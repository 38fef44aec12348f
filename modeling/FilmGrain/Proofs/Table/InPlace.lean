/-
**Additions to a grain table that is changed in place.**

A table may also be kept in a state and changed there.  Each entry that is to be stored is then
built by the check of its own interval, the longer last entry as well as a new one, and what was
changed before a check fails would stay changed.  This module shows that nothing is: the longer last
entry passes its check whenever it is due, so an addition is refused only for the interval that is
handed in, and before anything is stored.

Main definitions:

* `GrainEntry.ofInterval` — the check of an interval, and the entry it makes;
* `GrainTable.addInPlace` — **an addition to a table in a state**;
* `GrainTable.Lengthened`, `GrainTable.Gained` — the two ways in which a table changes;
* `GrainTable.Outcome` — what an addition answers and leaves.

Main results:

* `GrainEntry.isOk_lengthen` — **a last entry that is to end later passes its check**;
* `GrainTable.on_addInPlace` — in place, an addition answers and leaves what it does otherwise;
* `GrainTable.addInPlace_outcome` — **which answer is given when, and what it leaves**.
-/

import FilmGrain.Proofs.Table.Runs

set_option autoImplicit false

namespace FilmGrain

/-! ### Checked entries -/

/-- The entry of an interval that does not end before it starts. -/
def GrainEntry.ofInterval (c : Interval) : Except TableError GrainEntry :=
  if h : c.start ≤ c.stop then .ok ⟨c.start, c.stop, c.params, h⟩
  else .error (.endsBeforeStart c.start c.stop)

theorem GrainEntry.ofInterval_of_le {c : Interval} (h : c.start ≤ c.stop) :
    ofInterval c = .ok ⟨c.start, c.stop, c.params, h⟩ :=
  dif_pos h

/-- The interval of an entry with another end. -/
def GrainEntry.until (e : GrainEntry) (stop : Int) : Interval := ⟨e.start, stop, e.params⟩

/-- **A last entry that is to end later passes its check.** -/
theorem GrainEntry.isOk_lengthen {last : GrainEntry} {stop : Int} (h : last.stop < stop) :
    (ofInterval (last.until stop)).isOk := by
  have := last.ordered
  rw [ofInterval_of_le (c := last.until stop) (by change last.start ≤ stop; omega)]
  rfl

namespace GrainTable

/-! ### A table in a state -/

/-- A change of a table in place, which may be refused on the way. -/
abbrev Change (α : Type) : Type := ExceptT TableError (StateM GrainTable) α

/-- A check on the way of a change. -/
def Change.check {α : Type} (result : Except TableError α) : Change α := ExceptT.mk (pure result)

/-- A new last entry, once its interval is checked. -/
def pushInPlace (c : Interval) : Change Bool := do
  let entry ← Change.check (GrainEntry.ofInterval c)
  modify fun t => ⟨t.entries ++ [entry]⟩
  return true

/-- An interval that is added behind a last entry, or as the first. -/
def addBehind (last? : Option GrainEntry) (c : Interval) : Change Bool :=
  match last? with
  | none => pushInPlace c
  | some last => do
      if c.stop ≤ last.stop then return false
      else if c.start ≤ last.stop ∧ last.params = c.params then
        let longer ← Change.check (GrainEntry.ofInterval (last.until c.stop))
        modify fun t => ⟨t.entries.dropLast ++ [longer]⟩
        return true
      else pushInPlace c

/-- **An addition to a table in a state**, which answers whether it changed the table. -/
def addInPlace (c : Interval) : Change Bool := do addBehind (← get).entries.getLast? c

/-- What a change answers for a table, and the table after it. -/
def Change.on {α : Type} (change : Change α) (t : GrainTable) : Except TableError α × GrainTable :=
  change.run.run t

/-- What is stored after a check is stored only if the check passes. -/
theorem Change.on_check {c : Interval} (store : GrainTable → GrainEntry → GrainTable)
    (t : GrainTable) :
    (do
      let entry ← Change.check (GrainEntry.ofInterval c)
      modify fun t => store t entry
      return true : Change Bool).on t =
      match GrainEntry.ofInterval c with
      | .ok entry => (.ok true, store t entry)
      | .error fault => (.error fault, t) := by
  cases GrainEntry.ofInterval c <;> rfl

theorem on_pushInPlace (t : GrainTable) (c : Interval) :
    (pushInPlace c).on t =
      match t.push c.start c.stop c.params with
      | .ok grown => (.ok true, grown)
      | .error fault => (.error fault, t) := by
  refine (Change.on_check (fun t entry => ⟨t.entries ++ [entry]⟩) t).trans ?_
  rw [GrainEntry.ofInterval, push]
  by_cases h : c.start ≤ c.stop
  · rw [dif_pos h, dif_pos h]
  · rw [dif_neg h, dif_neg h]

/-- **In place, an addition answers and leaves what it does otherwise.** -/
theorem on_addInPlace (t : GrainTable) (c : Interval) :
    (addInPlace c).on t = ((t.add c).map Option.isSome, t.after c) := by
  have hbehind : (addInPlace c).on t = (addBehind t.entries.getLast? c).on t := rfl
  rw [hbehind, after, add, append]
  cases hlast : t.entries.getLast? with
  | none =>
      simp only [addBehind, on_pushInPlace]
      cases t.push c.start c.stop c.params <;> rfl
  | some last =>
      simp only [addBehind]
      by_cases hearly : c.stop ≤ last.stop
      · rw [if_pos hearly, dif_pos hearly]
        rfl
      · rw [if_neg hearly, dif_neg hearly]
        by_cases hmerge : c.start ≤ last.stop ∧ last.params = c.params
        · rw [if_pos hmerge, if_pos hmerge]
          have hordered : last.start ≤ c.stop := by have := last.ordered; omega
          refine (Change.on_check (fun t longer => ⟨t.entries.dropLast ++ [longer]⟩) t).trans ?_
          rw [GrainEntry.ofInterval_of_le (c := last.until c.stop) hordered]
          rfl
        · rw [if_neg hmerge, if_neg hmerge, on_pushInPlace]
          cases t.push c.start c.stop c.params <;> rfl

/-! ### What an addition answers and leaves -/

/-- The last entry of a table ends with an interval now, and nothing else is changed. -/
def Lengthened (t u : GrainTable) (c : Interval) : Prop :=
  ∃ before last longer, t.entries = before ++ [last] ∧ u.entries = before ++ [longer] ∧
    longer.start = last.start ∧ longer.params = last.params ∧ longer.stop = c.stop ∧
    last.stop < longer.stop

/-- An interval is an entry of a table now, behind the others. -/
def Gained (t u : GrainTable) (c : Interval) : Prop :=
  ∃ e : GrainEntry, u.entries = t.entries ++ [e] ∧ e.start = c.start ∧ e.stop = c.stop ∧
    e.params = c.params

/-- Whether the last entry has the parameters of an interval that touches it. -/
def Joins (t : GrainTable) (c : Interval) : Prop :=
  ∃ last ∈ t.entries.getLast?, c.start ≤ last.stop ∧ last.params = c.params

theorem Lengthened.length_eq {t u : GrainTable} {c : Interval} (h : Lengthened t u c) :
    u.entries.length = t.entries.length := by
  obtain ⟨before, last, longer, ht, hu, -⟩ := h
  rw [ht, hu, List.length_append, List.length_append, List.length_singleton, List.length_singleton]

theorem Gained.length_eq {t u : GrainTable} {c : Interval} (h : Gained t u c) :
    u.entries.length = t.entries.length + 1 := by
  obtain ⟨e, hu, -⟩ := h
  rw [hu, List.length_append, List.length_singleton]

/-- A table is not changed in both ways at once. -/
theorem Lengthened.not_gained {t u : GrainTable} {c : Interval} (h : Lengthened t u c) :
    ¬ Gained t u c := by
  intro hgained
  have := h.length_eq
  have := hgained.length_eq
  omega

theorem Lengthened.ne {t u : GrainTable} {c : Interval} (h : Lengthened t u c) : u ≠ t := by
  obtain ⟨before, last, longer, ht, hu, -, -, -, hlater⟩ := h
  rintro rfl
  have hsame : longer = last := by simpa using hu.symm.trans ht
  rw [hsame] at hlater
  omega

theorem Gained.ne {t u : GrainTable} {c : Interval} (h : Gained t u c) : u ≠ t := by
  rintro rfl
  have := h.length_eq
  omega

/-- **What an addition answers and leaves**: the fault or the answer, and the table after it. -/
structure Outcome (t : GrainTable) (c : Interval) (result : Except TableError Bool)
    (u : GrainTable) : Prop where
  /-- Only an interval that would be the last one can be refused, for ending before it starts. -/
  refused_iff : (∃ fault, result = .error fault) ↔
    c.stop < c.start ∧ ∀ last ∈ t.entries.getLast?, last.stop < c.stop
  /-- What is reported is the interval itself. -/
  fault_eq : ∀ fault, result = .error fault → fault = .endsBeforeStart c.start c.stop
  /-- An interval is passed over if it ends no later than the last entry. -/
  passed_iff : result = .ok false ↔ ∃ last ∈ t.entries.getLast?, c.stop ≤ last.stop
  /-- Only an interval that is taken changes the table. -/
  unchanged : result ≠ .ok true → u = t
  /-- And it does so in one of two ways. -/
  changed : result = .ok true →
    u ≠ t ∧ (Lengthened t u c ↔ t.Joins c) ∧ (Gained t u c ↔ ¬ t.Joins c)

/-- An interval that ends after the last entry does not end before it. -/
theorem not_early {t : GrainTable} {c : Interval}
    (hlate : ∀ last ∈ t.entries.getLast?, last.stop < c.stop) :
    ¬ ∃ last ∈ t.entries.getLast?, c.stop ≤ last.stop := by
  rintro ⟨last, hlast, hearly⟩
  have := hlate last hlast
  omega

/-- The answer to an interval says how the table after it differs. -/
theorem outcome_add (t : GrainTable) (c : Interval) :
    Outcome t c ((t.add c).map Option.isSome) (t.after c) := by
  unfold GrainTable.after
  generalize hanswer : t.add c = answer
  cases hanswer ▸ t.add_answer c with
  | refused hinverted hlate =>
      refine {
        refused_iff := iff_of_true ⟨_, rfl⟩ ⟨hinverted, hlate⟩
        fault_eq := ?_
        passed_iff := iff_of_false nofun (not_early hlate)
        unchanged := fun _ => rfl
        changed := nofun }
      rintro _ ⟨⟩
      rfl
  | passed hlast hearly =>
      refine {
        refused_iff := iff_of_false nofun ?_
        fault_eq := nofun
        passed_iff := iff_of_true rfl ⟨_, hlast, hearly⟩
        unchanged := fun _ => rfl
        changed := nofun }
      rintro ⟨-, hlate⟩
      exact not_early hlate ⟨_, hlast, hearly⟩
  | @extended before last hentries hlate htouch hparams hordered =>
      have hlast : t.entries.getLast? = some last := by rw [hentries, List.getLast?_concat]
      have hlater : ∀ other ∈ t.entries.getLast?, other.stop < c.stop := by
        rintro other hother
        rw [hlast, Option.mem_some_iff] at hother
        exact hother ▸ hlate
      have hlonger :
          Lengthened t ⟨before ++ [{ last with stop := c.stop, ordered := hordered }]⟩ c :=
        ⟨before, last, _, hentries, rfl, rfl, rfl, rfl, hlate⟩
      have hjoins : t.Joins c := ⟨last, hlast, htouch, hparams⟩
      refine {
        refused_iff := iff_of_false nofun ?_
        fault_eq := nofun
        passed_iff := iff_of_false nofun (not_early hlater)
        unchanged := fun h => absurd rfl h
        changed := fun _ => ⟨hlonger.ne, iff_of_true hlonger hjoins,
          iff_of_false hlonger.not_gained fun h => h hjoins⟩ }
      rintro ⟨hinverted, -⟩
      omega
  | pushed hordered hlate hapart =>
      have hgained : Gained t ⟨t.entries ++ [⟨c.start, c.stop, c.params, hordered⟩]⟩ c :=
        ⟨_, rfl, rfl, rfl, rfl⟩
      have hjoins : ¬ t.Joins c := by
        rintro ⟨last, hlast, htouch, hparams⟩
        exact hapart last hlast htouch hparams
      refine {
        refused_iff := iff_of_false nofun ?_
        fault_eq := nofun
        passed_iff := iff_of_false nofun (not_early hlate)
        unchanged := fun h => absurd rfl h
        changed := fun _ => ⟨hgained.ne, iff_of_false (fun h => h.not_gained hgained) hjoins,
          iff_of_true hgained hjoins⟩ }
      rintro ⟨hinverted, -⟩
      omega

/-- **Which answer is given when, and what it leaves.**  An addition in place, in which each entry
is checked before it is stored, is the same as one that makes a new table.  The check of the longer
last entry never fails, and what is refused or passed over leaves the table as it was. -/
theorem addInPlace_outcome (t : GrainTable) (c : Interval) :
    (addInPlace c).on t =
      ((t.append c.start c.stop c.params).map Option.isSome, t.after c) ∧
    Outcome t c ((addInPlace c).on t).1 ((addInPlace c).on t).2 ∧
    ∀ last ∈ t.entries.getLast?, last.stop < c.stop →
      (GrainEntry.ofInterval (last.until c.stop)).isOk := by
  refine ⟨on_addInPlace t c, ?_, fun _ _ => GrainEntry.isOk_lengthen⟩
  rw [on_addInPlace]
  exact outcome_add t c

end GrainTable

end FilmGrain
