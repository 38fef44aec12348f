/-
**Runs of additions to a grain table.**

A table that starts empty is fed intervals one after the other; each is refused, passed over, or
taken, by extending the last entry or as a new one.  This module says once what a single addition
can do (`GrainTable.add_answer`) and derives from it what holds after every run.

A taken interval is kept for good as far as its end and its parameters go.  Its beginning is kept
too, with one exception: an interval that extends the last entry and begins before it is cut off at
the start of that entry.

Main definitions:

* `FilmGrain.Interval` — an interval with its parameters, as it is handed to a table;
* `GrainTable.Answer` — what an addition can answer, and when;
* `GrainTable.run`, `GrainTable.heeded` — the table after a run, and the intervals of the run that
  were not refused;
* `GrainTable.Settled` — **the invariant**: the ends rise, and neighbours that touch differ;
* `GrainEntry.Covers` — an entry holds an interval, with the same parameters.

Main results:

* `GrainTable.run_settled`, `GrainTable.lastStop?_run` — the invariant holds after every run, and
  the last entry ends at the latest end that was not refused;
* `GrainTable.run_wellFormed` — **both, for every run**;
* `GrainTable.covered_forever_iff` — **a taken interval stays in one entry exactly if it does not
  begin before a last entry with the same parameters**.
-/

import FilmGrain.Table.Basic
import Mathlib.Data.List.Chain

set_option autoImplicit false

namespace FilmGrain

/-- An interval of time and its parameters, not checked for its order. -/
structure Interval where
  /-- The first instant. -/
  start : Int
  /-- The last instant. -/
  stop : Int
  /-- The parameters for it. -/
  params : GrainParams

/-- An entry holds the whole of an interval, with its parameters. -/
def GrainEntry.Covers (e : GrainEntry) (c : Interval) : Prop :=
  e.params = c.params ∧ e.start ≤ c.start ∧ c.stop ≤ e.stop

namespace GrainTable

/-! ### One addition -/

/-- The answer of a table to an interval. -/
def add (t : GrainTable) (c : Interval) : Except TableError (Option GrainTable) :=
  t.append c.start c.stop c.params

/-- What a table can answer to an interval, and under which conditions. -/
inductive Answer (t : GrainTable) (c : Interval) : Except TableError (Option GrainTable) → Prop
  /-- An interval that would be the last one ends before it starts. -/
  | refused (hinverted : c.stop < c.start)
      (hlate : ∀ last ∈ t.entries.getLast?, last.stop < c.stop) :
      Answer t c (.error (.endsBeforeStart c.start c.stop))
  /-- An interval ends no later than the last entry. -/
  | passed {last : GrainEntry} (hlast : t.entries.getLast? = some last)
      (hearly : c.stop ≤ last.stop) :
      Answer t c (.ok none)
  /-- The last entry has the same parameters and is touched, and ends later now. -/
  | extended {before : List GrainEntry} {last : GrainEntry}
      (hentries : t.entries = before ++ [last]) (hlate : last.stop < c.stop)
      (htouch : c.start ≤ last.stop) (hparams : last.params = c.params)
      (hordered : last.start ≤ c.stop) :
      Answer t c (.ok (some ⟨before ++ [{ last with stop := c.stop, ordered := hordered }]⟩))
  /-- The interval is an entry of its own. -/
  | pushed (hordered : c.start ≤ c.stop)
      (hlate : ∀ last ∈ t.entries.getLast?, last.stop < c.stop)
      (hapart : ∀ last ∈ t.entries.getLast?, c.start ≤ last.stop → last.params ≠ c.params) :
      Answer t c (.ok (some ⟨t.entries ++ [⟨c.start, c.stop, c.params, hordered⟩]⟩))

/-- A new entry is refused exactly if it ends before it starts. -/
theorem push_answer {t : GrainTable} {c : Interval}
    (hlate : ∀ last ∈ t.entries.getLast?, last.stop < c.stop)
    (hapart : ∀ last ∈ t.entries.getLast?, c.start ≤ last.stop → last.params ≠ c.params) :
    Answer t c ((t.push c.start c.stop c.params).map some) := by
  by_cases hordered : c.start ≤ c.stop
  · rw [push, dif_pos hordered]
    exact .pushed hordered hlate hapart
  · rw [push, dif_neg hordered]
    exact .refused (by omega) hlate

/-- **What an addition can do.** -/
theorem add_answer (t : GrainTable) (c : Interval) : Answer t c (t.add c) := by
  unfold add append
  split
  · rename_i hempty
    refine push_answer ?_ ?_ <;> simp [hempty]
  · rename_i last hlast
    split
    · rename_i hearly
      exact .passed hlast hearly
    · rename_i hlate
      have hlater : last.stop < c.stop := by omega
      split
      · rename_i hmerge
        have hentries : t.entries = t.entries.dropLast ++ [last] :=
          (List.dropLast_append_getLast? last hlast).symm
        exact .extended hentries hlater hmerge.1 hmerge.2 _
      · rename_i hapart
        refine push_answer ?_ ?_
        · intro entry hentry
          rw [hlast, Option.mem_some_iff] at hentry
          exact hentry ▸ hlater
        · intro entry hentry htouch hparams
          rw [hlast, Option.mem_some_iff] at hentry
          subst hentry
          exact hapart ⟨htouch, hparams⟩

/-- The table after an interval was handed to it. -/
def after (t : GrainTable) (c : Interval) : GrainTable :=
  match t.add c with
  | .ok (some grown) => grown
  | .ok none | .error _ => t

/-- Whether an interval changes a table. -/
def Takes (t : GrainTable) (c : Interval) : Prop := ∃ grown, t.add c = .ok (some grown)

/-! ### Runs -/

/-- The table after a run of intervals, from the empty one on. -/
def run (calls : List Interval) : GrainTable := calls.foldl after empty

@[simp] theorem run_concat (calls : List Interval) (c : Interval) :
    run (calls ++ [c]) = (run calls).after c := by
  simp [run]

theorem run_append (earlier later : List Interval) :
    run (earlier ++ later) = later.foldl after (run earlier) := by
  simp [run]

/-- The intervals that a table does not refuse while it is fed a run. -/
def heeded (t : GrainTable) : List Interval → List Interval
  | [] => []
  | c :: rest => if (t.add c).isOk then c :: heeded (t.after c) rest else heeded (t.after c) rest

theorem heeded_concat (t : GrainTable) (calls : List Interval) (c : Interval) :
    heeded t (calls ++ [c]) =
      heeded t calls ++ if ((calls.foldl after t).add c).isOk then [c] else [] := by
  induction calls generalizing t with
  | nil => rfl
  | cons d rest ih =>
      simp only [List.cons_append, heeded, List.foldl_cons, ih]
      split <;> rfl

/-! ### The invariant -/

/-- **The invariant of a table that grew from the empty one.** -/
structure Settled (t : GrainTable) : Prop where
  /-- Each entry ends before all that follow. -/
  rising : t.entries.Pairwise fun d e => d.stop < e.stop
  /-- Neighbours that touch have different parameters. -/
  apart : t.entries.IsChain fun d e => e.start ≤ d.stop → d.params ≠ e.params

/-- The last end of a table. -/
def lastStop? (t : GrainTable) : Option Int := t.entries.getLast?.map GrainEntry.stop

/-- No entry ends after the last one. -/
theorem Settled.stop_le {t : GrainTable} (h : t.Settled) {e last : GrainEntry}
    (he : e ∈ t.entries) (hlast : t.entries.getLast? = some last) : e.stop ≤ last.stop := by
  have hrising := h.rising
  rw [← List.dropLast_append_getLast? last hlast] at he hrising
  rcases List.mem_append.1 he with he | he
  · have := (List.pairwise_append.1 hrising).2.2 e he last (List.mem_singleton_self last)
    omega
  · exact Int.le_of_eq (congrArg GrainEntry.stop (List.mem_singleton.1 he))

/-- A later end of the last entry keeps the invariant. -/
theorem Settled.extend {before : List GrainEntry} {last longer : GrainEntry}
    (h : Settled ⟨before ++ [last]⟩) (hlate : last.stop < longer.stop)
    (hstart : longer.start = last.start) (hparams : longer.params = last.params) :
    Settled ⟨before ++ [longer]⟩ := by
  obtain ⟨hbefore, -, hbelow⟩ := List.pairwise_append.1 h.rising
  obtain ⟨hchain, -, hlink⟩ := List.isChain_append.1 h.apart
  constructor
  · refine List.pairwise_append.2 ⟨hbefore, List.pairwise_singleton .., ?_⟩
    intro d hd e he
    have := hbelow d hd last (List.mem_singleton_self last)
    rw [List.mem_singleton.1 he]
    omega
  · refine List.isChain_append.2 ⟨hchain, List.isChain_singleton _, ?_⟩
    intro d hd e he
    obtain rfl : longer = e := by simpa using he
    rw [hstart, hparams]
    exact hlink d hd last (by simp)

/-- A new entry that ends last and is not to be merged keeps the invariant. -/
theorem Settled.push {t : GrainTable} {e : GrainEntry} (h : t.Settled)
    (hlate : ∀ last ∈ t.entries.getLast?, last.stop < e.stop)
    (hapart : ∀ last ∈ t.entries.getLast?, e.start ≤ last.stop → last.params ≠ e.params) :
    Settled ⟨t.entries ++ [e]⟩ := by
  constructor
  · refine List.pairwise_append.2 ⟨h.rising, List.pairwise_singleton .., ?_⟩
    intro d hd f hf
    obtain rfl : f = e := List.mem_singleton.1 hf
    obtain ⟨last, hlast⟩ :=
      Option.isSome_iff_exists.1 (List.getLast?_isSome.2 (List.ne_nil_of_mem hd))
    have := h.stop_le hd hlast
    have := hlate last hlast
    omega
  · refine List.isChain_append.2 ⟨h.apart, List.isChain_singleton _, ?_⟩
    intro d hd f hf
    obtain rfl : e = f := by simpa using hf
    exact hapart d hd

/-- **Every addition keeps the invariant.** -/
theorem Settled.after {t : GrainTable} (h : t.Settled) (c : Interval) : (t.after c).Settled := by
  unfold GrainTable.after
  generalize hanswer : t.add c = answer
  cases hanswer ▸ t.add_answer c with
  | refused => exact h
  | passed => exact h
  | @extended before last hentries hlate =>
      have hsettled : Settled ⟨before ++ [last]⟩ := hentries ▸ h
      exact hsettled.extend hlate rfl rfl
  | pushed _ hlate hapart => exact h.push hlate hapart

/-- The invariant holds after every run. -/
theorem run_settled (calls : List Interval) : (run calls).Settled := by
  induction calls using List.reverseRecOn with
  | nil => exact ⟨List.Pairwise.nil, List.isChain_nil⟩
  | append_singleton calls c ih =>
      rw [run_concat]
      exact ih.after c

/-! ### The last end -/

/-- A refused interval changes nothing. -/
theorem after_of_refused {t : GrainTable} {c : Interval} (h : ¬(t.add c).isOk) :
    t.after c = t := by
  unfold GrainTable.after
  generalize hanswer : t.add c = answer
  cases hanswer ▸ t.add_answer c with
  | refused => rfl
  | passed => exact absurd rfl (hanswer ▸ h)
  | extended => exact absurd rfl (hanswer ▸ h)
  | pushed => exact absurd rfl (hanswer ▸ h)

/-- After an interval that is not refused, a table ends at the later of its end and its own. -/
theorem lastStop?_after {t : GrainTable} {c : Interval} (h : (t.add c).isOk) :
    (t.after c).lastStop? = some (t.lastStop?.elim c.stop (max · c.stop)) := by
  unfold GrainTable.after
  generalize hanswer : t.add c = answer
  cases hanswer ▸ t.add_answer c with
  | refused =>
      rw [hanswer] at h
      exact absurd h Bool.false_ne_true
  | @passed last hlast hearly =>
      have hmax : max last.stop c.stop = last.stop := Int.max_eq_left hearly
      simp [lastStop?, hlast, hmax]
  | @extended before last hentries hlate =>
      have hmax : max last.stop c.stop = c.stop := Int.max_eq_right (Int.le_of_lt hlate)
      simp [lastStop?, hentries, hmax]
  | pushed _ hlate =>
      cases hlast : t.entries.getLast? with
      | none => simp [lastStop?, hlast]
      | some last =>
          have hmax : max last.stop c.stop = c.stop :=
            Int.max_eq_right (Int.le_of_lt (hlate last hlast))
          simp [lastStop?, hlast, hmax]

/-- The largest number of a list with one more at its end. -/
theorem max?_concat (xs : List Int) (a : Int) :
    (xs ++ [a]).max? = some (xs.max?.elim a (max · a)) := by
  cases xs with
  | nil => rfl
  | cons x xs =>
      simp only [List.cons_append, List.max?_cons', List.foldl_append, List.foldl_cons,
        List.foldl_nil, Option.elim_some]

/-- **A table ends at the latest end that was not refused.** -/
theorem lastStop?_run (calls : List Interval) :
    (run calls).lastStop? = ((heeded empty calls).map Interval.stop).max? := by
  induction calls using List.reverseRecOn with
  | nil => rfl
  | append_singleton calls c ih =>
      rw [run_concat, heeded_concat, ← run, List.map_append]
      by_cases hok : ((run calls).add c).isOk
      · rw [lastStop?_after hok, if_pos hok, List.map_singleton, max?_concat, ih]
      · rw [after_of_refused hok, if_neg hok, List.map_nil, List.append_nil, ih]

/-- **Every run leaves a table in order**: no entry ends before it starts, the ends rise, no two
neighbours could have been merged, and the last end is the latest one that was not refused. -/
theorem run_wellFormed (calls : List Interval) :
    (∀ e ∈ (run calls).entries, e.start ≤ e.stop) ∧
      ((run calls).entries.Pairwise fun d e => d.stop < e.stop) ∧
      ((run calls).entries.IsChain fun d e => e.start ≤ d.stop → d.params ≠ e.params) ∧
      (run calls).entries.getLast?.map GrainEntry.stop =
        ((heeded empty calls).map Interval.stop).max? ∧
      ((run calls).entries = [] ↔ heeded empty calls = []) := by
  have hlast := lastStop?_run calls
  refine ⟨fun e _ => e.ordered, (run_settled calls).rising, (run_settled calls).apart, hlast, ?_⟩
  constructor
  · intro hempty
    rw [lastStop?, hempty, eq_comm, List.getLast?_nil, Option.map_none, List.max?_eq_none_iff]
      at hlast
    exact List.map_eq_nil_iff.1 hlast
  · intro hnone
    rw [hnone, List.map_nil, List.max?_nil, lastStop?, Option.map_eq_none_iff] at hlast
    exact List.getLast?_eq_none_iff.1 hlast

/-! ### Intervals that stay -/

/-- Some entry of a table holds the whole of an interval, with its parameters. -/
def Holds (t : GrainTable) (c : Interval) : Prop := ∃ e ∈ t.entries, e.Covers c

/-- What a table holds, it holds after every addition. -/
theorem Holds.after {t : GrainTable} {c : Interval} (h : t.Holds c) (d : Interval) :
    (t.after d).Holds c := by
  obtain ⟨e, he, hparams, hstart, hstop⟩ := h
  unfold GrainTable.after
  generalize hanswer : t.add d = answer
  cases hanswer ▸ t.add_answer d with
  | refused => exact ⟨e, he, hparams, hstart, hstop⟩
  | passed => exact ⟨e, he, hparams, hstart, hstop⟩
  | @extended before last hentries hlate _ _ hordered =>
      rw [hentries, List.mem_append, List.mem_singleton] at he
      rcases he with he | rfl
      · exact ⟨e, List.mem_append_left _ he, hparams, hstart, hstop⟩
      · refine ⟨_, List.mem_append_right _ (List.mem_singleton_self _), hparams, hstart, ?_⟩
        change c.stop ≤ d.stop
        omega
  | pushed => exact ⟨e, List.mem_append_left _ he, hparams, hstart, hstop⟩

/-- What a table holds, it holds after every run of additions. -/
theorem Holds.foldl_after {t : GrainTable} {c : Interval} (h : t.Holds c) (later : List Interval) :
    (later.foldl GrainTable.after t).Holds c := by
  induction later generalizing t with
  | nil => exact h
  | cons d later ih => exact ih (h.after d)

/-- An interval that extends the last entry is held exactly if it does not begin before it. -/
theorem holds_extended_iff {before : List GrainEntry} {last : GrainEntry} {c : Interval}
    (h : Settled ⟨before ++ [last]⟩) (hlate : last.stop < c.stop) (hparams : last.params = c.params)
    (hordered : last.start ≤ c.stop) :
    Holds ⟨before ++ [{ last with stop := c.stop, ordered := hordered }]⟩ c ↔
      last.start ≤ c.start := by
  constructor
  · rintro ⟨e, he, -, hstart, hstop⟩
    rcases List.mem_append.1 he with he | he
    · -- an earlier entry ends before the last one did, and cannot hold the interval
      have hend : e.stop ≤ last.stop := h.stop_le (List.mem_append_left _ he) List.getLast?_concat
      omega
    · rwa [List.mem_singleton.1 he] at hstart
  · intro hstart
    refine ⟨_, List.mem_append_right _ (List.mem_singleton_self _), hparams, hstart, ?_⟩
    exact Int.le_refl c.stop

/-- **A taken interval is held exactly if it does not begin before a last entry with its
parameters.** -/
theorem Settled.holds_after_iff {t : GrainTable} (h : t.Settled) {c : Interval}
    (htakes : t.Takes c) :
    (t.after c).Holds c ↔
      ∀ last ∈ t.entries.getLast?, last.params = c.params → last.start ≤ c.start := by
  obtain ⟨grown, hgrown⟩ := htakes
  have hafter : t.after c = grown := by rw [GrainTable.after, hgrown]
  rw [hafter]
  generalize hanswer : Except.ok (some grown) = answer at hgrown
  cases hgrown ▸ t.add_answer c with
  | refused => cases hanswer
  | passed => cases hanswer
  | @extended before last hentries hlate htouch hparams hordered =>
      obtain rfl := Option.some.inj (Except.ok.inj hanswer)
      have hsettled : Settled ⟨before ++ [last]⟩ := hentries ▸ h
      rw [holds_extended_iff hsettled hlate hparams hordered]
      simp [hentries, hparams]
  | pushed hordered hlate hapart =>
      obtain rfl := Option.some.inj (Except.ok.inj hanswer)
      refine iff_of_true ⟨_, List.mem_append_right _ (List.mem_singleton_self _), rfl, ?_, ?_⟩ ?_
      · exact Int.le_refl c.start
      · exact Int.le_refl c.stop
      · intro last hlast hparams
        have hgap : ¬c.start ≤ last.stop := fun htouch => hapart last hlast htouch hparams
        have := last.ordered
        omega

/-- **A taken interval stays in one entry, whatever comes later, exactly if it does not begin before
a last entry with its parameters.** -/
theorem covered_forever_iff (earlier : List Interval) (c : Interval)
    (htakes : (run earlier).Takes c) :
    (∀ later, ∃ e ∈ (run (earlier ++ c :: later)).entries, e.Covers c) ↔
      ∀ last ∈ (run earlier).entries.getLast?, last.params = c.params → last.start ≤ c.start := by
  have hnow := (run_settled earlier).holds_after_iff htakes
  constructor
  · intro hforever
    refine hnow.1 ?_
    rw [← run_concat]
    exact hforever []
  · intro hstart later
    rw [run_append, List.foldl_cons]
    exact (hnow.2 hstart).foldl_after later

/-- An interval that begins inside the last entry and ends later stays. -/
theorem covered_forever_inside :
    (run [⟨0, 10, default⟩]).Takes ⟨5, 30, default⟩ ∧
      ∃ e ∈ (run [⟨0, 10, default⟩, ⟨5, 30, default⟩, ⟨40, 50, default⟩]).entries,
        e.Covers ⟨5, 30, default⟩ := by
  have htakes : (run [⟨0, 10, default⟩]).Takes ⟨5, 30, default⟩ := ⟨_, rfl⟩
  refine ⟨htakes, (covered_forever_iff [⟨0, 10, default⟩] _ htakes).2 ?_ [⟨40, 50, default⟩]⟩
  intro last hlast _
  obtain rfl := Option.some.inj hlast
  decide

/-- **The beginning of a taken interval can be lost**: one that begins before the last entry and
extends it is in no entry, although the table took it. -/
theorem beginning_lost :
    (run [⟨10, 20, default⟩]).Takes ⟨5, 30, default⟩ ∧
      (run [⟨10, 20, default⟩, ⟨5, 30, default⟩]).entries = [⟨10, 30, default, by decide⟩] ∧
      ¬∃ e ∈ (run [⟨10, 20, default⟩, ⟨5, 30, default⟩]).entries, e.Covers ⟨5, 30, default⟩ := by
  refine ⟨⟨_, rfl⟩, rfl, ?_⟩
  rintro ⟨e, he, -, hstart, -⟩
  obtain rfl := List.mem_singleton.1 he
  exact absurd hstart (by decide)

end GrainTable

end FilmGrain
