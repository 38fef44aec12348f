/-
**A span fed to a grain table in pieces.**

A span of time that begins where a table ends, or later, may be handed over as a whole or cut into
pieces, some of them empty.  The table comes out the same.  Two neighbouring pieces are as good as
the span they make up (`GrainTable.feed_join`), whether the first was passed over, lengthened the
last entry or became a new one; any number of pieces follows by induction.

Main definitions:

* `Interval.cutAt` — the pieces of a span between its cut points;
* `GrainTable.feed` — a table after intervals that were handed to it, unless one is refused;
* `GrainTable.EndsBy` — a table does not end after an instant.

Main results:

* `GrainTable.add_eq_iff` — the conditions of an answer determine it;
* `GrainTable.feed_join` — **two neighbouring pieces are as good as one**;
* `GrainTable.feed_cutAt` — **pieces are as good as their span**, and none is refused.
-/

import FilmGrain.Proofs.Table.Runs
import FilmGrain.Table.Text
import Mathlib.Data.Int.Order.Basic

set_option autoImplicit false

namespace FilmGrain

/-- The pieces of a span between neighbouring cut points, all with the same parameters. -/
def Interval.cutAt (params : GrainParams) : List Int → List Interval
  | a :: b :: cuts => ⟨a, b, params⟩ :: cutAt params (b :: cuts)
  | [_] | [] => []

namespace GrainTable

variable {t u : GrainTable} {params : GrainParams} {a b c : Int}

/-! ### Answers -/

/-- An interval that ends last and is not to be merged is pushed, if it is pushed at all. -/
theorem add_of_apart {i : Interval} (hlate : ∀ last ∈ t.entries.getLast?, last.stop < i.stop)
    (hapart : ∀ last ∈ t.entries.getLast?, i.start ≤ last.stop → last.params ≠ i.params) :
    t.add i = (t.push i.start i.stop i.params).map some := by
  unfold add append
  split
  · rfl
  · rename_i last hlast
    have := hlate last hlast
    have hgap : ¬ (i.start ≤ last.stop ∧ last.params = i.params) := fun h =>
      hapart last hlast h.1 h.2
    rw [dif_neg (by omega), if_neg hgap]

/-- **The conditions of an answer determine it.** -/
theorem add_eq_iff {i : Interval} {answer : Except TableError (Option GrainTable)} :
    t.add i = answer ↔ Answer t i answer := by
  refine ⟨fun h => h ▸ t.add_answer i, fun h => ?_⟩
  cases h with
  | refused hinverted hlate =>
      have hapart : ∀ last ∈ t.entries.getLast?, i.start ≤ last.stop → last.params ≠ i.params := by
        intro last hlast htouch
        have := hlate last hlast
        omega
      rw [add_of_apart hlate hapart, push, dif_neg (by omega)]
      rfl
  | passed hlast hearly => exact append_of_le hlast i.start hearly i.params
  | @extended before last hentries hlate htouch hparams hordered =>
      unfold add append
      simp only [hentries, List.getLast?_concat, List.dropLast_concat]
      rw [dif_neg (by omega), if_pos ⟨htouch, hparams⟩]
  | pushed hordered hlate hapart =>
      rw [add_of_apart hlate hapart, push, dif_pos hordered]
      rfl

/-! ### Feeding -/

/-- A table after intervals that were handed to it, unless one of them is refused. -/
def feed (t : GrainTable) (calls : List Interval) : Except TableError GrainTable :=
  calls.foldlM (fun t i => return (← t.add i).getD t) t

theorem feed_cons (t : GrainTable) (i : Interval) (calls : List Interval) :
    t.feed (i :: calls) = (t.add i).map (·.getD t) >>= fun u => u.feed calls := by
  rw [feed, List.foldlM_cons]
  cases t.add i <;> rfl

theorem feed_singleton (t : GrainTable) (i : Interval) :
    t.feed [i] = (t.add i).map (·.getD t) := by
  rw [feed_cons]
  cases t.add i <;> rfl

/-- The table after one more interval is fed what is left. -/
theorem feed_cons_of_ok {i : Interval} (h : t.feed [i] = .ok u) (calls : List Interval) :
    t.feed (i :: calls) = u.feed calls := by
  rw [feed_cons, ← feed_singleton, h]
  rfl

theorem feed_of_answer {i : Interval} {answer : Except TableError (Option GrainTable)}
    (h : Answer t i answer) : t.feed [i] = answer.map (·.getD t) := by
  rw [feed_singleton, add_eq_iff.2 h]

/-! ### Neighbouring pieces -/

/-- No entry ends after an instant, as far as the last one goes. -/
def EndsBy (t : GrainTable) (a : Int) : Prop := ∀ last ∈ t.entries.getLast?, last.stop ≤ a

/-- A piece that begins where a table ends, or later, is not refused, and the table ends by its end
then. -/
theorem exists_feed (params : GrainParams) (h : t.EndsBy a) (hab : a ≤ b) :
    ∃ u, t.feed [⟨a, b, params⟩] = .ok u ∧ u.EndsBy b := by
  generalize hanswer : t.add ⟨a, b, params⟩ = answer
  have hfeed := feed_of_answer (add_eq_iff.1 hanswer)
  cases add_eq_iff.1 hanswer with
  | refused hinverted => exact absurd hinverted (not_lt.2 hab)
  | passed hlast hearly =>
      refine ⟨t, hfeed, fun last hlast => ?_⟩
      have := h last hlast
      omega
  | extended | pushed =>
      refine ⟨_, hfeed, fun last hlast => ?_⟩
      obtain rfl : _ = last := by simpa using hlast
      exact le_refl b

/-- **Two neighbouring pieces are as good as the span they make up.** -/
theorem feed_join (h : t.EndsBy a) (hab : a ≤ b) (hbc : b ≤ c) :
    t.feed [⟨a, b, params⟩, ⟨b, c, params⟩] = t.feed [⟨a, c, params⟩] := by
  generalize hanswer : t.add ⟨a, b, params⟩ = answer
  have hfeed := feed_of_answer (add_eq_iff.1 hanswer)
  cases add_eq_iff.1 hanswer with
  | refused hinverted => exact absurd hinverted (not_lt.2 hab)
  | @passed last hlast hearly =>
      -- the first piece is empty
      have hlast : last.stop ≤ a := h last hlast
      have hearly : b ≤ last.stop := hearly
      obtain rfl : a = b := by omega
      exact feed_cons_of_ok hfeed _
  | @extended before last hentries hlate htouch hparams hordered =>
      rw [feed_cons_of_ok hfeed]
      rcases hbc.eq_or_lt with rfl | hlater
      · refine (feed_of_answer (.passed List.getLast?_concat (le_refl b))).trans ?_
        exact hfeed.symm
      · have hlast : last.stop < b := hlate
        have htouch : a ≤ last.stop := htouch
        have hparams : last.params = params := hparams
        have hlonger : last.start ≤ c := by have := last.ordered; omega
        have hwhole : t.feed [⟨a, c, params⟩] = _ :=
          feed_of_answer (.extended hentries (hlast.trans hlater) htouch hparams hlonger)
        rw [hwhole]
        exact feed_of_answer (.extended rfl hlater (le_refl b) hparams hlonger)
  | pushed hordered hlate hapart =>
      rw [feed_cons_of_ok hfeed]
      rcases hbc.eq_or_lt with rfl | hlater
      · refine (feed_of_answer (.passed List.getLast?_concat (le_refl b))).trans ?_
        exact hfeed.symm
      · have hlast : ∀ last ∈ t.entries.getLast?, last.stop < c := fun last hlast =>
          (hlate last hlast).trans hlater
        have hapart : ∀ last ∈ t.entries.getLast?, a ≤ last.stop → last.params ≠ params := hapart
        have hwhole : t.feed [⟨a, c, params⟩] = _ :=
          feed_of_answer (.pushed (hab.trans hbc) hlast hapart)
        rw [hwhole]
        exact feed_of_answer (.extended rfl hlater (le_refl b) rfl (hab.trans hbc))

/-! ### Any number of pieces -/

/-- Pieces are as good as their span. -/
theorem feed_cutAt_eq (h : t.EndsBy a) {cuts : List Int} (hcuts : cuts ≠ [])
    (hsorted : (a :: cuts).Pairwise (· ≤ ·)) :
    t.feed (Interval.cutAt params (a :: cuts)) = t.feed [⟨a, cuts.getLast hcuts, params⟩] := by
  induction cuts generalizing t a with
  | nil => exact absurd rfl hcuts
  | cons b cuts ih =>
      obtain ⟨hfirst, hrest⟩ := List.pairwise_cons.1 hsorted
      have hab : a ≤ b := hfirst b List.mem_cons_self
      cases cuts with
      | nil => rfl
      | cons c cuts =>
          obtain ⟨u, hu, hends⟩ := exists_feed params h hab
          have hlast : b ≤ (c :: cuts).getLast (List.cons_ne_nil c cuts) :=
            (List.pairwise_cons.1 hrest).1 _ (List.getLast_mem _)
          calc t.feed (Interval.cutAt params (a :: b :: c :: cuts))
              = u.feed (Interval.cutAt params (b :: c :: cuts)) := feed_cons_of_ok hu _
            _ = u.feed [⟨b, (c :: cuts).getLast (List.cons_ne_nil c cuts), params⟩] :=
                ih hends (List.cons_ne_nil c cuts) hrest
            _ = t.feed [⟨a, b, params⟩,
                  ⟨b, (c :: cuts).getLast (List.cons_ne_nil c cuts), params⟩] :=
                (feed_cons_of_ok hu _).symm
            _ = t.feed [⟨a, (b :: c :: cuts).getLast hcuts, params⟩] := feed_join h hab hlast

/-- **A span in pieces is as good as the whole span.**  Where it begins no earlier than the table
ends, no piece is refused, and the entries and the text come out the same, whether the span has the
parameters of the last entry or others. -/
theorem feed_cutAt (t : GrainTable) (params : GrainParams) (start : Int) {cuts : List Int}
    (hcuts : cuts ≠ []) (hsorted : (start :: cuts).Pairwise (· ≤ ·))
    (hlate : ∀ last ∈ t.entries.getLast?, last.stop ≤ start) :
    ∃ pieced whole,
      t.feed (Interval.cutAt params (start :: cuts)) = .ok pieced ∧
      (t.append start (cuts.getLast hcuts) params).map (·.getD t) = .ok whole ∧
      pieced.entries = whole.entries ∧ pieced.text = whole.text := by
  have hspan : start ≤ cuts.getLast hcuts :=
    (List.pairwise_cons.1 hsorted).1 _ (List.getLast_mem hcuts)
  obtain ⟨u, hu, -⟩ := exists_feed params hlate hspan
  exact ⟨u, u, (feed_cutAt_eq hlate hcuts hsorted).trans hu, (feed_singleton _ _).symm.trans hu,
    rfl, rfl⟩

/-- A span with other parameters that begins where the table ends, with an empty first piece. -/
theorem feed_cutAt_others :
    [10, 15, 15, 20] ≠ ([] : List Int) ∧ [10, 10, 15, 15, 20].Pairwise (· ≤ · : Int → Int → Prop) ∧
    (∀ last ∈ (run [⟨0, 10, default⟩]).entries.getLast?, last.stop ≤ 10) ∧
    ∃ pieced, (run [⟨0, 10, default⟩]).feed
        (Interval.cutAt ⟨{ randomSeed := 1 }, rfl, rfl, rfl⟩ [10, 10, 15, 15, 20]) = .ok pieced ∧
      pieced.entries = [⟨0, 10, default, by decide⟩,
        ⟨10, 20, ⟨{ randomSeed := 1 }, rfl, rfl, rfl⟩, by decide⟩] := by
  have hcuts : [10, 15, 15, 20] ≠ ([] : List Int) := List.cons_ne_nil _ _
  have hsorted : [10, 10, 15, 15, 20].Pairwise (· ≤ · : Int → Int → Prop) := by decide
  have hlate : ∀ last ∈ (run [⟨0, 10, default⟩]).entries.getLast?, last.stop ≤ 10 := by decide
  obtain ⟨pieced, whole, hpieced, hwhole, hentries, -⟩ :=
    feed_cutAt (run [⟨0, 10, default⟩]) ⟨{ randomSeed := 1 }, rfl, rfl, rfl⟩ 10 hcuts hsorted hlate
  cases hwhole
  exact ⟨hcuts, hsorted, hlate, pieced, hpieced, hentries⟩

end GrainTable

end FilmGrain
