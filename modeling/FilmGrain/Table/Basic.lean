/-
**Grain tables.**

A grain table assigns parameters to intervals of time.  It grows at its end: an interval that ends
no later than the last entry is passed over, one that touches or overlaps the last entry with the
same parameters extends it, and any other becomes a new entry.

Main definitions:

* `FilmGrain.GrainEntry`, `FilmGrain.GrainTable` — entries and tables;
* `GrainTable.append` — the growth by one interval, with `FilmGrain.TableError`;
* `GrainTable.wholeStream` — the table with one entry for the whole of a stream.

Main results:

* `GrainTable.append_nil` — **an empty table takes every interval that is one**;
* `GrainTable.append_of_le` — what ends no later than the last entry is passed over.
-/

import FilmGrain.Table.Params

set_option autoImplicit false

namespace FilmGrain

/-- An interval of time and its parameters. -/
structure GrainEntry where
  /-- The first instant. -/
  start : Int
  /-- The last instant. -/
  stop : Int
  /-- The parameters in force. -/
  params : GrainParams
  /-- The interval does not end before it starts. -/
  ordered : start ≤ stop
deriving DecidableEq

/-- The entries of a table, the first one first. -/
structure GrainTable where
  /-- The entries. -/
  entries : List GrainEntry := []
deriving DecidableEq

/-- Why a table does not take an interval. -/
inductive TableError where
  /-- The interval ends before it starts. -/
  | endsBeforeStart (start stop : Int)
deriving DecidableEq

/-- The message of a fault. -/
def TableError.message (limit : DigitLimit) : TableError → String
  | endsBeforeStart start stop =>
      limit.phrase [start, stop]
        ("entry ends before it starts: " ++ toString start ++ ".." ++ toString stop)

namespace GrainTable

/-- The table without entries. -/
def empty : GrainTable := ⟨[]⟩

/-- A table with one more entry. -/
def push (t : GrainTable) (start stop : Int) (params : GrainParams) :
    Except TableError GrainTable :=
  if h : start ≤ stop then .ok ⟨t.entries ++ [⟨start, stop, params, h⟩]⟩
  else .error (.endsBeforeStart start stop)

/-- **A table after an interval was added**; nothing if it stays as it is. -/
def append (t : GrainTable) (start stop : Int) (params : GrainParams) :
    Except TableError (Option GrainTable) :=
  match t.entries.getLast? with
  | none => (t.push start stop params).map some
  | some last =>
      if h : stop ≤ last.stop then .ok none
      else if start ≤ last.stop ∧ last.params = params then
        let extended : GrainEntry :=
          { last with stop := stop, ordered := by have := last.ordered; omega }
        .ok (some ⟨t.entries.dropLast ++ [extended]⟩)
      else (t.push start stop params).map some

/-- **An empty table takes every interval that is one.** -/
theorem append_nil {start stop : Int} (h : start ≤ stop) (params : GrainParams) :
    append empty start stop params = .ok (some ⟨[⟨start, stop, params, h⟩]⟩) := by
  simp [append, empty, push, h, Except.map]

/-- What ends no later than the last entry is passed over. -/
theorem append_of_le {t : GrainTable} {last : GrainEntry} (hlast : t.entries.getLast? = some last)
    (start : Int) {stop : Int} (h : stop ≤ last.stop) (params : GrainParams) :
    t.append start stop params = .ok none := by
  simp [append, hlast, h]

/-! ### The whole of a stream -/

/-- The first instant of a stream. -/
def streamStart : Int := 0

/-- The last instant of a stream: the largest signed number of 64 bits. -/
def streamStop : Int := 9223372036854775807

/-- **The table with one entry for the whole of a stream**, with grain in luma only. -/
def wholeStream (curve : ScalingCurve) : GrainTable :=
  ⟨[⟨streamStart, streamStop, .ofCurve curve, by decide⟩]⟩

end GrainTable

end FilmGrain
