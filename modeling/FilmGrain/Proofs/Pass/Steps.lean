/-
**The steps of a pass.**

A pass is run here from a report and a state of any kind of host.  Each of its steps has one lemma,
and two more chain them: nothing is done after a step that fails.  What lines that are printed can
come to, and what the line on a file can come to, are said once, as relations between a state and
the one after it.

Main definitions:

* `Pass.exec` — a pass from a report and a state;
* `FilmGrain.Printed` — what lines that are printed one after the other can come to;
* `FilmGrain.Named` — what the line on a file can come to.

Main results:

* `Pass.exec_bind_of_ok`, `Pass.exec_bind_of_error` — a step after one that succeeds, or fails;
* `Pass.exec_of_printed`, `Request.exec_of_named` — what is run where one of these ends is due;
* `FilmGrain.exists_printed`, `FilmGrain.exists_named` — there is always one.
-/

import FilmGrain.Request

set_option autoImplicit false

namespace FilmGrain

/-! ### Steps -/

namespace Pass

variable {σ α β ε : Type} {said : Report} {s : σ}

/-- A pass from a report and a state. -/
def exec (p : Pass (StateM σ) α) (said : Report) (s : σ) : (Except Failure α × Report) × σ :=
  (p.run.run said).run s

theorem exec_pure (a : α) : exec (pure a : Pass (StateM σ) α) said s = ((.ok a, said), s) := rfl

theorem exec_bind (p : Pass (StateM σ) α) (f : α → Pass (StateM σ) β) :
    exec (p >>= f) said s =
      match exec p said s with
      | ((.ok a, after), t) => exec (f a) after t
      | ((.error failure, after), t) => ((.error failure, after), t) := by
  simp only [exec, ExceptT.run_bind, StateT.run_bind]
  rcases (p.run.run said).run s with ⟨⟨result, after⟩, t⟩
  cases result <;> rfl

theorem exec_bind_of_ok {p : Pass (StateM σ) α} {a : α} {after : Report} {t : σ}
    (h : exec p said s = ((.ok a, after), t)) (f : α → Pass (StateM σ) β) :
    exec (p >>= f) said s = exec (f a) after t := by
  rw [exec_bind, h]

theorem exec_bind_of_error {p : Pass (StateM σ) α} {failure : Failure} {after : Report} {t : σ}
    (h : exec p said s = ((.error failure, after), t)) (f : α → Pass (StateM σ) β) :
    exec (p >>= f) said s = ((.error failure, after), t) := by
  rw [exec_bind, h]

theorem exec_notify (notice : String) :
    exec (notify notice : Pass (StateM σ) Unit) said s =
      ((.ok (), { said with notices := said.notices ++ [notice] }), s) := rfl

theorem exec_check (cause : ε → Failure) (result : Except ε α) :
    exec (Pass.check cause result : Pass (StateM σ) α) said s =
      ((result.mapError cause, said), s) := rfl

theorem exec_on_of_ok {operation : StateM σ (Except ε α)} {a : α} {t : σ}
    (h : operation.run s = (.ok a, t)) (cause : ε → Failure) :
    exec (Pass.on cause operation) said s = ((.ok a, said), t) := by
  change (((operation.run s).1.mapError cause, said), (operation.run s).2) = _
  rw [h]
  rfl

theorem exec_on_of_error {operation : StateM σ (Except ε α)} {error : ε} {t : σ}
    (h : operation.run s = (.error error, t)) (cause : ε → Failure) :
    exec (Pass.on cause operation) said s = ((.error (cause error), said), t) := by
  change (((operation.run s).1.mapError cause, said), (operation.run s).2) = _
  rw [h]
  rfl

theorem exec_lift_of_eq {action : StateM σ α} {a : α} {t : σ} (h : action.run s = (a, t)) :
    exec (liftM action : Pass (StateM σ) α) said s = ((.ok a, said), t) := by
  change ((Except.ok (action.run s).1, said), (action.run s).2) = _
  rw [h]

/-- Notices are given in order. -/
theorem exec_forM_notify (notices : List String) :
    exec (notices.forM notify : Pass (StateM σ) PUnit) said s =
      ((.ok (), { said with notices := said.notices ++ notices }), s) := by
  induction notices generalizing said with
  | nil => simp [List.forM, exec_pure]
  | cons notice rest ih =>
      rw [List.forM, exec_bind_of_ok (exec_notify notice), ih, List.append_assoc,
        List.singleton_append]

end Pass

/-! ### Lines -/

section Lines

variable {σ : Type} {host : Host (StateM σ)} {lines shown : List String} {said : Report}
  {s after : σ} {result : Except Failure Unit}

/-- What lines that are printed one after the other can come to: a result, the lines that were
printed, and the state after it. -/
inductive Printed (host : Host (StateM σ)) :
    List String → σ → Except Failure Unit → List String → σ → Prop
  /-- There are no more lines. -/
  | nil {s : σ} : Printed host [] s (.ok ()) [] s
  /-- A line is refused, and the others are not tried. -/
  | refused {line : String} {rest : List String} {fault : Fault} {s after : σ}
      (hprint : (host.print line).run s = (.error fault, after)) :
      Printed host (line :: rest) s (.error (.unprinted fault)) [] after
  /-- A line is printed, and the others are next. -/
  | cons {line : String} {rest shown : List String} {result : Except Failure Unit}
      {s next after : σ} (hprint : (host.print line).run s = (.ok (), next))
      (hrest : Printed host rest next result shown after) :
      Printed host (line :: rest) s result (line :: shown) after

/-- What the line on a file can come to: a result, the lines that were printed, and the state after
it. -/
inductive Named (host : Host (StateM σ)) (beginning : String) (path : Path) (s : σ) :
    Except Failure Unit → List String → σ → Prop
  /-- The location of the file is not found. -/
  | unresolved {fault : Fault} {after : σ}
      (hresolve : (host.resolve path).run s = (.error fault, after)) :
      Named host beginning path s (.error (.unresolved fault)) [] after
  /-- The line with the location is printed or refused. -/
  | resolved {location : String} {shown : List String} {result : Except Failure Unit}
      {located after : σ} (hresolve : (host.resolve path).run s = (.ok location, located))
      (hprinted : Printed host [beginning ++ location] located result shown after) :
      Named host beginning path s result shown after

theorem exists_printed (host : Host (StateM σ)) (lines : List String) (s : σ) :
    ∃ result shown after, Printed host lines s result shown after := by
  induction lines generalizing s with
  | nil => exact ⟨_, _, _, .nil⟩
  | cons line rest ih =>
      rcases hprint : (host.print line).run s with ⟨fault | ⟨⟩, next⟩
      · exact ⟨_, _, _, .refused hprint⟩
      · obtain ⟨result, shown, after, hrest⟩ := ih next
        exact ⟨_, _, _, .cons hprint hrest⟩

theorem exists_named (host : Host (StateM σ)) (beginning : String) (path : Path) (s : σ) :
    ∃ result shown after, Named host beginning path s result shown after := by
  rcases hresolve : (host.resolve path).run s with ⟨fault | location, located⟩
  · exact ⟨_, _, _, .unresolved hresolve⟩
  · obtain ⟨result, shown, after, hprinted⟩ := exists_printed host [beginning ++ location] located
    exact ⟨_, _, _, .resolved hresolve hprinted⟩

/-- What is printed depends on standard output alone. -/
theorem Printed.congr {other : Host (StateM σ)} (h : Printed host lines s result shown after)
    (hprint : ∀ line, host.print line = other.print line) :
    Printed other lines s result shown after := by
  induction h with
  | nil => exact .nil
  | refused hrefused => exact .refused (by rwa [← hprint])
  | cons hprinted _ ih => exact .cons (by rwa [← hprint]) ih

/-- What was printed are lines that were to be printed. -/
theorem Printed.mem (h : Printed host lines s result shown after) {line : String}
    (hline : line ∈ shown) : line ∈ lines := by
  induction h with
  | nil | refused => cases hline
  | cons _ _ ih =>
      rcases List.mem_cons.1 hline with rfl | hrest
      · exact List.mem_cons_self
      · exact List.mem_cons_of_mem _ (ih hrest)

/-- Where nothing is refused, all of them were. -/
theorem Printed.eq_of_ok (h : Printed host lines s result shown after) (hresult : result = .ok ()) :
    shown = lines := by
  induction h with
  | nil => rfl
  | refused => cases hresult
  | cons _ _ ih => rw [ih hresult]

/-- Only standard output keeps lines from being printed. -/
theorem Printed.exists_fault {failure : Failure} (h : Printed host lines s result shown after)
    (hresult : result = .error failure) : ∃ fault, failure = .unprinted fault := by
  induction h with
  | nil => cases hresult
  | refused =>
      cases hresult
      exact ⟨_, rfl⟩
  | cons _ _ ih => exact ih hresult

/-- Nothing else keeps the line on a file from being printed, but for its location. -/
theorem Named.exists_fault {beginning : String} {path : Path} {failure : Failure}
    (h : Named host beginning path s result shown after) (hresult : result = .error failure) :
    ∃ fault, failure = .unresolved fault ∨ failure = .unprinted fault := by
  cases h with
  | unresolved =>
      cases hresult
      exact ⟨_, .inl rfl⟩
  | resolved _ hprinted =>
      obtain ⟨fault, hfault⟩ := hprinted.exists_fault hresult
      exact ⟨fault, .inr hfault⟩

/-- What was printed on a file is the one line on it. -/
theorem Named.exists_of_mem {beginning : String} {path : Path}
    (h : Named host beginning path s result shown after) {line : String} (hline : line ∈ shown) :
    ∃ location, line = beginning ++ location := by
  cases h with
  | unresolved => cases hline
  | resolved _ hprinted => exact ⟨_, List.mem_singleton.1 (hprinted.mem hline)⟩

theorem Named.exists_of_ok {beginning : String} {path : Path}
    (h : Named host beginning path s result shown after) (hresult : result = .ok ()) :
    ∃ location, shown = [beginning ++ location] := by
  cases h with
  | unresolved => cases hresult
  | resolved _ hprinted => exact ⟨_, hprinted.eq_of_ok hresult⟩

theorem exec_report_of_ok {line : String} (h : (host.print line).run s = (.ok (), after)) :
    Pass.exec (report host line) said s =
      ((.ok (), { said with lines := said.lines ++ [line] }), after) :=
  Pass.exec_bind_of_ok (Pass.exec_on_of_ok h _) _

theorem exec_report_of_error {line : String} {fault : Fault}
    (h : (host.print line).run s = (.error fault, after)) :
    Pass.exec (report host line) said s = ((.error (.unprinted fault), said), after) :=
  Pass.exec_bind_of_error (Pass.exec_on_of_error h _) _

/-- Lines are printed in order, and nothing is done after one that is refused. -/
theorem Pass.exec_of_printed (h : Printed host lines s result shown after) :
    Pass.exec (lines.forM (report host)) said s =
      ((result, { said with lines := said.lines ++ shown }), after) := by
  induction h generalizing said with
  | nil => simp [List.forM, Pass.exec_pure]
  | refused hprint =>
      rw [List.forM, Pass.exec_bind_of_error (exec_report_of_error hprint), List.append_nil]
  | cons hprint _ ih =>
      rw [List.forM, Pass.exec_bind_of_ok (exec_report_of_ok hprint), ih, List.append_assoc,
        List.singleton_append]

theorem Request.exec_of_named {beginning : String} {path : Path}
    (h : Named host beginning path s result shown after) :
    Pass.exec (reportSaved host beginning path) said s =
      ((result, { said with lines := said.lines ++ shown }), after) := by
  cases h with
  | unresolved hresolve =>
      rw [reportSaved, Pass.exec_bind_of_error (Pass.exec_on_of_error hresolve _), List.append_nil]
  | resolved hresolve hprinted =>
      rw [reportSaved, Pass.exec_bind_of_ok (Pass.exec_on_of_ok hresolve _)]
      cases hprinted with
      | refused hprint => rw [exec_report_of_error hprint, List.append_nil]
      | cons hprint hrest =>
          cases hrest
          rw [exec_report_of_ok hprint]

end Lines

end FilmGrain
