/-
**Checks that answer or refuse.**

A check answers or refuses.  One after the other, checks answer if all of them do, and refuse for
the first that does; so does a check of each element of a list.

Main results:

* `FilmGrain.bind_eq_ok_iff`, `FilmGrain.bind_eq_error_iff` — a check after another;
* `FilmGrain.mapError_eq_ok_iff`, `FilmGrain.mapError_eq_error_iff` — a refusal under another name;
* `FilmGrain.mapM_eq_ok_iff`, `FilmGrain.mapM_eq_error_iff` — **a check of each element of a list**.
-/

import Mathlib.Data.List.Forall2

set_option autoImplicit false

namespace FilmGrain

variable {ε α β : Type} {f : α → Except ε β}

theorem bind_eq_ok_iff {x : Except ε α} {y : β} :
    (x >>= f) = .ok y ↔ ∃ a, x = .ok a ∧ f a = .ok y := by
  cases x with
  | error e => simp [bind, Except.bind]
  | ok a => simp [bind, Except.bind]

theorem bind_eq_error_iff {x : Except ε α} {e : ε} :
    (x >>= f) = .error e ↔ x = .error e ∨ ∃ a, x = .ok a ∧ f a = .error e := by
  cases x with
  | error fault => simp [bind, Except.bind]
  | ok a => simp [bind, Except.bind]

theorem mapError_eq_error_iff {δ : Type} {g : ε → δ} {x : Except ε α} {d : δ} :
    x.mapError g = .error d ↔ ∃ e, x = .error e ∧ g e = d := by
  cases x <;> simp [Except.mapError]

theorem mapError_eq_ok_iff {δ : Type} {g : ε → δ} {x : Except ε α} {a : α} :
    x.mapError g = .ok a ↔ x = .ok a := by
  cases x <;> simp [Except.mapError]

/-! ### Lists -/

/-- **A list is accepted exactly if each element is.** -/
theorem mapM_eq_ok_iff {xs : List α} {ys : List β} :
    xs.mapM f = .ok ys ↔ List.Forall₂ (fun x y => f x = .ok y) xs ys := by
  induction xs generalizing ys with
  | nil =>
      rw [List.mapM_nil, List.forall₂_nil_left_iff, eq_comm]
      exact ⟨fun h => (Except.ok.inj h.symm).symm, fun h => h ▸ rfl⟩
  | cons x xs ih =>
      rw [List.mapM_cons, bind_eq_ok_iff, List.forall₂_cons_left_iff]
      constructor
      · rintro ⟨y, hy, h⟩
        obtain ⟨rest, hrest, hys⟩ := bind_eq_ok_iff.1 h
        exact ⟨y, rest, hy, ih.1 hrest, (Except.ok.inj hys).symm⟩
      · rintro ⟨y, rest, hy, hrest, rfl⟩
        exact ⟨y, hy, bind_eq_ok_iff.2 ⟨rest, ih.2 hrest, rfl⟩⟩

/-- **A list is refused for the fault of the first element that has one.** -/
theorem mapM_eq_error_iff {xs : List α} {e : ε} :
    xs.mapM f = .error e ↔
      ∃ before x after ys, xs = before ++ x :: after ∧ before.mapM f = .ok ys ∧ f x = .error e := by
  induction xs with
  | nil =>
      refine iff_of_false nofun ?_
      rintro ⟨before, x, after, ys, h, -⟩
      simp at h
  | cons x xs ih =>
      rw [List.mapM_cons, bind_eq_error_iff]
      constructor
      · rintro (hx | ⟨y, hy, h⟩)
        · exact ⟨[], x, xs, [], rfl, rfl, hx⟩
        · rcases bind_eq_error_iff.1 h with hrest | ⟨rest, -, h⟩
          · obtain ⟨before, z, after, ys, rfl, hbefore, hz⟩ := ih.1 hrest
            have hcons : (x :: before).mapM f = .ok (y :: ys) :=
              mapM_eq_ok_iff.2 (.cons hy (mapM_eq_ok_iff.1 hbefore))
            exact ⟨x :: before, z, after, y :: ys, rfl, hcons, hz⟩
          · cases h
      · rintro ⟨before, z, after, ys, hxs, hbefore, hz⟩
        cases before with
        | nil =>
            obtain ⟨rfl, -⟩ := List.cons.inj hxs
            exact Or.inl hz
        | cons w before =>
            obtain ⟨rfl, rfl⟩ := List.cons.inj hxs
            obtain ⟨y, rest, hy, hrest, rfl⟩ :=
              List.forall₂_cons_left_iff.1 (mapM_eq_ok_iff.1 hbefore)
            have hfault := ih.2 ⟨before, z, after, rest, rfl, mapM_eq_ok_iff.2 hrest, hz⟩
            exact Or.inr ⟨y, hy, bind_eq_error_iff.2 (Or.inl hfault)⟩

/-- Such a fault is one of an element. -/
theorem exists_of_mapM_error {xs : List α} {e : ε} (h : xs.mapM f = .error e) :
    ∃ x ∈ xs, f x = .error e := by
  obtain ⟨before, x, after, -, rfl, -, hx⟩ := mapM_eq_error_iff.1 h
  exact ⟨x, by simp, hx⟩

end FilmGrain
