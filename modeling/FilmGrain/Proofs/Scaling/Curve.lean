/-
**What the checks of a scaling curve accept.**

A check answers with a point or a curve exactly if what it was given are the coordinates of that
point or the points of that curve.  So an answer can be read off the given values, and given values
that are in order are known to be answered.

Main results:

* `ScalingPoint.ofSettings_eq_ok_iff` — **the points that are accepted**;
* `ScalingCurve.ofPoints_eq_ok_iff` — **the curves that are accepted**.
-/

import FilmGrain.Proofs.Check
import FilmGrain.Scaling.Curve

set_option autoImplicit false

namespace FilmGrain

/-! ### Points -/

namespace ScalingPoint

theorem checkCoordinate_eq_ok_iff {coordinate : Coordinate} {given : Setting} {v : Fin 256} :
    checkCoordinate coordinate given = .ok v ↔ given = .integer v.val := by
  cases given with
  | integer n =>
      rw [checkCoordinate, checkRange]
      split
      · simp only [Except.ok.injEq, Setting.integer.injEq, Fin.ext_iff]
        omega
      · have := v.isLt
        simp only [reduceCtorEq, Setting.integer.injEq, false_iff]
        omega
  | _ => simp [checkCoordinate]

/-- **The point of two values is accepted exactly if they are its coordinates.** -/
theorem ofSettings_eq_ok_iff {x noise : Setting} {p : ScalingPoint} :
    ofSettings x noise = .ok p ↔ x = .integer p.x.val ∧ noise = .integer p.noise.val := by
  rw [ofSettings, bind_eq_ok_iff]
  constructor
  · rintro ⟨a, ha, h⟩
    obtain ⟨b, hb, hp⟩ := bind_eq_ok_iff.1 h
    obtain rfl := Except.ok.inj hp
    exact ⟨checkCoordinate_eq_ok_iff.1 ha, checkCoordinate_eq_ok_iff.1 hb⟩
  · rintro ⟨hx, hnoise⟩
    exact ⟨p.x, checkCoordinate_eq_ok_iff.2 hx,
      bind_eq_ok_iff.2 ⟨p.noise, checkCoordinate_eq_ok_iff.2 hnoise, rfl⟩⟩

end ScalingPoint

/-! ### Curves -/

namespace ScalingCurve

/-- **The curve of a list of points is accepted exactly if they are its points.** -/
theorem ofPoints_eq_ok_iff {points : List ScalingPoint} {c : ScalingCurve} :
    ofPoints points = .ok c ↔ c.points = points := by
  constructor
  · intro h
    unfold ofPoints at h
    split at h
    · split at h
      · exact (Except.ok.inj h) ▸ rfl
      · cases h
    · cases h
  · rintro rfl
    have hstall := (firstStall?_eq_none_iff c.points).2 c.increasing
    unfold ofPoints
    rw [dif_pos ⟨c.nonempty, c.length_le⟩]
    split
    · rfl
    · rename_i hsome
      rw [hstall] at hsome
      cases hsome

end ScalingCurve

end FilmGrain
