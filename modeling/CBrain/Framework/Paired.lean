import Mathlib.Data.List.Forall2

/-! # Lists paired element by element

    What `List.Forall₂` says of single elements, and of the images of two lists. -/

namespace Paired

variable {α β γ : Type} {R : α → β → Prop} {xs : List α} {ys : List β}

theorem exists_of_mem_right (h : List.Forall₂ R xs ys) {y : β} (hy : y ∈ ys) : ∃ x ∈ xs, R x y := by
  induction h with
  | nil => cases hy
  | cons hxy _ ih =>
    rcases List.mem_cons.mp hy with rfl | hy
    · exact ⟨_, List.mem_cons_self, hxy⟩
    · obtain ⟨x, hx, hR⟩ := ih hy
      exact ⟨x, List.mem_cons_of_mem _ hx, hR⟩

theorem exists_of_mem_left (h : List.Forall₂ R xs ys) {x : α} (hx : x ∈ xs) : ∃ y ∈ ys, R x y :=
  exists_of_mem_right h.flip hx

/-- Elements related alike have one image. -/
theorem map_eq_of_forall₂ {g : α → γ} {g' : β → γ} (h : List.Forall₂ R xs ys)
    (heq : ∀ x y, R x y → g' y = g x) : ys.map g' = xs.map g := by
  induction h with
  | nil => rfl
  | cons hxy _ ih => rw [List.map_cons, List.map_cons, ih, heq _ _ hxy]

end Paired
