import CBrain.Framework.Ranking

/-! # Ranks in a sorted list

    What the element at an index of a sorted list says about the list it was
    sorted from, in whatever order that was.

    * `Pairwise.getElem_iff_lt_countP` : a property that smaller elements share
      holds of a first part of the list, as long as the property is frequent.
    * `sortBy_le_iff`, `sortBy_lt_iff` : comparisons with the element at an
      index are comparisons of the index with a number of elements.
-/

namespace List

variable {A : Type} [LinearOrder A]

/-- **Rank law**: of a property that smaller elements share, an element of a
    sorted list has it if and only if its index is below the number of
    elements that have it. -/
theorem Pairwise.getElem_iff_lt_countP {l : List A} (hl : l.Pairwise (· ≤ ·)) {p : A → Bool}
    (hp : ∀ a b, a ≤ b → p b = true → p a = true) {i : Nat} (hi : i < l.length) :
    p l[i] = true ↔ i < l.countP p := by
  induction l generalizing i with
  | nil => simp at hi
  | cons a l ih =>
    obtain ⟨hhead, htail⟩ := pairwise_cons.mp hl
    by_cases ha : p a = true
    · rw [countP_cons_of_pos ha]
      cases i with
      | zero => simpa using ha
      | succ i =>
        rw [getElem_cons_succ, ih htail (by simpa using hi)]
        omega
    · -- Whatever follows is at least as large, so nothing has the property.
      have hnone : ∀ b ∈ a :: l, ¬ p b = true := by
        intro b hb hpb
        rcases mem_cons.mp hb with rfl | hmem
        · exact ha hpb
        · exact ha (hp a b (hhead b hmem) hpb)
      rw [countP_eq_zero.mpr hnone]
      simpa using hnone _ (getElem_mem hi)

theorem sortBy_id_pairwise (l : List A) : (sortBy id l).Pairwise (· ≤ ·) := sortBy_pairwise id l

theorem sortBy_le_iff {l : List A} {v : A} {i : Nat} (hi : i < (sortBy id l).length) :
    (sortBy id l)[i] ≤ v ↔ i < l.countP (fun a => decide (a ≤ v)) := by
  have hrank := (sortBy_id_pairwise l).getElem_iff_lt_countP (p := fun a => decide (a ≤ v))
    (fun a b hab hb => decide_eq_true (hab.trans (of_decide_eq_true hb))) hi
  rw [(sortBy_perm id l).countP_eq] at hrank
  simpa using hrank

theorem sortBy_lt_iff {l : List A} {v : A} {i : Nat} (hi : i < (sortBy id l).length) :
    (sortBy id l)[i] < v ↔ i < l.countP (fun a => decide (a < v)) := by
  have hrank := (sortBy_id_pairwise l).getElem_iff_lt_countP (p := fun a => decide (a < v))
    (fun a b hab hb => decide_eq_true (hab.trans_lt (of_decide_eq_true hb))) hi
  rw [(sortBy_perm id l).countP_eq] at hrank
  simpa using hrank

/-- The elements above a value are those that are not at most it. -/
theorem countP_lt_add_countP_le (l : List A) (v : A) :
    l.countP (fun a => decide (v < a)) + l.countP (fun a => decide (a ≤ v)) = l.length := by
  have hsplit := length_eq_countP_add_countP (fun a => decide (a ≤ v)) (l := l)
  have hcongr : l.countP (fun a => decide (v < a)) =
      l.countP (fun a => decide ¬ decide (a ≤ v) = true) := by
    apply countP_congr
    intro a _
    simp
  omega

/-- The elements below a value are those that are not at least it. -/
theorem countP_lt_add_countP_ge (l : List A) (v : A) :
    l.countP (fun a => decide (a < v)) + l.countP (fun a => decide (v ≤ a)) = l.length := by
  have hsplit := length_eq_countP_add_countP (fun a => decide (v ≤ a)) (l := l)
  have hcongr : l.countP (fun a => decide (a < v)) =
      l.countP (fun a => decide ¬ decide (v ≤ a) = true) := by
    apply countP_congr
    intro a _
    simp
  omega

end List
