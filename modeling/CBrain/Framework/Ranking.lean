import Mathlib.Data.List.Sort

/-! # Stable sorting by a key

    `sortBy key l` orders a list by a key and leaves elements with equal keys
    in the order they had: `sorted(l, key=...)`.

    * `sortBy_perm`, `sortBy_pairwise` : it is the same list, in key order.
    * `sortBy_congr`      : with distinct keys, only the elements matter.
    * `sortBy_prefix_iff` : when the first elements stay in front as they are.
-/

namespace List

variable {A K : Type} [LinearOrder K]

/-- Sort by a key, keeping the order of elements with equal keys. -/
def sortBy (key : A → K) (l : List A) : List A := l.insertionSort fun a b => key a ≤ key b

theorem sortBy_perm (key : A → K) (l : List A) : List.Perm (sortBy key l) l :=
  perm_insertionSort _ l

@[simp] theorem mem_sortBy {key : A → K} {l : List A} {a : A} : a ∈ sortBy key l ↔ a ∈ l :=
  (sortBy_perm key l).mem_iff

@[simp] theorem length_sortBy (key : A → K) (l : List A) : (sortBy key l).length = l.length :=
  (sortBy_perm key l).length_eq

@[simp] theorem sortBy_nil (key : A → K) : sortBy key [] = [] := rfl

theorem sortBy_pairwise (key : A → K) (l : List A) :
    (sortBy key l).Pairwise fun a b => key a ≤ key b := by
  have : Std.Total fun a b : A => key a ≤ key b := ⟨fun a b => le_total (key a) (key b)⟩
  have : IsTrans A fun a b => key a ≤ key b := ⟨fun _ _ _ => le_trans⟩
  exact pairwise_insertionSort _ l

theorem sortBy_of_pairwise {key : A → K} {l : List A}
    (h : l.Pairwise fun a b => key a ≤ key b) : sortBy key l = l :=
  Pairwise.insertionSort_eq h

/-- An element below all the others comes first. -/
theorem sortBy_cons_of_le {key : A → K} {a : A} {l : List A} (h : ∀ b ∈ l, key a ≤ key b) :
    sortBy key (a :: l) = a :: sortBy key l :=
  insertionSort_cons_of_forall_rel _ h

/-- Sorting images sorts what they come from, if the keys order them alike. -/
theorem sortBy_map_of_le_iff {B K' : Type} [LinearOrder K'] {key : B → K} {key' : A → K'}
    {f : A → B} {l : List A}
    (h : ∀ a ∈ l, ∀ b ∈ l, key' a ≤ key' b ↔ key (f a) ≤ key (f b)) :
    sortBy key (l.map f) = (sortBy key' l).map f :=
  (map_insertionSort _ _ f l h).symm

theorem sortBy_map {B : Type} (key : B → K) (f : A → B) (l : List A) :
    sortBy key (l.map f) = (sortBy (fun a => key (f a)) l).map f :=
  sortBy_map_of_le_iff fun _ _ _ _ => Iff.rfl

/-- With keys that tell the elements apart, a list is sorted in one way only. -/
theorem sortBy_congr {key : A → K} {l l' : List A} (hperm : List.Perm l l')
    (hinj : ∀ a ∈ l, ∀ b ∈ l, key a = key b → a = b) : sortBy key l = sortBy key l' := by
  have h : List.Perm (sortBy key l) (sortBy key l') :=
    (sortBy_perm key l).trans (hperm.trans (sortBy_perm key l').symm)
  apply h.eq_of_pairwise _ (sortBy_pairwise key l) (sortBy_pairwise key l')
  intro a b ha hb hab hba
  exact hinj a (mem_sortBy.mp ha) b (hperm.mem_iff.mpr (mem_sortBy.mp hb)) (le_antisymm hab hba)

/-- With keys that tell the elements apart, it does not matter whether a
    selection is made before or after. -/
theorem sortBy_filter {key : A → K} {l : List A} (p : A → Bool)
    (hinj : ∀ a ∈ l, ∀ b ∈ l, key a = key b → a = b) :
    sortBy key (l.filter p) = (sortBy key l).filter p := by
  have hperm : List.Perm (l.filter p) ((sortBy key l).filter p) :=
    ((sortBy_perm key l).filter p).symm
  have hsorted : ((sortBy key l).filter p).Pairwise fun a b => key a ≤ key b :=
    (sortBy_pairwise key l).filter p
  rw [sortBy_congr hperm, sortBy_of_pairwise hsorted]
  intro a ha b hb
  exact hinj a (mem_filter.mp ha).1 b (mem_filter.mp hb).1

/-- Elements in order and below all the others stay in front. -/
theorem sortBy_append_of_le {key : A → K} {front rest : List A}
    (hfront : front.Pairwise fun a b => key a ≤ key b)
    (hrest : ∀ a ∈ front, ∀ b ∈ rest, key a ≤ key b) :
    sortBy key (front ++ rest) = front ++ sortBy key rest := by
  induction front with
  | nil => rfl
  | cons a front ih =>
    obtain ⟨ha, hpairwise⟩ := pairwise_cons.mp hfront
    have hle : ∀ b ∈ front ++ rest, key a ≤ key b := by
      intro b hb
      rcases mem_append.mp hb with hmem | hmem
      · exact ha b hmem
      · exact hrest a mem_cons_self b hmem
    rw [cons_append, sortBy_cons_of_le hle,
      ih hpairwise fun x hx => hrest x (mem_cons_of_mem a hx)]
    rfl

/-- **Prefix law**: sorting leaves the first elements in front exactly when
    they are in order and none of the others comes before one of them. -/
theorem sortBy_prefix_iff {key : A → K} {front rest : List A} :
    front <+: sortBy key (front ++ rest) ↔
      (front.Pairwise fun a b => key a ≤ key b) ∧
        ∀ a ∈ front, ∀ b ∈ rest, key a ≤ key b := by
  constructor
  · rintro ⟨others, heq⟩
    have hsorted := sortBy_pairwise key (front ++ rest)
    have hperm := sortBy_perm key (front ++ rest)
    rw [← heq] at hsorted hperm
    obtain ⟨hfront, -, hcross⟩ := pairwise_append.mp hsorted
    have hothers : List.Perm others rest := (perm_append_left_iff front).mp hperm
    exact ⟨hfront, fun a ha b hb => hcross a ha b (hothers.mem_iff.mpr hb)⟩
  · rintro ⟨hfront, hrest⟩
    exact ⟨sortBy key rest, (sortBy_append_of_le hfront hrest).symm⟩

end List
