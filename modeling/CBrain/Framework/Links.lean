import Mathlib.Logic.Relation
import Mathlib.Logic.Function.Basic

/-! # Links

    Each element links to at most one other: `next a` is where `a` links to, and
    an element without a link is a root.  An element *ends at* a root when its
    links lead there.

    * An element ends at one root at most, and is on no cycle if it ends at one.
    * Linking a root to another root makes what ended at the first end at the
      second; nothing else moves. -/

open Relation (ReflTransGen TransGen)

namespace Links

variable {A : Type} {next : A → Option A}

/-- The links of `a` lead to the root `r`. -/
def EndsAt (next : A → Option A) (a r : A) : Prop :=
  ReflTransGen (fun x y => next x = some y) a r ∧ next r = none

/-- A root ends at itself. -/
theorem endsAt_self {r : A} (h : next r = none) : EndsAt next r r :=
  ⟨.refl, h⟩

/-- What links to `b` ends where `b` does. -/
theorem EndsAt.link {a b r : A} (hab : next a = some b) (h : EndsAt next b r) : EndsAt next a r :=
  ⟨.head hab h.1, h.2⟩

theorem rightUnique_link : Relator.RightUnique fun x y : A => next x = some y := by
  intro a b c hab hac
  rw [hab] at hac
  exact Option.some.inj hac

/-- Nothing is reached from a root but itself. -/
theorem eq_of_root {r a : A} (h : next r = none)
    (hpath : ReflTransGen (fun x y => next x = some y) r a) : a = r := by
  rcases hpath.cases_head with heq | ⟨b, hb, -⟩
  · exact heq.symm
  · rw [h] at hb
    cases hb

/-- An element ends at one root at most. -/
theorem EndsAt.unique {a r s : A} (hr : EndsAt next a r) (hs : EndsAt next a s) : r = s := by
  rcases hr.1.total_of_right_unique rightUnique_link hs.1 with hrs | hsr
  · exact (eq_of_root hr.2 hrs).symm
  · exact eq_of_root hs.2 hsr

/-- What ends at a root is on no cycle. -/
theorem EndsAt.acyclic {a r : A} (h : EndsAt next a r) :
    ¬ TransGen (fun x y => next x = some y) a a := by
  obtain ⟨hpath, hroot⟩ := h
  -- induction from the root back: a cycle through `a` goes through what `a` links to
  induction hpath using ReflTransGen.head_induction_on with
  | refl =>
    intro hcycle
    obtain ⟨b, hb, -⟩ := TransGen.head'_iff.mp hcycle
    rw [hroot] at hb
    cases hb
  | head hab _ ih =>
    intro hcycle
    obtain ⟨c, hac, hca⟩ := TransGen.head'_iff.mp hcycle
    obtain rfl := rightUnique_link hab hac
    exact ih (TransGen.tail' hca hab)

/-- **Union**: linking the root `s` to another root `t` moves what ended at `s`
    to `t`. -/
theorem EndsAt.union [DecidableEq A] {a r s t : A} (h : EndsAt next a r) (hs : next s = none)
    (ht : next t = none) (hst : s ≠ t) :
    EndsAt (Function.update next s (some t)) a (if r = s then t else r) := by
  obtain ⟨hpath, hroot⟩ := h
  have htail : EndsAt (Function.update next s (some t)) t t := by
    apply endsAt_self
    rw [Function.update_of_ne hst.symm]
    exact ht
  induction hpath using ReflTransGen.head_induction_on with
  | refl =>
    by_cases hr : r = s
    · rw [if_pos hr, hr]
      exact htail.link (Function.update_self s _ next)
    · rw [if_neg hr]
      apply endsAt_self
      rw [Function.update_of_ne hr]
      exact hroot
  | @head b c hbc _ ih =>
    have hb : b ≠ s := by
      rintro rfl
      rw [hs] at hbc
      cases hbc
    refine ih.link ?_
    rw [Function.update_of_ne hb]
    exact hbc

end Links
