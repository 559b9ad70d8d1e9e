import Mathlib.Data.List.Induction

/-! # Grants that are spent once

    A register is open until it is granted, holds the grant until it is spent
    or closed, and stays closed.  A history of entries of any kind is read
    through an `Observation`, which says which entries grant, spend or revoke.

    `Moves` says what one entry may do to the register; whoever keeps such a
    register proves this about its own steps.  The laws of this file then hold
    of its whole histories: at most one entry spends, what it spends was
    granted before and not revoked since, and nothing is granted or spent once
    the register is closed.
-/

namespace OneShot

/-- What a register holds. -/
inductive Stage (G : Type) where
  | idle
  | granted (g : G)
  | closed
  deriving DecidableEq

/-- How an entry is seen: as a grant, as the spending of a grant that fits
    it, as a revocation, or as none of them. -/
structure Observation (E G : Type) where
  grants : E → G → Prop
  spends : E → Prop
  fits : E → G → Prop
  revokes : E → Prop

variable {E G : Type} {o : Observation E G}

/-- What one entry may do to a register. -/
inductive Move (o : Observation E G) (e : E) : Stage G → Stage G → Prop
  /-- Nothing.  A revocation leaves no grant behind. -/
  | rest {s : Stage G} (hgrants : ∀ g, ¬ o.grants e g) (hspends : ¬ o.spends e)
      (hrevokes : o.revokes e → ∀ g, s ≠ .granted g) : Move o e s s
  | grant {g : G} (hgrants : ∀ g', o.grants e g' → g' = g) (hgrant : o.grants e g)
      (hspends : ¬ o.spends e) (hrevokes : ¬ o.revokes e) : Move o e .idle (.granted g)
  | spend {g : G} (hgrants : ∀ g, ¬ o.grants e g) (hspends : o.spends e) (hfits : o.fits e g)
      (hrevokes : ¬ o.revokes e) : Move o e (.granted g) .closed
  /-- Close the register: a revocation, or a grant that has run out. -/
  | close {s : Stage G} (hgrants : ∀ g, ¬ o.grants e g) (hspends : ¬ o.spends e) :
      Move o e s .closed

/-- What a history may do to a register. -/
inductive Moves (o : Observation E G) (s : Stage G) : List E → Stage G → Prop
  | nil : Moves o s [] s
  | snoc {s' s'' : Stage G} {log : List E} {e : E} :
      Moves o s log s' → Move o e s' s'' → Moves o s (log ++ [e]) s''

/-! ## Moves of a closed register -/

theorem Move.of_closed {e : E} {s : Stage G} (h : Move o e .closed s) :
    s = .closed ∧ (∀ g, ¬ o.grants e g) ∧ ¬ o.spends e := by
  cases h with
  | rest hgrants hspends _ => exact ⟨rfl, hgrants, hspends⟩
  | close hgrants hspends => exact ⟨rfl, hgrants, hspends⟩

/-- **A closed register stays closed**: nothing is granted or spent. -/
theorem Moves.of_closed {log : List E} {s : Stage G} (h : Moves o .closed log s) :
    s = .closed ∧ ∀ e ∈ log, (∀ g, ¬ o.grants e g) ∧ ¬ o.spends e := by
  induction h with
  | nil => exact ⟨rfl, fun e he => by cases he⟩
  | @snoc s' s'' log e _ hmove ih =>
    obtain ⟨rfl, hquiet⟩ := ih
    obtain ⟨rfl, hlast⟩ := hmove.of_closed
    refine ⟨rfl, ?_⟩
    intro e' he'
    rcases List.mem_append.mp he' with hmem | hmem
    · exact hquiet e' hmem
    · obtain rfl := List.mem_singleton.mp hmem
      exact hlast

/-! ## Splitting a history -/

/-- A history passes a stage before its last entry. -/
theorem Moves.last {s s' : Stage G} {log log' : List E} {e : E} (h : Moves o s log' s')
    (hlog : log' = log ++ [e]) : ∃ mid, Moves o s log mid ∧ Move o e mid s' := by
  cases h with
  | nil => simp at hlog
  | @snoc mid _ init last hinit hmove =>
    obtain ⟨rfl, hlast⟩ := List.append_inj' hlog rfl
    obtain rfl : last = e := by simpa using hlast
    exact ⟨mid, hinit, hmove⟩

/-- A history passes the stages around each of its entries. -/
theorem Moves.around {s s' : Stage G} {pre post : List E} {e : E}
    (h : Moves o s (pre ++ e :: post) s') :
    ∃ before after, Moves o s pre before ∧ Move o e before after ∧ Moves o after post s' := by
  induction post using List.reverseRecOn generalizing s' with
  | nil =>
    obtain ⟨before, hpre, hmove⟩ := h.last rfl
    exact ⟨before, s', hpre, hmove, .nil⟩
  | append_singleton post last ih =>
    have hlog : pre ++ e :: (post ++ [last]) = (pre ++ e :: post) ++ [last] := by simp
    obtain ⟨mid, hinit, hlast⟩ := h.last hlog
    obtain ⟨before, after, hpre, hmove, hpost⟩ := ih hinit
    exact ⟨before, after, hpre, hmove, hpost.snoc hlast⟩

/-! ## The laws -/

/-- An entry that spends has a grant to spend, and closes the register. -/
theorem Move.of_spends {e : E} {s s' : Stage G} (h : Move o e s s') (hspends : o.spends e) :
    ∃ g, s = .granted g ∧ s' = .closed ∧ o.fits e g := by
  cases h with
  | rest _ hnot _ => exact absurd hspends hnot
  | grant _ _ hnot _ => exact absurd hspends hnot
  | @spend g _ _ hfits _ => exact ⟨g, rfl, rfl, hfits⟩
  | close _ hnot => exact absurd hspends hnot

/-- An entry that leaves a grant behind granted it, or found it. -/
theorem Move.to_granted {e : E} {s : Stage G} {g : G} (h : Move o e s (.granted g)) :
    ¬ o.spends e ∧ ¬ o.revokes e ∧
      ((s = .idle ∧ o.grants e g) ∨ (s = .granted g ∧ ∀ g', ¬ o.grants e g')) := by
  cases h with
  | rest hgrants hspends hrevokes =>
    exact ⟨hspends, fun hr => hrevokes hr g rfl, Or.inr ⟨rfl, hgrants⟩⟩
  | grant _ hgrant hspends hrevokes => exact ⟨hspends, hrevokes, Or.inl ⟨rfl, hgrant⟩⟩

/-- An entry that leaves the register idle did nothing. -/
theorem Move.to_idle {e : E} {s : Stage G} (h : Move o e s .idle) :
    s = .idle ∧ (∀ g, ¬ o.grants e g) ∧ ¬ o.spends e := by
  cases h with
  | rest hgrants hspends _ => exact ⟨rfl, hgrants, hspends⟩

/-- An idle register was never granted and nothing was spent. -/
theorem Moves.to_idle {log : List E} {s : Stage G} (h : Moves o s log .idle) :
    ∀ e ∈ log, (∀ g, ¬ o.grants e g) ∧ ¬ o.spends e := by
  generalize hend : Stage.idle = s' at h
  induction h with
  | nil =>
    intro e he
    cases he
  | @snoc s' s'' log e _ hmove ih =>
    subst hend
    obtain ⟨rfl, hquiet⟩ := hmove.to_idle
    intro e' he'
    rcases List.mem_append.mp he' with hmem | hmem
    · exact ih rfl e' hmem
    · obtain rfl := List.mem_singleton.mp hmem
      exact hquiet

/-- **What a register holds was granted**: by exactly one entry, after which
    nothing was granted, spent or revoked. -/
theorem Moves.to_granted {log : List E} {g : G} (h : Moves o .idle log (.granted g)) :
    ∃ pre e post, log = pre ++ e :: post ∧ o.grants e g ∧ ¬ o.revokes e ∧
      (∀ x ∈ pre, ¬ o.spends x) ∧ ¬ o.spends e ∧
      ∀ x ∈ post, (∀ g', ¬ o.grants x g') ∧ ¬ o.spends x ∧ ¬ o.revokes x := by
  generalize hend : Stage.granted g = s' at h
  induction h with
  | nil => cases hend
  | @snoc s' s'' log e hlog hmove ih =>
    subst hend
    obtain ⟨hspends, hrevokes, hfrom⟩ := hmove.to_granted
    rcases hfrom with ⟨rfl, hgrants⟩ | ⟨rfl, hgrants⟩
    · -- The last entry granted it.
      refine ⟨log, e, [], rfl, hgrants, hrevokes, ?_, hspends, fun x hx => by cases hx⟩
      intro x hx
      exact (hlog.to_idle x hx).2
    · -- It was held before the last entry.
      obtain ⟨pre, e', post, rfl, hgrant, hrevoke, hbefore, hspend, hafter⟩ := ih rfl
      refine ⟨pre, e', post ++ [e], by simp, hgrant, hrevoke, hbefore, hspend, ?_⟩
      intro x hx
      rcases List.mem_append.mp hx with hmem | hmem
      · exact hafter x hmem
      · obtain rfl := List.mem_singleton.mp hmem
        exact ⟨hgrants, hspends, hrevokes⟩

/-- **Spending law**: an entry that spends finds a grant that fits it.  The
    grant was given before, and between the two nothing was granted, spent or
    revoked; no other entry spends. -/
theorem Moves.spent {pre post : List E} {e : E} {s : Stage G}
    (h : Moves o .idle (pre ++ e :: post) s) (hspends : o.spends e) :
    ∃ g before e' mid, pre = before ++ e' :: mid ∧ o.grants e' g ∧ o.fits e g ∧
      (∀ x ∈ pre, ¬ o.spends x) ∧ (∀ x ∈ mid, ¬ o.revokes x) ∧ ∀ x ∈ post, ¬ o.spends x := by
  obtain ⟨held, after, hpre, hmove, hpost⟩ := h.around
  obtain ⟨g, rfl, rfl, hfits⟩ := hmove.of_spends hspends
  obtain ⟨before, e', mid, rfl, hgrant, _, hbefore, hspend, hmid⟩ := hpre.to_granted
  refine ⟨g, before, e', mid, rfl, hgrant, hfits, ?_, fun x hx => (hmid x hx).2.2, ?_⟩
  · intro x hx
    rcases List.mem_append.mp hx with hmem | hmem
    · exact hbefore x hmem
    · rcases List.mem_cons.mp hmem with rfl | hmem
      · exact hspend
      · exact (hmid x hmem).2.1
  · intro x hx
    exact (hpost.of_closed.2 x hx).2

/-- **Once**: at most one entry of a history spends. -/
theorem Moves.spent_once {log : List E} {s : Stage G} (h : Moves o .idle log s)
    (spends : E → Bool) (hspends : ∀ e, spends e = true → o.spends e) :
    log.countP spends ≤ 1 := by
  by_cases hany : ∃ e ∈ log, spends e = true
  · obtain ⟨e, hmem, he⟩ := hany
    obtain ⟨pre, post, rfl⟩ := List.append_of_mem hmem
    obtain ⟨_, _, _, _, _, _, _, hpre, _, hpost⟩ := h.spent (hspends e he)
    have hquiet : ∀ l : List E, (∀ x ∈ l, ¬ o.spends x) → l.countP spends = 0 := by
      intro l hl
      rw [List.countP_eq_zero]
      intro x hx hs
      exact hl x hx (hspends x hs)
    have hone : (pre ++ e :: post).countP spends = 0 + (0 + 1) := by
      rw [List.countP_append, List.countP_cons, hquiet pre hpre, hquiet post hpost, if_pos he]
    omega
  · have hnone : log.countP spends = 0 := by
      rw [List.countP_eq_zero]
      intro x hx hs
      exact hany ⟨x, hx, hs⟩
    omega

end OneShot
