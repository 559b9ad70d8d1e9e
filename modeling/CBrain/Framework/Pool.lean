import CBrain.Framework.Effect

/-! # Interleaved programs

    A pool runs a family of programs over one shared state.  At each step one
    program performs its next operation, which the shared state answers, or
    one program is cut off for good.  Nothing is assumed about the order or
    about which programs ever move, so a family with one program per possible
    call stands for any number of callers.

    The rule of this file: if every program obeys its protocol, and every
    operation that the protocols allow keeps an invariant of the shared state
    and the log, and is answered as promised, then the invariant holds in
    every reachable configuration.
-/

namespace Effect

/-- The possible answers of the shared state to an operation, with the next
    state. -/
abbrev Answering (E : Sig) (S : Type) : Type := S → (o : E.Op) → E.Ans o → S → Prop

variable {E : Sig} {T S V α : Type}

/-- A configuration: what is left of each program (`none` once it was cut
    off), the shared state, and the events so far. -/
structure Config (E : Sig) (T S α : Type) where
  programs : T → Option (Prog E α)
  shared : S
  log : List (T × E.Event)

/-- The events of one program. -/
def ofThread [DecidableEq T] (t : T) (log : List (T × E.Event)) : List E.Event :=
  (log.filter fun e => e.1 = t).map Prod.snd

@[simp] theorem ofThread_nil [DecidableEq T] (t : T) : ofThread (E := E) t [] = [] := rfl

theorem ofThread_self [DecidableEq T] (t : T) (log : List (T × E.Event)) (e : E.Event) :
    ofThread t (log ++ [(t, e)]) = ofThread t log ++ [e] := by
  simp [ofThread]

theorem ofThread_other [DecidableEq T] {t u : T} (h : u ≠ t) (log : List (T × E.Event))
    (e : E.Event) : ofThread t (log ++ [(u, e)]) = ofThread t log := by
  simp [ofThread, h]

theorem ofThread_map_self [DecidableEq T] (t : T) (log : List E.Event) :
    ofThread t (log.map fun e => (t, e)) = log := by
  simp [ofThread, List.filter_map, Function.comp_def]

theorem ofThread_map_other [DecidableEq T] {t u : T} (h : t ≠ u) (log : List E.Event) :
    ofThread t (log.map fun e => (u, e)) = [] := by
  simp [ofThread, List.filter_map, Function.comp_def, Ne.symm h]

theorem mem_ofThread [DecidableEq T] {t : T} {log : List (T × E.Event)} {e : E.Event} :
    e ∈ ofThread t log ↔ (t, e) ∈ log := by
  simp only [ofThread, List.mem_map, List.mem_filter, decide_eq_true_eq]
  constructor
  · rintro ⟨⟨u, e'⟩, ⟨hmem, hu⟩, he⟩
    simp only at hu he
    rw [← hu, ← he]
    exact hmem
  · intro hmem
    exact ⟨(t, e), ⟨hmem, rfl⟩, rfl⟩

namespace Config

variable [DecidableEq T]

/-- One step: a program performs its next operation, or is cut off. -/
inductive Step (answering : Answering E S) : Config E T S α → Config E T S α → Prop where
  | act {c : Config E T S α} {t : T} {o : E.Op} {k : E.Ans o → Prog E α} {x : E.Ans o} {s : S}
      (hprogram : c.programs t = some (.op o k)) (hanswer : answering c.shared o x s) :
      Step answering c
        { programs := Function.update c.programs t (some (k x))
          shared := s
          log := c.log ++ [(t, ⟨o, x⟩)] }
  | crash {c : Config E T S α} (t : T) :
      Step answering c { c with programs := Function.update c.programs t none }

/-- The configurations a pool can reach. -/
inductive Reachable (answering : Answering E S) (program : T → Prog E α) (s₀ : S) :
    Config E T S α → Prop where
  | start : Reachable answering program s₀ ⟨fun t => some (program t), s₀, []⟩
  | step {c c' : Config E T S α} :
      Reachable answering program s₀ c → Step answering c c' → Reachable answering program s₀ c'

/-- **Invariant rule** for interleaved programs. -/
theorem Reachable.invariant {answering : Answering E S} {program : T → Prog E α} {s₀ : S}
    {P : T → Protocol E V} {Q : V → α → Prop} {v : T → V}
    {I : S → List (T × E.Event) → Prop}
    (hprogram : ∀ t, Prog.Obeys (P t) Q (v t) (program t)) (hstart : I s₀ [])
    (hact : ∀ s log t o x s', I s log →
      (P t).allows ((P t).after (v t) (ofThread t log)) o → answering s o x s' →
      (P t).answers ((P t).after (v t) (ofThread t log)) o x ∧ I s' (log ++ [(t, ⟨o, x⟩)]))
    {c : Config E T S α} (hc : Reachable answering program s₀ c) :
    I c.shared c.log ∧
      ∀ t p, c.programs t = some p →
        Prog.Obeys (P t) Q ((P t).after (v t) (ofThread t c.log)) p := by
  induction hc with
  | start =>
    refine ⟨hstart, ?_⟩
    intro t p hp
    obtain rfl := Option.some.inj hp
    exact hprogram t
  | @step c c' _ hstep ih =>
    obtain ⟨hI, hobeys⟩ := ih
    cases hstep with
    | @act t o k x s hp hanswer =>
      have ht := hobeys t _ hp
      obtain ⟨hkept, hI'⟩ := hact _ _ t o x _ hI ht.1 hanswer
      refine ⟨hI', ?_⟩
      intro u p hu
      by_cases hut : u = t
      · subst hut
        obtain rfl : k x = p := by simpa using hu
        have hview : (P u).after (v u) (ofThread u (c.log ++ [(u, ⟨o, x⟩)])) =
            (P u).next ((P u).after (v u) (ofThread u c.log)) o x := by
          rw [ofThread_self, Protocol.after_append]
          rfl
        rw [hview]
        exact ht.2 x hkept
      · have hu' : c.programs u = some p := by simpa [hut] using hu
        rw [ofThread_other (Ne.symm hut)]
        exact hobeys u p hu'
    | crash t =>
      refine ⟨hI, ?_⟩
      intro u p hu
      by_cases hut : u = t
      · simp [hut] at hu
      · have hu' : c.programs u = some p := by simpa [hut] using hu
        exact hobeys u p hu'

/-! ### Running one program to its end -/

/-- The shared state may answer the events one after the other. -/
inductive Answered (answering : Answering E S) : S → List E.Event → S → Prop where
  | nil (s : S) : Answered answering s [] s
  | cons {s s' s'' : S} {o : E.Op} {x : E.Ans o} {log : List E.Event} :
      answering s o x s' → Answered answering s' log s'' →
      Answered answering s (⟨o, x⟩ :: log) s''

theorem Answered.append {answering : Answering E S} {s s' s'' : S} {l₁ l₂ : List E.Event}
    (h₁ : Answered answering s l₁ s') (h₂ : Answered answering s' l₂ s'') :
    Answered answering s (l₁ ++ l₂) s'' := by
  induction h₁ with
  | nil s => exact h₂
  | cons hfirst _ ih => exact Answered.cons hfirst (ih h₂)

theorem Answered.snoc {answering : Answering E S} {s s' s'' : S} {log : List E.Event} {o : E.Op}
    {x : E.Ans o} (h : Answered answering s log s') (hlast : answering s' o x s'') :
    Answered answering s (log ++ [⟨o, x⟩]) s'' :=
  h.append (Answered.cons hlast (Answered.nil s''))

/-- The first operations of a program can be scheduled in one go; the program
    may then be cut off, or never move again. -/
theorem Reachable.performs {answering : Answering E S} {program : T → Prog E α} {s₀ s : S}
    {c : Config E T S α} (hc : Reachable answering program s₀ c) {t : T} {p : Prog E α}
    {log : List E.Event} (hp : c.programs t = some p) (hperforms : Prog.Performs p log)
    (hanswered : Answered answering c.shared log s) :
    ∃ c', Reachable answering program s₀ c' ∧ c'.shared = s ∧
      c'.log = c.log ++ log.map (fun e => (t, e)) ∧ ∀ u, u ≠ t → c'.programs u = c.programs u := by
  induction hperforms generalizing c with
  | nil p =>
    cases hanswered
    exact ⟨c, hc, rfl, by simp, fun _ _ => rfl⟩
  | @op o k log x _ ih =>
    cases hanswered with
    | cons hfirst hrest =>
      obtain ⟨c', hc', hs, hlog, hothers⟩ := ih (hc.step (Step.act hp hfirst)) (by simp) hrest
      refine ⟨c', hc', hs, ?_, ?_⟩
      · rw [hlog]
        simp
      · intro u hu
        rw [hothers u hu]
        simp [hu]

/-- A run that the shared state may answer can be scheduled in one go. -/
theorem Reachable.run {answering : Answering E S} {program : T → Prog E α} {s₀ s : S}
    {c : Config E T S α} (hc : Reachable answering program s₀ c) {t : T} {p : Prog E α}
    {log : List E.Event} {a : α} (hp : c.programs t = some p) (hrun : Prog.Run p log a)
    (hanswered : Answered answering c.shared log s) :
    ∃ c', Reachable answering program s₀ c' ∧
      c'.log = c.log ++ log.map fun e => (t, e) := by
  induction hrun generalizing c with
  | ret a => exact ⟨c, hc, by simp⟩
  | @op o k log a x _ ih =>
    cases hanswered with
    | cons hfirst hrest =>
      obtain ⟨c', hc', hlog⟩ := ih (hc.step (Step.act hp hfirst)) (by simp) hrest
      refine ⟨c', hc', ?_⟩
      rw [hlog]
      simp

end Config

end Effect
