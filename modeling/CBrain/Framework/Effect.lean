import Mathlib.Logic.Function.Basic

/-! # Programs over an effect signature

    A program is a finite tree of operations: at each node it performs one
    operation of its signature and continues with the answer.  Whoever
    answers (a port, a database, an adversary, a scheduler) is outside the
    program, so one program text can be

    * run against arbitrary answers (`Run`),
    * executed by a handler with a state, possibly cut short (`exec`),
    * interleaved with other programs over a shared state (see `Pool`).

    The proof rule common to the three is `Obeys`: the program keeps to a
    protocol, whatever answers it gets, and its result satisfies a
    postcondition on the protocol's view of the run.
-/

namespace Effect

/-! ## Signatures and programs -/

/-- An effect signature: operations, and the type of each one's answer. -/
structure Sig where
  Op : Type
  Ans : Op → Type

/-- One performed operation with the answer it got. -/
abbrev Sig.Event (E : Sig) : Type := (o : E.Op) × E.Ans o

/-- A program: a result, or an operation with what to do for each answer. -/
inductive Prog (E : Sig) (α : Type) : Type where
  | ret (a : α)
  | op (o : E.Op) (k : E.Ans o → Prog E α)

namespace Prog

variable {E : Sig} {α β γ σ V : Type}

/-- Sequencing. -/
protected def bind : Prog E α → (α → Prog E β) → Prog E β
  | ret a, f => f a
  | op o k, f => op o (fun x => (k x).bind f)

instance : Monad (Prog E) where
  pure := ret
  bind := Prog.bind

/-- The program that performs one operation and returns its answer. -/
def perform (o : E.Op) : Prog E (E.Ans o) := op o ret

@[simp] theorem pure_eq (a : α) : (pure a : Prog E α) = ret a := rfl

@[simp] theorem ret_bind (a : α) (f : α → Prog E β) : (ret a >>= f) = f a := rfl

@[simp] theorem op_bind (o : E.Op) (k : E.Ans o → Prog E α) (f : α → Prog E β) :
    (op o k >>= f) = op o (fun x => k x >>= f) := rfl

@[simp] theorem perform_bind (o : E.Op) (f : E.Ans o → Prog E β) :
    (perform o >>= f) = op o f := rfl

theorem bind_assoc (p : Prog E α) (f : α → Prog E β) (g : β → Prog E γ) :
    (p >>= f >>= g) = (p >>= fun a => f a >>= g) := by
  induction p with
  | ret a => rfl
  | op o k ih =>
    simp only [op_bind]
    congr 1
    funext x
    exact ih x

/-! ## Runs against arbitrary answers -/

/-- `Run p log a`: for the answers in `log`, `p` performs exactly the
    operations of `log`, in order, and returns `a`. -/
inductive Run : Prog E α → List E.Event → α → Prop where
  | ret (a : α) : Run (ret a) [] a
  | op {o : E.Op} {k : E.Ans o → Prog E α} {log : List E.Event} {a : α} (x : E.Ans o) :
      Run (k x) log a → Run (op o k) (⟨o, x⟩ :: log) a

/-- A run of `p >>= f` is a run of `p` followed by one of its continuation. -/
theorem run_bind {p : Prog E α} {f : α → Prog E β} {log : List E.Event} {b : β} :
    Run (p >>= f) log b ↔
      ∃ log₁ a log₂, Run p log₁ a ∧ Run (f a) log₂ b ∧ log = log₁ ++ log₂ := by
  constructor
  · intro h
    induction p generalizing log with
    | ret a => exact ⟨[], a, log, Run.ret a, h, rfl⟩
    | op o k ih =>
      rw [op_bind] at h
      cases h with
      | op x hx =>
        obtain ⟨log₁, a, log₂, h₁, h₂, rfl⟩ := ih x hx
        exact ⟨⟨o, x⟩ :: log₁, a, log₂, Run.op x h₁, h₂, rfl⟩
  · rintro ⟨log₁, a, log₂, h₁, h₂, rfl⟩
    induction h₁ with
    | ret a => exact h₂
    | op x _ ih => exact Run.op x (ih h₂)

/-- The events of a run determine its result. -/
theorem Run.unique {p : Prog E α} {log : List E.Event} {a b : α} (h₁ : Run p log a)
    (h₂ : Run p log b) : a = b := by
  induction h₁ with
  | ret a => cases h₂; rfl
  | op x _ ih =>
    cases h₂ with
    | op _ h => exact ih h

/-- `Performs p log`: for the answers in `log`, `p` performs at least the
    operations of `log`, in order. -/
inductive Performs : Prog E α → List E.Event → Prop where
  | nil (p : Prog E α) : Performs p []
  | op {o : E.Op} {k : E.Ans o → Prog E α} {log : List E.Event} (x : E.Ans o) :
      Performs (k x) log → Performs (op o k) (⟨o, x⟩ :: log)

theorem Performs.bind {p : Prog E α} {f : α → Prog E β} {l₁ l₂ : List E.Event} {a : α}
    (h₁ : Run p l₁ a) (h₂ : Performs (f a) l₂) : Performs (p >>= f) (l₁ ++ l₂) := by
  induction h₁ with
  | ret a => exact h₂
  | op x _ ih => exact Performs.op x (ih h₂)

/-- The first operations of a first part. -/
theorem Performs.first {p : Prog E α} {log : List E.Event} (h : Performs p log) (f : α → Prog E β) :
    Performs (p >>= f) log := by
  induction h with
  | nil p => exact Performs.nil _
  | op x _ ih => exact Performs.op x ih

/-! ## Execution by a handler

    The handler answers from a state.  An answer `none` cuts the execution
    short after the operation took effect: the program is gone, the state
    stays. -/

/-- A handler: the answer (or a cut) and the next state. -/
abbrev Handler (E : Sig) (σ : Type) : Type := (o : E.Op) → σ → Option (E.Ans o) × σ

/-- Execute a program from a state; `none` if it was cut short. -/
def exec (h : Handler E σ) : Prog E α → σ → Option α × σ
  | ret a, s => (some a, s)
  | op o k, s =>
    match h o s with
    | (some x, s') => exec h (k x) s'
    | (none, s') => (none, s')

@[simp] theorem exec_ret (h : Handler E σ) (a : α) (s : σ) :
    exec h (ret a) s = (some a, s) := rfl

theorem exec_op_some {h : Handler E σ} {o : E.Op} {k : E.Ans o → Prog E α} {s s' : σ}
    {x : E.Ans o} (hx : h o s = (some x, s')) :
    exec h (op o k) s = exec h (k x) s' := by
  simp [exec, hx]

theorem exec_op_none {h : Handler E σ} {o : E.Op} {k : E.Ans o → Prog E α} {s s' : σ}
    (hx : h o s = (none, s')) :
    exec h (op o k) s = (none, s') := by
  simp [exec, hx]

/-- Execution of a sequence: the first part, then its continuation unless
    the first part was cut short. -/
theorem exec_bind (h : Handler E σ) (p : Prog E α) (f : α → Prog E β) (s : σ) :
    exec h (p >>= f) s =
      match exec h p s with
      | (some a, s') => exec h (f a) s'
      | (none, s') => (none, s') := by
  induction p generalizing s with
  | ret a => rfl
  | op o k ih =>
    rw [op_bind]
    rcases hx : h o s with ⟨_ | x, s'⟩
    · rw [exec_op_none hx, exec_op_none hx]
    · rw [exec_op_some hx, exec_op_some hx]
      exact ih x s'

end Prog

/-! ## Protocols -/

/-- A protocol seen by one program: from its view of the run so far, which
    operations it may perform, which answers it may rely on, and the view
    after an answer. -/
structure Protocol (E : Sig) (V : Type) where
  allows : V → E.Op → Prop
  answers : V → (o : E.Op) → E.Ans o → Prop
  next : V → (o : E.Op) → E.Ans o → V

namespace Protocol

variable {E : Sig} {V : Type}

/-- The view after a list of events. -/
def after (P : Protocol E V) (v : V) : List E.Event → V
  | [] => v
  | ⟨o, x⟩ :: log => P.after (P.next v o x) log

/-- All answers in the list are ones the protocol promises. -/
def Kept (P : Protocol E V) (v : V) : List E.Event → Prop
  | [] => True
  | ⟨o, x⟩ :: log => P.answers v o x ∧ P.Kept (P.next v o x) log

/-- The protocol that allows every operation and promises nothing: only the
    view is of interest. -/
def observe (next : V → (o : E.Op) → E.Ans o → V) : Protocol E V where
  allows := fun _ _ => True
  answers := fun _ _ _ => True
  next := next

theorem kept_observe (next : V → (o : E.Op) → E.Ans o → V) (v : V) (log : List E.Event) :
    (observe next).Kept v log := by
  induction log generalizing v with
  | nil => trivial
  | cons e log ih => exact ⟨trivial, ih _⟩

/-- The protocol whose view is the list of past events, with a guard on each
    operation. -/
def history (guard : List E.Event → E.Op → Prop) : Protocol E (List E.Event) where
  allows := guard
  answers := fun _ _ _ => True
  next := fun past o x => past ++ [⟨o, x⟩]

@[simp] theorem after_history (guard : List E.Event → E.Op → Prop) (past log : List E.Event) :
    (history guard).after past log = past ++ log := by
  induction log generalizing past with
  | nil => simp [after]
  | cons e log ih =>
    show (history guard).after (past ++ [e]) log = past ++ e :: log
    rw [ih]
    simp

theorem kept_history (guard : List E.Event → E.Op → Prop) (past log : List E.Event) :
    (history guard).Kept past log := by
  induction log generalizing past with
  | nil => trivial
  | cons e log ih => exact ⟨trivial, ih _⟩

theorem after_append (P : Protocol E V) (v : V) (l₁ l₂ : List E.Event) :
    P.after v (l₁ ++ l₂) = P.after (P.after v l₁) l₂ := by
  induction l₁ generalizing v with
  | nil => rfl
  | cons e l₁ ih => exact ih _

end Protocol

namespace Prog

variable {E : Sig} {α β V : Type}

/-- The program keeps to the protocol from view `v` on, for every promised
    answer, and ends in a view and result that satisfy `Q`. -/
def Obeys (P : Protocol E V) (Q : V → α → Prop) : V → Prog E α → Prop
  | v, ret a => Q v a
  | v, op o k => P.allows v o ∧ ∀ x, P.answers v o x → Obeys P Q (P.next v o x) (k x)

@[simp] theorem obeys_ret {P : Protocol E V} {Q : V → α → Prop} {v : V} {a : α} :
    Obeys P Q v (ret a) ↔ Q v a := Iff.rfl

@[simp] theorem obeys_op {P : Protocol E V} {Q : V → α → Prop} {v : V} {o : E.Op}
    {k : E.Ans o → Prog E α} :
    Obeys P Q v (op o k) ↔
      P.allows v o ∧ ∀ x, P.answers v o x → Obeys P Q (P.next v o x) (k x) := Iff.rfl

/-- **Sequencing rule**. -/
theorem Obeys.bind {P : Protocol E V} {R : V → α → Prop} {Q : V → β → Prop}
    {p : Prog E α} {f : α → Prog E β} {v : V} (hp : Obeys P R v p)
    (hf : ∀ v a, R v a → Obeys P Q v (f a)) : Obeys P Q v (p >>= f) := by
  induction p generalizing v with
  | ret a => exact hf v a hp
  | op o k ih => exact ⟨hp.1, fun x hx => ih x (hp.2 x hx)⟩

/-- **Consequence rule** for the postcondition. -/
theorem Obeys.mono {P : Protocol E V} {R Q : V → α → Prop} {p : Prog E α} {v : V}
    (hp : Obeys P R v p) (h : ∀ v a, R v a → Q v a) : Obeys P Q v p := by
  induction p generalizing v with
  | ret a => exact h v a hp
  | op o k ih => exact ⟨hp.1, fun x hx => ih x (hp.2 x hx)⟩

/-- **Soundness for runs**: the postcondition holds of every run whose
    answers were the promised ones. -/
theorem Obeys.run {P : Protocol E V} {Q : V → α → Prop} {p : Prog E α} {v : V}
    {log : List E.Event} {a : α} (hp : Obeys P Q v p) (hr : Run p log a)
    (hk : P.Kept v log) : Q (P.after v log) a := by
  induction hr generalizing v with
  | ret a => exact hp
  | op x _ ih => exact ih (hp.2 x hk.1) hk.2

/-- Every operation of a run is one the protocol allows at that point. -/
theorem Obeys.allowed {P : Protocol E V} {Q : V → α → Prop} {p : Prog E α} {v : V}
    {log before after : List E.Event} {o : E.Op} {x : E.Ans o} {a : α} (hp : Obeys P Q v p)
    (hr : Run p log a) (hk : P.Kept v log) (hlog : log = before ++ ⟨o, x⟩ :: after) :
    P.allows (P.after v before) o := by
  induction hr generalizing v before with
  | ret a => simp at hlog
  | op y _ ih =>
    cases before with
    | nil =>
      cases hlog
      exact hp.1
    | cons e before =>
      cases hlog
      show P.allows (P.after (P.next v _ y) before) o
      exact ih (hp.2 y hk.1) hk.2 rfl

/-- The same for the first operations of a program that may be cut short. -/
theorem Obeys.performed {P : Protocol E V} {Q : V → α → Prop} {p : Prog E α} {v : V}
    {log before after : List E.Event} {o : E.Op} {x : E.Ans o} (hp : Obeys P Q v p)
    (hr : Performs p log) (hk : P.Kept v log) (hlog : log = before ++ ⟨o, x⟩ :: after) :
    P.allows (P.after v before) o := by
  induction hr generalizing v before with
  | nil p => simp at hlog
  | op y _ ih =>
    cases before with
    | nil =>
      cases hlog
      exact hp.1
    | cons e before =>
      cases hlog
      show P.allows (P.after (P.next v _ y) before) o
      exact ih (hp.2 y hk.1) hk.2 rfl

/-- Soundness for a protocol that only observes: no assumption on answers. -/
theorem Obeys.observe_run {next : V → (o : E.Op) → E.Ans o → V} {Q : V → α → Prop}
    {p : Prog E α} {v : V} {log : List E.Event} {a : α}
    (hp : Obeys (Protocol.observe next) Q v p) (hr : Run p log a) :
    Q ((Protocol.observe next).after v log) a :=
  hp.run hr (Protocol.kept_observe next v log)

end Prog

end Effect
