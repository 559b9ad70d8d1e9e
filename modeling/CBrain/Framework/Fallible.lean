import CBrain.Framework.Effect

/-! # Programs that may raise

    A fallible program ends in a value or in an exception.  Its contract has
    one postcondition for each: `Meets P Q X v m` says that from view `v` on
    the program keeps to the protocol `P`, that a returned value satisfies
    `Q` and a raised exception `X`.
-/

namespace Effect

/-- A program that returns a value or raises. -/
abbrev Fallible (E : Sig) (ε α : Type) : Type := ExceptT ε (Prog E) α

namespace Fallible

variable {E : Sig} {V ε α β : Type}

/-- Perform an operation that answers a value or an exception. -/
def call (o : E.Op) (h : E.Ans o = Except ε α) : Fallible E ε α :=
  ExceptT.mk (.op o fun x => .ret (cast h x))

/-- A pure computation that may raise. -/
def raising (x : Except ε α) : Fallible E ε α := ExceptT.mk (.ret x)

/-- Translate the exception of a program. -/
def mapError (f : ε → ε) (m : Fallible E ε α) : Fallible E ε α :=
  ExceptT.mk (m.run >>= fun r => .ret (r.mapError f))

/-- The postcondition of an outcome: one for values, one for exceptions. -/
def Outcome (Q : V → α → Prop) (X : V → ε → Prop) (v : V) : Except ε α → Prop
  | .ok a => Q v a
  | .error e => X v e

@[simp] theorem outcome_ok {Q : V → α → Prop} {X : V → ε → Prop} {v : V} {a : α} :
    Outcome Q X v (.ok a) ↔ Q v a := Iff.rfl

@[simp] theorem outcome_error {Q : V → α → Prop} {X : V → ε → Prop} {v : V} {e : ε} :
    Outcome Q X v (.error e) ↔ X v e := Iff.rfl

/-- The contract of a fallible program. -/
def Meets (P : Protocol E V) (Q : V → α → Prop) (X : V → ε → Prop) (v : V)
    (m : Fallible E ε α) : Prop :=
  Prog.Obeys P (Outcome Q X) v m.run

variable {P : Protocol E V} {Q : V → α → Prop} {X : V → ε → Prop} {v : V}

theorem meets_raising {x : Except ε α} :
    Meets P Q X v (raising x) ↔ Outcome Q X v x := Iff.rfl

theorem meets_call {o : E.Op} {h : E.Ans o = Except ε α} :
    Meets P Q X v (call o h) ↔
      P.allows v o ∧ ∀ x, P.answers v o x → Outcome Q X (P.next v o x) (cast h x) := Iff.rfl

/-- **Sequencing rule**: an exception of the first part skips the second. -/
theorem Meets.bind {R : V → β → Prop} {m : Fallible E ε β} {f : β → Fallible E ε α}
    (hm : Meets P R X v m) (hf : ∀ v b, R v b → Meets P Q X v (f b)) :
    Meets P Q X v (m >>= f) := by
  apply Prog.Obeys.bind (R := Outcome R X) hm
  intro v r hr
  cases r with
  | ok b => exact hf v b hr
  | error e => exact hr

/-- **Consequence rule**. -/
theorem Meets.mono {Q' : V → α → Prop} {X' : V → ε → Prop} {m : Fallible E ε α}
    (hm : Meets P Q X v m) (hq : ∀ v a, Q v a → Q' v a) (hx : ∀ v e, X v e → X' v e) :
    Meets P Q' X' v m := by
  apply Prog.Obeys.mono hm
  intro v r hr
  cases r with
  | ok a => exact hq v a hr
  | error e => exact hx v e hr

/-- **Handling rule**: a program that goes on with the outcome of a fallible
    one, whichever it is. -/
theorem Meets.run_bind {S : V → β → Prop} {m : Fallible E ε α} {f : Except ε α → Prog E β}
    (hm : Meets P Q X v m) (hok : ∀ v a, Q v a → Prog.Obeys P S v (f (.ok a)))
    (herror : ∀ v e, X v e → Prog.Obeys P S v (f (.error e))) :
    Prog.Obeys P S v (m.run >>= f) := by
  apply Prog.Obeys.bind (R := Outcome Q X) hm
  intro v r hr
  cases r with
  | ok a => exact hok v a hr
  | error e => exact herror v e hr

theorem Meets.mapError {f : ε → ε} {m : Fallible E ε α}
    (hm : Meets P Q (fun v e => X v (f e)) v m) : Meets P Q X v (mapError f m) := by
  apply Prog.Obeys.bind (R := Outcome Q (fun v e => X v (f e))) hm
  intro v r hr
  cases r with
  | ok a => exact hr
  | error e => exact hr

/-! ### Runs that return -/

/-- A run of the program that returns a value. -/
def Succeeds (m : Fallible E ε α) (log : List E.Event) (a : α) : Prop :=
  Prog.Run m.run log (.ok a)

theorem Succeeds.ofPure (a : α) : Succeeds (pure a : Fallible E ε α) [] a := Prog.Run.ret _

theorem Succeeds.ofRaising {x : Except ε α} {a : α} (h : x = .ok a) :
    Succeeds (raising x : Fallible E ε α) [] a := by
  rw [h]
  exact Prog.Run.ret _

theorem Succeeds.ofCall {o : E.Op} {h : E.Ans o = Except ε α} (a : α) :
    Succeeds (call o h) [⟨o, cast h.symm (.ok a)⟩] a := by
  have hrun : Prog.Run (call o h : Fallible E ε α).run [⟨o, cast h.symm (.ok a)⟩]
      (cast h (cast h.symm (.ok a))) := Prog.Run.op _ (Prog.Run.ret _)
  rw [cast_cast, cast_eq] at hrun
  exact hrun

theorem Succeeds.bind {m : Fallible E ε β} {f : β → Fallible E ε α} {l₁ l₂ : List E.Event}
    {b : β} {a : α} (h₁ : Succeeds m l₁ b) (h₂ : Succeeds (f b) l₂ a) :
    Succeeds (m >>= f) (l₁ ++ l₂) a :=
  Prog.run_bind.mpr ⟨l₁, .ok b, l₂, h₁, h₂, rfl⟩

/-- A run that returns goes through what its first part returns. -/
theorem Succeeds.of_bind {m : Fallible E ε β} {f : β → Fallible E ε α} {log : List E.Event} {a : α}
    (h : Succeeds (m >>= f) log a) :
    ∃ l₁ b l₂, Succeeds m l₁ b ∧ Succeeds (f b) l₂ a ∧ log = l₁ ++ l₂ := by
  obtain ⟨l₁, r, l₂, h₁, h₂, rfl⟩ := Prog.run_bind.mp h
  cases r with
  | ok b => exact ⟨l₁, b, l₂, h₁, h₂, rfl⟩
  | error e => cases h₂

/-- A pure step that does not raise. -/
theorem Succeeds.raising_bind {x : Except ε β} {f : β → Fallible E ε α} {log : List E.Event}
    {b : β} {a : α} (hx : x = .ok b) (h : Succeeds (f b) log a) :
    Succeeds (raising x >>= f) log a :=
  (Succeeds.ofRaising hx).bind h

/-- An operation that answers a value. -/
theorem Succeeds.call_bind {o : E.Op} {h : E.Ans o = Except ε β} {f : β → Fallible E ε α}
    {log : List E.Event} {a : α} (b : β) (hf : Succeeds (f b) log a) :
    Succeeds (call o h >>= f) (⟨o, cast h.symm (.ok b)⟩ :: log) a :=
  (Succeeds.ofCall b).bind hf

theorem Succeeds.mapError {f : ε → ε} {m : Fallible E ε α} {log : List E.Event} {a : α}
    (h : Succeeds m log a) : Succeeds (Fallible.mapError f m) log a :=
  Prog.run_bind.mpr ⟨log, .ok a, [], h, Prog.Run.ret _, by simp⟩

/-- The program performs at least these operations. -/
def Performs (m : Fallible E ε α) (log : List E.Event) : Prop := Prog.Performs m.run log

theorem Performs.nil (m : Fallible E ε α) : Performs m [] := Prog.Performs.nil _

theorem Performs.bind {m : Fallible E ε β} {f : β → Fallible E ε α} {l₁ l₂ : List E.Event} {b : β}
    (h₁ : Succeeds m l₁ b) (h₂ : Performs (f b) l₂) : Performs (m >>= f) (l₁ ++ l₂) :=
  Prog.Performs.bind h₁ h₂

/-- The first operations of a first part. -/
theorem Performs.first {m : Fallible E ε β} {f : β → Fallible E ε α} {log : List E.Event}
    (h : Performs m log) : Performs (m >>= f) log := Prog.Performs.first h _

theorem Performs.raising_bind {x : Except ε β} {f : β → Fallible E ε α} {log : List E.Event} {b : β}
    (hx : x = .ok b) (h : Performs (f b) log) : Performs (raising x >>= f) log :=
  Performs.bind (Succeeds.ofRaising hx) h

/-- Some answers make the program return the value. -/
def Returns (m : Fallible E ε α) (a : α) : Prop := ∃ log, Succeeds m log a

theorem Returns.ofPure (a : α) : Returns (pure a : Fallible E ε α) a := ⟨[], Succeeds.ofPure a⟩

theorem Returns.bind {m : Fallible E ε β} {f : β → Fallible E ε α} {b : β} {a : α}
    (hm : Returns m b) (hf : Returns (f b) a) : Returns (m >>= f) a := by
  obtain ⟨l₁, h₁⟩ := hm
  obtain ⟨l₂, h₂⟩ := hf
  exact ⟨l₁ ++ l₂, h₁.bind h₂⟩

theorem Returns.raising_bind {x : Except ε β} {f : β → Fallible E ε α} {b : β} {a : α}
    (hx : x = .ok b) (hf : Returns (f b) a) : Returns (raising x >>= f) a :=
  Returns.bind ⟨[], Succeeds.ofRaising hx⟩ hf

theorem Returns.call_bind {o : E.Op} {h : E.Ans o = Except ε β} {f : β → Fallible E ε α} {a : α}
    (b : β) (hf : Returns (f b) a) : Returns (call o h >>= f) a :=
  Returns.bind ⟨_, Succeeds.ofCall b⟩ hf

theorem Returns.mapError {f : ε → ε} {m : Fallible E ε α} {a : α} (h : Returns m a) :
    Returns (Fallible.mapError f m) a := by
  obtain ⟨log, hlog⟩ := h
  exact ⟨log, hlog.mapError⟩

end Fallible

/-! ## Marked operations

    A class of operations is marked (the ones with an effect that matters),
    and a guard on the past says when one may be performed. -/

section marked

variable {E : Sig} (mark : E.Op → Bool)

/-- The number of marked operations among events. -/
def marked (log : List E.Event) : Nat := log.countP fun e => mark e.1

@[simp] theorem marked_nil : marked mark [] = 0 := rfl

theorem marked_append (l₁ l₂ : List E.Event) :
    marked mark (l₁ ++ l₂) = marked mark l₁ + marked mark l₂ := List.countP_append

theorem marked_snoc (log : List E.Event) (o : E.Op) (x : E.Ans o) :
    marked mark (log ++ [⟨o, x⟩]) = marked mark log + if mark o then 1 else 0 := by
  rw [marked_append]
  congr 1
  show List.countP _ [(⟨o, x⟩ : E.Event)] = _
  rw [List.countP_singleton]

/-- From `past` to `now` nothing marked was performed. -/
structure Quiet (past now : List E.Event) : Prop where
  extends_past : past <+: now
  marked_eq : marked mark now = marked mark past

variable {mark} {past now later : List E.Event}

theorem Quiet.refl (past : List E.Event) : Quiet mark past past := ⟨List.prefix_refl _, rfl⟩

theorem Quiet.trans (h₁ : Quiet mark past now) (h₂ : Quiet mark now later) :
    Quiet mark past later :=
  ⟨h₁.extends_past.trans h₂.extends_past, h₂.marked_eq.trans h₁.marked_eq⟩

theorem Quiet.mem (h : Quiet mark past now) {e : E.Event} (he : e ∈ past) : e ∈ now :=
  h.extends_past.subset he

theorem Quiet.snoc (h : Quiet mark past now) {o : E.Op} (ho : mark o = false) (x : E.Ans o) :
    Quiet mark past (now ++ [⟨o, x⟩]) := by
  refine ⟨h.extends_past.trans (List.prefix_append _ _), ?_⟩
  rw [marked_snoc, ho, h.marked_eq]
  simp

/-- The history protocol with a guard on the marked operations only. -/
def guarded (mark : E.Op → Bool) (guard : List E.Event → E.Op → Prop) :
    Protocol E (List E.Event) :=
  Protocol.history fun past o => mark o = true → guard past o

variable {ε α : Type} {guard : List E.Event → E.Op → Prop}

/-- From `now` on the program performs nothing marked, whether it returns or
    raises; a returned value satisfies `Q`. -/
def QuietMeets (mark : E.Op → Bool) (guard : List E.Event → E.Op → Prop)
    (Q : List E.Event → α → Prop) (now : List E.Event) (m : Fallible E ε α) : Prop :=
  Fallible.Meets (guarded mark guard) (fun later a => Quiet mark now later ∧ Q later a)
    (fun later _ => Quiet mark now later) now m

namespace QuietMeets

variable {β : Type} {Q : List E.Event → α → Prop} {R : List E.Event → β → Prop}

theorem ofPure {a : α} (h : Q now a) : QuietMeets mark guard Q now (pure a : Fallible E ε α) :=
  ⟨Quiet.refl now, h⟩

theorem ofThrow {e : ε} : QuietMeets mark guard Q now (throw e : Fallible E ε α) :=
  Quiet.refl now

theorem ofRaising {x : Except ε α} (h : ∀ a, x = .ok a → Q now a) :
    QuietMeets mark guard Q now (Fallible.raising x) := by
  apply Fallible.meets_raising.mpr
  cases x with
  | ok a => exact ⟨Quiet.refl now, h a rfl⟩
  | error e => exact Quiet.refl now

/-- An unmarked operation is in the history afterwards. -/
theorem ofCall {o : E.Op} {h : E.Ans o = Except ε α} (ho : mark o = false) :
    QuietMeets mark guard (fun later a => (⟨o, cast h.symm (.ok a)⟩ : E.Event) ∈ later) now
      (Fallible.call o h) := by
  refine Fallible.meets_call.mpr ⟨fun hmark => ?_, fun x _ => ?_⟩
  · rw [ho] at hmark
    cases hmark
  · have hquiet := (Quiet.refl now).snoc ho x
    show Fallible.Outcome _ _ (now ++ [⟨o, x⟩]) (cast h x)
    rcases hx : cast h x with e | a
    · exact hquiet
    · have hback : x = cast h.symm (.ok a) := by
        rw [← hx]
        simp
      refine ⟨hquiet, ?_⟩
      show (⟨o, cast h.symm (.ok a)⟩ : E.Event) ∈ now ++ [⟨o, x⟩]
      rw [← hback]
      simp

/-- **Sequencing rule**: what was past at the first part's end stays past. -/
theorem bind {m : Fallible E ε β} {f : β → Fallible E ε α} (hm : QuietMeets mark guard R now m)
    (hf : ∀ later b, Quiet mark now later → R later b → QuietMeets mark guard Q later (f b)) :
    QuietMeets mark guard Q now (m >>= f) := by
  apply Fallible.Meets.bind (R := fun later b => Quiet mark now later ∧ R later b)
  · exact hm
  · intro later b hb
    apply (hf later b hb.1 hb.2).mono
    · intro last a ha
      exact ⟨hb.1.trans ha.1, ha.2⟩
    · intro last e he
      exact hb.1.trans he

theorem mapError {f : ε → ε} {m : Fallible E ε α} (hm : QuietMeets mark guard Q now m) :
    QuietMeets mark guard Q now (Fallible.mapError f m) :=
  Fallible.Meets.mapError hm

end QuietMeets

end marked

end Effect
