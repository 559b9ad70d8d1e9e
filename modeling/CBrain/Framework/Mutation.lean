import Mathlib.Tactic.Common

/-! # Programs over a state that may raise

    A raise does not undo what was written before it: a program ends in a value
    or an exception, and in a state either way.

    * `Reads`  : the state is never written.
    * `Atomic` : the state is not written where the program raises.
    * `Yields` : what is known of the answer.
    * `Respects` : related states are not told apart. -/

/-- A program over a state `S` that may raise. -/
abbrev Mutation (ε S α : Type) : Type := ExceptT ε (StateM S) α

namespace Mutation

variable {ε S α β : Type}

/-- Run the program on a state. -/
def exec (m : Mutation ε S α) (s : S) : Except ε α × S := StateT.run (ExceptT.run m) s

/-- A computation that only may raise. -/
def raising (x : Except ε α) : Mutation ε S α := ExceptT.mk fun s => (x, s)

/-- Write the state. -/
def write (f : S → S) : Mutation ε S Unit := ExceptT.mk fun s => (.ok (), f s)

/-- Read the state. -/
def read (f : S → α) : Mutation ε S α := ExceptT.mk fun s => (.ok (f s), s)

@[simp] theorem exec_pure (a : α) (s : S) : exec (pure a : Mutation ε S α) s = (.ok a, s) := rfl

@[simp] theorem exec_raising (x : Except ε α) (s : S) : exec (raising x) s = (x, s) := rfl

@[simp] theorem exec_write (f : S → S) (s : S) :
    exec (write f : Mutation ε S Unit) s = (.ok (), f s) := rfl

@[simp] theorem exec_read (f : S → α) (s : S) :
    exec (read f : Mutation ε S α) s = (.ok (f s), s) := rfl

/-- **Sequencing**: an exception of the first part skips the second, and keeps
    what the first part has written. -/
theorem exec_bind (m : Mutation ε S α) (f : α → Mutation ε S β) (s : S) :
    exec (m >>= f) s =
      match exec m s with
      | (.ok a, s') => exec (f a) s'
      | (.error e, s') => (.error e, s') := by
  show StateT.run (ExceptT.run (m >>= f)) s = _
  rw [ExceptT.run_bind, StateT.run_bind]
  unfold exec
  obtain ⟨r, s'⟩ := StateT.run (ExceptT.run m) s
  cases r with
  | ok a => rfl
  | error e => rfl

theorem exec_bind_ok {m : Mutation ε S α} {f : α → Mutation ε S β} {s s' : S} {a : α}
    (h : exec m s = (.ok a, s')) : exec (m >>= f) s = exec (f a) s' := by
  rw [exec_bind, h]

theorem exec_bind_error {m : Mutation ε S α} {f : α → Mutation ε S β} {s s' : S} {e : ε}
    (h : exec m s = (.error e, s')) : exec (m >>= f) s = (.error e, s') := by
  rw [exec_bind, h]

/-! ## Programs that only read -/

/-- The state is never written. -/
def Reads (m : Mutation ε S α) : Prop := ∀ s, (exec m s).2 = s

/-- Begun in this state, the program does not write if it raises. -/
def AtomicAt (m : Mutation ε S α) (s : S) : Prop :=
  ∀ e, (exec m s).1 = .error e → (exec m s).2 = s

/-- The state is not written where the program raises. -/
def Atomic (m : Mutation ε S α) : Prop := ∀ s, AtomicAt m s

theorem Reads.atomic {m : Mutation ε S α} (h : Reads m) : Atomic m := fun s _ _ => h s

theorem reads_pure (a : α) : Reads (pure a : Mutation ε S α) := fun _ => rfl

theorem reads_raising (x : Except ε α) : Reads (raising x : Mutation ε S α) := fun _ => rfl

theorem reads_read (f : S → α) : Reads (read f : Mutation ε S α) := fun _ => rfl

theorem Reads.bind {m : Mutation ε S α} {f : α → Mutation ε S β} (hm : Reads m)
    (hf : ∀ a, Reads (f a)) : Reads (m >>= f) := by
  intro s
  have hs := hm s
  rw [exec_bind]
  rcases hrun : exec m s with ⟨r, s'⟩
  rw [hrun] at hs
  obtain rfl : s' = s := hs
  cases r with
  | ok a => exact hf a s'
  | error e => rfl

/-- **First read, then write**: a program is atomic when the part before the
    writes only reads. -/
theorem Reads.bind_atomic {m : Mutation ε S α} {f : α → Mutation ε S β} (hm : Reads m)
    (hf : ∀ a, Atomic (f a)) : Atomic (m >>= f) := by
  intro s e h
  have hs := hm s
  rw [exec_bind] at h ⊢
  rcases hrun : exec m s with ⟨r, s'⟩
  rw [hrun] at hs h
  obtain rfl : s' = s := hs
  cases r with
  | ok a => exact hf a s' e h
  | error e => rfl

/-- What only raises where nothing was written before. -/
theorem raising_bind_atomic {x : Except ε α} {f : α → Mutation ε S β}
    (hf : ∀ a, x = .ok a → Atomic (f a)) : Atomic (raising x >>= f) := by
  intro s e h
  rw [exec_bind, exec_raising] at h ⊢
  cases x with
  | ok a => exact hf a rfl s e h
  | error e => rfl

/-- A write at the end is kept with its answer. -/
theorem atomic_write (f : S → S) (a : α) :
    Atomic (write f >>= fun _ => (pure a : Mutation ε S α)) := by
  intro s e he
  cases he

/-- A program that only reads ends with its answer in the state it began in. -/
theorem Reads.exec_eq {m : Mutation ε S α} (h : Reads m) (s : S) :
    exec m s = ((exec m s).1, s) := Prod.ext rfl (h s)

/-- What a program that only reads is followed by begins in the same state. -/
theorem Reads.exec_bind {m : Mutation ε S α} (h : Reads m) (f : α → Mutation ε S β) (s : S) :
    exec (m >>= f) s =
      match (exec m s).1 with
      | .ok a => exec (f a) s
      | .error e => (.error e, s) := by
  rw [Mutation.exec_bind, h.exec_eq s]
  cases (exec m s).1 with
  | ok a => rfl
  | error e => rfl

/-- Where a program that only reads is followed by another, the last state is the
    first one or that of the other. -/
theorem Reads.bind_final {P : S → Prop} {m : Mutation ε S α} {f : α → Mutation ε S β} {s : S}
    (h : Reads m) (hfirst : P s) (hrest : ∀ a, (exec m s).1 = .ok a → P (exec (f a) s).2) :
    P (exec (m >>= f) s).2 := by
  rw [h.exec_bind]
  cases hrun : (exec m s).1 with
  | ok a => exact hrest a hrun
  | error e => exact hfirst

theorem Reads.bind_ok {m : Mutation ε S α} {f : α → Mutation ε S β} {s : S} {b : β}
    (h : Reads m) :
    (exec (m >>= f) s).1 = .ok b ↔ ∃ a, (exec m s).1 = .ok a ∧ (exec (f a) s).1 = .ok b := by
  rw [h.exec_bind]
  cases (exec m s).1 with
  | ok a => simp
  | error e => simp

/-- A run that returns goes through what was read. -/
theorem Reads.bind_run {m : Mutation ε S α} {f : α → Mutation ε S β} {s : S} {b : β}
    (h : Reads m) (hrun : (exec (m >>= f) s).1 = .ok b) :
    ∃ a, (exec m s).1 = .ok a ∧ exec (m >>= f) s = exec (f a) s := by
  rw [h.exec_bind] at hrun ⊢
  cases ha : (exec m s).1 with
  | ok a => exact ⟨a, rfl, rfl⟩
  | error e =>
    rw [ha] at hrun
    cases hrun

theorem raising_bind_ok {x : Except ε α} {f : α → Mutation ε S β} {s : S} {b : β} :
    (exec (raising x >>= f) s).1 = .ok b ↔ ∃ a, x = .ok a ∧ (exec (f a) s).1 = .ok b :=
  (reads_raising x).bind_ok

@[simp] theorem exec_ok_bind (a : α) (f : α → Mutation ε S β) (s : S) :
    exec (raising (.ok a) >>= f) s = exec (f a) s := rfl

@[simp] theorem exec_error_bind (e : ε) (f : α → Mutation ε S β) (s : S) :
    exec (raising (.error e) >>= f) s = (.error e, s) := rfl

@[simp] theorem exec_read_bind (g : S → α) (f : α → Mutation ε S β) (s : S) :
    exec (read g >>= f) s = exec (f (g s)) s := rfl

@[simp] theorem exec_write_bind (g : S → S) (f : Unit → Mutation ε S β) (s : S) :
    exec (write g >>= f) s = exec (f ()) (g s) := rfl

/-- Changing the answer changes nothing else. -/
theorem exec_bind_pure (m : Mutation ε S α) (f : α → β) (s : S) :
    exec (m >>= fun a => pure (f a)) s = ((exec m s).1.map f, (exec m s).2) := by
  rw [exec_bind]
  rcases hrun : exec m s with ⟨r, s'⟩
  cases r with
  | ok a => rfl
  | error e => rfl

/-- What follows a part that only reads is atomic where that part returns. -/
theorem Reads.bind_atomicAt {m : Mutation ε S α} {f : α → Mutation ε S β} {s : S} (h : Reads m) :
    AtomicAt (m >>= f) s ↔ ∀ a, (exec m s).1 = .ok a → AtomicAt (f a) s := by
  unfold AtomicAt
  rw [h.exec_bind]
  cases (exec m s).1 with
  | ok a => simp
  | error e => simp

theorem atomicAt_bind_pure {m : Mutation ε S α} {f : α → β} {s : S} :
    AtomicAt (m >>= fun a => pure (f a)) s ↔ AtomicAt m s := by
  unfold AtomicAt
  rw [exec_bind_pure]
  cases (exec m s).1 with
  | ok a => simp [Except.map]
  | error e => simp [Except.map]

theorem atomic_bind_pure {m : Mutation ε S α} {f : α → β} (h : Atomic m) :
    Atomic (m >>= fun a => pure (f a)) := fun s => atomicAt_bind_pure.mpr (h s)

/-! ## Answers -/

/-- The answer, if there is one, is as described. -/
def Yields (Q : α → Prop) (m : Mutation ε S α) : Prop := ∀ s a, (exec m s).1 = .ok a → Q a

theorem yields_pure {Q : α → Prop} {a : α} (h : Q a) : Yields Q (pure a : Mutation ε S α) := by
  intro s b hb
  obtain rfl := Except.ok.inj hb
  exact h

theorem yields_raising {Q : α → Prop} {x : Except ε α} (h : ∀ a, x = .ok a → Q a) :
    Yields Q (raising x : Mutation ε S α) := by
  intro s b hb
  exact h b hb

theorem Yields.bind {P : α → Prop} {Q : β → Prop} {m : Mutation ε S α} {f : α → Mutation ε S β}
    (hm : Yields P m) (hf : ∀ a, P a → Yields Q (f a)) : Yields Q (m >>= f) := by
  intro s b hb
  rw [exec_bind] at hb
  rcases hrun : exec m s with ⟨r, s'⟩
  rw [hrun] at hb
  cases r with
  | ok a =>
    have ha : (exec m s).1 = .ok a := by rw [hrun]
    exact hf a (hm s a ha) s' b hb
  | error e => cases hb

/-- Only the last part has to be as described. -/
theorem yields_bind {Q : β → Prop} {m : Mutation ε S α} {f : α → Mutation ε S β}
    (hf : ∀ a, Yields Q (f a)) : Yields Q (m >>= f) :=
  Yields.bind (P := fun _ => True) (fun _ _ _ => True.intro) fun a _ => hf a

/-! ## Two runs -/

/-- From related states the program answers alike, and ends in related states. -/
def Respects (R : S → S → Prop) (m : Mutation ε S α) : Prop :=
  ∀ s t, R s t → (exec m s).1 = (exec m t).1 ∧ R (exec m s).2 (exec m t).2

section respects
variable {R : S → S → Prop}

theorem respects_pure (a : α) : Respects R (pure a : Mutation ε S α) :=
  fun _ _ h => ⟨rfl, h⟩

theorem respects_raising (x : Except ε α) : Respects R (raising x : Mutation ε S α) :=
  fun _ _ h => ⟨rfl, h⟩

/-- What is read has to be the same in related states. -/
theorem respects_read {f : S → α} (hf : ∀ s t, R s t → f s = f t) :
    Respects R (read f : Mutation ε S α) :=
  fun s t h => ⟨congrArg Except.ok (hf s t h), h⟩

/-- What is written has to keep states related. -/
theorem respects_write {f : S → S} (hf : ∀ s t, R s t → R (f s) (f t)) :
    Respects R (write f : Mutation ε S Unit) :=
  fun s t h => ⟨rfl, hf s t h⟩

/-- Only the answers that the first part can give matter to the second. -/
theorem Respects.bind_of {m : Mutation ε S α} {f : α → Mutation ε S β} (hm : Respects R m)
    (hf : ∀ a s t, R s t → (exec m s).1 = .ok a → Respects R (f a)) : Respects R (m >>= f) := by
  intro s t h
  obtain ⟨hanswer, hstate⟩ := hm s t h
  have hcontinue := fun a => hf a s t h
  rw [exec_bind, exec_bind]
  rcases hs : exec m s with ⟨r, s'⟩
  rcases ht : exec m t with ⟨r', t'⟩
  rw [hs, ht] at hanswer hstate
  rw [hs] at hcontinue
  obtain rfl : r = r' := hanswer
  cases r with
  | ok a => exact hcontinue a rfl s' t' hstate
  | error e => exact ⟨rfl, hstate⟩

theorem Respects.bind {m : Mutation ε S α} {f : α → Mutation ε S β} (hm : Respects R m)
    (hf : ∀ a, Respects R (f a)) : Respects R (m >>= f) :=
  hm.bind_of fun a _ _ _ _ => hf a

/-- What follows a check may use what was checked. -/
theorem respects_raising_bind {x : Except ε α} {f : α → Mutation ε S β}
    (hf : ∀ a, x = .ok a → Respects R (f a)) : Respects R (raising x >>= f) :=
  (respects_raising x).bind_of fun a _ _ _ ha => hf a ha

end respects

end Mutation
