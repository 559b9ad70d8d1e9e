import CBrain.Agent.Store

/-! # Workers over one run store

    Any number of calls, of any number of workers with one profile, share a
    run store.  They interleave in any way, and any of them may be cut off
    between two operations; a resume is a later call.

    The rule of this file: a condition on stored records and a condition on the
    history of each call hold throughout if every operation that a call may
    perform keeps them.  What has to be shown is about one call and one
    operation, and never about another worker. -/

namespace CBrain

open Effect

/-! ## Section 1: Records across workers -/

/-- The record an answered operation wrote. -/
def written : (o : AgentOp) → o.Ans → Option StoredRunRecord
  | .create r, .ok () => some r
  | .save _ _, .ok saved => some saved
  | .claim _ _, .ok (some claimed) => some claimed
  | _, _ => none

/-- The record an answered operation loaded. -/
def loaded : (o : AgentOp) → o.Ans → Option StoredRunRecord
  | .load _, .ok r => some r
  | _, _ => none

/-- The record an answered operation took from the store. -/
def given : (o : AgentOp) → o.Ans → Option StoredRunRecord
  | .load _, .ok r => some r
  | .claim _ _, .ok (some claimed) => some claimed
  | _, _ => none

theorem given_of_loaded {o : AgentOp} {x : o.Ans} {r : StoredRunRecord} (h : loaded o x = some r) :
    given o x = some r := by
  cases o with
  | load run_id =>
    cases x with
    | ok r' => exact h
    | error e => cases h
  | _ => cases h

/-- Nothing was stored since `r`, or something newer. -/
def Records.Current (m : Records) (r : StoredRunRecord) : Prop :=
  ∃ cur, m r.run_id = some cur ∧ r.version ≤ cur.version ∧ (cur.version = r.version → cur.SameText r)

/-- **What an answer does to the records**: nothing, or it stores the written
    record over nothing or over an older version. -/
theorem Records.Answers.cases {m m' : Records} {o : AgentOp} {x : o.Ans} (hm : m.Keyed)
    (h : m.Answers o x m') :
    (written o x = none ∧ m' = m) ∨
      ∃ r, written o x = some r ∧ m' = Function.update m r.run_id (some r) ∧
        ∀ cur, m r.run_id = some cur → cur.version < r.version := by
  cases o with
  | create r =>
    cases x with
    | ok u =>
      obtain ⟨hnone, rfl⟩ := h
      refine Or.inr ⟨r, rfl, rfl, ?_⟩
      intro cur hcur
      rw [hnone] at hcur
      cases hcur
    | error e => exact Or.inl ⟨rfl, h⟩
  | save r n =>
    cases x with
    | ok saved =>
      obtain ⟨hsaved, ⟨cur, hcur, hversion⟩, rfl⟩ := h
      have hid : saved.run_id = r.run_id := by rw [hsaved]
      have hnew : saved.version = n + 1 := by rw [hsaved]
      refine Or.inr ⟨saved, rfl, by rw [hid], ?_⟩
      intro cur' hcur'
      rw [hid, hcur] at hcur'
      have heq := Option.some.inj hcur'
      subst heq
      omega
    | error e => exact Or.inl ⟨rfl, h⟩
  | claim run_id n =>
    match x, h with
    | .ok (some claimed), ⟨⟨cur, read, hcur, hread, hversion, _, hclaimed⟩, hm'⟩ =>
      have hsame : read.run_id = cur.run_id := hread.sameText.field StoredRunRecord.run_id fun _ => rfl
      have hid : claimed.run_id = run_id := by
        rw [hclaimed]
        exact hsame.trans (hm run_id cur hcur)
      have hnew : claimed.version = n + 1 := by rw [hclaimed]; rfl
      refine Or.inr ⟨claimed, rfl, by rw [hid, hm'], ?_⟩
      intro cur' hcur'
      rw [hid, hcur] at hcur'
      have heq := Option.some.inj hcur'
      subst heq
      omega
    | .ok none, h => exact Or.inl ⟨rfl, h⟩
    | .error e, h => exact Or.inl ⟨rfl, h⟩
  | load run_id =>
    cases x with
    | ok r => exact Or.inl ⟨rfl, h.2⟩
    | error e => exact Or.inl ⟨rfl, h⟩
  | clock | wallClock | cancelled | newRunId | retrieve _ | complete _ _ _ _ | execute _ _ =>
    exact Or.inl ⟨rfl, h⟩

theorem Records.Answers.current {m m' : Records} {o : AgentOp} {x : o.Ans} (hm : m.Keyed)
    (h : m.Answers o x m') {r : StoredRunRecord} (hr : m.Current r) : m'.Current r := by
  rcases h.cases hm with ⟨-, rfl⟩ | ⟨r', -, rfl, hnewer⟩
  · exact hr
  · obtain ⟨cur, hcur, hle, hsame⟩ := hr
    by_cases hid : r.run_id = r'.run_id
    · have hlt := hnewer cur (hid ▸ hcur)
      refine ⟨r', by rw [hid, Function.update_self], by omega, ?_⟩
      intro heq
      omega
    · refine ⟨cur, ?_, hle, hsame⟩
      rw [Function.update_of_ne hid]
      exact hcur

theorem Records.Answers.current_written {m m' : Records} {o : AgentOp} {x : o.Ans} (hm : m.Keyed)
    (h : m.Answers o x m') {r : StoredRunRecord} (hr : written o x = some r) : m'.Current r := by
  rcases h.cases hm with ⟨hnone, -⟩ | ⟨r', hr', rfl, -⟩
  · rw [hr] at hnone
    cases hnone
  · rw [hr] at hr'
    obtain rfl := Option.some.inj hr'
    exact ⟨r, by rw [Function.update_self], by omega, fun _ => StoredRunRecord.SameText.refl r⟩

theorem Records.Answers.loaded {m m' : Records} {o : AgentOp} {x : o.Ans}
    (h : m.Answers o x m') {r : StoredRunRecord} (hr : loaded o x = some r) :
    ∃ run_id cur, m run_id = some cur ∧ r.ReadFrom cur ∧ m' = m := by
  cases o with
  | load run_id =>
    cases x with
    | ok r' =>
      obtain rfl : r' = r := Option.some.inj hr
      obtain ⟨⟨cur, hcur, hsame⟩, hm⟩ := h
      exact ⟨run_id, cur, hcur, hsame, hm⟩
    | error e => cases hr
  | _ => cases hr

theorem Records.Current.ofLoaded {m : Records} (hm : m.Keyed) {run_id : String}
    {r cur : StoredRunRecord} (hcur : m run_id = some cur) (hsame : r.SameText cur) :
    m.Current r := by
  have hid : r.run_id = run_id :=
    (hsame.field StoredRunRecord.run_id fun _ => rfl).trans (hm run_id cur hcur)
  have hversion : r.version = cur.version := hsame.field StoredRunRecord.version fun _ => rfl
  refine ⟨cur, ?_, by omega, fun _ => hsame.symm⟩
  rw [hid]
  exact hcur

/-! ## Section 2: The view of a call -/

/-- The operation sends a completion request. -/
def AgentOp.asks : AgentOp → Bool
  | .complete _ _ _ _ => true
  | _ => false

/-- A call as the store sees it, after its events. -/
def callView (past : List AgentSig.Event) : WorkerView :=
  past.foldl (fun v e => Worker.next v e.1 e.2) ⟨.start, none⟩

@[simp] theorem callView_nil : callView [] = ⟨.start, none⟩ := rfl

@[simp] theorem callView_snoc (past : List AgentSig.Event) (o : AgentOp) (x : o.Ans) :
    callView (past ++ [⟨o, x⟩]) = Worker.next (callView past) o x := by
  simp [callView]

theorem after_workerProtocol (a : FoundationAgent) (input : RunInput) (v : WorkerView)
    (log : List AgentSig.Event) :
    (workerProtocol a input).after v log = log.foldl (fun v e => Worker.next v e.1 e.2) v := by
  induction log generalizing v with
  | nil => rfl
  | cons e log ih => exact ih _

theorem terminalState_isTerminal (status : RunStatus) :
    (terminalState status).isTerminal = true := by
  cases status <;> rfl

/-- A call that saved a terminal record is over. -/
theorem Phase.saved_terminal (p : Phase) {r : StoredRunRecord}
    (h : r.durable_state.isTerminal = true) : p.saved r = .over := by
  unfold Phase.saved
  exact if_pos h

theorem Checkpoint.run_id {a : FoundationAgent} {input : RunInput} {v : WorkerView}
    {r r' : StoredRunRecord} (h : Checkpoint a input v r r') : r'.run_id = r.run_id := by
  cases h <;> rfl

/-- A record a call holds is the one it held, or was written or loaded. -/
theorem record?_next {v : WorkerView} {o : AgentOp} {x : o.Ans} {r : StoredRunRecord}
    (h : (Worker.next v o x).phase.record? = some r) :
    v.phase.record? = some r ∨ written o x = some r ∨ loaded o x = some r := by
  cases o with
  | clock | wallClock | cancelled | newRunId | retrieve _ => exact Or.inl h
  | complete route ms tools n =>
    cases x with
    | error e => exact Or.inl h
    | ok output =>
      cases hr : v.phase.record? with
      | none =>
        simp only [Worker.next, hr] at h
        cases h
      | some r' =>
        simp only [Worker.next, hr] at h
        exact Or.inl h
  | execute action tool =>
    left
    cases hp : v.phase <;> simp only [Worker.next, hp] at h ⊢ <;> exact h
  | create r' =>
    cases x with
    | error e => exact Or.inl h
    | ok u => exact Or.inr (Or.inl h)
  | load run_id =>
    cases x with
    | error e =>
      cases hp : v.phase <;> simp only [Worker.next, hp] at h
      all_goals exact Or.inl h
    | ok r' =>
      cases hp : v.phase <;> simp only [Worker.next, hp] at h
      all_goals first
        | exact Or.inl h
        | exact Or.inr (Or.inr h)
  | save r' n =>
    cases x with
    | error e => exact Or.inl h
    | ok saved =>
      have hsaved : (v.phase.saved saved).record? = some r := h
      unfold Phase.saved at hsaved
      split at hsaved
      · cases hsaved
      · cases hp : v.phase <;> rw [hp] at hsaved
        all_goals first
          | exact Or.inl hsaved
          | exact Or.inr (Or.inl hsaved)
  | claim run_id n =>
    cases x with
    | error e => exact Or.inl h
    | ok answer =>
      cases answer with
      | none => cases h
      | some claimed =>
        cases hp : v.phase <;> simp only [Worker.next, hp] at h
        all_goals exact Or.inr (Or.inl h)

/-- Records that are current answer a call as it relies on. -/
theorem Worker.answers_of {a : FoundationAgent} {input : RunInput} {v : WorkerView} {m m' : Records}
    {o : AgentOp} {x : o.Ans} (hcurrent : ∀ r, v.phase.record? = some r → m.Current r)
    (hallows : Worker.Allows a input v o) (h : m.Answers o x m') : Worker.Answers v o x := by
  cases o with
  | save r n =>
    cases x with
    | ok saved => exact h.1
    | error e => exact trivial
  | claim run_id n =>
    match x, h with
    | .ok (some claimed), ⟨⟨cur, read, hcur, hread, hversion, _, hclaimed⟩, _⟩ =>
      obtain ⟨r, hphase, -, rfl, rfl⟩ := hallows
      have hrecord : v.phase.record? = some r := by
        rcases hphase with hp | hp <;> rw [hp] <;> rfl
      obtain ⟨cur', hcur', -, hsame⟩ := hcurrent r hrecord
      rw [hcur] at hcur'
      obtain rfl := Option.some.inj hcur'
      refine ⟨r, hrecord, ?_⟩
      rw [hclaimed]
      exact (hread.sameText.trans (hsame hversion)).inFlight _
    | .ok none, _ => exact trivial
    | .error e, _ => exact trivial
  | clock | wallClock | cancelled | newRunId | retrieve _ | complete _ _ _ _ | execute _ _
  | create _ | load _ => exact trivial

/-! ## Section 3: The rule -/

/-- Calls that share a run store.  Each is one durable run of a worker's agent
    on an input; all agents have one profile. -/
structure Workers (T : Type) where
  profile : AgentProfile
  agent : T → FoundationAgent
  input : T → RunInput
  same_profile : ∀ t, (agent t).profile = profile

/-- A condition `J` on records and a condition `K` on the history of a call,
    kept as long as the histories are `G`ood. -/
structure Condition (T : Type) where
  J : StoredRunRecord → Prop
  K : T → List AgentSig.Event → Prop
  G : T → List AgentSig.Event → Prop
  reloaded : ∀ r, J r → J r.reloaded
  claimed : ∀ r, r.durable_state = .toolPrepared → J r → J (r.inFlight (r.version + 1))
  start : ∀ t, K t []
  earlier : ∀ t past e, G t (past ++ [e]) → G t past

namespace Condition

variable {T : Type} (C : Condition T)

theorem ofReadFrom {r cur : StoredRunRecord} (h : r.ReadFrom cur) (hcur : C.J cur) : C.J r := by
  rcases h with rfl | rfl
  · exact hcur
  · exact C.reloaded cur hcur

/-- What the store gives satisfies the condition if what it holds does. -/
theorem ofGiven {m m' : Records} {o : AgentOp} {x : o.Ans} {r : StoredRunRecord}
    (hstored : ∀ run_id r, m run_id = some r → C.J r) (h : m.Answers o x m')
    (hr : given o x = some r) : C.J r := by
  cases o with
  | load run_id =>
    cases x with
    | error e => cases hr
    | ok r' =>
      obtain rfl : r' = r := Option.some.inj hr
      obtain ⟨⟨cur, hcur, hread⟩, -⟩ := h
      exact C.ofReadFrom hread (hstored run_id cur hcur)
  | claim run_id n =>
    match x, h, hr with
    | .error e, _, hr => cases hr
    | .ok none, _, hr => cases hr
    | .ok (some claimed), ⟨⟨cur, read, hcur, hread, hversion, hstate, hclaimed⟩, _⟩, hr =>
      obtain rfl : claimed = r := Option.some.inj hr
      have hsame : read.durable_state = cur.durable_state :=
        hread.sameText.field StoredRunRecord.durable_state fun _ => rfl
      have hnumber : read.version = cur.version :=
        hread.sameText.field StoredRunRecord.version fun _ => rfl
      have hkept := C.claimed read (hsame.trans hstate) (C.ofReadFrom hread (hstored run_id cur hcur))
      rw [hclaimed, ← hversion, ← hnumber]
      exact hkept
  | _ => cases hr

/-- Every record a call holds satisfies the condition. -/
def Held (past : List AgentSig.Event) : Prop :=
  ∀ r, (callView past).phase.record? = some r → C.J r

/-- **What has to be shown**: an operation that a call may perform, answered as
    the call relies on, keeps the condition. -/
def KeptBy (w : Workers T) : Prop :=
  ∀ t past (o : AgentOp) (x : o.Ans), C.K t past → C.Held past →
    Worker.Allows (w.agent t) (w.input t) (callView past) o → Worker.Answers (callView past) o x →
    (∀ r, given o x = some r → C.J r) → C.G t (past ++ [⟨o, x⟩]) →
    (∀ r, written o x = some r → C.J r) ∧ C.K t (past ++ [⟨o, x⟩])

/-- The invariant of records and histories. -/
structure Holds (m : Records) (past : T → List AgentSig.Event) : Prop where
  keyed : m.Keyed
  current : ∀ t r, (callView (past t)).phase.record? = some r → m.Current r
  good : (∀ t, C.G t (past t)) →
    (∀ run_id r, m run_id = some r → C.J r) ∧ ∀ t, C.K t (past t) ∧ C.Held (past t)

theorem holds_start : C.Holds (fun _ => none) fun _ => [] where
  keyed := by
    intro _ _ h
    cases h
  current := by
    intro _ _ h
    cases h
  good := by
    intro _
    constructor
    · intro _ _ h
      cases h
    · intro t
      refine ⟨C.start t, ?_⟩
      intro _ h
      cases h

variable {C} {w : Workers T}

/-- **Step lemma**. -/
theorem Holds.step (hC : C.KeptBy w) {m m' : Records} {past past' : T → List AgentSig.Event}
    (h : C.Holds m past) {t : T} {o : AgentOp} {x : o.Ans}
    (hallows : Worker.Allows (w.agent t) (w.input t) (callView (past t)) o)
    (hm' : m.Answers o x m') (hself : past' t = past t ++ [⟨o, x⟩])
    (hother : ∀ u, u ≠ t → past' u = past u) :
    Worker.Answers (callView (past t)) o x ∧ C.Holds m' past' := by
  have hanswers := Worker.answers_of (h.current t) hallows hm'
  have hview : callView (past' t) = Worker.next (callView (past t)) o x := by
    rw [hself, callView_snoc]
  refine ⟨hanswers, hm'.keyed h.keyed, ?_, ?_⟩
  · intro u r hr
    by_cases hu : u = t
    · subst hu
      rw [hview] at hr
      rcases record?_next hr with hold | hwritten | hloaded
      · exact hm'.current h.keyed (h.current u r hold)
      · exact hm'.current_written h.keyed hwritten
      · obtain ⟨run_id, cur, hcur, hsame, rfl⟩ := hm'.loaded hloaded
        exact Records.Current.ofLoaded h.keyed hcur hsame.sameText
    · rw [hother u hu] at hr
      exact hm'.current h.keyed (h.current u r hr)
  · intro hgood
    have hbefore : ∀ u, C.G u (past u) := by
      intro u
      by_cases hu : u = t
      · subst hu
        have hg := hgood u
        rw [hself] at hg
        exact C.earlier u _ _ hg
      · rw [← hother u hu]
        exact hgood u
    obtain ⟨hstored, hcalls⟩ := h.good hbefore
    have hgiven : ∀ r, given o x = some r → C.J r := by
      intro r hr
      exact C.ofGiven hstored hm' hr
    have hg := hgood t
    rw [hself] at hg
    obtain ⟨hwritten, hK⟩ := hC t (past t) o x (hcalls t).1 (hcalls t).2 hallows hanswers hgiven hg
    refine ⟨?_, ?_⟩
    · intro run_id r hr
      rcases hm'.cases h.keyed with ⟨-, rfl⟩ | ⟨r', hr', rfl, -⟩
      · exact hstored run_id r hr
      · by_cases hid : run_id = r'.run_id
        · rw [hid, Function.update_self] at hr
          obtain rfl := Option.some.inj hr
          exact hwritten r' hr'
        · rw [Function.update_of_ne hid] at hr
          exact hstored run_id r hr
    · intro u
      by_cases hu : u = t
      · subst hu
        refine ⟨by rw [hself]; exact hK, ?_⟩
        intro r hr
        rw [hview] at hr
        rcases record?_next hr with hold | hnew | hnew
        · exact (hcalls u).2 r hold
        · exact hwritten r hnew
        · exact hgiven r (given_of_loaded hnew)
      · rw [hother u hu]
        exact hcalls u

/-- A condition is kept if the four ways an operation can matter keep it: a run
    is created, a checkpoint is saved, a dispatch is claimed, or nothing is
    written. -/
theorem KeptBy.of {C : Condition T} {w : Workers T}
    (hcreate : ∀ t past r, C.K t past → (callView past).phase = .absent →
      Opening (w.agent t) (w.input t) r → C.G t (past ++ [⟨.create r, .ok ()⟩]) →
      C.J r ∧ C.K t (past ++ [⟨.create r, .ok ()⟩]))
    (hsave : ∀ t past r r', C.K t past → (callView past).phase.record? = some r → C.J r →
      Checkpoint (w.agent t) (w.input t) (callView past) r r' →
      C.J { r' with version := r.version + 1 } ∧
        C.K t (past ++ [⟨.save r' r.version, .ok { r' with version := r.version + 1 }⟩]))
    (hclaim : ∀ t past r claimed, C.K t past →
      (callView past).phase = .prepared r ∨ (callView past).phase = .held r →
      r.durable_state = .toolPrepared → C.J claimed → claimed.SameText (r.inFlight (r.version + 1)) →
      C.K t (past ++ [⟨.claim r.run_id r.version, .ok (some claimed)⟩]))
    (hother : ∀ t past (o : AgentOp) (x : o.Ans), C.K t past → C.Held past → written o x = none →
      Worker.Allows (w.agent t) (w.input t) (callView past) o →
      (∀ r, given o x = some r → C.J r) → C.G t (past ++ [⟨o, x⟩]) →
      C.K t (past ++ [⟨o, x⟩])) :
    C.KeptBy w := by
  intro t past o x hK hheld hallows hanswers hgiven hgood
  have hquiet (hnone : written o x = none) :
      (∀ r, written o x = some r → C.J r) ∧ C.K t (past ++ [⟨o, x⟩]) := by
    refine ⟨?_, hother t past o x hK hheld hnone hallows hgiven hgood⟩
    intro r hr
    rw [hnone] at hr
    cases hr
  cases o with
  | create r =>
    cases x with
    | error e => exact hquiet rfl
    | ok u =>
      obtain ⟨hJ, hnext⟩ := hcreate t past r hK hallows.1 hallows.2 hgood
      refine ⟨?_, hnext⟩
      intro r' hr'
      obtain rfl := Option.some.inj hr'
      exact hJ
  | save r' n =>
    cases x with
    | error e => exact hquiet rfl
    | ok saved =>
      obtain ⟨r, hr, rfl, hcheckpoint⟩ := hallows
      obtain rfl : saved = { r' with version := r.version + 1 } := hanswers
      obtain ⟨hJ, hnext⟩ := hsave t past r r' hK hr (hheld r hr) hcheckpoint
      refine ⟨?_, hnext⟩
      intro s hs
      obtain rfl := Option.some.inj hs
      exact hJ
  | claim run_id n =>
    cases x with
    | error e => exact hquiet rfl
    | ok answer =>
      cases answer with
      | none => exact hquiet rfl
      | some claimed =>
        obtain ⟨r, hphase, hstate, rfl, rfl⟩ := hallows
        have hrecord : (callView past).phase.record? = some r := by
          rcases hphase with hp | hp <;> rw [hp] <;> rfl
        obtain ⟨s, hs, hsame⟩ := hanswers
        rw [hrecord] at hs
        obtain rfl := Option.some.inj hs
        have hJ := hgiven claimed rfl
        refine ⟨?_, hclaim t past r claimed hK hphase hstate hJ hsame⟩
        intro s hs
        obtain rfl := Option.some.inj hs
        exact hJ
  | clock | wallClock | cancelled | newRunId | retrieve _ | complete _ _ _ _ | execute _ _
  | load _ => exact hquiet rfl

end Condition

/-! ## Section 4: The record a call started from -/

/-- The record an answered operation gives a call to start from. -/
def opened : (o : AgentOp) → o.Ans → Option StoredRunRecord
  | .create r, .ok () => some r
  | .load _, .ok r => some r
  | _, _ => none

/-- The record a call created, or the one it resumed. -/
def startedFrom (past : List AgentSig.Event) : Option StoredRunRecord :=
  past.findSome? fun e => opened e.1 e.2

theorem startedFrom_snoc (past : List AgentSig.Event) (o : AgentOp) (x : o.Ans) :
    startedFrom (past ++ [⟨o, x⟩]) = (startedFrom past).or (opened o x) := by
  unfold startedFrom
  rw [List.findSome?_append]
  congr 1
  cases h : opened o x <;> simp [h]

theorem startedFrom_earlier {past : List AgentSig.Event} {e : AgentSig.Event} {r : StoredRunRecord}
    (h : startedFrom past = some r) : startedFrom (past ++ [e]) = some r := by
  rw [startedFrom_snoc past e.1 e.2, h]
  rfl

/-- A call holds the record it started from until it saves or claims. -/
structure Starts (past : List AgentSig.Event) : Prop where
  nothing : (callView past).phase = .start ∨ (callView past).phase = .absent →
    startedFrom past = none
  held : ∀ r, (callView past).phase = .held r → startedFrom past = some r

theorem starts_nil : Starts [] where
  nothing := fun _ => rfl
  held := fun _ h => nomatch h

theorem Starts.snoc {a : FoundationAgent} {input : RunInput} {past : List AgentSig.Event}
    {o : AgentOp} {x : o.Ans} (h : Starts past) (hallows : Worker.Allows a input (callView past) o) :
    Starts (past ++ [⟨o, x⟩]) := by
  -- An operation that opens nothing and stays in a phase leaves both facts as they are.
  have hsame (hopened : opened o x = none)
      (hphase : (Worker.next (callView past) o x).phase = (callView past).phase) :
      Starts (past ++ [⟨o, x⟩]) := by
    constructor
    · rw [callView_snoc, hphase, startedFrom_snoc, hopened, Option.or_none]
      exact h.nothing
    · rw [callView_snoc, hphase, startedFrom_snoc, hopened, Option.or_none]
      exact h.held
  -- A phase that only a started call is in is of no concern.
  have hlater (hheld : ∀ r, (Worker.next (callView past) o x).phase ≠ .held r)
      (hstart : (Worker.next (callView past) o x).phase ≠ .start)
      (habsent : (Worker.next (callView past) o x).phase ≠ .absent) :
      Starts (past ++ [⟨o, x⟩]) := by
    constructor
    · rw [callView_snoc]
      intro hphase
      rcases hphase with hp | hp
      · exact absurd hp hstart
      · exact absurd hp habsent
    · rw [callView_snoc]
      intro r hp
      exact absurd hp (hheld r)
  cases o with
  | clock | wallClock | cancelled | newRunId | retrieve _ => exact hsame rfl rfl
  | complete route ms tools n =>
    cases x with
    | error e => exact hsame rfl rfl
    | ok output =>
      cases hr : (callView past).phase.record? with
      | none => exact hsame rfl (by simp only [Worker.next, hr])
      | some r => apply hlater <;> simp [Worker.next, hr]
  | execute action tool =>
    obtain ⟨r, resumed, hphase, -⟩ := hallows
    apply hlater <;> simp [Worker.next, hphase]
  | create r =>
    cases x with
    | error e => exact hsame rfl rfl
    | ok u =>
      constructor
      · rw [callView_snoc]
        intro hphase
        rcases hphase with hp | hp <;> cases hp
      · rw [callView_snoc, startedFrom_snoc, h.nothing (Or.inr hallows.1)]
        intro r' hp
        obtain rfl := Phase.held.inj hp
        rfl
  | load run_id =>
    rcases hallows with hphase | hphase
    · cases x with
      | error e =>
        constructor
        · intro _
          rw [startedFrom_snoc, h.nothing (Or.inl hphase)]
          rfl
        · rw [callView_snoc]
          intro r hp
          simp [Worker.next, hphase] at hp
      | ok r =>
        constructor
        · rw [callView_snoc]
          intro hp
          simp [Worker.next, hphase] at hp
        · rw [callView_snoc, startedFrom_snoc, h.nothing (Or.inl hphase)]
          intro r' hp
          simp only [Worker.next, hphase] at hp
          obtain rfl := Phase.held.inj hp
          rfl
    · have hlost : (Worker.next (callView past) (.load run_id) x).phase = .lost := by
        cases x <;> simp [Worker.next, hphase]
      apply hlater <;> simp [hlost]
  | save r' n =>
    obtain ⟨r, hr, -, -⟩ := hallows
    cases x with
    | error e => exact hsame rfl rfl
    | ok saved =>
      have hphase : (Worker.next (callView past) (.save r' n) (.ok saved)).phase =
          (callView past).phase.saved saved := rfl
      apply hlater
      all_goals
        rw [hphase]
        unfold Phase.saved
        split
        · simp
        · cases hp : (callView past).phase <;> simp_all [Phase.record?]
  | claim run_id n =>
    cases x with
    | error e => exact hsame rfl rfl
    | ok answer =>
      cases answer with
      | none => apply hlater <;> simp [Worker.next]
      | some claimed =>
        cases hp : (callView past).phase <;> apply hlater <;> simp [Worker.next, hp]

/-! ## Section 5: Runs of the workers -/

namespace Workers

variable {T : Type} [DecidableEq T]

/-- A configuration the workers can reach. -/
def Reachable (w : Workers T) (store : LawfulRunStore)
    (c : Config AgentSig T store.State (Except Exn RunResult)) : Prop :=
  Config.Reachable store.answering (fun t => (runDurable (w.agent t) (w.input t)).run) store.empty c

/-- **Run rule with a witness**: next to a condition, whatever each answered
    operation of a run keeps. -/
theorem Reachable.tracks {w : Workers T} {store : LawfulRunStore}
    {c : Config AgentSig T store.State (Except Exn RunResult)} (hc : w.Reachable store c)
    {C : Condition T} (hC : C.KeptBy w) {I : Records → store.State → List (T × AgentSig.Event) → Prop}
    (hstart : I (fun _ => none) store.empty [])
    (hstep : ∀ m s log t (o : AgentOp) (x : o.Ans) m' s',
      C.Holds m (fun u => ofThread u log) → store.Represents m s → I m s log →
      Worker.Allows (w.agent t) (w.input t) (callView (ofThread t log)) o →
      store.answering s o x s' → m.Answers o x m' → store.Represents m' s' →
      C.Holds m' (fun u => ofThread u (log ++ [(t, ⟨o, x⟩)])) → I m' s' (log ++ [(t, ⟨o, x⟩)])) :
    ∃ m, store.Represents m c.shared ∧ C.Holds m (fun t => ofThread t c.log) ∧ I m c.shared c.log := by
  have hprogram (t : T) := runDurable_walk (w.agent t) (w.input t)
  refine (Config.Reachable.invariant
    (I := fun s log => ∃ m, store.Represents m s ∧ C.Holds m (fun t => ofThread t log) ∧ I m s log)
    (v := fun _ => ⟨.start, none⟩) (P := fun t => workerProtocol (w.agent t) (w.input t))
    hprogram ⟨_, store.represents_empty, C.holds_start, hstart⟩ ?_ hc).1
  rintro s log t o x s' ⟨m, hm, h, hI⟩ hallows hanswer
  rw [after_workerProtocol] at hallows ⊢
  obtain ⟨m', hm', hrep⟩ := store.answers hm hanswer
  have hkept : _ ∧ C.Holds m' fun u => ofThread u (log ++ [(t, ⟨o, x⟩)]) :=
    h.step hC hallows hm' (ofThread_self t log ⟨o, x⟩)
      fun u hu => ofThread_other (Ne.symm hu) log ⟨o, x⟩
  exact ⟨hkept.1, m', hrep, hkept.2, hstep m s log t o x m' s' h hm hI hallows hanswer hm' hrep hkept.2⟩

/-- **Run rule**: a condition that one operation of one call keeps holds in
    every configuration whose histories are good. -/
theorem Reachable.holds {w : Workers T} {store : LawfulRunStore}
    {c : Config AgentSig T store.State (Except Exn RunResult)} (hc : w.Reachable store c)
    {C : Condition T} (hC : C.KeptBy w) :
    ∃ m, store.Represents m c.shared ∧ C.Holds m fun t => ofThread t c.log := by
  obtain ⟨m, hm, h, -⟩ := hc.tracks hC (I := fun _ _ _ => True) trivial
    fun _ _ _ _ _ _ _ _ _ _ _ _ _ _ _ _ => trivial
  exact ⟨m, hm, h⟩

end Workers

end CBrain
