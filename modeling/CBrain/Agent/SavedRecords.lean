import CBrain.Agent.StoreAgreement

/-! # Saved records

    What a durable call saves is what its JSON text restores, and its messages are
    the ones the loop held, as long as the call is given JSON values only.

    The step of a call is what it may save (`Worker.Allows`); the run rule of the
    workers makes a law of every record of a run from it. -/

namespace CBrain

open Effect
open Json (Dict)

/-- The record that an operation gives a store to keep, answered or not; a claim
    that succeeds leaves one as well. -/
def submitted : (o : AgentOp) → o.Ans → Option StoredRunRecord
  | .create r, _ => some r
  | .save r n, _ => some { r with version := n + 1 }
  | .claim _ _, .ok (some claimed) => some claimed
  | _, _ => none

/-- The record of an event of a run. -/
def savedRecord (e : AgentSig.Event) : Option StoredRunRecord := submitted e.1 e.2

namespace StoredRunRecord

/-- The messages of the record are messages of the loop in their stored form. -/
def HasMessages (r : StoredRunRecord) : Prop :=
  ∃ messages : List Message, r.messages = messages.map serializeMessage

/-- The text of the record restores it, and its messages are read back as the
    ones they were written for. -/
structure RoundTrips (r : StoredRunRecord) : Prop where
  record : ∃ raw, r.toJson = .ok raw ∧ fromJson raw = .ok r
  messages : ∃ messages : List Message, r.messages = messages.map serializeMessage ∧
    deserializeMessages r.messages = .ok messages

theorem RoundTrips.of {r : StoredRunRecord} (h : r.Restorable) (hmessages : r.HasMessages) :
    r.RoundTrips := by
  obtain ⟨messages, hstored⟩ := hmessages
  refine ⟨fromJson_toJson h, messages, hstored, ?_⟩
  rw [hstored, deserializeMessages_serialized]

end StoredRunRecord

/-! ## Section 1: What a call saves -/

theorem opening_hasMessages {a : FoundationAgent} {input : RunInput} {r : StoredRunRecord}
    (h : Opening a input r) : r.HasMessages := by
  obtain ⟨run_id, started, expires, opening, event, durable_input, -, -, -, -, rfl⟩ := h
  exact ⟨opening, rfl⟩

/-- Every checkpoint writes the messages anew. -/
theorem checkpoint_hasMessages {a : FoundationAgent} {input : RunInput} {v : WorkerView}
    {r r' : StoredRunRecord} (h : Checkpoint a input v r r') (version : Nat) :
    ({ r' with version := version } : StoredRunRecord).HasMessages := by
  cases h with
  | turn => exact ⟨_, rfl⟩
  | prepare => exact ⟨_, rfl⟩
  | complete => exact ⟨_, rfl⟩
  | advance => exact ⟨_, rfl⟩
  | terminal => exact ⟨_, rfl⟩

variable {T : Type}

/-- The condition on records and calls, with the messages of the records. -/
def savedCondition : Condition T where
  J := fun r => r.Restorable ∧ r.HasMessages
  K := fun _ past => SavesPlain past
  G := fun _ past => PlainOutputs past
  reloaded := by
    intro r h
    rw [h.1.reloaded]
    exact h
  claimed := fun r hstate h => ⟨h.1.inFlight hstate (r.version + 1), h.2⟩
  start := savesPlain_start
  earlier := plainOutputs_earlier

/-- **Step lemma**: what an allowed operation submits round-trips. -/
theorem submitted_roundTrips {w : Workers T} (hinputs : ∀ t, (w.input t).PlainMetadata) {t : T}
    {past : List AgentSig.Event} {o : AgentOp} {x : o.Ans} {r : StoredRunRecord}
    (hK : SavesPlain past) (hheld : (savedCondition (T := T)).Held past)
    (hallows : Worker.Allows (w.agent t) (w.input t) (callView past) o)
    (hgiven : ∀ r, given o x = some r → (savedCondition (T := T)).J r)
    (hr : submitted o x = some r) : r.Restorable ∧ r.HasMessages := by
  cases o with
  | create r' =>
    obtain rfl : r' = r := Option.some.inj hr
    exact ⟨restorable_opening (hinputs t) hallows.2, opening_hasMessages hallows.2⟩
  | save r' n =>
    obtain ⟨held, hrecord, rfl, hcheckpoint⟩ := hallows
    obtain rfl := Option.some.inj hr
    have hrestorable := restorable_checkpoint (hinputs t) (hheld held hrecord).1
      (fun execution resumed hphase => hK held execution resumed hphase) hcheckpoint
    exact ⟨hrestorable, checkpoint_hasMessages hcheckpoint _⟩
  | claim run_id n =>
    match x, hr, hgiven with
    | .ok (some claimed), hr, hgiven =>
      obtain rfl : claimed = r := Option.some.inj hr
      exact hgiven claimed rfl
    | .ok none, hr, _ => cases hr
    | .error e, hr, _ => cases hr
  | clock | wallClock | cancelled | newRunId | retrieve _ | complete _ _ _ _ | execute _ _
  | load _ => cases hr

/-- What an operation wrote, it had submitted. -/
theorem submitted_of_written {v : WorkerView} {o : AgentOp} {x : o.Ans} {r : StoredRunRecord}
    (hanswers : Worker.Answers v o x) (h : written o x = some r) : submitted o x = some r := by
  cases o with
  | create r' =>
    cases x with
    | ok u => exact h
    | error e => cases h
  | save r' n =>
    cases x with
    | ok saved =>
      obtain rfl : saved = r := Option.some.inj h
      exact congrArg some hanswers.symm
    | error e => cases h
  | claim run_id n =>
    match x, h with
    | .ok (some claimed), h => exact h
    | .ok none, h => cases h
    | .error e, h => cases h
  | clock | wallClock | cancelled | newRunId | retrieve _ | complete _ _ _ _ | execute _ _
  | load _ => cases h

theorem savedCondition_kept {w : Workers T} (hinputs : ∀ t, (w.input t).PlainMetadata) :
    (savedCondition (T := T)).KeptBy w := by
  intro t past o x hK hheld hallows hanswers hgiven hgood
  have hplain := plainCondition_kept hinputs t past o x hK (fun r hr => (hheld r hr).1) hallows
    hanswers (fun r hr => (hgiven r hr).1) hgood
  refine ⟨fun r hr => ?_, hplain.2⟩
  exact submitted_roundTrips hinputs hK hheld hallows hgiven (submitted_of_written hanswers hr)

/-! ## Section 2: Every record of a run -/

end CBrain
