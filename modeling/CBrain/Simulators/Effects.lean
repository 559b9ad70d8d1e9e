import CBrain.Simulators.Contracts

/-! # Idempotent effects

    What `execute` does, for any simulator whose receipts can be captured: how
    one call ends, and what a sequence of calls keeps.

    * `Committed`     : an earlier call was answered with the receipt.
    * `Orderly`       : replays, conflicts, failures and the version of one call.
    * `orderly_iff`   : when a call is orderly.  Apart from a reused key, only
      a failure of `_apply` after it has written can be in the way. -/

namespace CBrain.Simulators

open Json (Dict)
open Mutation (exec)

/-! ## Section 1: Finite results -/

@[simp] theorem finite_nat (n : Nat) : Json.finite (Value.nat n).1 = true := rfl

@[simp] theorem finite_optText (s : Option String) : Json.finite (Value.optText s).1 = true := by
  cases s <;> rfl

@[simp] theorem finite_dict (d : Dict) :
    Json.finite (Value.dict d).1 = Json.finite d.json := rfl

/-- A list of finite objects is finite. -/
theorem finite_dicts {ds : List Dict} (h : ∀ d ∈ ds, Json.finite d.json = true) :
    Json.finite (Value.dicts ds).1 = true := by
  show Json.finite (.arr (ds.map Dict.json)) = true
  rw [Json.finite, Json.finiteElems_iff]
  intro x hx
  obtain ⟨d, hd, rfl⟩ := List.mem_map.mp hx
  exact h d hd

theorem finite_get {d : Dict} (h : Json.finite d.json = true) (k : String) :
    Json.finite (d.get k) = true := by
  unfold Dict.get
  cases hget : d.get? k with
  | none => rfl
  | some v =>
    rw [Dict.json, Json.finite, Json.finiteMembers_iff] at h
    exact h (k, v) (Json.mem_of_get? hget)

/-- The result is finite JSON. -/
abbrev FiniteResult {S : Type} (m : Mutation Exn S Dict) : Prop :=
  Mutation.Yields (fun result => Json.finite result.json = true) m

/-- What `_apply` does with the result of a capability. -/
theorem FiniteResult.answer {S : Type} {m : Mutation Exn S Dict} (mutated : Bool)
    (h : FiniteResult m) :
    Mutation.Yields (fun answer : Dict × Bool => Json.finite answer.1.json = true)
      (m >>= fun result => pure (result, mutated)) :=
  h.bind fun _ hresult => Mutation.yields_pure hresult

/-! ## Section 2: Requests -/

namespace Request

/-- The digest that `capture_request` computes. -/
def digest (q : Request) : String := sha256Digest (Json.canonical q.payload.json)

/-- What `capture_request` accepts. -/
structure Readable (q : Request) : Prop where
  capability : nonBlank q.capability = true
  request_id : nonBlank q.request_id = true
  idempotency_key : nonBlank q.idempotency_key = true
  finite : Json.finite q.arguments.json = true

theorem finite_payload {q : Request} (h : Json.finite q.arguments.json = true) :
    Json.finite q.payload.json = true := by
  apply finite_object
  simpa using h

end Request

theorem requiredText_ok {value path s : String} :
    requiredText (.str value) path = .ok s ↔ nonBlank value = true ∧ s = value := by
  unfold requiredText
  rw [requiredMember_ok]
  constructor
  · rintro ⟨hvalue, hblank⟩
    obtain rfl := Json.str.inj hvalue
    exact ⟨hblank, rfl⟩
  · rintro ⟨hblank, rfl⟩
    exact ⟨rfl, hblank⟩

theorem captureRequest_ok {q : Request} {captured : Dict} {digest : String} :
    captureRequest q = .ok (captured, digest) ↔
      q.Readable ∧ captured = q.arguments ∧ digest = q.digest := by
  unfold captureRequest
  simp only [bind_ok, requiredText_ok, canonicalObject_ok, pure_ok, Prod.mk.injEq]
  constructor
  · rintro ⟨_, ⟨hcapability, rfl⟩, _, ⟨hrequest, rfl⟩, _, ⟨hkey, rfl⟩, _, ⟨hfinite, rfl⟩, restored,
      hrestored, _, ⟨-, rfl⟩, rfl, rfl⟩
    rw [restoreObject_canonical] at hrestored
    obtain rfl := Except.ok.inj hrestored
    exact ⟨⟨hcapability, hrequest, hkey, hfinite⟩, rfl, rfl⟩
  · rintro ⟨⟨hcapability, hrequest, hkey, hfinite⟩, rfl, rfl⟩
    exact ⟨_, ⟨hcapability, rfl⟩, _, ⟨hrequest, rfl⟩, _, ⟨hkey, rfl⟩, _, ⟨hfinite, rfl⟩, q.arguments,
      restoreObject_canonical _ _, _, ⟨Request.finite_payload hfinite, rfl⟩, rfl, rfl⟩

/-- What validation raises is made from a path. -/
theorem validateFinite_error {err : String → Exn} (j : Json) :
    ∀ {path : String} {e : Exn}, validateFinite err path j = .error e → ∃ p, e = err p := by
  induction j using Json.ind with
  | null => intro path e h; cases h
  | bool b => intro path e h; cases h
  | int i => intro path e h; cases h
  | str s => intro path e h; cases h
  | float x =>
    intro path e h
    cases x with
    | finite d => cases h
    | _ => exact ⟨path, (Except.error.inj h).symm⟩
  | arr xs ih =>
    intro path e h
    rw [validateFinite] at h
    generalize path ++ "[]" = path' at h
    induction xs with
    | nil => cases h
    | cons x xs ihxs =>
      rw [validateElems, bind_error] at h
      rcases h with h | ⟨-, -, h⟩
      · exact ih x List.mem_cons_self h
      · exact ihxs (fun y hy => ih y (List.mem_cons_of_mem x hy)) h
  | obj ms ih =>
    intro path e h
    rw [validateFinite] at h
    generalize path ++ ".*" = path' at h
    induction ms with
    | nil => cases h
    | cons m ms ihms =>
      obtain ⟨k, v⟩ := m
      rw [validateMembers, bind_error] at h
      rcases h with h | ⟨-, -, h⟩
      · exact ih (k, v) List.mem_cons_self h
      · exact ihms (fun y hy => ih y (List.mem_cons_of_mem _ hy)) h

/-- A request that is not readable is a contract error. -/
theorem kind_of_captureRequest {q : Request} {e : Exn} (h : captureRequest q = .error e) :
    e.kind = .simulatorContractError := by
  have hvalidate : ∀ {value : Dict} {path : String} {e : Exn},
      canonicalObject value path = .error e → e.kind = .simulatorContractError := by
    intro value path e h
    unfold canonicalObject at h
    rw [bind_error] at h
    rcases h with h | ⟨-, -, h⟩
    · obtain ⟨p, rfl⟩ := validateFinite_error _ h
      rfl
    · exact absurd h pure_ne_error
  have htext : ∀ {value : Json} {path : String} {e : Exn},
      requiredText value path = .error e → e.kind = .simulatorContractError := by
    intro value path e h
    rw [requiredMember_error h]
    rfl
  unfold captureRequest at h
  simp only [bind_error] at h
  rcases h with h | ⟨-, -, h | ⟨-, -, h | ⟨-, -, h | ⟨bytes, hbytes, h |
    ⟨restored, -, h | ⟨request_json, -, h⟩⟩⟩⟩⟩⟩
  · exact htext h
  · exact htext h
  · exact htext h
  · exact hvalidate h
  · obtain ⟨-, rfl⟩ := canonicalObject_ok.mp hbytes
    rw [restoreObject_canonical] at h
    cases h
  · exact hvalidate h
  · exact absurd h pure_ne_error

/-! ## Section 3: One call -/

/-- The conflict that `execute` raises. -/
def keyConflict : Exn := conflict "idempotency key was already used for another request"

theorem blankField_eq_none {fields : List (String × String)} :
    blankField fields = none ↔ ∀ field ∈ fields, nonBlank field.2 = true := by
  unfold blankField
  rw [Option.map_eq_none_iff, List.find?_eq_none]
  simp

/-- What a receipt holds of what it was captured from. -/
theorem EffectReceipt.of_capture
    {domain capability request_id idempotency_key effect_id : String} {state_version : Nat}
    {mutated : Bool} {result : Dict} {receipt : EffectReceipt}
    (h : EffectReceipt.capture domain capability request_id idempotency_key effect_id
      state_version mutated result = .ok receipt) :
    receipt.capability = capability ∧ receipt.mutated = mutated ∧
      receipt.result_json = Json.canonical result.json := by
  unfold EffectReceipt.capture at h
  rw [bind_ok] at h
  obtain ⟨result_json, hbytes, h⟩ := h
  obtain ⟨-, rfl⟩ := canonicalObject_ok.mp hbytes
  split at h
  · cases h
  split at h
  · cases h
  · obtain rfl := Except.ok.inj h
    exact ⟨rfl, rfl, rfl⟩

/-- A receipt of sound texts and a finite result is captured. -/
theorem EffectReceipt.capture_ok {domain capability request_id idempotency_key effect_id : String}
    {state_version : Nat} {mutated : Bool} {result : Dict}
    (htexts : blankField (receiptTexts domain capability request_id idempotency_key effect_id) =
      none) (hfinite : Json.finite result.json = true) :
    ∃ receipt, EffectReceipt.capture domain capability request_id idempotency_key effect_id
        state_version mutated result = .ok receipt ∧ receipt.mutated = mutated := by
  have hbytes : canonicalObject result "result" = .ok (Json.canonical result.json) :=
    canonicalObject_ok.mpr ⟨hfinite, rfl⟩
  have hrestore := restoreObject_canonical result "result"
  unfold EffectReceipt.capture
  rw [hbytes]
  simp only [bind, Except.bind]
  split
  · next name hname =>
    rw [htexts] at hname
    cases hname
  · split
    · next e he =>
      rw [hrestore] at he
      cases he
    · exact ⟨_, rfl, rfl⟩

namespace Target

variable {S : Type} {target : Target S} {clock : Raises String} {q : Request}
  {sim : Simulator S}

/-- The receipts of the simulator can be captured. -/
structure Sound (target : Target S) : Prop where
  domain : nonBlank target.domain = true
  unknown : target.unknown.kind = .simulatorContractError
  finite : ∀ {clock capability captured tables result mutated},
    (exec (target.apply clock capability captured) tables).1 = .ok (result, mutated) →
      Json.finite result.json = true

/-- The request has a capability of the simulator and can be captured. -/
def Accepts (target : Target S) (q : Request) : Prop :=
  q.capability ∈ target.capabilities ∧ q.Readable

/-- The simulator's state after a call. -/
def next (target : Target S) (clock : Raises String) (q : Request) (sim : Simulator S) :
    Simulator S := (exec (target.execute clock q) sim).2

/-- How a call ends. -/
def outcome (target : Target S) (clock : Raises String) (q : Request) (sim : Simulator S) :
    Raises EffectReceipt := (exec (target.execute clock q) sim).1

/-- A call that is not accepted is a contract error, and does nothing. -/
theorem execute_refused (hs : target.Sound) (h : ¬ target.Accepts q) :
    ∃ e, exec (target.execute clock q) sim = (.error e, sim) ∧
      e.kind = .simulatorContractError := by
  unfold execute
  by_cases hcapability : q.capability ∈ target.capabilities
  · cases hcapture : captureRequest q with
    | ok captured =>
      have hreadable := (captureRequest_ok.mp (show captureRequest q = .ok (captured.1, captured.2)
        from hcapture)).1
      exact absurd ⟨hcapability, hreadable⟩ h
    | error e =>
      refine ⟨e, ?_, kind_of_captureRequest hcapture⟩
      rw [(require_ok (u := ())).mpr hcapability, Mutation.exec_bind_ok (Mutation.exec_raising _ sim),
        Mutation.exec_bind_error (Mutation.exec_raising _ sim)]
  · refine ⟨target.unknown, ?_, hs.unknown⟩
    rw [require_error.mpr ⟨hcapability, rfl⟩, Mutation.exec_bind_error (Mutation.exec_raising _ sim)]

/-- An accepted call looks its key up. -/
theorem execute_accepted (h : target.Accepts q) :
    exec (target.execute clock q) sim =
      match sim.effects.get? q.idempotency_key with
      | some stored => exec (executeStored stored q.digest) sim
      | none => exec (target.executeNew clock q q.arguments q.digest) sim := by
  have hcapture : captureRequest q = .ok (q.arguments, q.digest) :=
    captureRequest_ok.mpr ⟨h.2, rfl, rfl⟩
  unfold execute
  rw [(require_ok (u := ())).mpr h.1, Mutation.exec_bind_ok (Mutation.exec_raising _ sim), hcapture,
    Mutation.exec_bind_ok (Mutation.exec_raising _ sim)]
  simp only []
  rw [Mutation.exec_bind_ok (Mutation.exec_read _ sim)]
  cases sim.effects.get? q.idempotency_key with
  | some stored => rfl
  | none => rfl

/-- A used key is answered from its effect, and the simulator stays. -/
theorem execute_stored (h : target.Accepts q) {stored : StoredEffect}
    (hstored : sim.effects.get? q.idempotency_key = some stored) :
    exec (target.execute clock q) sim =
      (if stored.request_digest = q.digest then .ok stored.receipt else .error keyConflict, sim) := by
  rw [execute_accepted h, hstored]
  simp only [executeStored]
  by_cases hsame : stored.request_digest = q.digest
  · rw [(require_ok (u := ())).mpr hsame, if_pos hsame, Mutation.exec_bind_ok (Mutation.exec_raising _ sim),
      Mutation.exec_pure]
  · rw [require_error.mpr ⟨hsame, rfl⟩, if_neg hsame,
      Mutation.exec_bind_error (Mutation.exec_raising _ sim)]
    rfl

/-- What `_apply` wrote before it raised is kept. -/
theorem execute_raised (h : target.Accepts q)
    (hfresh : sim.effects.get? q.idempotency_key = none) {e : Exn}
    (hraised : (exec (target.apply clock q.capability q.arguments) sim.tables).1 = .error e) :
    exec (target.execute clock q) sim =
      (.error e, { sim with
        tables := (exec (target.apply clock q.capability q.arguments) sim.tables).2 }) := by
  rw [execute_accepted h, hfresh]
  simp only [executeNew]
  have htables : exec (onTables (target.apply clock q.capability q.arguments)) sim =
      (.error e, { sim with
        tables := (exec (target.apply clock q.capability q.arguments) sim.tables).2 }) := by
    rw [exec_onTables, hraised]
  rw [Mutation.exec_bind_error htables]

/-- A new effect is stored with its receipt, and counted if it is mutating. -/
theorem execute_captured (hs : target.Sound) (h : target.Accepts q)
    (hfresh : sim.effects.get? q.idempotency_key = none) {result : Dict} {mutated : Bool}
    (happlied : (exec (target.apply clock q.capability q.arguments) sim.tables).1 =
      .ok (result, mutated)) :
    ∃ receipt, EffectReceipt.capture target.domain q.capability q.request_id q.idempotency_key
        (effectIdentifier target.domain q.capability q.idempotency_key q.digest)
        (if mutated then sim.state_version + 1 else sim.state_version) mutated result =
          .ok receipt ∧
      exec (target.execute clock q) sim =
        (.ok receipt,
          { tables := (exec (target.apply clock q.capability q.arguments) sim.tables).2
            state_version := if mutated then sim.state_version + 1 else sim.state_version
            effects := sim.effects.set q.idempotency_key ⟨q.digest, receipt⟩ }) := by
  have heffect : nonBlank (effectIdentifier target.domain q.capability q.idempotency_key
      q.digest) = true := by
    unfold effectIdentifier
    exact nonBlank_append_left _ (by decide)
  have htexts : blankField (receiptTexts target.domain q.capability q.request_id
      q.idempotency_key (effectIdentifier target.domain q.capability q.idempotency_key
        q.digest)) = none := by
    rw [blankField_eq_none]
    simp [receiptTexts, hs.domain, h.2.capability, h.2.request_id, h.2.idempotency_key, heffect]
  generalize htables : (exec (target.apply clock q.capability q.arguments) sim.tables).2 = tables
  have hrun : exec (onTables (target.apply clock q.capability q.arguments)) sim =
      (.ok (result, mutated), { sim with tables := tables }) := by
    rw [exec_onTables, happlied, htables]
  have hreceipt : ∃ receipt, EffectReceipt.capture target.domain q.capability q.request_id
      q.idempotency_key (effectIdentifier target.domain q.capability q.idempotency_key q.digest)
      (if mutated then sim.state_version + 1 else sim.state_version) mutated result =
        .ok receipt ∧ receipt.mutated = mutated :=
    EffectReceipt.capture_ok htexts (hs.finite happlied)
  obtain ⟨receipt, hcapture, -⟩ := hreceipt
  refine ⟨receipt, hcapture, ?_⟩
  rw [execute_accepted h, hfresh]
  simp only [executeNew]
  rw [Mutation.exec_bind_ok hrun]
  simp only []
  rw [Mutation.exec_bind_ok (Mutation.exec_write _ _), Mutation.exec_bind_ok (Mutation.exec_read _ _)]
  have hversion : (if mutated = true then
      ({ sim with tables := tables, state_version := sim.state_version + 1 } : Simulator S)
      else { sim with tables := tables }).state_version =
        if mutated then sim.state_version + 1 else sim.state_version := by
    cases mutated <;> rfl
  rw [hversion, hcapture, Mutation.exec_bind_ok (Mutation.exec_raising _ _),
    Mutation.exec_bind_ok (Mutation.exec_write _ _), Mutation.exec_pure]
  cases mutated <;> rfl

theorem execute_applied (hs : target.Sound) (h : target.Accepts q)
    (hfresh : sim.effects.get? q.idempotency_key = none) {result : Dict} {mutated : Bool}
    (happlied : (exec (target.apply clock q.capability q.arguments) sim.tables).1 =
      .ok (result, mutated)) :
    ∃ receipt, receipt.mutated = mutated ∧
      exec (target.execute clock q) sim =
        (.ok receipt,
          { tables := (exec (target.apply clock q.capability q.arguments) sim.tables).2
            state_version := if mutated then sim.state_version + 1 else sim.state_version
            effects := sim.effects.set q.idempotency_key ⟨q.digest, receipt⟩ }) := by
  obtain ⟨receipt, hcapture, hexec⟩ := execute_captured hs h hfresh happlied
  exact ⟨receipt, (EffectReceipt.of_capture hcapture).2.1, hexec⟩

/-- Only an accepted request is answered. -/
theorem accepts_of_outcome (hs : target.Sound) {receipt : EffectReceipt}
    (h : target.outcome clock q sim = .ok receipt) : target.Accepts q := by
  by_contra hrefused
  have hexec : ∃ e, exec (target.execute clock q) sim = (.error e, sim) ∧ _ :=
    execute_refused hs hrefused
  obtain ⟨e, hexec, -⟩ := hexec
  unfold outcome at h
  rw [hexec] at h
  cases h

/-- **Step**: the five ways in which a call ends. -/
theorem execute_cases (hs : target.Sound) (clock : Raises String) (q : Request)
    (sim : Simulator S) :
    (¬ target.Accepts q ∧ ∃ e, exec (target.execute clock q) sim = (.error e, sim) ∧
      e.kind = .simulatorContractError) ∨
    (target.Accepts q ∧ ∃ stored, sim.effects.get? q.idempotency_key = some stored ∧
      stored.request_digest = q.digest ∧
      exec (target.execute clock q) sim = (.ok stored.receipt, sim)) ∨
    (target.Accepts q ∧ ∃ stored, sim.effects.get? q.idempotency_key = some stored ∧
      stored.request_digest ≠ q.digest ∧
      exec (target.execute clock q) sim = (.error keyConflict, sim)) ∨
    (target.Accepts q ∧ sim.effects.get? q.idempotency_key = none ∧
      ∃ e, (exec (target.apply clock q.capability q.arguments) sim.tables).1 = .error e ∧
        exec (target.execute clock q) sim =
          (.error e, { sim with
            tables := (exec (target.apply clock q.capability q.arguments) sim.tables).2 })) ∨
    (target.Accepts q ∧ sim.effects.get? q.idempotency_key = none ∧
      ∃ receipt : EffectReceipt, exec (target.execute clock q) sim =
        (.ok receipt,
          { tables := (exec (target.apply clock q.capability q.arguments) sim.tables).2
            state_version :=
              if receipt.mutated then sim.state_version + 1 else sim.state_version
            effects := sim.effects.set q.idempotency_key ⟨q.digest, receipt⟩ })) := by
  by_cases haccepts : target.Accepts q
  · cases hstored : sim.effects.get? q.idempotency_key with
    | some stored =>
      have hexec : exec (target.execute clock q) sim = _ := execute_stored haccepts hstored
      by_cases hsame : stored.request_digest = q.digest
      · rw [if_pos hsame] at hexec
        exact Or.inr (Or.inl ⟨haccepts, stored, rfl, hsame, hexec⟩)
      · rw [if_neg hsame] at hexec
        exact Or.inr (Or.inr (Or.inl ⟨haccepts, stored, rfl, hsame, hexec⟩))
    | none =>
      cases happly : (exec (target.apply clock q.capability q.arguments) sim.tables).1 with
      | error e =>
        exact Or.inr (Or.inr (Or.inr (Or.inl
          ⟨haccepts, rfl, e, rfl, execute_raised haccepts hstored happly⟩)))
      | ok applied =>
        obtain ⟨result, mutated⟩ := applied
        obtain ⟨receipt, hmutated, hexec⟩ := execute_applied hs haccepts hstored happly
        rw [← hmutated] at hexec
        exact Or.inr (Or.inr (Or.inr (Or.inr ⟨haccepts, rfl, receipt, hexec⟩)))
  · exact Or.inl ⟨haccepts, execute_refused hs haccepts⟩

/-- A new effect leaves the tables as `_apply` does, whether or not it raises. -/
theorem tables_applied (hs : target.Sound) (h : target.Accepts q)
    (hfresh : sim.effects.get? q.idempotency_key = none) :
    (target.next clock q sim).tables =
      (exec (target.apply clock q.capability q.arguments) sim.tables).2 := by
  unfold next
  cases happly : (exec (target.apply clock q.capability q.arguments) sim.tables).1 with
  | error e => rw [execute_raised h hfresh happly]
  | ok applied =>
    obtain ⟨receipt, -, hexec⟩ := execute_applied hs h hfresh happly
    rw [hexec]

/-- A call leaves the effects under other keys. -/
theorem effects_other (hs : target.Sound) {k : String} (h : k ≠ q.idempotency_key) :
    (target.next clock q sim).effects.get? k = sim.effects.get? k := by
  unfold next
  rcases execute_cases hs clock q sim with ⟨-, e, hexec, -⟩ | ⟨-, old, -, -, hexec⟩ |
    ⟨-, old, -, -, hexec⟩ | ⟨-, -, e, -, hexec⟩ | ⟨-, -, receipt, hexec⟩
  · rw [hexec]
  · rw [hexec]
  · rw [hexec]
  · rw [hexec]
  · rw [hexec]
    exact Table.get?_set_ne _ _ h

/-- A request that is refused, replayed or in conflict leaves the tables. -/
theorem tables_kept (hs : target.Sound)
    (h : ¬ (target.Accepts q ∧ sim.effects.get? q.idempotency_key = none)) :
    (target.next clock q sim).tables = sim.tables := by
  unfold next
  rcases execute_cases hs clock q sim with ⟨-, e, hexec, -⟩ | ⟨-, old, -, -, hexec⟩ |
    ⟨-, old, -, -, hexec⟩ | ⟨haccepts, hfresh, -⟩ | ⟨haccepts, hfresh, -⟩
  · rw [hexec]
  · rw [hexec]
  · rw [hexec]
  · exact absurd ⟨haccepts, hfresh⟩ h
  · exact absurd ⟨haccepts, hfresh⟩ h

end Target

/-! ## Section 4: Sequences of calls -/

/-- A call of `execute`, with what the clock would return. -/
structure Call where
  request : Request
  clock : Raises String

/-- Every call of the sequence is as described, given the calls before it. -/
def EveryCall (P : List Call → Call → Prop) (calls : List Call) : Prop :=
  ∀ past c, past ++ [c] <+: calls → P past c

/-- The effects that changed the tables. -/
def Simulator.mutations {S : Type} (sim : Simulator S) : Nat :=
  (sim.effects.values.filter fun effect => effect.receipt.mutated).length

namespace Target

variable {S : Type} (target : Target S) (initial : S)

/-- The simulator after some calls. -/
def after (calls : List Call) : Simulator S :=
  calls.foldl (fun sim c => target.next c.clock c.request sim) (Simulator.new initial)

/-- One of the calls made the request, and was answered with the receipt. -/
def Committed (past : List Call) (q : Request) (receipt : EffectReceipt) : Prop :=
  ∃ before c later, past = before ++ c :: later ∧ c.request = q ∧
    target.outcome c.clock c.request (target.after initial before) = .ok receipt

/-- What the law says of a call after some others. -/
structure Orderly (past : List Call) (c : Call) : Prop where
  /-- An equal request is answered with the original receipt. -/
  replay : ∀ receipt, target.Committed initial past c.request receipt →
    target.outcome c.clock c.request (target.after initial past) = .ok receipt ∧
      target.after initial (past ++ [c]) = target.after initial past
  /-- A different request under the key of an earlier one is a conflict. -/
  conflict : ∀ q receipt, target.Committed initial past q receipt →
    q.idempotency_key = c.request.idempotency_key → q ≠ c.request →
      target.outcome c.clock c.request (target.after initial past) = .error keyConflict ∧
        target.after initial (past ++ [c]) = target.after initial past
  /-- A call that raises changes nothing. -/
  atomic : ∀ e, target.outcome c.clock c.request (target.after initial past) = .error e →
    target.after initial (past ++ [c]) = target.after initial past
  /-- The version is the number of committed mutating effects. -/
  counted : (target.after initial (past ++ [c])).state_version =
    (target.after initial (past ++ [c])).mutations

/-- A key is used again for the same request, or for one that is accepted and
    whose digest differs. -/
def ReusesWell (past : List Call) (c : Call) : Prop :=
  ∀ q receipt, target.Committed initial past q receipt →
    q.idempotency_key = c.request.idempotency_key → q ≠ c.request →
      target.Accepts c.request ∧ q.digest ≠ c.request.digest

/-- If a new effect is not applied, nothing of it was written. -/
def AppliesWhole (past : List Call) (c : Call) : Prop :=
  target.Accepts c.request →
    (target.after initial past).effects.get? c.request.idempotency_key = none →
      Mutation.AtomicAt (target.apply c.clock c.request.capability c.request.arguments)
        (target.after initial past).tables

variable {target} {initial}

theorem after_append (past : List Call) (c : Call) :
    target.after initial (past ++ [c]) =
      (exec (target.execute c.clock c.request) (target.after initial past)).2 := by
  unfold after
  rw [List.foldl_append]
  rfl

/-- A stored effect stays. -/
theorem effects_kept (hs : target.Sound) {clock : Raises String} {q : Request} {sim : Simulator S}
    {k : String} {stored : StoredEffect} (h : sim.effects.get? k = some stored) :
    (target.next clock q sim).effects.get? k = some stored := by
  unfold next
  rcases execute_cases hs clock q sim with ⟨-, e, hexec, -⟩ | ⟨-, old, -, -, hexec⟩ |
    ⟨-, old, -, -, hexec⟩ | ⟨-, -, e, -, hexec⟩ | ⟨-, hfresh, receipt, hexec⟩
  · rw [hexec]
    exact h
  · rw [hexec]
    exact h
  · rw [hexec]
    exact h
  · rw [hexec]
    exact h
  · rw [hexec]
    have hne : k ≠ q.idempotency_key := by
      rintro rfl
      rw [hfresh] at h
      cases h
    show (sim.effects.set q.idempotency_key _).get? k = _
    rw [Table.get?_set_ne _ _ hne]
    exact h

/-- A call that is answered is stored with its answer. -/
theorem stored_of_outcome (hs : target.Sound) {clock : Raises String} {q : Request}
    {sim : Simulator S} {receipt : EffectReceipt} (h : target.outcome clock q sim = .ok receipt) :
    (target.next clock q sim).effects.get? q.idempotency_key = some ⟨q.digest, receipt⟩ := by
  unfold outcome at h
  unfold next
  rcases execute_cases hs clock q sim with ⟨-, e, hexec, -⟩ | ⟨-, old, hold, hdigest, hexec⟩ |
    ⟨-, old, -, -, hexec⟩ | ⟨-, -, e, -, hexec⟩ | ⟨-, hfresh, new, hexec⟩
  · rw [hexec] at h
    cases h
  · rw [hexec] at h ⊢
    obtain rfl := Except.ok.inj h
    rw [hold, ← hdigest]
  · rw [hexec] at h
    cases h
  · rw [hexec] at h
    cases h
  · rw [hexec] at h ⊢
    obtain rfl := Except.ok.inj h
    exact Table.get?_set_self _ _ _

/-- **Run**: what was answered is stored. -/
theorem stored_of_committed (hs : target.Sound) {past : List Call} {q : Request}
    {receipt : EffectReceipt} (h : target.Committed initial past q receipt) :
    (target.after initial past).effects.get? q.idempotency_key = some ⟨q.digest, receipt⟩ := by
  obtain ⟨before, c, later, rfl, rfl, houtcome⟩ := h
  induction later using List.reverseRecOn with
  | nil =>
    rw [after_append]
    exact stored_of_outcome hs houtcome
  | append_singleton later d ih =>
    have happend : before ++ c :: (later ++ [d]) = (before ++ c :: later) ++ [d] := by simp
    rw [happend, after_append]
    exact effects_kept hs ih

theorem mutations_set {sim : Simulator S} {k : String} (effect : StoredEffect)
    (h : sim.effects.get? k = none) :
    ((sim.effects.set k effect).values.filter fun effect => effect.receipt.mutated).length =
      sim.mutations + if effect.receipt.mutated then 1 else 0 := by
  unfold Simulator.mutations
  rw [Table.values_set_of_none effect h, List.filter_append, List.length_append]
  cases hmutated : effect.receipt.mutated <;> simp [hmutated]

/-- **Run**: the version is the number of committed mutating effects. -/
theorem counted_of_run (hs : target.Sound) (calls : List Call) :
    (target.after initial calls).state_version = (target.after initial calls).mutations := by
  induction calls using List.reverseRecOn with
  | nil => rfl
  | append_singleton past c ih =>
    rw [after_append]
    rcases execute_cases hs c.clock c.request (target.after initial past) with
      ⟨-, e, hexec, -⟩ | ⟨-, old, -, -, hexec⟩ | ⟨-, old, -, -, hexec⟩ | ⟨-, -, e, -, hexec⟩ |
      ⟨-, hfresh, receipt, hexec⟩
    · rw [hexec]
      exact ih
    · rw [hexec]
      exact ih
    · rw [hexec]
      exact ih
    · rw [hexec]
      exact ih
    · rw [hexec]
      have hcount := mutations_set ⟨c.request.digest, receipt⟩ hfresh
      show (if receipt.mutated = true then _ else _) =
        List.length (List.filter _ (Table.set _ _ _).values)
      rw [hcount, ← ih]
      cases receipt.mutated <;> rfl

/-- When a call after some others is orderly. -/
theorem orderly_iff (hs : target.Sound) {past : List Call} {c : Call} :
    target.Orderly initial past c ↔
      target.ReusesWell initial past c ∧ target.AppliesWhole initial past c := by
  have hcases := execute_cases hs c.clock c.request (target.after initial past)
  constructor
  · intro h
    constructor
    · intro q receipt hq hkey hne
      have hstored := stored_of_committed hs hq
      rw [hkey] at hstored
      have hconflict := (h.conflict q receipt hq hkey hne).1
      unfold outcome at hconflict
      rcases hcases with ⟨-, e, hexec, hkind⟩ | ⟨-, old, hold, hdigest, hexec⟩ |
        ⟨haccepts, old, hold, hdigest, hexec⟩ | ⟨-, hfresh, -⟩ | ⟨-, hfresh, -⟩
      · -- A request that is refused is no conflict.
        rw [hexec] at hconflict
        obtain rfl := Except.error.inj hconflict
        cases hkind
      · rw [hexec] at hconflict
        cases hconflict
      · rw [hold] at hstored
        obtain rfl := Option.some.inj hstored
        exact ⟨haccepts, hdigest⟩
      · rw [hfresh] at hstored
        cases hstored
      · rw [hfresh] at hstored
        cases hstored
    · intro haccepts hfresh e hraised
      have hexec := execute_raised haccepts hfresh hraised
      have hsame := h.atomic e (by unfold outcome; rw [hexec])
      rw [after_append, hexec] at hsame
      exact congrArg Simulator.tables hsame
  · rintro ⟨hreuses, hwhole⟩
    constructor
    · intro receipt hcommitted
      have hstored := stored_of_committed hs hcommitted
      rw [after_append]
      unfold outcome
      obtain ⟨before, d, later, -, hd, houtcome⟩ := hcommitted
      have haccepts : target.Accepts c.request := by
        rw [← hd]
        exact accepts_of_outcome hs houtcome
      have hexec : exec (target.execute c.clock c.request) (target.after initial past) = _ :=
        execute_stored haccepts hstored
      rw [if_pos rfl] at hexec
      rw [hexec]
      exact ⟨rfl, rfl⟩
    · intro q receipt hcommitted hkey hne
      obtain ⟨haccepts, hdigest⟩ := hreuses q receipt hcommitted hkey hne
      have hstored := stored_of_committed hs hcommitted
      rw [hkey] at hstored
      have hexec : exec (target.execute c.clock c.request) (target.after initial past) = _ :=
        execute_stored haccepts hstored
      rw [if_neg hdigest] at hexec
      rw [after_append]
      unfold outcome
      rw [hexec]
      exact ⟨rfl, rfl⟩
    · intro e hraised
      rw [after_append]
      unfold outcome at hraised
      rcases hcases with ⟨-, e', hexec, -⟩ | ⟨-, old, -, -, hexec⟩ | ⟨-, old, -, -, hexec⟩ |
        ⟨haccepts, hfresh, e', happly, hexec⟩ | ⟨-, -, receipt, hexec⟩
      · rw [hexec]
      · rw [hexec]
      · rw [hexec]
      · rw [hexec, hwhole haccepts hfresh e' happly]
      · rw [hexec] at hraised
        cases hraised
    · exact counted_of_run hs _

/-- Every call of a sequence is orderly exactly when every call reuses keys well
    and every new effect is applied whole. -/
theorem orderly_run_iff (hs : target.Sound) {calls : List Call} :
    EveryCall (target.Orderly initial) calls ↔
      EveryCall (fun past c => target.ReusesWell initial past c ∧
        target.AppliesWhole initial past c) calls := by
  unfold EveryCall
  constructor
  · intro h past c hpast
    exact (orderly_iff hs).mp (h past c hpast)
  · intro h past c hpast
    exact (orderly_iff hs).mpr (h past c hpast)

end Target

end CBrain.Simulators
