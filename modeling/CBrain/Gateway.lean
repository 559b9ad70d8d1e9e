import CBrain.Runtime
import CBrain.Sidecar

/-! # The execution gateway

    Models `PrivateVaultExecutionGateway` (`cbrain/execution/gateway.py`), its
    two dispatch transports (`SidecarDispatchTransport` of
    `cbrain/execution/sidecar.py`, `InProcessDispatchTransport` of
    `cbrain/execution/transport.py`), and what the sidecar transport tells the
    gateway about the bytes that were sent.

    One RPC delivers one request: the channel may lose it or raise on the way
    back, after the sidecar handled it.
-/

namespace CBrain

open Effect
open Effect.Fallible (call raising mapError)
open Json (Dict)

/-! ## Section 1: Port programs beside a tool handler -/

section ports
variable {E : Sig} {V α : Type}

/-- A program over the ports, run where there also is a tool handler. -/
def ports : Prog E α → Prog (WithHandler E) α
  | .ret a => .ret a
  | .op o k => .op (.port o) fun x => ports (k x)

/-- The port event of an event, if it is one. -/
def portEvent? : (WithHandler E).Event → Option E.Event
  | ⟨.handler _, _⟩ => none
  | ⟨.port o, x⟩ => some ⟨o, x⟩

/-- The port events of a run. -/
def portEvents (log : List (WithHandler E).Event) : List E.Event := log.filterMap portEvent?

/-- A protocol for programs that leave the tool handler alone. -/
def onPorts (P : Protocol E V) : Protocol (WithHandler E) V where
  allows v
    | .handler _ => False
    | .port o => P.allows v o
  answers v
    | .handler _, _ => True
    | .port o, x => P.answers v o x
  next v
    | .handler _, _ => v
    | .port o, x => P.next v o x

theorem obeys_ports {P : Protocol E V} {Q : V → α → Prop} {v : V} {p : Prog E α}
    (h : Prog.Obeys P Q v p) : Prog.Obeys (onPorts P) Q v (ports p) := by
  induction p generalizing v with
  | ret a => exact h
  | op o k ih => exact ⟨h.1, fun x hx => ih x (h.2 x hx)⟩

/-- The wrapper of the runtime counts no call of such a program. -/
theorem obeys_invokeOnce {P : Protocol E V} {Q : V → α → Prop} {v : V}
    {p : Prog (WithHandler E) α} {n : Nat} (h : Prog.Obeys (onPorts P) Q v p) :
    Prog.Obeys (onPorts P) (fun v r => Q v r.1 ∧ r.2 = n) v (invokeOnce n p) := by
  induction p generalizing v with
  | ret a => exact ⟨h, rfl⟩
  | op o k ih =>
    cases o with
    | handler arguments => exact absurd h.1 id
    | port o => exact ⟨h.1, fun x hx => ih x (h.2 x hx)⟩

theorem after_onPorts (guard : List E.Event → E.Op → Prop) (past : List E.Event)
    (log : List (WithHandler E).Event) :
    (onPorts (Protocol.history guard)).after past log = past ++ portEvents log := by
  induction log generalizing past with
  | nil => simp [Protocol.after, portEvents]
  | cons e log ih =>
    obtain ⟨o, x⟩ := e
    cases o with
    | handler arguments => exact ih past
    | port o =>
      show (onPorts (Protocol.history guard)).after (past ++ [⟨o, x⟩]) log = _
      rw [ih]
      simp [portEvents, portEvent?]

theorem kept_onPorts (guard : List E.Event → E.Op → Prop) (past : List E.Event)
    (log : List (WithHandler E).Event) : (onPorts (Protocol.history guard)).Kept past log := by
  induction log generalizing past with
  | nil => trivial
  | cons e log ih =>
    obtain ⟨o, x⟩ := e
    cases o with
    | handler arguments => exact ⟨trivial, ih past⟩
    | port o => exact ⟨trivial, ih _⟩

/-- Every port operation of a run has its guard in the port events before. -/
theorem guard_of_run {guard : List E.Event → E.Op → Prop} {Q : List E.Event → α → Prop}
    {p : Prog (WithHandler E) α} {log : List (WithHandler E).Event} {a : α}
    (h : Prog.Obeys (onPorts (Protocol.history guard)) Q [] p) (hrun : Prog.Run p log a)
    {before after : List E.Event} {o : E.Op} {x : E.Ans o}
    (hlog : portEvents log = before ++ ⟨o, x⟩ :: after) : guard before o := by
  obtain ⟨l₁, l₂, rfl, rfl, h₂⟩ := List.filterMap_eq_append_iff.mp hlog
  obtain ⟨l₃, e, l₄, rfl, hnone, he, -⟩ := List.filterMap_eq_cons_iff.mp h₂
  obtain ⟨o', x'⟩ := e
  cases o' with
  | handler arguments => cases he
  | port o' =>
    cases he
    have hsplit : l₁ ++ (l₃ ++ (⟨.port o, x⟩ : (WithHandler E).Event) :: l₄) =
        (l₁ ++ l₃) ++ ⟨.port o, x⟩ :: l₄ := by simp
    have hallowed := h.allowed hrun (kept_onPorts guard [] _) hsplit
    rw [after_onPorts] at hallowed
    have hl₃ : l₃.filterMap portEvent? = [] := List.filterMap_eq_nil_iff.mpr hnone
    have hbefore : portEvents (l₁ ++ l₃) = l₁.filterMap portEvent? := by
      rw [portEvents, List.filterMap_append, hl₃, List.append_nil]
    rw [hbefore] at hallowed
    exact hallowed

/-- Handling the outcome of a fallible port program. -/
theorem obeys_ports_bind {ε β : Type} {P : Protocol E V} {Q : V → α → Prop} {X : V → ε → Prop}
    {S : V → β → Prop} {v : V} {m : Fallible E ε α} {f : Except ε α → Prog (WithHandler E) β}
    (hm : Fallible.Meets P Q X v m)
    (hok : ∀ v a, Q v a → Prog.Obeys (onPorts P) S v (f (.ok a)))
    (herror : ∀ v e, X v e → Prog.Obeys (onPorts P) S v (f (.error e))) :
    Prog.Obeys (onPorts P) S v (ports m.run >>= f) := by
  apply Prog.Obeys.bind (obeys_ports hm)
  intro v r hr
  cases r with
  | ok a => exact hok v a hr
  | error e => exact herror v e hr

end ports

/-! ## Section 2: Transports -/

/-- The keyword arguments of `transport.dispatch`. -/
structure DispatchRequest where
  authorization : Dict
  trust_bundle : Dict
  action : Dict
  prepared : PreparedDispatch
  witness_id : String
  observed_at : String
  attempt : Int
  binding : ExecutionAuthorizationBinding

/-- A program beside a tool handler that may raise. -/
abbrev HandlerM (α : Type) : Type := Fallible (WithHandler PortSig) Exn α

/-- A program over the ports as such a program. -/
def portsM {α : Type} (m : PortM α) : HandlerM α := ExceptT.mk (ports m.run)

/-- The dispatch transports `_prepare_transport` tells apart. -/
inductive DispatchTransport where
  /-- An independent transport: it is given no handler. -/
  | independent (dispatch : DispatchRequest → PortM DispatchResult)
  /-- A transport that `with_handler` binds to a handler. -/
  | bindable (dispatch : (Dict → HandlerM PyVal) → DispatchRequest → HandlerM DispatchResult)
  /-- Neither. -/
  | unbindable

/-- `transport.identity.independent`. -/
def DispatchTransport.isIndependent : DispatchTransport → Bool
  | .independent _ => true
  | _ => false

/-- The result in an `EXECUTED` response. -/
def decodeExecuted (response : SidecarResponse) : Raises DispatchResult := do
  let fields := response.fields
  let witness ← requiredMapping (asObject fields "witness") "witness"
  let closure ← requiredMapping (asObject fields "closure") "closure"
  let dispatch_outcome ← sidecarText fields "dispatch_outcome"
  let response_status ← sidecarText fields "response_status"
  let response_bytes ← unb64 (fields.get "response_bytes") "response_bytes"
  let effect_state ← sidecarText fields "effect_state"
  return {
    witness := some witness
    dispatch_outcome
    response_status
    response_bytes
    effect_state
    output := response.output
    closure := some closure }

/-- `_safe_reason`. -/
def safeReason (fields : Dict) : String :=
  match fields.get "reason" with
  | .str reason => if reason = "" then "sidecar_refused" else reason
  | _ => "sidecar_refused"

/-- `_decode_response`. -/
def decodeResponse (response : SidecarResponse) (expected_request_id : String) :
    Raises DispatchResult := do
  let fields := response.fields
  require (fields.get "schema" = .str SIDECAR_RESPONSE_SCHEMA)
    (Exn.of .dispatchTransportError "sidecar response schema is invalid")
  let request_id ← sidecarText fields "request_id"
  require (request_id = expected_request_id)
    (Exn.of .dispatchTransportError "sidecar response request_id mismatch")
  let status ← sidecarText fields "status"
  let phase ← sidecarText fields "phase"
  require (¬ (status = "REFUSED" ∧ phase = "PRE_DISPATCH"))
    (Exn.of .handlerNotInvoked (safeReason fields))
  require (status = "EXECUTED" ∧ phase = "CLOSED")
    (Exn.of .dispatchTransportError (safeReason fields))
  decodeExecuted response

/-- `rpc.call(payload)`: the request reaches the sidecar, in the form the
    channel delivers it, or it does not; the sidecar's response comes back, or
    it does not. -/
def rpcCall (service : SidecarDispatchService) (payload : Dict) : PortM SidecarResponse := do
  let delivered ← call (.deliver payload) rfl
  let response ← ExceptT.lift (service.handle delivered)
  let _ ← call (α := Unit) (.respond response) rfl
  return response

/-- `SidecarDispatchTransport.dispatch`. -/
def sidecarDispatch (service : SidecarDispatchService) (request : DispatchRequest) :
    PortM DispatchResult := do
  raising (require (request.binding.action.pyEq request.action = true ∧
      request.binding.prepared_dispatch = request.prepared)
    (Exn.of .handlerNotInvoked "sidecar binding does not match planned dispatch"))
  let payload := encodeRequest request.authorization request.trust_bundle request.binding
    request.witness_id request.attempt
  let response ← mapError (fun exc =>
      Exn.of .dispatchTransportError s!"sidecar response unavailable:{exc.name}")
    (rpcCall service payload)
  raising (decodeResponse response request.binding.request_id)

/-- The transport to a sidecar. -/
def sidecarTransport (service : SidecarDispatchService) : DispatchTransport :=
  .independent (sidecarDispatch service)

/-- `InProcessDispatchTransport.dispatch`: it runs the handler in the agent
    process and produces no closure. -/
def inProcessDispatch (identity : WitnessIdentity) (handler_runner : Dict → HandlerM PyVal)
    (request : DispatchRequest) : HandlerM DispatchResult := do
  let dispatch := request.prepared.dispatch
  match asObject request.action "parameters" with
  | none => throw (Exn.of .handlerNotInvoked "action.parameters must be a mapping")
  | some arguments =>
    let failed (what : String) (exc : Exn) : Exn :=
      Exn.of .dispatchTransportError s!"{what} failed:{exc.name}"
    let output ← mapError (failed "tool handler") (handler_runner arguments)
    let response_bytes ← mapError (failed "response encoding")
      (portsM (call (.encodeResponse output) rfl))
    let witness ← mapError (failed "witness creation") (portsM (call (.signWitness .agent
      (SidecarDispatchService.witnessMetadata identity request.witness_id request.observed_at
        request.attempt dispatch)
      request.authorization request.trust_bundle request.action dispatch
      request.prepared.wire_bytes request.prepared.peer_identity_bytes) rfl))
    return {
      witness
      dispatch_outcome := "ACKNOWLEDGED"
      response_status := "200"
      response_bytes
      effect_state := "CONFIRMED"
      output
      closure := none }

/-- The in-process transport. -/
def inProcessTransport (identity : WitnessIdentity) : DispatchTransport :=
  .bindable (inProcessDispatch identity)

/-! ## Section 3: The gateway -/

/-- `_decision_id`. -/
def decisionId (decision : PrivateVaultDecision) : Option String :=
  match decision.record with
  | .error _ => none
  | .ok record =>
    match record.get "decision_id" with
    | .str id => if id = "" then none else some id
    | _ => none

/-- `_control_failure`, for a reason in two parts. -/
def controlFailure (action : ActionIntent) (stage : String) (hstage : nonBlank stage = true)
    (detail : String) (decision_id : Option String) : GovernedExecution where
  status := .controlFailure
  request_id := action.request_id
  tool_executed := some false
  reason := stage ++ detail
  decision_id := decision_id
  output := .none
  retryable := true
  request_id_text := action.request_id_text
  reason_text := nonBlank_append_left detail hstage
  tool_executed_fits := rfl
  retryable_fits := fun _ => rfl

/-- `_indeterminate`, for a reason in two parts. -/
def indeterminate (action : ActionIntent) (stage : String) (hstage : nonBlank stage = true)
    (detail : String) (handler_entered : Bool) (decision_id : Option String) : GovernedExecution :=
  if handler_entered then {
    status := .indeterminate
    request_id := action.request_id
    tool_executed := none
    reason := stage ++ detail
    decision_id := decision_id
    output := .none
    retryable := false
    request_id_text := action.request_id_text
    reason_text := nonBlank_append_left detail hstage
    tool_executed_fits := rfl
    retryable_fits := by simp }
  else controlFailure action stage hstage detail decision_id

/-- The result of a verdict other than ALLOW. -/
def notAllowed (action : ActionIntent) (decision : PrivateVaultDecision) (status : ExecutionStatus)
    (hstatus : status.toolExecuted = some false) (stage : String)
    (hstage : nonBlank stage = true) : GovernedExecution where
  status := status
  request_id := action.request_id
  tool_executed := some false
  reason := stage ++ decision.triggered_by
  decision_id := decisionId decision
  output := .none
  retryable := false
  request_id_text := action.request_id_text
  reason_text := nonBlank_append_left decision.triggered_by hstage
  tool_executed_fits := hstatus.symm
  retryable_fits := by simp

/-- The result of a closed execution. -/
def executionClosed (action : ActionIntent) (decision : PrivateVaultDecision)
    (result : DispatchResult) : GovernedExecution where
  status := .executed
  request_id := action.request_id
  tool_executed := some true
  reason := "execution_closed"
  decision_id := decisionId decision
  output := result.output
  retryable := false
  request_id_text := action.request_id_text
  reason_text := by decide
  tool_executed_fits := GovernedExecution.executed_fits
  retryable_fits := GovernedExecution.executed_final

/-- `digests[key]`. -/
def digestOf (digests : Dict) (key : String) : Raises Json :=
  match digests.get? key with
  | some value => .ok value
  | none => .error (Exn.parts .keyError [.repr (.str key)])

/-- `_bind`. -/
def bindIssued (action : ActionIntent) (planned : PlannedDispatch) (issued : IssuedAuthorization) :
    Raises ExecutionAuthorizationBinding := do
  let digests := issued.binding_digests
  let decision ← digestOf digests "decision_receipt_digest"
  let authority ← digestOf digests "authority_receipt_digest"
  let state ← digestOf digests "state_snapshot_digest"
  let policy ← digestOf digests "policy_bundle_digest"
  let obligations ← digestOf digests "obligations_digest"
  let at_time ← digestOf digests "at_time"
  ExecutionAuthorizationBinding.capture action.request_id planned.action planned.prepared decision
    authority (digests.get "approval_artifact_digest") state policy obligations at_time

/-- Run a program and report whether it entered the tool handler. -/
def watchEntry {E : Sig} {α : Type} (entered : Bool) :
    Prog (WithHandler E) α → Prog (WithHandler E) (α × Bool)
  | .ret a => .ret (a, entered)
  | .op (.handler arguments) k => .op (.handler arguments) fun x => watchEntry true (k x)
  | .op (.port o) k => .op (.port o) fun x => watchEntry entered (k x)

theorem obeys_watchEntry {E : Sig} {V α : Type} {P : Protocol E V} {Q : V → α → Prop} {v : V}
    {p : Prog (WithHandler E) α} {entered : Bool} (h : Prog.Obeys (onPorts P) Q v p) :
    Prog.Obeys (onPorts P) (fun v r => Q v r.1 ∧ r.2 = entered) v (watchEntry entered p) := by
  induction p generalizing v with
  | ret a => exact ⟨h, rfl⟩
  | op o k ih =>
    cases o with
    | handler arguments => exact absurd h.1 id
    | port o => exact ⟨h.1, fun x hx => ih x (h.2 x hx)⟩

/-- The tool handler as a function. -/
def enterHandler (arguments : Dict) : HandlerM PyVal :=
  call (E := WithHandler PortSig) (.handler arguments) rfl

/-- `PrivateVaultExecutionGateway`, given its transport. -/
structure PrivateVaultExecutionGateway where
  transport : DispatchTransport

namespace PrivateVaultExecutionGateway

/-- Plan, and bind the plan to the decision request. -/
def planAndBind (action : ActionIntent) : PortM (PlannedDispatch × DecisionBinding) := do
  let planned ← call (.plan action) rfl
  let binding ← raising
    (DecisionBinding.capture action planned.action planned.prepared.dispatch)
  return (planned, binding)

/-- What issuing and verifying a permit yields. -/
structure Authorized where
  issued : IssuedAuthorization
  binding : ExecutionAuthorizationBinding
  verified : VerifiedAuthorization

/-- Issue a permit, bind it, and verify it; unless the transport is
    independent, also claim it. -/
def authorize (gateway : PrivateVaultExecutionGateway) (action : ActionIntent)
    (decision : PrivateVaultDecision) (planned : PlannedDispatch) : PortM Authorized := do
  let issued ← call (.issue action decision planned) rfl
  let binding ← raising (bindIssued action planned issued)
  if gateway.transport.isIndependent then
    let verified ← verifyAuthorization issued.authorization (some issued.trust_bundle) binding
      false
    return ⟨issued, binding, verified⟩
  else
    let claimed_at ← call (.clock .agent) rfl
    let verified ← verifyAndClaim issued.authorization (some issued.trust_bundle) binding
      (some claimed_at)
    return ⟨issued, binding, verified⟩

/-- The arguments of the dispatch: a witness id and the time. -/
def dispatchRequest (action : ActionIntent) (planned : PlannedDispatch) (a : Authorized) :
    PortM DispatchRequest := do
  let witness_id ← call (.witnessId action) rfl
  let observed_at ← call (.clock .agent) rfl
  return {
    authorization := a.issued.authorization
    trust_bundle := a.issued.trust_bundle
    action := planned.action
    prepared := planned.prepared
    witness_id
    observed_at
    attempt := 1
    binding := a.binding }

/-- Dispatch by a transport that is bound to the handler where it needs one;
    `none` if it can be given none. -/
def dispatchBy (action : ActionIntent) (planned : PlannedDispatch) (a : Authorized) :
    DispatchTransport → Option (HandlerM DispatchResult)
  | .independent dispatch => some (portsM do
      let request ← dispatchRequest action planned a
      dispatch request)
  | .bindable dispatch => some do
      let request ← portsM (dispatchRequest action planned a)
      dispatch enterHandler request
  | .unbindable => none

/-- Verify witness and closure of a result. -/
def verifyEvidence (a : Authorized) (result : DispatchResult) : PortM Unit := do
  let verified_dispatch ← verifyDispatch a.verified result.witness
  match result.closure with
  | none => throw (Exn.of .executionGatewayError "dispatch returned no closure")
  | some closure =>
    let _ ← verifyClosure verified_dispatch (some closure)
    return ()

/-- From the outcome of the dispatch to a result. -/
def conclude (gateway : PrivateVaultExecutionGateway) (action : ActionIntent)
    (decision : PrivateVaultDecision) (a : Authorized) (outcome : Raises DispatchResult)
    (handler_entered : Bool) : Prog PortSig GovernedExecution :=
  let independent := gateway.transport.isIndependent
  let decision_id := decisionId decision
  match outcome with
  | .error exc =>
    if exc.kind = .handlerNotInvoked then
      return controlFailure action "dispatch_refused:" (by decide) exc.name decision_id
    else
      return indeterminate action "dispatch_failed:" (by decide) exc.name
        (handler_entered || independent) decision_id
  | .ok result =>
    (verifyEvidence a result).run >>= fun
      | .error exc =>
        return indeterminate action "closure_unproven:" (by decide) exc.name
          (handler_entered || independent) decision_id
      | .ok () =>
        if independent && handler_entered then
          return indeterminate action "independent_dispatch_entered_local_handler" (by decide) ""
            true decision_id
        else if !independent && !handler_entered then
          return indeterminate action "closure_without_handler_entry" (by decide) ""
            handler_entered decision_id
        else return executionClosed action decision result

/-- What follows an ALLOW decision. -/
def executeAllowed (gateway : PrivateVaultExecutionGateway) (action : ActionIntent)
    (decision : PrivateVaultDecision) (planned : PlannedDispatch) :
    Prog (WithHandler PortSig) (Raises GovernedExecution) :=
  ports (gateway.authorize action decision planned).run >>= fun
    | .error exc =>
      return .ok (controlFailure action "authorization_refused:" (by decide) exc.name none)
    | .ok a =>
      match dispatchBy action planned a gateway.transport with
      | none =>
        -- Outside of every `try`: the runtime sees this exception.
        return .error (Exn.of .executionGatewayError
          "dispatch transport cannot bind a single-entry handler")
      | some dispatch => do
        let (outcome, handler_entered) ← watchEntry false dispatch.run
        let result ← ports (gateway.conclude action decision a outcome handler_entered)
        return .ok result

/-- `decide_and_execute`. -/
def decideAndExecute (gateway : PrivateVaultExecutionGateway) (action : ActionIntent) :
    Prog (WithHandler PortSig) (Raises GovernedExecution) :=
  ports (planAndBind action).run >>= fun
    | .error exc =>
      return .ok (controlFailure action "dispatch_planning_failed:" (by decide) exc.name none)
    | .ok (planned, decision_binding) =>
      ports (call (E := PortSig) (.decide action decision_binding) rfl :
          PortM PrivateVaultDecision).run >>= fun
        | .error exc =>
          return .ok (controlFailure action "decision_unavailable:" (by decide) exc.name none)
        | .ok decision =>
          match decision.verdict with
          | .block =>
            return .ok (notAllowed action decision .blocked rfl "privatevault_block:" (by decide))
          | .requireApproval =>
            return .ok (notAllowed action decision .reviewRequired rfl "privatevault_review:"
              (by decide))
          | .allow => gateway.executeAllowed action decision planned

/-- The gateway as the runtime sees it. -/
def asGateway (gateway : PrivateVaultExecutionGateway) : PrivateVaultGateway PortSig where
  independent_execution := gateway.transport.isIndependent
  decideAndExecute action := do
    let outcome ← gateway.decideAndExecute action
    return outcome.map GatewayResult.execution

end PrivateVaultExecutionGateway

/-! ## Section 4: The sidecar behind the gateway -/

/-- When something may be sent: the channel delivered a payload, and the
    sidecar's own guard holds for it. -/
def deliveredGuard (service : SidecarDispatchService) (past : List PortEvent) : PortOp → Prop
  | .sendExact wire_bytes _ _ _ =>
    ∃ sent payload envelope, (⟨.deliver sent, .ok payload⟩ : PortEvent) ∈ past ∧
      decodeRequest payload = .ok envelope ∧ service.SendGuard envelope past wire_bytes
  | _ => True

/-- `_decode_response` returns a result only for an `EXECUTED` response. -/
theorem decodeResponse_ok {response : SidecarResponse} {request_id : String}
    {result : DispatchResult} (h : decodeResponse response request_id = .ok result) :
    response.fields.get "status" = .str "EXECUTED" := by
  unfold decodeResponse at h
  obtain ⟨_, h⟩ := require_bind_ok.mp h
  obtain ⟨_, _, h⟩ := bind_ok.mp h
  obtain ⟨_, h⟩ := require_bind_ok.mp h
  obtain ⟨status, hstatus, h⟩ := bind_ok.mp h
  obtain ⟨phase, _, h⟩ := bind_ok.mp h
  obtain ⟨_, h⟩ := require_bind_ok.mp h
  obtain ⟨hexecuted, _⟩ := require_bind_ok.mp h
  rw [(sidecarText_ok.mp hstatus).1, hexecuted.1]

/-- An exception of a kind other than `HandlerNotInvoked`. -/
def NotRefused {α : Type} (x : Raises α) : Prop :=
  ∀ e, x = .error e → e.kind ≠ .handlerNotInvoked

theorem NotRefused.bind {α β : Type} {x : Raises α} {f : α → Raises β} (hx : NotRefused x)
    (hf : ∀ a, NotRefused (f a)) : NotRefused (x >>= f) := by
  intro e he
  rcases bind_error.mp he with h | ⟨a, _, h⟩
  · exact hx e h
  · exact hf a e h

theorem notRefused_require {c : Prop} [Decidable c] {e : Exn} (h : e.kind ≠ .handlerNotInvoked) :
    NotRefused (require c e) := by
  intro e' he
  rw [← (require_error.mp he).2]
  exact h

theorem notRefused_sidecarText (d : Dict) (key : String) : NotRefused (sidecarText d key) := by
  intro e he
  rw [requiredMember_error he]
  simp

theorem notRefused_requiredMapping (d : Option Dict) (path : String) :
    NotRefused (requiredMapping d path) := by
  intro e he
  cases d with
  | some d => cases he
  | none =>
    obtain rfl := Except.error.inj he
    simp

theorem notRefused_unb64 (value : Json) (path : String) : NotRefused (unb64 value path) := by
  intro e he
  unfold unb64 at he
  split at he
  · split at he
    · obtain rfl := Except.error.inj he
      simp
    · split at he
      · obtain rfl := Except.error.inj he
        simp
      · split at he
        · obtain rfl := Except.error.inj he
          simp
        · cases he
  · obtain rfl := Except.error.inj he
    simp

theorem notRefused_decodeExecuted (response : SidecarResponse) :
    NotRefused (decodeExecuted response) := by
  unfold decodeExecuted
  exact (notRefused_requiredMapping _ _).bind fun _ =>
    (notRefused_requiredMapping _ _).bind fun _ =>
    (notRefused_sidecarText _ _).bind fun _ =>
    (notRefused_sidecarText _ _).bind fun _ =>
    (notRefused_unb64 _ _).bind fun _ =>
    (notRefused_sidecarText _ _).bind fun _ e he => absurd he pure_ne_error

/-- `_decode_response` says `HandlerNotInvoked` only of a `REFUSED`
    response. -/
theorem decodeResponse_refused {response : SidecarResponse} {request_id : String} {e : Exn}
    (h : decodeResponse response request_id = .error e) (hkind : e.kind = .handlerNotInvoked) :
    response.fields.get "status" = .str "REFUSED" := by
  unfold decodeResponse at h
  rcases bind_error.mp h with h | ⟨_, _, h⟩
  · exact absurd hkind (notRefused_require (by simp) e h)
  rcases bind_error.mp h with h | ⟨_, _, h⟩
  · exact absurd hkind (notRefused_sidecarText _ _ e h)
  rcases bind_error.mp h with h | ⟨_, _, h⟩
  · exact absurd hkind (notRefused_require (by simp) e h)
  rcases bind_error.mp h with h | ⟨status, hstatus, h⟩
  · exact absurd hkind (notRefused_sidecarText _ _ e h)
  rcases bind_error.mp h with h | ⟨phase, _, h⟩
  · exact absurd hkind (notRefused_sidecarText _ _ e h)
  rcases bind_error.mp h with h | ⟨_, _, h⟩
  · -- The one place that raises it.
    have hrefused := not_not.mp (require_error.mp h).1
    rw [(sidecarText_ok.mp hstatus).1, hrefused.1]
  rcases bind_error.mp h with h | ⟨_, _, h⟩
  · exact absurd hkind (notRefused_require (by simp) e h)
  · exact absurd hkind (notRefused_decodeExecuted response e h)

section
variable {service : SidecarDispatchService} {now : List PortEvent}

/-- An RPC sends at most once, and a response that comes back is truthful. -/
theorem rpcCall_meets {payload : Dict} (hnone : sends now = 0) :
    Fallible.Meets (guarded PortOp.isSend (deliveredGuard service))
      (SidecarDispatchService.Truthful now) (fun later _ => now <+: later) now
      (rpcCall service payload) := by
  unfold rpcCall
  refine Fallible.Meets.bind (R := fun later delivered => Quiet PortOp.isSend now later ∧
    (⟨.deliver payload, .ok delivered⟩ : PortEvent) ∈ later) ?_ ?_
  · exact Fallible.Meets.mono (QuietMeets.ofCall rfl) (fun _ _ h => h) fun _ _ h => h.extends_past
  rintro later delivered ⟨hq, hdelivered⟩
  have hzero : sends later = 0 := hq.marked_eq.trans hnone
  refine Fallible.Meets.bind (R := SidecarDispatchService.Truthful later) ?_ ?_
  · have hhandle : Prog.Obeys (guarded PortOp.isSend (deliveredGuard service))
        (SidecarDispatchService.Truthful later) later (service.handle delivered) :=
      SidecarDispatchService.handle_obeys hzero (by
        intro last o hextends hsend
        cases o with
        | sendExact wire_bytes content_type content_encoding credential =>
          obtain ⟨envelope, hdecode, hguard⟩ := hsend
          exact ⟨payload, delivered, envelope, hextends.subset hdelivered, hdecode, hguard⟩
        | _ => trivial)
    exact Prog.Obeys.bind hhandle fun _ _ h => h
  intro last response htruth
  refine Fallible.Meets.bind (R := fun final _ => Quiet PortOp.isSend last final) ?_ ?_
  · exact Fallible.Meets.mono (QuietMeets.ofCall rfl) (fun _ _ h => h.1)
      fun _ _ h => (hq.extends_past.trans htruth.extends_past).trans h.extends_past
  · intro final _ hq'
    exact {
      extends_past := (hq.extends_past.trans htruth.extends_past).trans hq'.extends_past
      atMostOne := hq'.marked_eq.trans_le htruth.atMostOne
      refused := fun h => hq'.marked_eq.trans (htruth.refused h)
      executed := fun h => hq'.marked_eq.trans (htruth.executed h) }

/-- The sidecar transport returns after exactly one send, and raises
    `HandlerNotInvoked` only after none. -/
theorem sidecarDispatch_meets {request : DispatchRequest} (hnone : sends now = 0) :
    Fallible.Meets (guarded PortOp.isSend (deliveredGuard service))
      (fun later _ => now <+: later ∧ sends later = 1)
      (fun later e => now <+: later ∧ (e.kind = .handlerNotInvoked → sends later = 0)) now
      (sidecarDispatch service request) := by
  unfold sidecarDispatch
  refine Fallible.Meets.bind (R := fun later _ => Quiet PortOp.isSend now later) ?_ ?_
  · refine Fallible.Meets.mono
      (QuietMeets.ofRaising (Q := fun _ _ => True) fun _ _ => trivial) (fun _ _ h => h.1) ?_
    intro later _ hq
    exact ⟨hq.extends_past, fun _ => hq.marked_eq.trans hnone⟩
  intro later _ hq
  have hzero : sends later = 0 := hq.marked_eq.trans hnone
  refine Fallible.Meets.bind (R := SidecarDispatchService.Truthful later) ?_ ?_
  · refine (Fallible.Meets.mono (rpcCall_meets hzero) (fun _ _ h => h) ?_).mapError
    intro last _ hextends
    exact ⟨hq.extends_past.trans hextends, fun hkind => by simp at hkind⟩
  · intro last response htruth
    have hextends := hq.extends_past.trans htruth.extends_past
    apply Fallible.meets_raising.mpr
    cases hdecode : decodeResponse response request.binding.request_id with
    | ok result => exact ⟨hextends, htruth.executed (decodeResponse_ok hdecode)⟩
    | error e =>
      exact ⟨hextends, fun hkind => htruth.refused (decodeResponse_refused hdecode hkind)⟩

end

end CBrain
