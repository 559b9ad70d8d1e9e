import CBrain.SidecarCodec

/-! # The composition

    Runtime, gateway, sidecar transport and sidecar as one program.  Soundness:
    what the final result says about the bytes that were sent is true.  And
    the other way round: where every port answers as it should, the result is
    `EXECUTED`.
-/

namespace CBrain

open Effect
open Effect.Fallible (call raising Succeeds Returns)
open Json (Dict)

/-! ## Section 1: What a result says about sends -/

/-- The evidence behind an `EXECUTED` result: the permit issued for the plan,
    and its binding, against which Agent DNA accepted the authorization, the
    witness and the closure. -/
def Evidenced (action : ActionIntent) (log : List PortEvent) : Prop :=
  ∃ decision planned issued binding witness closure,
    (⟨.plan action, .ok planned⟩ : PortEvent) ∈ log ∧
    (⟨.issue action decision planned, .ok issued⟩ : PortEvent) ∈ log ∧
    bindIssued action planned issued = .ok binding ∧
    AuthorizationAccepted binding log ∧ WitnessAccepted binding witness log ∧
    ClosureAccepted witness closure log

/-- A result that tells the truth about the sends of a run. -/
structure Proven (action : ActionIntent) (log : List PortEvent) (result : GovernedExecution) :
    Prop where
  notExecuted : result.status.notExecuted = true → sends log = 0
  executed : result.status = .executed → sends log = 1 ∧ Evidenced action log

/-- The same of an outcome of the gateway: an exception says nothing. -/
def ProvenOutcome (action : ActionIntent) (log : List PortEvent) :
    Raises GovernedExecution → Prop
  | .ok result => Proven action log result
  | .error _ => True

theorem proven_of_notExecuted {action : ActionIntent} {log : List PortEvent}
    {result : GovernedExecution} (hnone : sends log = 0) (hstatus : result.status ≠ .executed) :
    Proven action log result :=
  ⟨fun _ => hnone, fun h => absurd h hstatus⟩

/-- An indeterminate result claims nothing. -/
theorem proven_indeterminate {action : ActionIntent} {log : List PortEvent} {stage detail : String}
    {hstage : nonBlank stage = true} {decision_id : Option String} :
    Proven action log (indeterminate action stage hstage detail true decision_id) := by
  constructor
  · intro h
    cases h
  · intro h
    cases h

namespace PrivateVaultExecutionGateway

section
variable {guard : List PortEvent → PortOp → Prop} {now : List PortEvent}
variable {action : ActionIntent} {decision : PrivateVaultDecision} {planned : PlannedDispatch}

theorem planAndBind_quiet :
    QuietMeets PortOp.isSend guard
      (fun later r => (⟨.plan action, .ok r.1⟩ : PortEvent) ∈ later) now (planAndBind action) := by
  refine (QuietMeets.ofCall rfl).bind ?_
  intro now planned _ hplan
  refine (QuietMeets.ofRaising (Q := fun _ _ => True) fun _ _ => trivial).bind ?_
  intro later binding hq _
  exact QuietMeets.ofPure (hq.mem hplan)

/-- The permit of an independent gateway: issued for the plan, bound, and
    accepted. -/
theorem authorize_quiet {gateway : PrivateVaultExecutionGateway}
    (hindependent : gateway.transport.isIndependent = true) :
    QuietMeets PortOp.isSend guard
      (fun later a => (⟨.issue action decision planned, .ok a.issued⟩ : PortEvent) ∈ later ∧
        bindIssued action planned a.issued = .ok a.binding ∧ a.verified.binding = a.binding ∧
        AuthorizationAccepted a.binding later) now
      (gateway.authorize action decision planned) := by
  refine (QuietMeets.ofCall rfl).bind ?_
  intro now issued _ hissued
  refine (QuietMeets.ofRaising (Q := fun _ b => bindIssued action planned issued = .ok b)
    fun _ h => h).bind ?_
  intro now binding hq hbinding
  have hmem := hq.mem hissued
  rw [if_pos hindependent]
  refine verifyAuthorization_quiet.bind ?_
  rintro later verified hq' ⟨hverified, _, haccepted⟩
  exact QuietMeets.ofPure ⟨hq'.mem hmem, hbinding, hverified, haccepted⟩

/-- Verified evidence was accepted for the binding of the authorization. -/
theorem verifyEvidence_quiet {a : Authorized} {result : DispatchResult} :
    QuietMeets PortOp.isSend guard
      (fun later _ => ∃ witness closure, WitnessAccepted a.verified.binding witness later ∧
        ClosureAccepted witness closure later) now (verifyEvidence a result) := by
  unfold verifyEvidence
  cases result.witness with
  | none => exact verifyDispatch_none.bind fun _ _ _ h => absurd h id
  | some witness =>
    refine verifyDispatch_quiet.bind ?_
    rintro now verified_dispatch _ ⟨_, hwitness, haccepted⟩
    cases result.closure with
    | none => exact QuietMeets.ofThrow
    | some closure =>
      refine verifyClosure_quiet.bind ?_
      intro later _ hq hclosure
      rw [hwitness] at hclosure
      exact QuietMeets.ofPure
        ⟨witness, closure, haccepted.mono hq.extends_past.subset, hclosure⟩

/-- What an independent gateway concludes is proven, if the dispatch sent
    exactly once when it returned, and never when it raised
    `HandlerNotInvoked`. -/
theorem conclude_obeys {gateway : PrivateVaultExecutionGateway} {a : Authorized}
    {outcome : Raises DispatchResult} (hindependent : gateway.transport.isIndependent = true)
    (hplan : (⟨.plan action, .ok planned⟩ : PortEvent) ∈ now)
    (hissued : (⟨.issue action decision planned, .ok a.issued⟩ : PortEvent) ∈ now)
    (hbinding : bindIssued action planned a.issued = .ok a.binding)
    (hverified : a.verified.binding = a.binding) (haccepted : AuthorizationAccepted a.binding now)
    (hok : ∀ result, outcome = .ok result → sends now = 1)
    (herror : ∀ e, outcome = .error e → e.kind = .handlerNotInvoked → sends now = 0) :
    Prog.Obeys (guarded PortOp.isSend guard) (Proven action) now
      (gateway.conclude action decision a outcome false) := by
  unfold conclude
  simp only [hindependent]
  cases outcome with
  | error exc =>
    by_cases hkind : exc.kind = .handlerNotInvoked
    · simp only [if_pos hkind]
      exact proven_of_notExecuted (herror exc rfl hkind) (by simp [controlFailure])
    · simp only [if_neg hkind]
      exact proven_indeterminate
  | ok result =>
    have hone := hok result rfl
    refine Fallible.Meets.run_bind verifyEvidence_quiet ?_ ?_
    · rintro later _ ⟨hq, witness, closure, hwitness, hclosure⟩
      rw [hverified] at hwitness
      refine ⟨fun h => (by cases h), fun _ => ⟨hq.marked_eq.trans hone, ?_⟩⟩
      exact ⟨decision, planned, a.issued, a.binding, witness, closure, hq.mem hplan,
        hq.mem hissued, hbinding, haccepted.mono hq.extends_past.subset, hwitness, hclosure⟩
    · intro later exc _
      exact proven_indeterminate

end

/-- The gateway over a sidecar. -/
def overSidecar (service : SidecarDispatchService) : PrivateVaultExecutionGateway where
  transport := sidecarTransport service

section
variable {service : SidecarDispatchService} {now : List PortEvent}
variable {action : ActionIntent} {decision : PrivateVaultDecision} {planned : PlannedDispatch}

/-- The protocol of the gateway over a sidecar: nothing is sent but under the
    guard of the delivered payload, and the tool handler is left alone. -/
abbrev sidecarProtocol (service : SidecarDispatchService) :
    Protocol (WithHandler PortSig) (List PortEvent) :=
  onPorts (guarded PortOp.isSend (deliveredGuard service))

theorem executeAllowed_obeys (hnone : sends now = 0)
    (hplan : (⟨.plan action, .ok planned⟩ : PortEvent) ∈ now) :
    Prog.Obeys (sidecarProtocol service) (ProvenOutcome action) now
      ((overSidecar service).executeAllowed action decision planned) := by
  unfold executeAllowed
  refine obeys_ports_bind (authorize_quiet rfl) ?_ ?_
  · rintro now₁ a ⟨hq, hissued, hbinding, hverified, haccepted⟩
    have hnone₁ : sends now₁ = 0 := hq.marked_eq.trans hnone
    have hplan₁ := hq.mem hplan
    -- From the dispatch on: what it returned or raised bears out the sends.
    have hdispatch : Fallible.Meets (guarded PortOp.isSend (deliveredGuard service))
        (fun later _ => now₁ <+: later ∧ sends later = 1)
        (fun later e => now₁ <+: later ∧ (e.kind = .handlerNotInvoked → sends later = 0)) now₁
        (do
          let request ← dispatchRequest action planned a
          sidecarDispatch service request) := by
      refine Fallible.Meets.bind (R := fun later _ => Quiet PortOp.isSend now₁ later) ?_ ?_
      · have hrequest : QuietMeets PortOp.isSend (deliveredGuard service) (fun _ _ => True) now₁
            (dispatchRequest action planned a) := by
          refine (QuietMeets.ofCall rfl).bind ?_
          intro later witness_id _ _
          refine (QuietMeets.ofCall rfl).bind ?_
          intro last observed_at _ _
          exact QuietMeets.ofPure trivial
        refine Fallible.Meets.mono hrequest (fun _ _ h => h.1) ?_
        intro later _ hq'
        exact ⟨hq'.extends_past, fun _ => hq'.marked_eq.trans hnone₁⟩
      · intro later request hq'
        apply Fallible.Meets.mono (sidecarDispatch_meets (hq'.marked_eq.trans hnone₁))
        · rintro last _ ⟨hextends, hone⟩
          exact ⟨hq'.extends_past.trans hextends, hone⟩
        · rintro last _ ⟨hextends, hzero⟩
          exact ⟨hq'.extends_past.trans hextends, hzero⟩
    refine Prog.Obeys.bind (obeys_watchEntry (obeys_ports hdispatch)) ?_
    rintro now₂ ⟨outcome, entered⟩ ⟨houtcome, hentered⟩
    simp only at houtcome hentered
    subst hentered
    have hextends : now₁ <+: now₂ := by
      cases outcome with
      | ok result => exact houtcome.1
      | error e => exact houtcome.1
    refine Prog.Obeys.bind (obeys_ports (P := guarded PortOp.isSend (deliveredGuard service))
      (conclude_obeys rfl (hextends.subset hplan₁) (hextends.subset hissued) hbinding hverified
      (haccepted.mono hextends.subset) ?_ ?_)) fun _ _ h => h
    · intro result hresult
      subst hresult
      exact houtcome.2
    · intro e he
      subst he
      exact houtcome.2
  · intro later exc hq
    exact proven_of_notExecuted (hq.marked_eq.trans hnone) (by simp [controlFailure])

/-- The outcome of the gateway over a sidecar is proven. -/
theorem decideAndExecute_obeys :
    Prog.Obeys (sidecarProtocol service) (ProvenOutcome action) []
      ((overSidecar service).decideAndExecute action) := by
  unfold decideAndExecute
  refine obeys_ports_bind planAndBind_quiet ?_ ?_
  · rintro now ⟨planned, binding⟩ ⟨hq, hplan⟩
    refine obeys_ports_bind (QuietMeets.ofCall rfl) ?_ ?_
    · rintro later decision ⟨hq', _⟩
      have hnone : sends later = 0 := hq'.marked_eq.trans hq.marked_eq
      cases hverdict : decision.verdict with
      | block =>
        simp only [hverdict]
        exact proven_of_notExecuted hnone (by simp [notAllowed])
      | requireApproval =>
        simp only [hverdict]
        exact proven_of_notExecuted hnone (by simp [notAllowed])
      | allow =>
        simp only [hverdict]
        exact executeAllowed_obeys hnone (hq'.mem hplan)
    · intro later exc hq'
      exact proven_of_notExecuted (hq'.marked_eq.trans hq.marked_eq) (by simp [controlFailure])
  · intro later exc hq
    exact proven_of_notExecuted hq.marked_eq (by simp [controlFailure])

/-- The wrapped gateway, as the runtime runs it. -/
theorem invokeOnce_obeys_sidecar :
    Prog.Obeys (sidecarProtocol service)
      (fun later r => (∀ g, r.1 = .ok (.execution g) → Proven action later g) ∧ r.2 = 0) []
      (invokeOnce 0 ((overSidecar service).asGateway.decideAndExecute action)) := by
  refine obeys_invokeOnce
    (Q := fun later (r : Raises GatewayResult) =>
      ∀ g, r = .ok (.execution g) → Proven action later g) ?_
  refine Prog.Obeys.bind decideAndExecute_obeys ?_
  intro later outcome houtcome g hg
  cases outcome with
  | error e => cases hg
  | ok result =>
    obtain rfl : result = g := by simpa [Except.map] using hg
    exact houtcome

end

end PrivateVaultExecutionGateway

/-! ## Section 2: Ports that answer as they should -/

section runs
variable {E : Sig} {α : Type}

/-- A port event where there also is a tool handler. -/
def asPort (e : E.Event) : (WithHandler E).Event := ⟨.port e.1, e.2⟩

theorem run_ports {p : Prog E α} {log : List E.Event} {a : α} (h : Prog.Run p log a) :
    Prog.Run (ports p) (log.map asPort) a := by
  induction h with
  | ret a => exact Prog.Run.ret a
  | @op o k log a x _ ih =>
    exact Prog.Run.op (E := WithHandler E) (o := .port o) (k := fun x => ports (k x)) x ih

theorem run_watchEntry_ports {p : Prog E α} {log : List E.Event} {a : α} {entered : Bool}
    (h : Prog.Run p log a) :
    Prog.Run (watchEntry entered (ports p)) (log.map asPort) (a, entered) := by
  induction h with
  | ret a => exact Prog.Run.ret _
  | @op o k log a x _ ih =>
    exact Prog.Run.op (E := WithHandler E) (o := .port o)
      (k := fun x => watchEntry entered (ports (k x))) x ih

/-- A run of port events only is one of the wrapped program. -/
theorem run_invokeOnce_ports {p : Prog (WithHandler E) α} {log : List E.Event} {a : α} {n : Nat}
    (h : Prog.Run p (log.map asPort) a) :
    Prog.Run (invokeOnce n p) (log.map asPort) (a, n) := by
  induction log generalizing p with
  | nil =>
    cases h
    exact Prog.Run.ret _
  | cons e log ih =>
    obtain ⟨o, x⟩ := e
    cases h with
    | @op _ k _ _ _ hrest =>
      exact Prog.Run.op (E := WithHandler E) (o := .port o) (k := fun x => invokeOnce n (k x)) x
        (ih hrest)

end runs

namespace SidecarDispatchService.Cooperation

variable {c : Cooperation} {service : SidecarDispatchService} {envelope : SidecarEnvelope}

/-- What the response document can carry. -/
structure Encodable (c : Cooperation) (request_id : String) : Prop where
  request_id : nonBlank request_id = true
  dispatch_outcome : nonBlank c.response.dispatch_outcome = true
  response_status : nonBlank c.response.response_status = true
  effect_state : nonBlank c.response.effect_state = true
  response_bytes : c.response_bytes.size ≠ 0
  witness : Json.finite c.witness.json = true
  closure : Json.finite c.closure.json = true
  output : c.response.output.encodable = true

/-- The response of a dispatched request decodes to its result. -/
theorem decode_respond {payload : Dict} (h : c.Encodable envelope.binding.request_id) :
    decodeResponse (respond payload envelope (.ok c.result)) envelope.binding.request_id =
      .ok c.result := by
  have hresponse : encodeSuccess envelope.binding.request_id c.result =
      .ok ⟨successFields envelope.binding.request_id c.result c.witness c.closure,
        c.result.output⟩ := encodeSuccess_eq rfl rfl
  have hencodable : SidecarResponse.encodable
      ⟨successFields envelope.binding.request_id c.result c.witness c.closure,
        c.result.output⟩ = true := by
    unfold SidecarResponse.encodable
    rw [finite_successFields.mpr ⟨h.witness, h.closure⟩]
    exact h.output
  simp only [respond, hresponse]
  rw [if_pos hencodable]
  apply (decodeResponse_success (fun _ _ => rfl) h.request_id).mpr
  exact ⟨h.response_bytes, h.dispatch_outcome, h.response_status, h.effect_state, rfl⟩

end SidecarDispatchService.Cooperation

namespace PrivateVaultExecutionGateway

section
variable {service : SidecarDispatchService} {action : ActionIntent}
variable {decision : PrivateVaultDecision} {planned : PlannedDispatch}
variable {issued : IssuedAuthorization} {binding : ExecutionAuthorizationBinding}
variable {report : VerificationReport} {witness_id : String} {envelope : SidecarEnvelope}
variable {c : SidecarDispatchService.Cooperation}

/-- The permit of a run that is not refused. -/
def permit (issued : IssuedAuthorization) (binding : ExecutionAuthorizationBinding)
    (report : VerificationReport) : Authorized where
  issued := issued
  binding := binding
  verified := ⟨binding, report.evidence "authorization", Snapshot.ofDict issued.authorization,
    Snapshot.ofDict issued.trust_bundle⟩

theorem authorize_returns (hbind : bindIssued action planned issued = .ok binding)
    (hauthorization : Json.finite issued.authorization.json = true)
    (htrust : Json.finite issued.trust_bundle.json = true) (hreport : report.accepted = true) :
    Returns ((overSidecar service).authorize action decision planned)
      (permit issued binding report) := by
  unfold authorize
  refine Returns.call_bind issued ?_
  refine Returns.raising_bind hbind ?_
  have hindependent : (overSidecar service).transport.isIndependent = true := rfl
  rw [if_pos hindependent]
  refine Returns.bind ⟨_, verifyAuthorization_succeeds hauthorization htrust hreport⟩ ?_
  exact Returns.ofPure _

theorem rpcCall_returns {payload : Dict} (hdecode : decodeRequest payload = .ok envelope)
    (hfits : c.Fits service envelope) :
    Returns (rpcCall service payload)
      (SidecarDispatchService.respond payload envelope (.ok c.result)) := by
  have hhandle := SidecarDispatchService.Cooperation.handle_run hdecode hfits
  have hlift : Returns (ExceptT.lift (service.handle payload) : PortM SidecarResponse)
      (SidecarDispatchService.respond payload envelope (.ok c.result)) :=
    ⟨_, Prog.run_bind.mpr ⟨_, _, _, hhandle, Prog.Run.ret _, rfl⟩⟩
  unfold rpcCall
  refine Returns.call_bind payload ?_
  refine hlift.bind ?_
  refine Returns.call_bind () ?_
  exact Returns.ofPure _

theorem dispatch_returns (hbind : bindIssued action planned issued = .ok binding)
    (hdecode : decodeRequest (encodeRequest issued.authorization issued.trust_bundle binding
      witness_id 1) = .ok envelope)
    (hbinding : envelope.binding = binding) (hfits : c.Fits service envelope)
    (hencodable : c.Encodable binding.request_id) :
    Returns (do
      let request ← dispatchRequest action planned (permit issued binding report)
      sidecarDispatch service request) c.result := by
  obtain ⟨hprepared, haction, hfinite⟩ := bindIssued_ok hbind
  have hsame : binding.action.pyEq planned.action = true ∧
      binding.prepared_dispatch = planned.prepared := by
    refine ⟨?_, hprepared⟩
    rw [ExecutionAuthorizationBinding.action, haction, Snapshot.restore_ofDict]
    exact Json.pyEq_refl hfinite
  subst hbinding
  have hresponse : decodeResponse (SidecarDispatchService.respond (encodeRequest
      issued.authorization issued.trust_bundle envelope.binding witness_id 1) envelope
      (.ok c.result)) envelope.binding.request_id = .ok c.result :=
    SidecarDispatchService.Cooperation.decode_respond hencodable
  refine Returns.bind (Returns.call_bind witness_id (Returns.call_bind witness_id
    (Returns.ofPure _))) ?_
  unfold sidecarDispatch
  refine Returns.raising_bind (require_ok (u := ()).mpr hsame) ?_
  refine (rpcCall_returns hdecode hfits).mapError.bind ?_
  exact ⟨_, Succeeds.ofRaising hresponse⟩

theorem conclude_run
    (hfinite : Json.finite c.witness.json = true ∧ Json.finite c.closure.json = true)
    (hreport : report.accepted = true) :
    ∃ log, Prog.Run ((overSidecar service).conclude action decision (permit issued binding report)
      (.ok c.result) false) log (executionClosed action decision c.result) := by
  obtain ⟨log, hevidence⟩ : Returns (verifyEvidence (permit issued binding report) c.result) () := by
    unfold verifyEvidence
    refine Returns.bind ⟨_, verifyDispatch_succeeds hfinite.1 hreport⟩ ?_
    refine Returns.bind ⟨_, verifyClosure_succeeds hfinite.2 hreport⟩ ?_
    exact Returns.ofPure ()
  unfold conclude
  exact ⟨_, Prog.run_bind.mpr ⟨_, _, _, hevidence, Prog.Run.ret _, rfl⟩⟩

/-- **Where every port answers as it should, the result is `EXECUTED`.** -/
theorem execute_run {b : DecisionBinding}
    (hcapture : DecisionBinding.capture action planned.action planned.prepared.dispatch = .ok b)
    (hallow : decision.verdict = .allow) (hbind : bindIssued action planned issued = .ok binding)
    (hauthorization : Json.finite issued.authorization.json = true)
    (htrust : Json.finite issued.trust_bundle.json = true) (hreport : report.accepted = true)
    (hdecode : decodeRequest (encodeRequest issued.authorization issued.trust_bundle binding
      witness_id 1) = .ok envelope)
    (hbinding : envelope.binding = binding) (hfits : c.Fits service envelope)
    (hencodable : c.Encodable binding.request_id) :
    ∃ log, Prog.Run (execute (overSidecar service).asGateway action) log
      (executionClosed action decision c.result) := by
  obtain ⟨l₁, hauthorize⟩ : Returns ((overSidecar service).authorize action decision planned)
      (permit issued binding report) := authorize_returns hbind hauthorization htrust hreport
  obtain ⟨l₂, hdispatch⟩ : Returns (do
      let request ← dispatchRequest action planned (permit issued binding report)
      sidecarDispatch service request) c.result :=
    dispatch_returns hbind hdecode hbinding hfits hencodable
  obtain ⟨l₃, hconclude⟩ : ∃ log, Prog.Run ((overSidecar service).conclude action decision
      (permit issued binding report) (.ok c.result) false) log
      (executionClosed action decision c.result) :=
    conclude_run ⟨hencodable.witness, hencodable.closure⟩ hreport
  obtain ⟨l₄, hplan⟩ : Returns (planAndBind action) (planned, b) :=
    Returns.call_bind planned (Returns.raising_bind hcapture (Returns.ofPure _))
  obtain ⟨l₅, hdecide⟩ : Returns
      (call (E := PortSig) (.decide action b) rfl : PortM PrivateVaultDecision) decision :=
    ⟨_, Succeeds.ofCall decision⟩
  have hallowed : Prog.Run ((overSidecar service).executeAllowed action decision planned)
      ((l₁ ++ (l₂ ++ l₃)).map asPort) (.ok (executionClosed action decision c.result)) := by
    simp only [List.map_append]
    refine Prog.run_bind.mpr ⟨_, _, _, run_ports hauthorize, ?_, rfl⟩
    refine Prog.run_bind.mpr ⟨_, _, _, run_watchEntry_ports hdispatch, ?_, rfl⟩
    exact Prog.run_bind.mpr ⟨_, _, [], run_ports hconclude, Prog.Run.ret _, by simp⟩
  have hgateway : Prog.Run ((overSidecar service).decideAndExecute action)
      ((l₄ ++ (l₅ ++ (l₁ ++ (l₂ ++ l₃)))).map asPort) (.ok (executionClosed action decision c.result)) := by
    rw [List.map_append, List.map_append]
    refine Prog.run_bind.mpr ⟨_, _, _, run_ports hplan, ?_, rfl⟩
    refine Prog.run_bind.mpr ⟨_, _, _, run_ports hdecide, ?_, rfl⟩
    simp only [hallow]
    exact hallowed
  have hwrapped : Prog.Run ((overSidecar service).asGateway.decideAndExecute action)
      ((l₄ ++ (l₅ ++ (l₁ ++ (l₂ ++ l₃)))).map asPort)
      (.ok (.execution (executionClosed action decision c.result))) :=
    Prog.run_bind.mpr ⟨_, _, [], hgateway, Prog.Run.ret _, (List.append_nil _).symm⟩
  refine ⟨_, run_execute.mpr ⟨_, 0, run_invokeOnce_ports hwrapped, ?_⟩⟩
  simp [classify, executionClosed, asGateway, overSidecar, sidecarTransport,
    DispatchTransport.isIndependent]

end

end PrivateVaultExecutionGateway

end CBrain
