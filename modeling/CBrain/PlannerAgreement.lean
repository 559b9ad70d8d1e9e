import CBrain.AuthorizeClient

/-! # Planners and binders

    A plan is worth a permit only if `DecisionBinding.capture` and the
    authorization client take it.  This file relates the two planners of
    `Dispatch` to the two validators: the HTTP planner agrees with both as
    soon as it acts for somebody, the simulator planner with neither.
-/

namespace CBrain

open Json (Dict)

/-! ## Section 1: Mintable plans -/

/-- The two planners of the repository. -/
inductive Planner where
  | http (planner : HttpDispatchPlanner)
  | simulator (planner : SimulatorDispatchPlanner)

/-- `planner.plan(action)`. -/
def Planner.plan : Planner → ActionIntent → Raises PlannedDispatch
  | .http planner => planner.plan
  | .simulator planner => planner.plan

/-- The planner is set up for the action: it acts under the agent's key, and
    its route allow-lists every argument. -/
def Planner.Covers (action : ActionIntent) : Planner → Prop
  | .http planner =>
    planner.subject_key_id = action.agent_id ∧
    ∀ route, planner.routes action.tool_name = some route →
      ∀ k ∈ action.arguments.keys, k ∈ route.allowed_parameters
  | .simulator _ => True

/-- Both validators accept the plan for the action. -/
structure Mintable (action : ActionIntent) (planned : PlannedDispatch) : Prop where
  binds : ∃ b, DecisionBinding.capture action planned.action planned.prepared.dispatch = .ok b
  wire : requireWireMatchesAction planned = .ok ()

/-! ## Section 2: The HTTP planner -/

/-- With every argument allow-listed the planner drops none. -/
theorem filterArguments_covered {action : ActionIntent} {route : ToolRoute} {arguments : Dict}
    (hall : ∀ k ∈ action.arguments.keys, k ∈ route.allowed_parameters)
    (h : HttpDispatchPlanner.filterArguments action route = .ok arguments) :
    arguments = action.arguments := by
  rw [(HttpDispatchPlanner.filterArguments_ok h).1]
  apply Dict.filter_eq_self
  intro k hk
  exact List.contains_iff_mem.mpr (hall k hk)

theorem finite_of_isNonEmptyText {j : Json} (h : isNonEmptyText j = true) :
    Json.finite j = true := by
  unfold isNonEmptyText at h
  split at h
  · rfl
  · cases h

/-- Every field of the context of a prepared dispatch is a non-empty text. -/
theorem dispatchContextCandidate_text (p : PreparedDispatch) :
    ∀ f ∈ dispatchContextFields,
      isNonEmptyText (dispatchContextCandidate p.dispatch f) = true := by
  have htext : ∀ f ∈ dispatchTextFields, isNonEmptyText (p.dispatch.get f) = true :=
    fun f hf => isNonEmptyText_of_isText (p.text_field hf)
  intro f hf
  unfold dispatchContextCandidate
  by_cases hadapter : f = "adapter"
  · rw [if_pos hadapter]
    by_cases hgiven : isNonEmptyText (p.dispatch.get "adapter") = true
    · rw [if_pos hgiven]
      exact hgiven
    · rw [if_neg hgiven]
      exact htext "transport" (by decide)
  · rw [if_neg hadapter]
    apply htext
    -- The other fields of the context are text fields of the dispatch.
    revert hadapter hf
    revert f
    decide

/-- A dispatch that names a known serialization has a context. -/
theorem dispatchContext_of_prepared (p : PreparedDispatch)
    (hserial : p.dispatch.get "serialization" ∈ KNOWN_WIRE_SERIALIZATIONS.map Json.str) :
    ∃ context, dispatchContextFromDispatch p.dispatch = .ok context ∧
      Json.finite context.json = true := by
  have htext := dispatchContextCandidate_text p
  refine ⟨_, unit_bind_ok.mpr ⟨requireEach_ok.mpr htext,
    require_bind_ok.mpr ⟨hserial, pure_ok.mpr rfl⟩⟩, ?_⟩
  apply Dict.finite_of
  intro m hm
  obtain ⟨f, hf, rfl⟩ := List.mem_map.mp hm
  exact finite_of_isNonEmptyText (htext f hf)

/-- The action document of the HTTP planner, field by field. -/
theorem actionDocument_get (planner : HttpDispatchPlanner) (action : ActionIntent)
    (route : ToolRoute) (arguments : Dict) :
    let document := HttpDispatchPlanner.actionDocument planner action route arguments
    document.keys = executionActionFields ∧
      document.get "subject_principal" = .str planner.subject_principal ∧
      document.get "subject_key_id" = .str planner.subject_key_id ∧
      document.get "action" = .str action.capability ∧
      document.get "resource" = .str route.destination ∧
      document.get? "parameters" = some arguments.json := by
  constructor
  · rw [HttpDispatchPlanner.actionDocument, Dict.keys_of]
    simp only [List.map_cons, List.map_nil]
    decide +kernel
  · simp [HttpDispatchPlanner.actionDocument, Json.Dict.get, Json.get?_cons]

/-- The document is a valid execution action if it names somebody. -/
theorem validateExecutionAction_http {planner : HttpDispatchPlanner} {action : ActionIntent}
    {route : ToolRoute} {arguments parameters : Dict}
    (hkey : planner.subject_key_id = action.agent_id) :
    validateExecutionAction
        (HttpDispatchPlanner.actionDocument planner action route arguments) = .ok parameters ↔
      planner.subject_principal ≠ "" ∧ arguments = parameters := by
  obtain ⟨hkeys, hprincipal, hkeyid, haction, hresource, hparams⟩ :=
    actionDocument_get planner action route arguments
  have hdest : route.destination ≠ "" := route.named _ (by simp)
  have hagent : action.agent_id ≠ "" := nonBlank_ne_empty action.agent_id_text
  have hcapability : action.capability ≠ "" := nonBlank_ne_empty action.capability_text
  rw [validateExecutionAction_ok, asObject_eq hparams]
  constructor
  · rintro ⟨_, htexts, hobj⟩
    refine ⟨?_, Option.some.inj hobj⟩
    have h := htexts "subject_principal" (by simp)
    rw [hprincipal] at h
    simpa [isNonEmptyText] using h
  · rintro ⟨hsomebody, heq⟩
    refine ⟨hkeys, ?_, by rw [heq]⟩
    intro name hname
    simp only [List.mem_cons, List.not_mem_nil, or_false] at hname
    rcases hname with rfl | rfl | rfl | rfl
    · rw [hprincipal]
      simpa [isNonEmptyText] using hsomebody
    · rw [hkeyid, hkey]
      simpa [isNonEmptyText] using hagent
    · rw [haction]
      simpa [isNonEmptyText] using hcapability
    · rw [hresource]
      simpa [isNonEmptyText] using hdest

/-- A covered plan of the HTTP planner is mintable if and only if it names a
    principal. -/
theorem http_mintable_iff {planner : HttpDispatchPlanner} {action : ActionIntent}
    {planned : PlannedDispatch} (hcovers : (Planner.http planner).Covers action)
    (hplan : planner.plan action = .ok planned) :
    Mintable action planned ↔ planner.subject_principal ≠ "" := by
  obtain ⟨hkey, hall⟩ := hcovers
  obtain ⟨route, arguments, hroute, hcap, harguments, hdoc, hprepared⟩ :=
    HttpDispatchPlanner.plan_ok.mp hplan
  have hfinite : Json.finite arguments.json = true :=
    (HttpDispatchPlanner.filterArguments_ok harguments).2
  have hsame : arguments = action.arguments :=
    filterArguments_covered (hall route hroute) harguments
  obtain ⟨_, hprincipal, hkeyid, haction, hresource, hparams⟩ :=
    actionDocument_get planner action route arguments
  have hserial : planned.prepared.dispatch.get "serialization" ∈
      KNOWN_WIRE_SERIALIZATIONS.map Json.str := by
    rw [PreparedDispatch.dispatch_of_capture hprepared]
    simp [HttpDispatchPlanner.dispatchDocument, Json.Dict.get, Json.get?_cons,
      KNOWN_WIRE_SERIALIZATIONS]
  constructor
  · intro h
    obtain ⟨b, hb⟩ := h.binds
    obtain ⟨parameters, context, hvalid, -⟩ := DecisionBinding.capture_ok.mp hb
    rw [hdoc] at hvalid
    exact ((validateExecutionAction_http hkey).mp hvalid).1
  · intro hsomebody
    refine ⟨?_, ?_⟩
    · obtain ⟨context, hcontext, hcontextFinite⟩ :=
        dispatchContext_of_prepared planned.prepared hserial
      have hdocFinite : Json.finite planned.action.json = true := by
        rw [hdoc]
        apply Dict.finite_of
        intro m hm
        simp only [List.mem_cons, List.not_mem_nil, or_false] at hm
        rcases hm with rfl | rfl | rfl | rfl | rfl
        · rfl
        · rfl
        · rfl
        · rfl
        · exact hfinite
      refine ⟨_, DecisionBinding.capture_ok.mpr ⟨arguments, context, ?_, ?_, ?_, ?_, hcontext,
        hdocFinite, hcontextFinite, rfl⟩⟩
      · rw [hdoc]
        exact (validateExecutionAction_http hkey).mpr ⟨hsomebody, rfl⟩
      · rw [hdoc]
        exact haction
      · rw [hdoc, hkeyid, hkey]
      · rw [← hsame]
        exact Json.pyEq_refl hfinite
    · refine requireWireMatchesAction_ok.mpr ⟨hserial, arguments, ?_, hfinite, ?_⟩
      · rw [hdoc]
        exact asObject_eq hparams
      · exact (PreparedDispatch.capture_ok hprepared).2.2.1.symm

/-! ## Section 3: The simulator planner -/

/-- A value inside a dictionary is not the dictionary. -/
theorem json_ne_of_get? {d : Dict} {k : String} : d.get? k ≠ some d.json := by
  intro h
  have hmem := Json.mem_of_get? h
  have hlt := List.sizeOf_lt_of_mem hmem
  simp [Dict.json] at hlt
  omega

/-- The action document of the simulator planner lacks a field of the
    contract. -/
theorem simulator_not_bound {planner : SimulatorDispatchPlanner} {action : ActionIntent}
    {planned : PlannedDispatch} (hplan : planner.plan action = .ok planned) (b : DecisionBinding) :
    DecisionBinding.capture action planned.action planned.prepared.dispatch ≠ .ok b := by
  intro h
  obtain ⟨spec, target, wire, schema_digest, _, _, _, _, _, hdoc, _⟩ :=
    SimulatorDispatchPlanner.plan_ok.mp hplan
  obtain ⟨parameters, context, hvalid, -⟩ := DecisionBinding.capture_ok.mp h
  have hkeys := (validateExecutionAction_ok.mp hvalid).1
  rw [hdoc, SimulatorDispatchPlanner.actionDocument, Dict.keys_of] at hkeys
  simp only [List.map_cons, List.map_nil] at hkeys
  revert hkeys
  decide +kernel

/-- The wire bytes of the simulator planner are the request envelope, which
    is no serialization of the parameters inside it. -/
theorem simulator_wire_mismatch {planner : SimulatorDispatchPlanner} {action : ActionIntent}
    {planned : PlannedDispatch} (hplan : planner.plan action = .ok planned) :
    requireWireMatchesAction planned ≠ .ok () := by
  intro h
  obtain ⟨_, parameters, hparams, _, hwire⟩ := requireWireMatchesAction_ok.mp h
  obtain ⟨spec, target, wire, schema_digest, _, _, _, hencode, _, hdoc, hprepared⟩ :=
    SimulatorDispatchPlanner.plan_ok.mp hplan
  have hbytes : planned.prepared.wire_bytes = Json.canonical
      (simulatorRequest action.request_id action.idempotency_key action.arguments).json := by
    rw [(PreparedDispatch.capture_ok hprepared).2.2.1]
    exact (SimulatorDispatchPlanner.encodeSimulatorRequest_ok.mp hencode).2.2.2.symm
  have hget : planned.action.get? "parameters" = some action.arguments.json := by
    rw [hdoc]
    simp [SimulatorDispatchPlanner.actionDocument, Json.get?_cons]
  have hsame : parameters = action.arguments := by
    rw [get?_of_asObject hparams] at hget
    exact Json.Dict.json_inj.mp (Option.some.inj hget)
  -- Equal bytes would make the envelope equal to the arguments it contains.
  rw [hbytes, hsame] at hwire
  have henvelope := Json.canonical_injective hwire
  have hinside : (simulatorRequest action.request_id action.idempotency_key
      action.arguments).get? "arguments" = some action.arguments.json := by
    simp [simulatorRequest, Json.get?_cons]
  rw [henvelope] at hinside
  exact json_ne_of_get? hinside

/-! ## Section 4: Agreement -/

/-- Planner and binder agree exactly on the HTTP planner with a principal. -/
theorem planner_mintable_iff (planner : Planner) (action : ActionIntent)
    (planned : PlannedDispatch) (hcovers : planner.Covers action)
    (hplan : planner.plan action = .ok planned) :
    Mintable action planned ↔ ∃ p, planner = .http p ∧ p.subject_principal ≠ "" := by
  cases planner with
  | http p =>
    rw [http_mintable_iff hcovers hplan]
    simp
  | simulator p =>
    constructor
    · intro h
      obtain ⟨b, hb⟩ := h.binds
      exact absurd hb (simulator_not_bound hplan b)
    · rintro ⟨_, hno, _⟩
      cases hno

theorem HttpDispatchPlanner.contactPlanner_covers (principal : String) :
    (Planner.http (contactPlanner principal)).Covers ActionIntent.contactRead := by
  refine ⟨rfl, ?_⟩
  intro route hroute k hk
  obtain rfl : contactRoute = route := by
    simpa [contactPlanner, ActionIntent.contactRead] using hroute
  rw [contactRead_arguments] at hk
  exact hk

/-- For `contactRead` the planner of `contactPlan` agrees. -/
theorem planner_mintable_iff_contactRead :
    Mintable ActionIntent.contactRead (HttpDispatchPlanner.contactPlan "acme") := by
  exact (planner_mintable_iff (.http (HttpDispatchPlanner.contactPlanner "acme")) _ _
    (HttpDispatchPlanner.contactPlanner_covers "acme")
    (HttpDispatchPlanner.contactPlanner_plan "acme")).mpr ⟨_, rfl, by
      show "acme" ≠ ""
      decide⟩

/-- A catalog entry, its target and its schema. -/
def contactSpec : CapabilityDescription where
  capability := "crm.contact.read"
  domain := "crm"
  operation := "POST /v1/crm/contacts/read"
  destination := "crm-simulator"
  credential_audience := "crm-simulator"

def contactTarget : SimulatorTargetBinding where
  peer_identity_bytes := "tls-spki-sha256:aa".toUTF8
  tool_artifact_digest := HttpDispatchPlanner.zeroDigest
  retry_policy_digest := HttpDispatchPlanner.zeroDigest
  peer_identity_bytes_nonempty := by decide +kernel
  tool_artifact_digest_sha256 := HttpDispatchPlanner.zeroDigest_sha256
  retry_policy_digest_sha256 := HttpDispatchPlanner.zeroDigest_sha256

def contactSimulator : SimulatorDispatchPlanner where
  capabilities := [("crm.contact.read", contactSpec)]
  targets := [("crm-simulator", contactTarget)]
  tool_schema_digests := [("crm.contact.read", HttpDispatchPlanner.zeroDigest)]
  targets_cover := by simp [contactSpec]
  schemas_cover := by simp
  schemas_sha256 := by
    intro s hs
    obtain rfl := List.mem_singleton.mp hs
    decide +kernel

/-- The simulator's plan of `contactRead`. -/
def simulatedPlan : PlannedDispatch where
  action := SimulatorDispatchPlanner.actionDocument ActionIntent.contactRead contactSpec
  prepared := {
    request_id := "request-1"
    dispatch_json := Snapshot.ofDict (SimulatorDispatchPlanner.dispatchDocument
      ActionIntent.contactRead contactSpec contactTarget HttpDispatchPlanner.zeroDigest)
    wire_bytes := Json.canonical (simulatorRequest "request-1" "request-1"
      HttpDispatchPlanner.contactArguments).json
    peer_identity_bytes := contactTarget.peer_identity_bytes
    request_id_text := ActionIntent.contactRead.request_id_text
    dispatch_valid := by
      rw [Snapshot.restore_ofDict]
      decide +kernel
    wire_bytes_nonempty := by decide +kernel
    peer_identity_bytes_nonempty := contactTarget.peer_identity_bytes_nonempty }

theorem contactSimulator_plan :
    contactSimulator.plan ActionIntent.contactRead = .ok simulatedPlan := by
  have hencode : encodeSimulatorRequest ActionIntent.contactRead.request_id
      ActionIntent.contactRead.idempotency_key ActionIntent.contactRead.arguments =
        .ok simulatedPlan.prepared.wire_bytes := by
    rw [HttpDispatchPlanner.contactRead_arguments]
    refine SimulatorDispatchPlanner.encodeSimulatorRequest_ok.mpr
      ⟨by decide, by decide, by decide +kernel, ?_⟩
    simp only [simulatedPlan]
    rfl
  have hcapture := simulatedPlan.prepared.capture_self
    (d := SimulatorDispatchPlanner.dispatchDocument ActionIntent.contactRead contactSpec
      contactTarget HttpDispatchPlanner.zeroDigest) rfl (by decide +kernel)
  exact SimulatorDispatchPlanner.plan_ok.mpr ⟨contactSpec, contactTarget,
    simulatedPlan.prepared.wire_bytes,
    HttpDispatchPlanner.zeroDigest, by simp [contactSimulator, ActionIntent.contactRead], rfl,
    by simp [contactSimulator, contactSpec], hencode, by simp [contactSimulator, contactSpec],
    rfl, hcapture⟩

/-- A simulator plan that neither validator accepts. -/
theorem simulatedPlan_not_mintable :
    ¬ ∀ (planner : Planner) (action : ActionIntent) (planned : PlannedDispatch),
      planner.Covers action → planner.plan action = .ok planned → Mintable action planned := by
  intro h
  obtain ⟨b, hb⟩ := (h (.simulator contactSimulator) ActionIntent.contactRead simulatedPlan trivial
    contactSimulator_plan).binds
  exact simulator_not_bound contactSimulator_plan b hb

end CBrain
