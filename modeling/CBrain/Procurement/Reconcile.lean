import CBrain.Simulators.OrderHistory

/-! # Reconciling purchases

    Models `cbrain/procurement/reconcile.py` over the purchase-order simulator:
    creating an order through `OrderSimulatorPurchaseTarget`, with a response
    that arrives, that says `202` or that is dropped after the effect, and
    `reconcile_purchase`, which looks an uncertain one up under its key.

    A run also has the calls that others make of the simulator, of whatever
    capability, and adapters that are built anew. -/

namespace CBrain.Procurement

open CBrain.Simulators
open Json (Dict)
open Mutation (raising write read exec)
open OrderSimulator (PROCUREMENT_PO_CREATE numbers Numbered)

/-! ## Section 1: The purchase target -/

/-- `EffectReceipt.result`. -/
def receiptResult (receipt : EffectReceipt) : Dict :=
  match hresult : Simulators.restoreObject receipt.result_json "result" with
  | .ok d => d
  | .error e => absurd receipt.restores (by simp [hresult])

/-- The simulator, and an `OrderSimulatorPurchaseTarget` over it. -/
structure PurchaseSystem where
  simulator : Simulator OrderTables
  pending_on_create : Bool
  effects_by_key : Table String EffectReceipt

/-- `DroppedSimulatorResponse`: the effect was committed, and the response lost. -/
def droppedResponse : Exn :=
  ⟨.other, "DroppedSimulatorResponse", [.text "po create response dropped after commit"]⟩

section target
variable (decimalOf : String → Option PyDecimal)

/-- `OrderSimulator.execute` of the simulator. -/
def onSimulator {α : Type} (m : Mutation Exn (Simulator OrderTables) α) :
    Mutation Exn PurchaseSystem α :=
  ExceptT.mk fun system =>
    let (result, simulator) := exec m system.simulator
    (result, { system with simulator := simulator })

@[simp] theorem exec_onSimulator {α : Type} (m : Mutation Exn (Simulator OrderTables) α)
    (system : PurchaseSystem) :
    exec (onSimulator m) system =
      ((exec m system.simulator).1,
        { system with simulator := (exec m system.simulator).2 }) := rfl

/-- `OrderSimulatorPurchaseTarget.create_po`. -/
def createPo (dropped : Bool) (clock : Raises String) (request_id idempotency_key : String)
    (arguments : Dict) : Mutation Exn PurchaseSystem (Nat × Option EffectReceipt) := do
  let receipt ← onSimulator ((OrderSimulator.target decimalOf).execute clock
    ⟨PROCUREMENT_PO_CREATE, request_id, idempotency_key, arguments⟩)
  raising (require (dropped = false) droppedResponse)
  write fun system =>
    { system with effects_by_key := system.effects_by_key.set idempotency_key receipt }
  let pending ← read fun system => system.pending_on_create
  -- The effect is committed; the transport reports that acceptance is pending.
  if pending then pure (202, none) else pure (200, some receipt)

end target

/-- `OrderSimulatorPurchaseTarget.read_po_by_idempotency`. -/
def readPoByIdempotency (system : PurchaseSystem) (idempotency_key : String) :
    Option EffectReceipt :=
  match system.effects_by_key.get? idempotency_key with
  | some stored => some stored
  | none => (system.simulator.effects.get? idempotency_key).map StoredEffect.receipt

/-! ## Section 2: Outcomes -/

/-- `PurchaseOutcome`. -/
inductive PurchaseOutcome where
  | confirmed
  | pendingAcceptance
  | indeterminate
  | conflict
  | notFound
  deriving DecidableEq, Repr

/-- `PurchaseAttemptResult`. -/
structure PurchaseAttemptResult where
  outcome : PurchaseOutcome
  idempotency_key : String
  http_status : Option Nat
  effect_id : Option String
  po_number : Option String
  detail : String
  deriving DecidableEq

/-- `payload.get("po_number")`, where it is text. -/
def poNumber (receipt : EffectReceipt) : Option String :=
  match (receiptResult receipt).get "po_number" with
  | .str value => some value
  | _ => none

/-- `interpret_create_response`. -/
def interpretCreateResponse (http_status : Option Nat) (receipt : Option EffectReceipt)
    (idempotency_key : String) (transport_error : Bool) : PurchaseAttemptResult :=
  if transport_error then
    { outcome := .indeterminate
      idempotency_key := idempotency_key
      http_status := http_status
      effect_id := none
      po_number := none
      detail := "possible write without verified closure; do not blind resubmit" }
  else if http_status = some 202 then
    { outcome := .pendingAcceptance
      idempotency_key := idempotency_key
      http_status := some 202
      effect_id := receipt.map EffectReceipt.effect_id
      po_number := none
      detail := "HTTP 202 is pending acceptance, not confirmed completion" }
  else match http_status, receipt with
    | some 200, some receipt =>
      { outcome := .confirmed
        idempotency_key := idempotency_key
        http_status := some 200
        effect_id := some receipt.effect_id
        po_number := poNumber receipt
        detail := "create confirmed by target contract" }
    | some 409, _ =>
      { outcome := .conflict
        idempotency_key := idempotency_key
        http_status := some 409
        effect_id := none
        po_number := none
        detail := "idempotency conflict; reconcile by key, do not mint a new key" }
    | _, _ =>
      { outcome := .indeterminate
        idempotency_key := idempotency_key
        http_status := http_status
        effect_id := none
        po_number := none
        detail := "unverified create outcome" }

/-- `reconcile_purchase`. -/
def reconcilePurchase (system : PurchaseSystem) (idempotency_key : String) :
    PurchaseAttemptResult :=
  match readPoByIdempotency system idempotency_key with
  | none =>
    { outcome := .notFound
      idempotency_key := idempotency_key
      http_status := none
      effect_id := none
      po_number := none
      detail := "no effect for idempotency key; operator escalation required" }
  | some receipt =>
    { outcome := .confirmed
      idempotency_key := idempotency_key
      http_status := some 200
      effect_id := some receipt.effect_id
      po_number := poNumber receipt
      detail := "reconciled existing effect for the same business idempotency key" }

/-! ## Section 3: Runs -/

/-- What happens to the simulator and the target. -/
inductive PurchaseEvent where
  /-- The adapter is built anew over the simulator. -/
  | connect (pending_on_create : Bool)
  /-- A purchase is created through the adapter; its response may be dropped. -/
  | createPo (dropped : Bool) (clock : Raises String) (request_id idempotency_key : String)
      (arguments : Dict)
  /-- Somebody else executes a capability. -/
  | execute (call : Call)
  /-- The delivery moves on. -/
  | setShipmentStatus (po_number : String) (status : ShipmentStatus)
  /-- A purchase is reconciled. -/
  | reconcilePurchase (idempotency_key : String)

/-- The call of the simulator that an event makes. -/
def PurchaseEvent.call? : PurchaseEvent → Option Call
  | .createPo _ clock request_id idempotency_key arguments =>
    some ⟨⟨PROCUREMENT_PO_CREATE, request_id, idempotency_key, arguments⟩, clock⟩
  | .execute call => some call
  | _ => none

/-- `OrderSimulator.set_shipment_status`, of a shipment that is there. -/
def setShipmentStatus (simulator : Simulator OrderTables) (po_number : String)
    (status : ShipmentStatus) : Simulator OrderTables :=
  match simulator.tables.shipments.get? po_number with
  | none => simulator
  | some shipment =>
    { simulator with
      tables :=
        { simulator.tables with
          shipments := simulator.tables.shipments.put { shipment with status := status } }
      state_version := simulator.state_version + 1 }

section runs
variable (decimalOf : String → Option PyDecimal)

/-- The system after an event. -/
def step (system : PurchaseSystem) : PurchaseEvent → PurchaseSystem
  | .connect pending_on_create =>
    { system with pending_on_create := pending_on_create, effects_by_key := Table.empty }
  | .createPo dropped clock request_id idempotency_key arguments =>
    (exec (createPo decimalOf dropped clock request_id idempotency_key arguments) system).2
  | .execute call =>
    { system with
      simulator :=
        (OrderSimulator.target decimalOf).next call.clock call.request system.simulator }
  | .setShipmentStatus po_number status =>
    { system with simulator := setShipmentStatus system.simulator po_number status }
  | .reconcilePurchase _ => system

/-- A simulator without orders, and an adapter. -/
def start : PurchaseSystem := ⟨Simulator.new ⟨Registry.empty, Registry.empty⟩, false, Table.empty⟩

/-- The system after some events. -/
def run (events : List PurchaseEvent) : PurchaseSystem := events.foldl (step decimalOf) start

/-- After some events, the next one places the order under the key. -/
structure Places (past : List PurchaseEvent) (event : PurchaseEvent) (key : String)
    (order : PurchaseOrder) : Prop where
  called : ∃ call, event.call? = some call ∧ call.request.idempotency_key = key
  absent : (run decimalOf past).simulator.tables.orders.get? order.po_number = none
  placed : (run decimalOf (past ++ [event])).simulator.tables.orders.get? order.po_number =
    some order

/-- The event at this place of the run places the order under the key. -/
def PlacedAt (events : List PurchaseEvent) (key : String) (i : Nat) (order : PurchaseOrder) :
    Prop :=
  ∃ past event later, events = past ++ event :: later ∧ i = past.length ∧
    Places decimalOf past event key order

/-- What is said of a key after a run. -/
structure Faithful (events : List PurchaseEvent) (key : String) : Prop where
  /-- At most one order is ever placed under the key. -/
  once : ∀ i j order order', PlacedAt decimalOf events key i order →
    PlacedAt decimalOf events key j order' → i = j ∧ order = order'
  /-- A number is confirmed exactly if it is that of an order so placed. -/
  confirmed : ∀ n, ((reconcilePurchase (run decimalOf events) key).outcome = .confirmed ∧
      (reconcilePurchase (run decimalOf events) key).po_number = some n) ↔
    ∃ i order, PlacedAt decimalOf events key i order ∧ order.po_number = n
  /-- No other effect is confirmed. -/
  others : ∀ stored, (run decimalOf events).simulator.effects.get? key = some stored →
    stored.receipt.capability ≠ PROCUREMENT_PO_CREATE →
      (reconcilePurchase (run decimalOf events) key).outcome ≠ .confirmed

/-- The event is a call of another capability that finds the key unused and
    can be applied. -/
def TakesKey (system : PurchaseSystem) (event : PurchaseEvent) (key : String) : Prop :=
  ∃ call, event.call? = some call ∧ call.request.idempotency_key = key ∧
    call.request.capability ≠ PROCUREMENT_PO_CREATE ∧
    (OrderSimulator.target decimalOf).Accepts call.request ∧
    system.simulator.effects.get? key = none ∧
    ∃ answer, (exec ((OrderSimulator.target decimalOf).apply call.clock call.request.capability
      call.request.arguments) system.simulator.tables).1 = .ok answer

/-- No event of the run takes the key for another capability. -/
def NeverTaken (events : List PurchaseEvent) (key : String) : Prop :=
  ∀ past event, past ++ [event] <+: events → ¬ TakesKey decimalOf (run decimalOf past) event key

end runs

/-! ## Section 4: The adapter remembers what the simulator stored -/

section lookup
variable {decimalOf : String → Option PyDecimal} {system : PurchaseSystem}

/-- What the adapter remembers is the stored effect of the key. -/
def Remembers (system : PurchaseSystem) : Prop :=
  ∀ key receipt, system.effects_by_key.get? key = some receipt →
    (system.simulator.effects.get? key).map StoredEffect.receipt = some receipt

/-- So the adapter finds what the simulator stored. -/
theorem Remembers.read (h : Remembers system) (key : String) :
    readPoByIdempotency system key =
      (system.simulator.effects.get? key).map StoredEffect.receipt := by
  unfold readPoByIdempotency
  cases hmemo : system.effects_by_key.get? key with
  | none => rfl
  | some receipt => exact (h key receipt hmemo).symm

/-- How a creation through the adapter ends. -/
theorem exec_createPo (dropped : Bool) (clock : Raises String)
    (request_id idempotency_key : String) (arguments : Dict) :
    exec (createPo decimalOf dropped clock request_id idempotency_key arguments) system =
      let request : Request := ⟨PROCUREMENT_PO_CREATE, request_id, idempotency_key, arguments⟩
      let next : PurchaseSystem :=
        { system with
          simulator := (OrderSimulator.target decimalOf).next clock request system.simulator }
      match (OrderSimulator.target decimalOf).outcome clock request system.simulator with
      | .error e => (.error e, next)
      | .ok receipt =>
        if dropped = true then (.error droppedResponse, next)
        else
          (.ok (if system.pending_on_create = true then (202, none) else (200, some receipt)),
            { next with
              effects_by_key := system.effects_by_key.set idempotency_key receipt }) := by
  unfold createPo Target.next Target.outcome
  rw [Mutation.exec_bind]
  simp only [exec_onSimulator]
  cases houtcome : (exec ((OrderSimulator.target decimalOf).execute clock
      ⟨PROCUREMENT_PO_CREATE, request_id, idempotency_key, arguments⟩) system.simulator).1 with
  | error e => rfl
  | ok receipt =>
    cases dropped
    · cases system.pending_on_create <;> rfl
    · rfl

/-- A creation that is confirmed is confirmed alike when it is reconciled. -/
theorem reconcile_confirmed {clock : Raises String} {request_id idempotency_key : String}
    {arguments : Dict} {http_status : Nat} {receipt : Option EffectReceipt}
    (h : (exec (createPo decimalOf false clock request_id idempotency_key arguments) system).1 =
      .ok (http_status, receipt))
    (hconfirmed : (interpretCreateResponse (some http_status) receipt idempotency_key
      false).outcome = .confirmed) :
    let later :=
      (exec (createPo decimalOf false clock request_id idempotency_key arguments) system).2
    (reconcilePurchase later idempotency_key).outcome = .confirmed ∧
      (reconcilePurchase later idempotency_key).po_number =
        (interpretCreateResponse (some http_status) receipt idempotency_key false).po_number := by
  simp only [exec_createPo] at h ⊢
  cases houtcome : (OrderSimulator.target decimalOf).outcome clock
      ⟨PROCUREMENT_PO_CREATE, request_id, idempotency_key, arguments⟩ system.simulator with
  | error e =>
    rw [houtcome] at h
    cases h
  | ok created =>
    rw [houtcome] at h
    simp only [Bool.false_eq_true, if_false, Except.ok.injEq] at h
    by_cases hpending : system.pending_on_create = true
    · -- `202` confirms nothing.
      rw [if_pos hpending, Prod.mk.injEq] at h
      obtain ⟨rfl, rfl⟩ := h
      cases hconfirmed
    · rw [if_neg hpending, Prod.mk.injEq] at h
      obtain ⟨rfl, rfl⟩ := h
      simp [reconcilePurchase, readPoByIdempotency, interpretCreateResponse]

/-- An event that calls the simulator does so, whatever else it does. -/
theorem step_called {event : PurchaseEvent} {call : Call} (h : event.call? = some call) :
    (step decimalOf system event).simulator =
      (OrderSimulator.target decimalOf).next call.clock call.request system.simulator := by
  cases event with
  | createPo dropped clock request_id idempotency_key arguments =>
    obtain rfl := Option.some.inj h
    unfold step
    simp only [exec_createPo]
    cases (OrderSimulator.target decimalOf).outcome clock
      ⟨PROCUREMENT_PO_CREATE, request_id, idempotency_key, arguments⟩ system.simulator with
    | error e => rfl
    | ok receipt => cases dropped <;> rfl
  | execute call' =>
    obtain rfl := Option.some.inj h
    rfl
  | connect => cases h
  | setShipmentStatus => cases h
  | reconcilePurchase => cases h

/-- An event that does not call the simulator leaves its orders and effects. -/
theorem step_uncalled {event : PurchaseEvent} (h : event.call? = none) :
    (step decimalOf system event).simulator.effects = system.simulator.effects ∧
      (step decimalOf system event).simulator.tables.orders = system.simulator.tables.orders := by
  cases event with
  | createPo => cases h
  | execute => cases h
  | connect => exact ⟨rfl, rfl⟩
  | setShipmentStatus po_number status =>
    show (setShipmentStatus system.simulator po_number status).effects = _ ∧
      (setShipmentStatus system.simulator po_number status).tables.orders = _
    unfold setShipmentStatus
    cases system.simulator.tables.shipments.get? po_number with
    | none => exact ⟨rfl, rfl⟩
    | some shipment => exact ⟨rfl, rfl⟩
  | reconcilePurchase => exact ⟨rfl, rfl⟩

/-- A stored effect stays. -/
theorem step_stored {event : PurchaseEvent} {key : String} {stored : StoredEffect}
    (h : system.simulator.effects.get? key = some stored) :
    (step decimalOf system event).simulator.effects.get? key = some stored := by
  cases hcall : event.call? with
  | none =>
    rw [(step_uncalled hcall).1]
    exact h
  | some call =>
    rw [step_called hcall]
    exact Target.effects_kept OrderSimulator.sound h

/-- **Step**: the adapter remembers only what is stored. -/
theorem Remembers.step {event : PurchaseEvent} (h : Remembers system) :
    Remembers (step decimalOf system event) := by
  -- What was remembered before is still stored.
  have hkept : ∀ key receipt, system.effects_by_key.get? key = some receipt →
      ((Procurement.step decimalOf system event).simulator.effects.get? key).map
        StoredEffect.receipt = some receipt := by
    intro key receipt hmemo
    obtain ⟨stored, hstored, hreceipt⟩ := Option.map_eq_some_iff.mp (h key receipt hmemo)
    rw [step_stored hstored, Option.map_some, hreceipt]
  cases event with
  | connect pending_on_create =>
    intro key receipt hmemo
    cases hmemo
  | createPo dropped clock request_id idempotency_key arguments =>
    intro key receipt hmemo
    by_cases hold : system.effects_by_key.get? key = some receipt
    · exact hkept key receipt hold
    · have hcalled : (PurchaseEvent.createPo dropped clock request_id idempotency_key
          arguments).call? = _ := rfl
      rw [step_called hcalled]
      unfold Procurement.step at hmemo
      simp only [exec_createPo] at hmemo
      cases houtcome : (OrderSimulator.target decimalOf).outcome clock
          ⟨PROCUREMENT_PO_CREATE, request_id, idempotency_key, arguments⟩ system.simulator with
      | error e =>
        rw [houtcome] at hmemo
        exact absurd hmemo hold
      | ok answered =>
        rw [houtcome] at hmemo
        cases dropped
        · have hset : (system.effects_by_key.set idempotency_key answered).get? key =
              some receipt := hmemo
          rw [Table.get?_set] at hset
          by_cases hkey : key = idempotency_key
          · rw [if_pos hkey] at hset
            obtain rfl := Option.some.inj hset
            subst hkey
            rw [Target.stored_of_outcome OrderSimulator.sound houtcome]
            rfl
          · rw [if_neg hkey] at hset
            exact absurd hset hold
        · exact absurd hmemo hold
  | execute call => exact hkept
  | setShipmentStatus po_number status => exact hkept
  | reconcilePurchase key => exact hkept

end lookup

/-! ## Section 5: What one event records -/

section records
variable {decimalOf : String → Option PyDecimal} {system : PurchaseSystem}
  {event : PurchaseEvent} {key : String}

/-- The event is a call that finds the key unused and can be applied. -/
def Records (decimalOf : String → Option PyDecimal) (system : PurchaseSystem)
    (call : Call) (answer : Dict × Bool) (key : String) : Prop :=
  call.request.idempotency_key = key ∧
    (OrderSimulator.target decimalOf).Accepts call.request ∧
    system.simulator.effects.get? key = none ∧
    (exec ((OrderSimulator.target decimalOf).apply call.clock call.request.capability
      call.request.arguments) system.simulator.tables).1 = .ok answer

theorem receiptResult_eq {receipt : EffectReceipt} {d : Dict}
    (h : receipt.result_json = Json.canonical d.json) : receiptResult receipt = d := by
  unfold receiptResult
  split
  · rename_i restored hrestored
    rw [h, Simulators.restoreObject_canonical] at hrestored
    exact (Except.ok.inj hrestored).symm
  · rename_i e herror
    rw [h, Simulators.restoreObject_canonical] at herror
    cases herror

/-- The number of an order stands in its payload. -/
theorem poNumber_eq {receipt : EffectReceipt} {order : PurchaseOrder} {d : Dict}
    (hpayload : order.payload = .ok d) (hresult : receiptResult receipt = d) :
    poNumber receipt = some order.po_number := by
  unfold PurchaseOrder.payload at hpayload
  simp only [bind_ok, pure_ok] at hpayload
  obtain ⟨tonnes, -, rate_per_tonne, -, rfl⟩ := hpayload
  have hget : (receiptResult receipt).get "po_number" = .str order.po_number := by
    rw [hresult, object_get]
    rfl
  unfold poNumber
  rw [hget]

/-- An event that records nothing under the key leaves its effect, and if it
    calls the simulator under the key, the tables. -/
theorem step_unrecorded
    (h : ∀ call answer, event.call? = some call → ¬ Records decimalOf system call answer key) :
    (step decimalOf system event).simulator.effects.get? key =
        system.simulator.effects.get? key ∧
      ∀ call, event.call? = some call → call.request.idempotency_key = key →
        (step decimalOf system event).simulator.tables = system.simulator.tables := by
  cases hcall : event.call? with
  | none =>
    rw [(step_uncalled hcall).1]
    exact ⟨rfl, fun _ hsome => nomatch hsome⟩
  | some call =>
    rw [step_called hcall]
    -- What a call does that is not applied anew.
    have hcases := Target.execute_cases (@OrderSimulator.sound decimalOf) call.clock
      call.request system.simulator
    unfold Target.next
    rcases hcases with ⟨-, e, hexec, -⟩ | ⟨-, old, -, -, hexec⟩ | ⟨-, old, -, -, hexec⟩ |
      ⟨-, -, e, happly, hexec⟩ | ⟨haccepts, hfresh, receipt, hexec⟩
    · rw [hexec]
      exact ⟨rfl, fun _ _ _ => rfl⟩
    · rw [hexec]
      exact ⟨rfl, fun _ _ _ => rfl⟩
    · rw [hexec]
      exact ⟨rfl, fun _ _ _ => rfl⟩
    · rw [hexec]
      exact ⟨rfl, fun _ _ _ => OrderSimulator.apply_atomic _ e happly⟩
    · -- An effect is recorded, and so under another key.
      have hne : call.request.idempotency_key ≠ key := by
        intro hkey
        have happlied : ∃ answer, (exec ((OrderSimulator.target decimalOf).apply call.clock
            call.request.capability call.request.arguments) system.simulator.tables).1 =
              .ok answer := by
          cases happly : (exec ((OrderSimulator.target decimalOf).apply call.clock
              call.request.capability call.request.arguments) system.simulator.tables).1 with
          | ok answer => exact ⟨answer, rfl⟩
          | error e =>
            have hraised := Target.execute_raised haccepts hfresh happly
            rw [hraised] at hexec
            cases hexec
        obtain ⟨answer, hanswer⟩ := happlied
        exact h call answer hcall ⟨hkey, haccepts, hkey ▸ hfresh, hanswer⟩
      rw [hexec]
      refine ⟨Table.get?_set_ne _ _ (Ne.symm hne), ?_⟩
      intro other hother hkey
      obtain rfl := Option.some.inj hother
      exact absurd hkey hne

/-- An event that records an effect stores its receipt under the key. -/
theorem step_recorded {call : Call} {answer : Dict × Bool} (hcall : event.call? = some call)
    (h : Records decimalOf system call answer key) :
    ∃ stored, (step decimalOf system event).simulator.effects.get? key = some stored ∧
      stored.receipt.capability = call.request.capability ∧
      receiptResult stored.receipt = answer.1 ∧
      (step decimalOf system event).simulator.tables =
        (exec (OrderSimulator.apply decimalOf call.clock call.request.arguments
          call.request.capability) system.simulator.tables).2 := by
  obtain ⟨rfl, haccepts, hfresh, hanswer⟩ := h
  obtain ⟨receipt, hcapture, hexec⟩ :=
    Target.execute_captured OrderSimulator.sound haccepts hfresh hanswer
  obtain ⟨hcapability, -, hjson⟩ := EffectReceipt.of_capture hcapture
  refine ⟨⟨call.request.digest, receipt⟩, ?_, hcapability, receiptResult_eq hjson, ?_⟩
  · rw [step_called hcall]
    unfold Target.next
    rw [hexec]
    exact Table.get?_set_self _ _ _
  · rw [step_called hcall]
    unfold Target.next
    rw [hexec]
    rfl

/-- **Step**: the orders stay numbered. -/
theorem numbered_step (h : Numbered system.simulator.tables) :
    Numbered (step decimalOf system event).simulator.tables := by
  cases hcall : event.call? with
  | none =>
    have hnumbers : numbers (step decimalOf system event).simulator.tables =
        numbers system.simulator.tables := by
      unfold numbers
      rw [(step_uncalled hcall).2]
    intro n hn
    rw [hnumbers] at hn ⊢
    exact h n hn
  | some call =>
    rw [step_called hcall]
    by_cases happlied : (OrderSimulator.target decimalOf).Accepts call.request ∧
        system.simulator.effects.get? call.request.idempotency_key = none
    · rw [Target.tables_applied OrderSimulator.sound happlied.1 happlied.2]
      exact h.apply
    · rw [Target.tables_kept OrderSimulator.sound happlied]
      exact h

end records

/-! ## Section 6: Whole runs -/

section standing
variable {decimalOf : String → Option PyDecimal} {past events : List PurchaseEvent}
  {event : PurchaseEvent} {key : String}

theorem run_append (past : List PurchaseEvent) (event : PurchaseEvent) :
    run decimalOf (past ++ [event]) = step decimalOf (run decimalOf past) event := by
  unfold run
  rw [List.foldl_append]
  rfl

/-- **Run**: the adapter remembers only what is stored. -/
theorem remembers_run (events : List PurchaseEvent) : Remembers (run decimalOf events) := by
  induction events using List.reverseRecOn with
  | nil =>
    intro key receipt hmemo
    cases hmemo
  | append_singleton past event ih =>
    rw [run_append]
    exact ih.step

/-- **Run**: the orders are numbered. -/
theorem numbered_run (events : List PurchaseEvent) :
    Numbered (run decimalOf events).simulator.tables := by
  induction events using List.reverseRecOn with
  | nil =>
    intro n hn
    cases hn
  | append_singleton past event ih =>
    rw [run_append]
    exact numbered_step ih

theorem placedAt_append (i : Nat) (order : PurchaseOrder) :
    PlacedAt decimalOf (past ++ [event]) key i order ↔
      PlacedAt decimalOf past key i order ∨
        (i = past.length ∧ Places decimalOf past event key order) := by
  unfold PlacedAt
  constructor
  · rintro ⟨before, e, later, heq, rfl, hplaces⟩
    rcases List.eq_nil_or_concat later with rfl | ⟨later, last, rfl⟩
    · obtain ⟨rfl, hsingle⟩ := List.append_inj' heq rfl
      obtain rfl := (List.cons.inj hsingle).1
      exact Or.inr ⟨rfl, hplaces⟩
    · left
      have hlast : past ++ [event] = (before ++ e :: later) ++ [last] := by
        rw [heq]
        simp
      obtain ⟨rfl, -⟩ := List.append_inj' hlast rfl
      exact ⟨before, e, later, rfl, rfl, hplaces⟩
  · rintro (⟨before, e, later, rfl, rfl, hplaces⟩ | ⟨rfl, hplaces⟩)
    · exact ⟨before, e, later ++ [event], by simp, rfl, hplaces⟩
    · exact ⟨past, event, [], rfl, rfl, hplaces⟩

theorem neverTaken_append :
    NeverTaken decimalOf (past ++ [event]) key ↔
      NeverTaken decimalOf past key ∧ ¬ TakesKey decimalOf (run decimalOf past) event key := by
  unfold NeverTaken
  constructor
  · intro h
    refine ⟨?_, h past event (List.prefix_refl _)⟩
    intro before e hextends
    exact h before e (hextends.trans (List.prefix_append _ _))
  · rintro ⟨hpast, hlast⟩ before e hextends
    rcases List.prefix_concat_iff.mp hextends with heq | hextends
    · obtain ⟨rfl, hsingle⟩ := List.append_inj' heq rfl
      obtain rfl := (List.cons.inj hsingle).1
      exact hlast
    · exact hpast before e hextends

/-- What the stored effect of a key says of what was placed under it. -/
inductive Standing (placed : Nat → PurchaseOrder → Prop) (untaken : Prop) :
    Option StoredEffect → Prop
  | unused : (∀ i order, ¬ placed i order) → untaken → Standing placed untaken none
  | created (stored : StoredEffect) (i : Nat) (order : PurchaseOrder) :
    stored.receipt.capability = PROCUREMENT_PO_CREATE →
    poNumber stored.receipt = some order.po_number →
    (∀ j order', placed j order' ↔ j = i ∧ order' = order) → untaken →
      Standing placed untaken (some stored)
  | other (stored : StoredEffect) : stored.receipt.capability ≠ PROCUREMENT_PO_CREATE →
    ¬ untaken → Standing placed untaken (some stored)

/-- An event that records nothing under the key places nothing under it. -/
theorem not_places_of_unrecorded
    (h : ∀ call answer, event.call? = some call →
      ¬ Records decimalOf (run decimalOf past) call answer key) (order : PurchaseOrder) :
    ¬ Places decimalOf past event key order := by
  rintro ⟨⟨call, hcall, hkey⟩, habsent, hplaced⟩
  have htables := (step_unrecorded h).2 call hcall hkey
  rw [run_append, htables, habsent] at hplaced
  cases hplaced

/-- A recorded creation places one order, with the number of its receipt. -/
theorem places_of_created {call : Call} {answer : Dict × Bool}
    (hcall : event.call? = some call)
    (hrecords : Records decimalOf (run decimalOf past) call answer key)
    (hcreate : call.request.capability = PROCUREMENT_PO_CREATE) :
    ∃ stored order,
      (run decimalOf (past ++ [event])).simulator.effects.get? key = some stored ∧
      stored.receipt.capability = PROCUREMENT_PO_CREATE ∧
      poNumber stored.receipt = some order.po_number ∧
      ∀ order', Places decimalOf past event key order' ↔ order' = order := by
  obtain ⟨stored, hstored, hcapability, hresult, htables⟩ := step_recorded hcall hrecords
  obtain ⟨hkey, -, -, hanswer⟩ := hrecords
  have happly : (exec (OrderSimulator.apply decimalOf call.clock call.request.arguments
      PROCUREMENT_PO_CREATE) (run decimalOf past).simulator.tables).1 = .ok answer := by
    rw [← hcreate]
    exact hanswer
  rw [hcreate] at htables
  obtain ⟨order, year, hpayload, hnumber, horders⟩ := OrderSimulator.apply_create happly
  refine ⟨stored, order, run_append past event ▸ hstored, hcapability.trans hcreate,
    poNumber_eq hpayload hresult, ?_⟩
  have hfresh : (run decimalOf past).simulator.tables.orders.get? order.po_number = none := by
    rw [← OrderSimulator.not_mem_numbers, hnumber]
    exact (numbered_run past).fresh year
  have hafter : ∀ n, (run decimalOf (past ++ [event])).simulator.tables.orders.get? n =
      if n = order.po_number then some order
      else (run decimalOf past).simulator.tables.orders.get? n := by
    intro n
    rw [run_append, htables, horders]
    exact Registry.get?_put _ order n
  intro order'
  constructor
  · rintro ⟨-, habsent, hplaced⟩
    rw [hafter] at hplaced
    by_cases hn : order'.po_number = order.po_number
    · rw [if_pos hn] at hplaced
      exact (Option.some.inj hplaced).symm
    · rw [if_neg hn, habsent] at hplaced
      cases hplaced
  · rintro rfl
    refine ⟨⟨call, hcall, hkey⟩, hfresh, ?_⟩
    rw [hafter, if_pos rfl]

/-- **Run**: what is stored under a key tells what was placed under it. -/
theorem standing_run (events : List PurchaseEvent) (key : String) :
    Standing (PlacedAt decimalOf events key) (NeverTaken decimalOf events key)
      ((run decimalOf events).simulator.effects.get? key) := by
  induction events using List.reverseRecOn with
  | nil =>
    apply Standing.unused
    · rintro i order ⟨past, event, later, hnil, -⟩
      cases past <;> cases hnil
    · intro past event hextends
      have hlength := hextends.length_le
      simp at hlength
  | append_singleton past event ih =>
    by_cases hrecords : ∃ call answer, event.call? = some call ∧
        Records decimalOf (run decimalOf past) call answer key
    · obtain ⟨call, answer, hcall, hrecords⟩ := hrecords
      -- The key was unused, so nothing was placed under it.
      obtain ⟨hkey, haccepts, hfresh, hanswer⟩ := hrecords
      rw [hfresh] at ih
      obtain ⟨hplaced, huntaken⟩ : (∀ i order, ¬ PlacedAt decimalOf past key i order) ∧
          NeverTaken decimalOf past key := by
        cases ih with
        | unused hplaced huntaken => exact ⟨hplaced, huntaken⟩
      by_cases hcreate : call.request.capability = PROCUREMENT_PO_CREATE
      · obtain ⟨stored, order, hstored, hcapability, hnumber, hplaces⟩ :=
          places_of_created hcall ⟨hkey, haccepts, hfresh, hanswer⟩ hcreate
        rw [hstored]
        refine Standing.created stored past.length order hcapability hnumber ?_ ?_
        · intro j order'
          rw [placedAt_append, hplaces]
          simp [hplaced]
        · rw [neverTaken_append]
          refine ⟨huntaken, ?_⟩
          rintro ⟨call', hcall', -, hother, -⟩
          obtain rfl := Option.some.inj (hcall.symm.trans hcall')
          exact hother hcreate
      · obtain ⟨stored, hstored, hcapability, -, -⟩ :=
          step_recorded hcall ⟨hkey, haccepts, hfresh, hanswer⟩
        rw [run_append, hstored]
        apply Standing.other
        · rw [hcapability]
          exact hcreate
        · rw [neverTaken_append]
          rintro ⟨-, hnot⟩
          exact hnot ⟨call, hcall, hkey, hcreate, haccepts, hfresh, answer, hanswer⟩
    · have hnone : ∀ call answer, event.call? = some call →
          ¬ Records decimalOf (run decimalOf past) call answer key := by
        intro call answer hcall hrec
        exact hrecords ⟨call, answer, hcall, hrec⟩
      have hplaced : PlacedAt decimalOf (past ++ [event]) key = PlacedAt decimalOf past key := by
        funext i order
        rw [placedAt_append]
        simp [not_places_of_unrecorded hnone]
      have huntaken : NeverTaken decimalOf (past ++ [event]) key =
          NeverTaken decimalOf past key := by
        rw [neverTaken_append]
        refine propext (and_iff_left ?_)
        rintro ⟨call, hcall, hkey, -, haccepts, hfresh, answer, hanswer⟩
        exact hnone call answer hcall ⟨hkey, haccepts, hfresh, hanswer⟩
      rw [hplaced, huntaken, run_append, (step_unrecorded hnone).1]
      exact ih

/-- What `reconcile_purchase` reports after a run. -/
theorem reconcile_run (events : List PurchaseEvent) (key : String) :
    ((reconcilePurchase (run decimalOf events) key).outcome = .confirmed ↔
      ∃ stored, (run decimalOf events).simulator.effects.get? key = some stored) ∧
    ∀ stored, (run decimalOf events).simulator.effects.get? key = some stored →
      (reconcilePurchase (run decimalOf events) key).po_number = poNumber stored.receipt := by
  unfold reconcilePurchase
  rw [(remembers_run events).read]
  cases (run decimalOf events).simulator.effects.get? key with
  | none => simp
  | some stored => simp

end standing

/-- After a run, `reconcile_purchase` is faithful to a key exactly if no event
    took the key for another capability. -/
theorem reconcile_faithful_iff (decimalOf : String → Option PyDecimal)
    (events : List PurchaseEvent) (key : String) :
    Faithful decimalOf events key ↔ NeverTaken decimalOf events key := by
  obtain ⟨houtcome, hnumber⟩ := @reconcile_run decimalOf events key
  have hstanding := @standing_run decimalOf events key
  generalize hget : (run decimalOf events).simulator.effects.get? key = effect at hstanding
  cases hstanding with
  | unused hplaced huntaken =>
    refine iff_of_true ⟨?_, ?_, ?_⟩ huntaken
    · intro i j order order' hi
      exact absurd hi (hplaced i order)
    · intro n
      rw [houtcome, hget]
      simp [hplaced]
    · intro stored hstored
      rw [hget] at hstored
      cases hstored
  | created stored i order hcapability hponumber hplaced huntaken =>
    refine iff_of_true ⟨?_, ?_, ?_⟩ huntaken
    · intro j k order₁ order₂ hj hk
      obtain ⟨rfl, rfl⟩ := (hplaced _ _).mp hj
      obtain ⟨rfl, rfl⟩ := (hplaced _ _).mp hk
      exact ⟨rfl, rfl⟩
    · intro n
      rw [houtcome, hnumber stored hget, hponumber, hget]
      simp [hplaced]
    · intro stored' hstored' hother
      obtain rfl := Option.some.inj (hget.symm.trans hstored')
      exact absurd hcapability hother
  | other stored hcapability htaken =>
    refine iff_of_false ?_ htaken
    intro hfaithful
    exact hfaithful.others stored hget hcapability (houtcome.mpr ⟨stored, hget⟩)

/-- A purchase under the key `purchase`. -/
def placeCall : Call where
  request :=
    { capability := PROCUREMENT_PO_CREATE
      request_id := "request-1"
      idempotency_key := "purchase"
      arguments := object
        [("vendor_id", .str "vendor"), ("quote_id", .str "quote"), ("tonnes", .nat 25),
          ("rate_per_tonne", .nat 48500), ("payment_terms", .str "ADVANCE"),
          ("comparison_digest", .str "sha256")] }
  clock := .ok "2025-01-01T00:00:00Z"

/-- The order is read under the key `lookup`. -/
def readCall : Call where
  request :=
    { capability := OrderSimulator.PROCUREMENT_PO_READ
      request_id := "request-2"
      idempotency_key := "lookup"
      arguments := object [("po_number", .str "PO-2025-0001")] }
  clock := .ok ""

/-- Reading an order confirms a purchase under the key of the reading. -/
theorem reading_confirmed :
    ¬ ∀ decimalOf events key, Faithful decimalOf events key := by
  intro h
  let decimalOf : String → Option PyDecimal := fun _ => none
  let placed := exec (OrderSimulator.apply decimalOf placeCall.clock placeCall.request.arguments
    placeCall.request.capability) start.simulator.tables
  obtain ⟨answer, hanswer⟩ : ∃ answer, placed.1 = .ok answer := by
    have hok : placed.1.map (fun answer => answer.2) = .ok true := by decide +kernel
    obtain ⟨answer, hanswer, -⟩ := map_ok.mp hok
    exact ⟨answer, hanswer⟩
  have hplaces : Records decimalOf start placeCall answer "purchase" :=
    ⟨rfl, ⟨by decide, by decide, by decide, by decide, by decide +kernel⟩, rfl, hanswer⟩
  obtain ⟨_, -, -, -, htables⟩ := @step_recorded _ _ (.execute placeCall) _ _ _ rfl hplaces
  -- The key of the reading is still unused, and its order is there.
  have hunused : (run decimalOf [.execute placeCall]).simulator.effects.get? "lookup" = none := by
    have hother : ∀ call answer, (PurchaseEvent.execute placeCall).call? = some call →
        ¬ Records decimalOf start call answer "lookup" := by
      rintro call _ hcall ⟨hkey, -⟩
      obtain rfl := Option.some.inj hcall
      exact absurd hkey (by decide)
    exact (step_unrecorded hother).1
  obtain ⟨found, hfound⟩ : ∃ found, (exec (OrderSimulator.apply decimalOf readCall.clock
      readCall.request.arguments readCall.request.capability) placed.2).1 = .ok found := by
    have hok : (exec (OrderSimulator.apply decimalOf readCall.clock readCall.request.arguments
        readCall.request.capability) placed.2).1.map (fun answer => answer.2) = .ok false := by
      decide +kernel
    obtain ⟨found, hfound, -⟩ := map_ok.mp hok
    exact ⟨found, hfound⟩
  have hrecords : Records decimalOf (run decimalOf [.execute placeCall]) readCall found
      "lookup" := by
    refine ⟨rfl, ⟨by decide, by decide, by decide, by decide, by decide +kernel⟩, hunused, ?_⟩
    show (exec (OrderSimulator.apply decimalOf readCall.clock readCall.request.arguments
      readCall.request.capability) (step decimalOf start (.execute placeCall)).simulator.tables).1 =
        .ok found
    rw [htables]
    exact hfound
  obtain ⟨stored, hstored, hcapability, -⟩ :=
    @step_recorded _ _ (.execute readCall) _ _ _ rfl hrecords
  have hget : (run decimalOf [.execute placeCall, .execute readCall]).simulator.effects.get?
      "lookup" = some stored := hstored
  have hconfirmed := (reconcile_run [.execute placeCall, .execute readCall] "lookup").1.mpr
    ⟨stored, hget⟩
  have hother : stored.receipt.capability ≠ PROCUREMENT_PO_CREATE := by
    rw [hcapability]
    decide
  exact (h decimalOf _ "lookup").others stored hget hother hconfirmed

end CBrain.Procurement
