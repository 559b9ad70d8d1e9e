import CBrain.Simulators.OrderHistory

/-! # Orders and their shipments over a run

    `OrderSimulator` (`cbrain/simulators/orders.py`) is changed through
    `execute` and through `set_shipment_status`.

    An order is cancelled only while its shipment is not delivered, but a
    shipment is set to any status whatever became of its order.  A run keeps
    delivered shipments and cancelled orders apart exactly when no shipment of a
    cancelled order is set to be delivered. -/

namespace CBrain.Simulators

open Json (Dict)
open Mutation (raising write read exec Reads)

/-- `status in SHIPMENT_STATUSES`. -/
def ShipmentStatus.ofText? (status : String) : Option ShipmentStatus :=
  [.pending, .dispatched, .inTransit, .delivered, .delayed, .shortDelivered].find? fun s =>
    s.text == status

@[simp] theorem ShipmentStatus.ofText?_text (status : ShipmentStatus) :
    ShipmentStatus.ofText? status.text = some status := by
  cases status <;> decide

namespace OrderSimulator

/-! ## Section 1: Setting a status -/

/-- `set_shipment_status`. -/
def setShipmentStatus (po_number status : String) : Mutation Exn (Simulator OrderTables) Unit := do
  let _ ← raising (requiredText (.str po_number) "po_number")
  let _ ← raising (requiredText (.str status) "status")
  match ShipmentStatus.ofText? status with
  | none => raising (.error (contractError "shipment status is not supported"))
  | some status => do
    let shipment ← read fun sim => sim.tables.shipments.get? po_number
    match shipment with
    | none => raising (.error (notFound "shipment does not exist"))
    | some shipment =>
      write fun sim =>
        { sim with
          tables := { sim.tables with shipments := sim.tables.shipments.put { shipment with status } }
          state_version := sim.state_version + 1 }

/-- What may be done with the simulator. -/
inductive OrderStep where
  | execute (c : Call)
  | shipment (po_number status : String)

/-- The simulator after a step. -/
def OrderStep.next (decimalOf : String → Option PyDecimal) (sim : Simulator OrderTables) :
    OrderStep → Simulator OrderTables
  | .execute c => (target decimalOf).next c.clock c.request sim
  | .shipment po_number status => (exec (setShipmentStatus po_number status) sim).2

/-- The simulator after some steps. -/
def afterSteps (decimalOf : String → Option PyDecimal) (steps : List OrderStep) :
    Simulator OrderTables :=
  steps.foldl (OrderStep.next decimalOf) (Simulator.new ⟨Registry.empty, Registry.empty⟩)

/-! ## Section 2: What a step writes -/

section writes
variable {decimalOf : String → Option PyDecimal} {clock : Raises String} {arguments : Dict}
  {tables : OrderTables}

/-- What a capability makes of the tables. -/
inductive Writes (before : OrderTables) : OrderTables → Prop
  | kept : Writes before before
  | placed (order : PurchaseOrder) (shipment : Shipment) (year : String)
      (number : order.po_number = orderNumber year (before.orders.values.length + 1))
      (own : shipment.po_number = order.po_number) (pending : shipment.status = .pending) :
      Writes before ⟨before.orders.put order, before.shipments.put shipment⟩
  | amended (order updated : PurchaseOrder)
      (found : before.orders.get? updated.po_number = some order)
      (live : order.status ≠ .cancelled) (status : updated.status = .amended) :
      Writes before { before with orders := before.orders.put updated }
  | cancelled (order updated : PurchaseOrder) (shipment : Shipment)
      (found : before.orders.get? updated.po_number = some order)
      (live : order.status ≠ .cancelled)
      (shipped : before.shipments.get? updated.po_number = some shipment)
      (under_way : shipment.status ≠ .delivered) :
      Writes before { before with orders := before.orders.put updated }

/-- A shipment is given another status. -/
def Moves (po_number : String) (status : ShipmentStatus) (before after : OrderTables) : Prop :=
  ∃ shipment, before.shipments.get? po_number = some shipment ∧
    after = { before with shipments := before.shipments.put { shipment with status } }

theorem Writes.bind {α β : Type} {m : Mutation Exn OrderTables α}
    {f : α → Mutation Exn OrderTables β} (hm : Reads m)
    (hf : ∀ a, (exec m tables).1 = .ok a → Writes tables (exec (f a) tables).2) :
    Writes tables (exec (m >>= f) tables).2 :=
  hm.bind_final (P := fun after => Writes tables after) .kept hf

theorem create_writes : Writes tables (exec (create decimalOf clock arguments) tables).2 := by
  refine Writes.bind (Mutation.reads_raising _) fun _ _ => ?_
  refine Writes.bind (Mutation.reads_raising _) fun payment_terms _ => ?_
  refine Writes.bind (Mutation.reads_raising _) fun _ _ => ?_
  refine Writes.bind (Mutation.reads_raising _) fun created_at _ => ?_
  refine Writes.bind (Mutation.reads_read _) fun placed hplaced => ?_
  obtain rfl : tables.orders.values.length = placed := Except.ok.inj hplaced
  refine Writes.bind (Mutation.reads_raising _) fun vendor_id _ => ?_
  refine Writes.bind (Mutation.reads_raising _) fun quote_id _ => ?_
  refine Writes.bind (Mutation.reads_raising _) fun amounts _ => ?_
  refine Writes.bind (Mutation.reads_raising _) fun comparison_digest _ => ?_
  rw [Mutation.exec_write_bind, Mutation.exec_raising]
  exact .placed _ _ _ rfl rfl rfl

theorem found_of_required {n : String} {order : PurchaseOrder}
    (h : (exec (requiredOrder n) tables).1 = .ok order) :
    tables.orders.get? order.po_number = some order := by
  have hget := requiredOrder_ok h
  rwa [Registry.key_of_get? hget]

theorem amend_writes : Writes tables (exec (amend decimalOf arguments) tables).2 := by
  refine Writes.bind (Mutation.reads_raising _) fun _ _ => ?_
  refine Writes.bind (Mutation.reads_raising _) fun po_number _ => ?_
  refine Writes.bind (reads_requiredOrder po_number) fun order hfound => ?_
  refine Writes.bind (Mutation.reads_raising _) fun _ hlive => ?_
  refine Writes.bind (Mutation.reads_raising _) fun amounts _ => ?_
  rw [Mutation.exec_write_bind, Mutation.exec_raising]
  exact .amended order _ (found_of_required hfound) (require_ok.mp hlive) rfl

theorem cancel_writes : Writes tables (exec (cancel arguments) tables).2 := by
  refine Writes.bind (Mutation.reads_raising _) fun _ _ => ?_
  refine Writes.bind (Mutation.reads_raising _) fun po_number _ => ?_
  refine Writes.bind (reads_requiredOrder po_number) fun order hfound => ?_
  refine Writes.bind (Mutation.reads_raising _) fun _ hlive => ?_
  refine Writes.bind (Mutation.reads_read _) fun found hshipment => ?_
  obtain rfl : tables.shipments.get? order.po_number = found := Except.ok.inj hshipment
  refine Writes.bind (Mutation.reads_raising _) fun shipment hsome => ?_
  refine Writes.bind (Mutation.reads_raising _) fun _ hunder_way => ?_
  have hshipped : tables.shipments.get? order.po_number = some shipment := by
    rw [Mutation.exec_raising] at hsome
    cases hget : tables.shipments.get? order.po_number with
    | none =>
      rw [hget] at hsome
      cases hsome
    | some found =>
      rw [hget] at hsome
      rw [Except.ok.inj hsome]
  rw [Mutation.exec_write_bind, Mutation.exec_raising]
  exact .cancelled order _ shipment (found_of_required hfound) (require_ok.mp hlive) hshipped
    (require_ok.mp hunder_way)

/-- What a capability writes. -/
theorem apply_writes {capability : String} :
    Writes tables (exec (apply decimalOf clock arguments capability) tables).2 := by
  unfold apply
  split
  · rw [Mutation.exec_bind_pure]
    exact create_writes
  split
  · rw [Mutation.exec_bind_pure, reads_readOrder tables]
    exact .kept
  split
  · rw [Mutation.exec_bind_pure]
    exact amend_writes
  split
  · rw [Mutation.exec_bind_pure]
    exact cancel_writes
  split
  · rw [Mutation.exec_bind_pure, reads_readShipment tables]
    exact .kept
  · exact .kept

theorem execute_writes (c : Call) (sim : Simulator OrderTables) :
    Writes sim.tables ((target decimalOf).next c.clock c.request sim).tables := by
  by_cases hnew : (target decimalOf).Accepts c.request ∧
      sim.effects.get? c.request.idempotency_key = none
  · have happlied : ((target decimalOf).next c.clock c.request sim).tables = _ :=
      Target.tables_applied sound hnew.1 hnew.2
    rw [happlied]
    exact apply_writes
  · have hkept : ((target decimalOf).next c.clock c.request sim).tables = sim.tables :=
      Target.tables_kept sound hnew
    rw [hkept]
    exact .kept

/-- Setting a status moves the shipment, or does nothing. -/
theorem setShipmentStatus_tables (po_number status : String) (sim : Simulator OrderTables) :
    (exec (setShipmentStatus po_number status) sim).2.tables = sim.tables ∨
      ∃ new, ShipmentStatus.ofText? status = some new ∧
        Moves po_number new sim.tables (exec (setShipmentStatus po_number status) sim).2.tables := by
  unfold setShipmentStatus
  rw [(Mutation.reads_raising _).exec_bind, Mutation.exec_raising]
  cases hnumber : requiredText (.str po_number) "po_number" with
  | error e => exact Or.inl rfl
  | ok number =>
    dsimp only
    rw [(Mutation.reads_raising _).exec_bind, Mutation.exec_raising]
    cases hstatus : requiredText (.str status) "status" with
    | error e => exact Or.inl rfl
    | ok text =>
      dsimp only
      cases hnew : ShipmentStatus.ofText? status with
      | none => exact Or.inl rfl
      | some new =>
        dsimp only
        rw [Mutation.exec_read_bind]
        cases hget : sim.tables.shipments.get? po_number with
        | none => exact Or.inl rfl
        | some shipment => exact Or.inr ⟨new, rfl, shipment, hget, rfl⟩

/-- The status of a shipment can be set. -/
theorem setShipmentStatus_moves {po_number : String} {sim : Simulator OrderTables}
    {shipment : Shipment} (status : ShipmentStatus) (hnumber : nonBlank po_number = true)
    (hget : sim.tables.shipments.get? po_number = some shipment) :
    (exec (setShipmentStatus po_number status.text) sim).2.tables =
      { sim.tables with shipments := sim.tables.shipments.put { shipment with status } } := by
  have htext : nonBlank status.text = true := by
    cases status <;> decide
  unfold setShipmentStatus
  rw [requiredText_ok.mpr ⟨hnumber, rfl⟩, Mutation.exec_ok_bind, requiredText_ok.mpr ⟨htext, rfl⟩,
    Mutation.exec_ok_bind, ShipmentStatus.ofText?_text]
  dsimp only
  rw [Mutation.exec_read_bind, hget]
  rfl

/-- **Step**: what any step makes of the tables. -/
theorem step_writes (step : OrderStep) (sim : Simulator OrderTables) :
    Writes sim.tables (step.next decimalOf sim).tables ∨
      ∃ po_number status, Moves po_number status sim.tables (step.next decimalOf sim).tables := by
  cases step with
  | execute c => exact Or.inl (execute_writes c sim)
  | shipment po_number status =>
    show Writes sim.tables (exec (setShipmentStatus po_number status) sim).2.tables ∨ _
    rcases setShipmentStatus_tables po_number status sim with hkept | ⟨new, -, hmoves⟩
    · rw [hkept]
      exact Or.inl .kept
    · exact Or.inr ⟨po_number, new, hmoves⟩

end writes

/-! ## Section 3: Invariants -/

/-- No cancelled order has a delivered shipment. -/
def Apart (tables : OrderTables) : Prop :=
  ∀ n order shipment, tables.orders.get? n = some order → tables.shipments.get? n = some shipment →
    order.status = .cancelled → shipment.status ≠ .delivered

/-- The orders are numbered in turn, and each has a shipment. -/
structure Booked (tables : OrderTables) : Prop where
  numbered : Numbered tables
  shipped : ∀ n order, tables.orders.get? n = some order →
    ∃ shipment, tables.shipments.get? n = some shipment

theorem booked_new : Booked ⟨Registry.empty, Registry.empty⟩ where
  numbered _ h := nomatch h
  shipped _ _ h := nomatch h

section invariants
variable {before after : OrderTables}

/-- An order that replaces one keeps the numbers, a new one adds its own. -/
theorem Writes.numbers (h : Writes before after) (hbooked : Booked before) :
    numbers after = numbers before ∨
      ∃ year, orderNumber year (before.orders.values.length + 1) ∉ numbers before ∧
        numbers after = numbers before ++ [orderNumber year (before.orders.values.length + 1)] := by
  cases h with
  | kept => exact Or.inl rfl
  | placed order shipment year number =>
    right
    have hfresh := hbooked.numbered.fresh year
    refine ⟨year, hfresh, ?_⟩
    rw [numbers_put, number, if_neg hfresh]
  | amended order updated found =>
    left
    rw [numbers_put, if_pos (mem_numbers.mpr ⟨order, found⟩)]
  | cancelled order updated shipment found =>
    left
    rw [numbers_put, if_pos (mem_numbers.mpr ⟨order, found⟩)]

/-- **Step lemma**: the orders stay numbered, and shipped. -/
theorem Booked.writes (hbooked : Booked before) (h : Writes before after) : Booked after := by
  constructor
  · intro n hn
    rcases h.numbers hbooked with hsame | ⟨year, -, hadded⟩
    · rw [hsame] at hn ⊢
      exact hbooked.numbered n hn
    · rw [hadded] at hn ⊢
      rw [List.length_append, List.length_singleton]
      rcases List.mem_append.mp hn with hold | hnew
      · obtain ⟨year', place, hplace, heq⟩ := hbooked.numbered n hold
        exact ⟨year', place, by omega, heq⟩
      · rw [List.mem_singleton.mp hnew, length_numbers]
        exact ⟨year, _, le_refl _, rfl⟩
  · intro n order hget
    cases h with
    | kept => exact hbooked.shipped n order hget
    | placed placed shipment year number own =>
      rw [Registry.get?_put] at hget ⊢
      by_cases hn : n = placed.po_number
      · rw [if_pos (hn.trans own.symm)]
        exact ⟨shipment, rfl⟩
      · rw [if_neg hn] at hget
        rw [if_neg (own ▸ hn)]
        exact hbooked.shipped n order hget
    | amended old updated found =>
      rw [Registry.get?_put] at hget
      by_cases hn : n = updated.po_number
      · exact hbooked.shipped n old (hn ▸ found)
      · rw [if_neg hn] at hget
        exact hbooked.shipped n order hget
    | cancelled old updated shipment found =>
      rw [Registry.get?_put] at hget
      by_cases hn : n = updated.po_number
      · exact hbooked.shipped n old (hn ▸ found)
      · rw [if_neg hn] at hget
        exact hbooked.shipped n order hget

theorem Booked.moves {po_number : String} {status : ShipmentStatus} (hbooked : Booked before)
    (h : Moves po_number status before after) : Booked after := by
  obtain ⟨shipment, hget, rfl⟩ := h
  refine ⟨hbooked.numbered, ?_⟩
  intro n order horder
  rw [Registry.get?_put]
  split
  · exact ⟨_, rfl⟩
  · exact hbooked.shipped n order horder

/-- **Step lemma**: a cancelled order stays as it is. -/
theorem Writes.cancelled_kept (h : Writes before after) (hbooked : Booked before) {n : String}
    {order : PurchaseOrder} (hget : before.orders.get? n = some order)
    (hcancelled : order.status = .cancelled) : after.orders.get? n = some order := by
  cases h with
  | kept => exact hget
  | placed placed shipment year number =>
    have hne : n ≠ placed.po_number := by
      intro heq
      apply hbooked.numbered.fresh year
      rw [← number, ← heq]
      exact mem_numbers.mpr ⟨order, hget⟩
    rw [Registry.get?_put, if_neg hne]
    exact hget
  | amended old updated found live =>
    have hne : n ≠ updated.po_number := by
      rintro rfl
      rw [hget] at found
      exact live (Option.some.inj found ▸ hcancelled)
    rw [Registry.get?_put, if_neg hne]
    exact hget
  | cancelled old updated shipment found live =>
    have hne : n ≠ updated.po_number := by
      rintro rfl
      rw [hget] at found
      exact live (Option.some.inj found ▸ hcancelled)
    rw [Registry.get?_put, if_neg hne]
    exact hget

/-- **Step lemma**: what `execute` writes keeps cancelled orders apart from
    delivered shipments. -/
theorem Apart.writes (hapart : Apart before) (h : Writes before after) : Apart after := by
  intro n order shipment horder hshipment hcancelled
  cases h with
  | kept => exact hapart n order shipment horder hshipment hcancelled
  | placed placed new year number own pending =>
    rw [Registry.get?_put] at horder hshipment
    by_cases hn : n = placed.po_number
    · rw [if_pos (hn.trans own.symm)] at hshipment
      rw [← Option.some.inj hshipment, pending]
      decide
    · rw [if_neg hn] at horder
      rw [if_neg (own ▸ hn)] at hshipment
      exact hapart n order shipment horder hshipment hcancelled
  | amended old updated found live status =>
    rw [Registry.get?_put] at horder
    by_cases hn : n = updated.po_number
    · rw [if_pos hn] at horder
      rw [← Option.some.inj horder, status] at hcancelled
      cases hcancelled
    · rw [if_neg hn] at horder
      exact hapart n order shipment horder hshipment hcancelled
  | cancelled old updated other found live shipped under_way =>
    rw [Registry.get?_put] at horder
    by_cases hn : n = updated.po_number
    · rw [hn, shipped] at hshipment
      exact Option.some.inj hshipment ▸ under_way
    · rw [if_neg hn] at horder
      exact hapart n order shipment horder hshipment hcancelled

/-- So does a shipment that moves, unless its order is cancelled and it is
    delivered. -/
theorem Apart.moves {po_number : String} {status : ShipmentStatus} (hapart : Apart before)
    (h : Moves po_number status before after)
    (hlive : status = .delivered → ∀ order, before.orders.get? po_number = some order →
      order.status ≠ .cancelled) : Apart after := by
  obtain ⟨old, hget, rfl⟩ := h
  have hkey : old.po_number = po_number := Registry.key_of_get? hget
  intro n order shipment horder hshipment hcancelled
  rw [Registry.get?_put] at hshipment
  by_cases hn : n = po_number
  · rw [if_pos (hn.trans hkey.symm)] at hshipment
    rw [← Option.some.inj hshipment]
    intro hdelivered
    exact hlive hdelivered order (hn ▸ horder) hcancelled
  · have hother : n ≠ old.po_number := fun heq => hn (heq.trans hkey)
    rw [if_neg hother] at hshipment
    exact hapart n order shipment horder hshipment hcancelled

end invariants

/-! ## Section 4: Runs -/

/-- The step sets the shipment of a cancelled order to be delivered. -/
def DeliversCancelled (sim : Simulator OrderTables) : OrderStep → Prop
  | .execute _ => False
  | .shipment po_number status => status = ShipmentStatus.delivered.text ∧
      ∃ order, sim.tables.orders.get? po_number = some order ∧ order.status = .cancelled

/-- What a run keeps. -/
structure KeepsOrders (decimalOf : String → Option PyDecimal) (steps : List OrderStep) : Prop where
  /-- No cancelled order has a delivered shipment. -/
  apart : ∀ past, past <+: steps → Apart (afterSteps decimalOf past).tables
  /-- A cancelled order is never changed. -/
  final : ∀ past later, past ++ later <+: steps → ∀ n order,
    (afterSteps decimalOf past).tables.orders.get? n = some order → order.status = .cancelled →
      (afterSteps decimalOf (past ++ later)).tables.orders.get? n = some order
  /-- No two orders have the same number. -/
  distinct : ∀ past, past <+: steps →
    ((afterSteps decimalOf past).tables.orders.values.map PurchaseOrder.po_number).Nodup
  /-- No number is given away twice. -/
  fresh : ∀ past later, past ++ later <+: steps →
    numbers (afterSteps decimalOf past).tables <+:
      numbers (afterSteps decimalOf (past ++ later)).tables

section runs
variable {decimalOf : String → Option PyDecimal}

theorem afterSteps_snoc (past : List OrderStep) (step : OrderStep) :
    afterSteps decimalOf (past ++ [step]) = step.next decimalOf (afterSteps decimalOf past) := by
  unfold afterSteps
  rw [List.foldl_append]
  rfl

/-- **Run lemma**: the orders are numbered in turn, and each has a shipment. -/
theorem booked_afterSteps (steps : List OrderStep) :
    Booked (afterSteps decimalOf steps).tables := by
  induction steps using List.reverseRecOn with
  | nil => exact booked_new
  | append_singleton past step ih =>
    rw [afterSteps_snoc]
    rcases step_writes step (afterSteps decimalOf past) with hwrites | ⟨_, _, hmoves⟩
    · exact ih.writes hwrites
    · exact ih.moves hmoves

theorem final_afterSteps {past : List OrderStep} {n : String} {order : PurchaseOrder}
    (hget : (afterSteps decimalOf past).tables.orders.get? n = some order)
    (hcancelled : order.status = .cancelled) (later : List OrderStep) :
    (afterSteps decimalOf (past ++ later)).tables.orders.get? n = some order := by
  induction later using List.reverseRecOn with
  | nil =>
    rw [List.append_nil]
    exact hget
  | append_singleton later step ih =>
    rw [← List.append_assoc, afterSteps_snoc]
    rcases step_writes step (afterSteps decimalOf (past ++ later)) with hwrites | ⟨_, _, _, -, heq⟩
    · exact hwrites.cancelled_kept (booked_afterSteps _) ih hcancelled
    · rw [heq]
      exact ih

theorem fresh_afterSteps (past later : List OrderStep) :
    numbers (afterSteps decimalOf past).tables <+:
      numbers (afterSteps decimalOf (past ++ later)).tables := by
  induction later using List.reverseRecOn with
  | nil =>
    rw [List.append_nil]
  | append_singleton later step ih =>
    rw [← List.append_assoc, afterSteps_snoc]
    rcases step_writes step (afterSteps decimalOf (past ++ later)) with hwrites | ⟨_, _, _, -, heq⟩
    · rcases hwrites.numbers (booked_afterSteps _) with hsame | ⟨year, -, hadded⟩
      · rw [hsame]
        exact ih
      · rw [hadded]
        exact ih.trans (List.prefix_append _ _)
    · rw [heq]
      exact ih

theorem distinct_values (tables : OrderTables) :
    (tables.orders.values.map PurchaseOrder.po_number).Nodup := by
  have hkeys : tables.orders.values.map PurchaseOrder.po_number = numbers tables := by
    unfold Table.values numbers
    rw [List.map_map]
    exact List.map_congr_left tables.orders.keyed
  rw [hkeys]
  exact tables.orders.unique

/-- **Step lemma**: a step keeps cancelled orders apart from delivered
    shipments, unless it sets such a shipment to be delivered. -/
theorem apart_next_iff {sim : Simulator OrderTables} {step : OrderStep} (hbooked : Booked sim.tables)
    (hapart : Apart sim.tables) :
    Apart (step.next decimalOf sim).tables ↔ ¬ DeliversCancelled sim step := by
  cases step with
  | execute c => exact ⟨fun _ h => h, fun _ => hapart.writes (execute_writes c sim)⟩
  | shipment po_number status =>
    show Apart (exec (setShipmentStatus po_number status) sim).2.tables ↔ _
    constructor
    · rintro hafter ⟨rfl, order, horder, hcancelled⟩
      obtain ⟨shipment, hshipment⟩ := hbooked.shipped po_number order horder
      obtain ⟨year, place, -, hnumber⟩ :=
        hbooked.numbered po_number (mem_numbers.mpr ⟨order, horder⟩)
      have htext : nonBlank po_number = true := by
        rw [hnumber]
        show nonBlank ("PO-" ++ year ++ "-" ++ fourDigits place) = true
        iterate 3 apply nonBlank_append_left
        decide
      rw [setShipmentStatus_moves .delivered htext hshipment] at hafter
      have hkey : shipment.po_number = po_number := Registry.key_of_get? hshipment
      refine hafter po_number order { shipment with status := .delivered } horder ?_ hcancelled rfl
      rw [Registry.get?_put, if_pos hkey.symm]
    · intro hother
      rcases setShipmentStatus_tables po_number status sim with hkept | ⟨new, hnew, hmoves⟩
      · rw [hkept]
        exact hapart
      · refine hapart.moves hmoves ?_
        intro hdelivered order horder hcancelled
        refine hother ⟨?_, order, horder, hcancelled⟩
        have htext := List.find?_some hnew
        rw [← hdelivered]
        exact (beq_iff_eq.mp htext).symm

/-- **Orders and shipments**: a run keeps the orders exactly when no step of it
    sets the shipment of a cancelled order to be delivered. -/
theorem keeps_orders_iff (decimalOf : String → Option PyDecimal) (steps : List OrderStep) :
    KeepsOrders decimalOf steps ↔
      ∀ past step, past ++ [step] <+: steps →
        ¬ DeliversCancelled (afterSteps decimalOf past) step := by
  constructor
  · intro h past step hpast
    have hafter := h.apart (past ++ [step]) hpast
    rw [afterSteps_snoc] at hafter
    exact (apart_next_iff (booked_afterSteps past)
      (h.apart past ((List.prefix_append past [step]).trans hpast))).mp hafter
  · intro h
    constructor
    · intro past hpast
      induction past using List.reverseRecOn with
      | nil => exact fun _ _ _ h => nomatch h
      | append_singleton past step ih =>
        rw [afterSteps_snoc]
        have hbefore := ih ((List.prefix_append past [step]).trans hpast)
        exact (apart_next_iff (booked_afterSteps past) hbefore).mpr (h past step hpast)
    · intro past later _ n order hget hcancelled
      exact final_afterSteps hget hcancelled later
    · intro past _
      exact distinct_values _
    · intro past later _
      exact fresh_afterSteps past later

end runs

/-! ## A cancelled order that is delivered -/

/-- Place an order and cancel it. -/
def orderAndCancel : List OrderStep :=
  [.execute
    { request :=
        { capability := PROCUREMENT_PO_CREATE
          request_id := "r-1"
          idempotency_key := "k-1"
          arguments := object
            [("vendor_id", .str "v"), ("quote_id", .str "q"), ("tonnes", .nat 5),
              ("rate_per_tonne", .nat 7), ("payment_terms", .str "NET_30"),
              ("comparison_digest", .str "d")] }
      clock := .ok "2026-03-01T09:00:00Z" },
    .execute
    { request :=
        { capability := PROCUREMENT_PO_CANCEL
          request_id := "r-2"
          idempotency_key := "k-2"
          arguments := object [("po_number", .str "PO-2026-0001")] }
      clock := .ok "2026-03-01T09:00:00Z" }]

/-- The shipment of the cancelled order is then set to be delivered. -/
theorem cancelled_order_delivered : ¬ ∀ (decimalOf : String → Option PyDecimal)
    (steps : List OrderStep), KeepsOrders decimalOf steps := by
  intro h
  have hkeeps := h (fun _ => none) (orderAndCancel ++ [.shipment "PO-2026-0001" "DELIVERED"])
  have hcancelled : ((afterSteps (fun _ => none) orderAndCancel).tables.orders.get?
      "PO-2026-0001").map PurchaseOrder.status = some .cancelled := by
    unfold afterSteps orderAndCancel
    rw [List.foldl_cons, List.foldl_cons, List.foldl_nil, OrderStep.next, OrderStep.next]
    -- the two effects are new, so that the tables are those that `_apply` leaves
    rw [Target.tables_applied sound ⟨by decide, by decide, by decide, by decide, by decide⟩,
      Target.tables_applied sound ⟨by decide, by decide, by decide, by decide, by decide⟩ rfl]
    · decide +kernel
    · rw [Target.effects_other sound (by decide)]
      rfl
  obtain ⟨order, horder, hstatus⟩ := Option.map_eq_some_iff.mp hcancelled
  have hbefore := hkeeps.apart orderAndCancel (List.prefix_append _ _)
  have hafter := hkeeps.apart _ (List.prefix_refl _)
  rw [afterSteps_snoc, apart_next_iff (booked_afterSteps _) hbefore] at hafter
  exact hafter ⟨rfl, order, horder, hstatus⟩

end OrderSimulator

end CBrain.Simulators
