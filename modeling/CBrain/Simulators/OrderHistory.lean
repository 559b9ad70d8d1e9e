import CBrain.Simulators.Orders

/-! # Purchase-order numbers over a run

    Of the capabilities of `OrderSimulator` (`cbrain/simulators/orders.py`),
    only `procurement.po.create` places an order, under a number that no order
    before it has; the others keep the numbers. -/

namespace CBrain.Simulators

open Json (Dict)
open Mutation (raising write read exec Reads)

namespace OrderSimulator

/-! ## Section 1: Numbers -/

/-- The number of the order that is placed in this year and place. -/
def orderNumber (year : String) (place : Nat) : String := s!"PO-{year}-{fourDigits place}"

/-- The numbers of the orders, as they were placed. -/
def numbers (tables : OrderTables) : List String := tables.orders.rows.map Prod.fst

theorem length_numbers (tables : OrderTables) :
    (numbers tables).length = tables.orders.values.length := by
  simp [numbers, Table.values]

theorem mem_numbers {tables : OrderTables} {n : String} :
    n ∈ numbers tables ↔ ∃ order, tables.orders.get? n = some order := by
  unfold numbers
  constructor
  · intro h
    obtain ⟨⟨_, order⟩, hrow, rfl⟩ := List.mem_map.mp h
    exact ⟨order, Table.mem_rows.mp hrow⟩
  · rintro ⟨order, h⟩
    exact List.mem_map.mpr ⟨(n, order), Table.mem_rows.mpr h, rfl⟩

theorem not_mem_numbers {tables : OrderTables} {n : String} :
    n ∉ numbers tables ↔ tables.orders.get? n = none := by
  rw [mem_numbers, Option.eq_none_iff_forall_ne_some, not_exists]

/-- An order in the place of another keeps the numbers. -/
theorem numbers_put {tables : OrderTables} {order : PurchaseOrder}
    (shipments : Registry String Shipment Shipment.po_number) :
    numbers ⟨tables.orders.put order, shipments⟩ =
      if order.po_number ∈ numbers tables then numbers tables
      else numbers tables ++ [order.po_number] :=
  Table.keys_setRow order.po_number order tables.orders.rows

/-- Four digits are the number, and hold no dash. -/
theorem fourDigits_value (n : Nat) :
    Nat.ofDigitChars 10 (fourDigits n).toList 0 = n ∧ '-' ∉ (fourDigits n).toList := by
  unfold fourDigits
  rw [String.toList_ofList]
  constructor
  · rw [List.leftpad, Nat.ofDigitChars_append, Nat.ofDigitChars_replicate_zero]
    simp [Nat.ofDigitChars_ten_toDigits]
  · intro hdash
    rw [List.leftpad, List.mem_append] at hdash
    rcases hdash with hdash | hdash
    · have hzero := (List.mem_replicate.mp hdash).2
      exact absurd hzero (by decide)
    · have hdigit : Char.isDigit '-' = true :=
        Nat.isDigit_of_mem_toDigits (by omega) (by omega) hdash
      exact absurd hdigit (by decide)

/-- What follows the last dash. -/
theorem eq_of_last_dash {xs ys ds es : List Char} (hds : '-' ∉ ds) (hes : '-' ∉ es)
    (h : xs ++ '-' :: ds = ys ++ '-' :: es) : ds = es := by
  have hlast : ∀ {as bs : List Char}, '-' ∉ bs →
      (as ++ '-' :: bs).reverse.takeWhile (fun c => c != '-') = bs.reverse := by
    intro as bs hbs
    rw [List.reverse_append, List.reverse_cons, List.append_assoc,
      List.takeWhile_append_of_pos]
    · simp
    · intro c hc
      rw [List.mem_reverse] at hc
      simpa using fun heq : c = '-' => hbs (heq ▸ hc)
  have htake : (xs ++ '-' :: ds).reverse.takeWhile (fun c => c != '-') = ds.reverse := hlast hds
  rw [h, hlast hes] at htake
  exact (List.reverse_injective htake).symm

/-- Orders of different places have different numbers. -/
theorem place_of_orderNumber {year year' : String} {place place' : Nat}
    (h : orderNumber year place = orderNumber year' place') : place = place' := by
  have hchars : ∀ year place, (orderNumber year place).toList =
      ("PO-" ++ year).toList ++ '-' :: (fourDigits place).toList := by
    intro year place
    show ("PO-" ++ year ++ "-" ++ fourDigits place).toList = _
    simp only [String.toList_append]
    rw [List.append_assoc _ "-".toList]
    rfl
  have hlist := congrArg String.toList h
  rw [hchars, hchars] at hlist
  have hdigits := eq_of_last_dash (fourDigits_value place).2 (fourDigits_value place').2 hlist
  rw [← (fourDigits_value place).1, hdigits, (fourDigits_value place').1]

/-- Every order has the number of a place up to the last. -/
def Numbered (tables : OrderTables) : Prop :=
  ∀ n ∈ numbers tables, ∃ year place,
    place ≤ (numbers tables).length ∧ n = orderNumber year place

/-- The number of the next place is not taken. -/
theorem Numbered.fresh {tables : OrderTables} (h : Numbered tables) (year : String) :
    orderNumber year (tables.orders.values.length + 1) ∉ numbers tables := by
  intro hmem
  obtain ⟨year', place, hplace, heq⟩ := h _ hmem
  have hsame := place_of_orderNumber heq
  rw [length_numbers] at hplace
  omega

/-! ## Section 2: What one capability writes -/

section writes
variable {decimalOf : String → Option PyDecimal} {clock : Raises String} {arguments : Dict}
  {tables : OrderTables}

/-- What `_create` places and answers. -/
theorem create_ok {d : Dict} (h : (exec (create decimalOf clock arguments) tables).1 = .ok d) :
    ∃ order year, order.payload = .ok d ∧
      order.po_number = orderNumber year (tables.orders.values.length + 1) ∧
      (exec (create decimalOf clock arguments) tables).2.orders = tables.orders.put order := by
  unfold create at h ⊢
  obtain ⟨_, -, hrun⟩ := (Mutation.reads_raising _).bind_run h
  rw [hrun] at h ⊢
  obtain ⟨payment_terms, -, hrun⟩ := (Mutation.reads_raising _).bind_run h
  rw [hrun] at h ⊢
  obtain ⟨_, -, hrun⟩ := (Mutation.reads_raising _).bind_run h
  rw [hrun] at h ⊢
  obtain ⟨created_at, -, hrun⟩ := (Mutation.reads_raising _).bind_run h
  rw [hrun] at h ⊢
  rw [Mutation.exec_read_bind] at h ⊢
  obtain ⟨vendor_id, -, hrun⟩ := (Mutation.reads_raising _).bind_run h
  rw [hrun] at h ⊢
  obtain ⟨quote_id, -, hrun⟩ := (Mutation.reads_raising _).bind_run h
  rw [hrun] at h ⊢
  obtain ⟨amounts, -, hrun⟩ := (Mutation.reads_raising _).bind_run h
  rw [hrun] at h ⊢
  obtain ⟨comparison_digest, -, hrun⟩ := (Mutation.reads_raising _).bind_run h
  rw [hrun] at h ⊢
  exact ⟨_, _, h, rfl, rfl⟩

theorem requiredOrder_ok {n : String} {order : PurchaseOrder}
    (h : (exec (requiredOrder n) tables).1 = .ok order) : tables.orders.get? n = some order := by
  unfold requiredOrder at h
  rw [Mutation.exec_read_bind] at h
  cases hget : tables.orders.get? n with
  | none =>
    rw [hget] at h
    cases h
  | some found =>
    rw [hget] at h
    obtain rfl := Except.ok.inj h
    rfl

/-- After a part that only reads, the numbers are what the rest makes of them. -/
theorem numbers_bind {α β : Type} {m : Mutation Exn OrderTables α}
    {f : α → Mutation Exn OrderTables β} (hm : Reads m)
    (hf : ∀ a, (exec m tables).1 = .ok a → numbers (exec (f a) tables).2 = numbers tables) :
    numbers (exec (m >>= f) tables).2 = numbers tables :=
  hm.bind_final (P := fun after => numbers after = numbers tables) rfl hf

/-- An order of the table is replaced under its number. -/
theorem numbers_replaced {n : String} {order updated : PurchaseOrder}
    (hfound : (exec (requiredOrder n) tables).1 = .ok order)
    (hnumber : updated.po_number = order.po_number) :
    numbers { tables with orders := tables.orders.put updated } = numbers tables := by
  have hget := requiredOrder_ok hfound
  have hkey : order.po_number = n := Registry.key_of_get? hget
  rw [numbers_put, if_pos]
  rw [mem_numbers, hnumber, hkey]
  exact ⟨order, hget⟩

theorem amend_numbers : numbers (exec (amend decimalOf arguments) tables).2 = numbers tables := by
  refine numbers_bind (Mutation.reads_raising _) fun _ _ => ?_
  refine numbers_bind (Mutation.reads_raising _) fun po_number _ => ?_
  refine numbers_bind (reads_requiredOrder po_number) fun order hfound => ?_
  refine numbers_bind (Mutation.reads_raising _) fun _ _ => ?_
  refine numbers_bind (Mutation.reads_raising _) fun amounts _ => ?_
  exact numbers_replaced hfound rfl

theorem cancel_numbers : numbers (exec (cancel arguments) tables).2 = numbers tables := by
  refine numbers_bind (Mutation.reads_raising _) fun _ _ => ?_
  refine numbers_bind (Mutation.reads_raising _) fun po_number _ => ?_
  refine numbers_bind (reads_requiredOrder po_number) fun order hfound => ?_
  refine numbers_bind (Mutation.reads_raising _) fun _ _ => ?_
  refine numbers_bind (Mutation.reads_read _) fun found _ => ?_
  refine numbers_bind (Mutation.reads_raising _) fun shipment _ => ?_
  refine numbers_bind (Mutation.reads_raising _) fun _ _ => ?_
  exact numbers_replaced hfound rfl

/-- Only `procurement.po.create` changes the numbers. -/
theorem apply_numbers {capability : String} (h : capability ≠ PROCUREMENT_PO_CREATE) :
    numbers (exec (apply decimalOf clock arguments capability) tables).2 = numbers tables := by
  unfold apply
  rw [if_neg h]
  split
  · rw [Mutation.exec_bind_pure, reads_readOrder tables]
  split
  · rw [Mutation.exec_bind_pure]
    exact amend_numbers
  split
  · rw [Mutation.exec_bind_pure]
    exact cancel_numbers
  split
  · rw [Mutation.exec_bind_pure, reads_readShipment tables]
  · rfl

/-- What `procurement.po.create` places and answers. -/
theorem apply_create {answer : Dict × Bool}
    (h : (exec (apply decimalOf clock arguments PROCUREMENT_PO_CREATE) tables).1 = .ok answer) :
    ∃ order year, order.payload = .ok answer.1 ∧
      order.po_number = orderNumber year (tables.orders.values.length + 1) ∧
      (exec (apply decimalOf clock arguments PROCUREMENT_PO_CREATE) tables).2.orders =
        tables.orders.put order := by
  unfold apply at h ⊢
  rw [if_pos rfl, Mutation.exec_bind_pure] at h ⊢
  obtain ⟨d, hd, rfl⟩ := map_ok.mp h
  exact create_ok hd

/-- **Step**: the orders stay numbered. -/
theorem Numbered.apply {capability : String} (h : Numbered tables) :
    Numbered (exec (apply decimalOf clock arguments capability) tables).2 := by
  by_cases hcreate : capability = PROCUREMENT_PO_CREATE
  · subst hcreate
    cases happly : (exec (OrderSimulator.apply decimalOf clock arguments PROCUREMENT_PO_CREATE)
        tables).1 with
    | error e =>
      rw [apply_atomic tables e happly]
      exact h
    | ok answer =>
      obtain ⟨order, year, -, hnumber, horders⟩ := apply_create happly
      have hnumbers : numbers (exec (OrderSimulator.apply decimalOf clock arguments
          PROCUREMENT_PO_CREATE) tables).2 = numbers tables ++ [order.po_number] := by
        unfold numbers
        rw [horders]
        have hput := @numbers_put tables order Registry.empty
        rw [if_neg (hnumber ▸ h.fresh year)] at hput
        exact hput
      intro n hn
      rw [hnumbers] at hn ⊢
      rw [List.length_append, List.length_singleton]
      rcases List.mem_append.mp hn with hold | hnew
      · obtain ⟨year', place, hplace, heq⟩ := h n hold
        exact ⟨year', place, by omega, heq⟩
      · rw [List.mem_singleton.mp hnew, length_numbers]
        exact ⟨year, _, le_refl _, hnumber⟩
  · intro n hn
    rw [apply_numbers hcreate] at hn ⊢
    exact h n hn

end writes

end OrderSimulator

end CBrain.Simulators
