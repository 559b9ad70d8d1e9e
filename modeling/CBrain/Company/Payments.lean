import CBrain.Company.Amounts
import CBrain.Simulators.Contracts

/-! # Payments

    Models what a payment of the accounts agent goes through: validation
    (`_validate_money`, `cbrain/company/validation.py`) and the payment handlers
    (`cbrain/company/handlers.py`), over the `AccountsSimulator`
    (`cbrain/company/simulators.py`).

    Validation compares the amounts of the action and of the invoice as numbers.
    `execute_payment` compares their texts, so that it refuses an invoice whose
    amount is not written in plain digits. -/

namespace CBrain

open Json (Dict)
open Mutation (raising write read exec Reads)
open LegalHandlers (argumentText)
open Simulators (invalidOperation)

/-! ## Section 1: Validation -/

/-- `True` or `False`. -/
def Value.bool (b : Bool) : Value := ⟨.bool b, Json.WF.bool b⟩

/-- `AccountsSimulator`. -/
structure AccountsSimulator where
  invoices : Table String Dict
  payments : List Dict

def ACCOUNTS_INVOICE_MISMATCH : String := "ACCOUNTS_INVOICE_MISMATCH"
def ACCOUNTS_BENEFICIARY_MISMATCH : String := "ACCOUNTS_BENEFICIARY_MISMATCH"
def MONEY_TOOLS : List String := ["prepare_payment", "prepare_refund", "execute_payment"]

namespace Accounts

export ArgumentValidationResult (passed failed)

/-- `str(record.get(name) or default)`. -/
def fieldText (record : Dict) (name default : String) : String :=
  pyStr (pyOr (record.get name) (.str default))

/-- The amounts of the action and of the invoice do not fit. -/
def amountsDiffer (tool_name : String) (amount invoice_amount : PyDecimal) : Raises Bool :=
  if tool_name = "prepare_refund" then
    match invoice_amount.lt? amount with
    | some above => .ok above
    | none => .error invalidOperation
  else .ok (!amount.equal invoice_amount)

/-- What `_validate_money` makes of the invoice. -/
def validateInvoice (action : ActionIntent) (amount : PyDecimal) (currency : String)
    (invoice : Dict) : Raises ArgumentValidationResult := do
  let invoice_currency := fieldText invoice "currency" ""
  match decimalOf (fieldText invoice "amount_minor" "0") with
  | none => .error invalidOperation
  | some invoice_amount =>
    if currency ≠ invoice_currency then pure (failed ACCOUNTS_INVOICE_MISMATCH)
    else
      if ← amountsDiffer action.tool_name amount invoice_amount then
        pure (failed ACCOUNTS_INVOICE_MISMATCH)
      else
        let beneficiary := action.arguments.get "beneficiary_id"
        if (action.tool_name = "execute_payment" ∨ beneficiary ≠ .null) ∧
            beneficiary ≠ .str (fieldText invoice "vendor_id" "") then
          pure (failed ACCOUNTS_BENEFICIARY_MISMATCH)
        else pure passed

/-- `bundle.accounts.invoices.get(invoice_id)`, where the argument is text. -/
def invoiceOf (arguments : Dict) (accounts : AccountsSimulator) : Option Dict :=
  match arguments.get "invoice_id" with
  | .str invoice_id => accounts.invoices.get? invoice_id
  | _ => none

/-- `_validate_money`. -/
def validateMoney (action : ActionIntent) (bundle : Option AccountsSimulator) :
    Raises ArgumentValidationResult :=
  match parseAmount (action.arguments.get "amount_minor") with
  | .error reason => .ok (failed reason)
  | .ok amount =>
    match action.arguments.get "currency" with
    | .str currency =>
      if currency ∉ SUPPORTED_CURRENCIES then .ok (failed ACCOUNTS_CURRENCY_UNSUPPORTED)
      else
        match bundle.bind (invoiceOf action.arguments) with
        | none => .ok (failed ACCOUNTS_INVOICE_MISMATCH)
        | some invoice => validateInvoice action amount currency invoice
    | _ => .ok (failed ACCOUNTS_CURRENCY_UNSUPPORTED)

/-- `validate_company_action` for the accounts agent. -/
def validateCompanyAction (action : ActionIntent) (bundle : Option AccountsSimulator) :
    Raises ArgumentValidationResult :=
  if action.tool_name ∈ MONEY_TOOLS then validateMoney action bundle else .ok passed

/-! ## Section 2: Handlers -/

section handlers
variable (arguments : Dict)

/-- `_payment_args`. -/
def paymentArgs : Raises (String × PyDecimal × String) := do
  let amount ← parseDecimalMinor (← argumentText arguments "amount_minor") "amount_minor"
  let invoice_id ← argumentText arguments "invoice_id"
  let currency ← argumentText arguments "currency"
  pure (invoice_id, amount, currency)

/-- What is prepared. -/
def prepared (invoice_id : String) (amount : PyDecimal) (currency : String) : Dict :=
  object
    [("invoice_id", .str invoice_id), ("amount_minor", .str amount.str), ("currency", .str currency),
      ("prepared", .bool true)]

/-- What is executed. -/
def executed (invoice_id : String) (amount : PyDecimal) (currency beneficiary_id : String) : Dict :=
  object
    [("invoice_id", .str invoice_id), ("amount_minor", .str amount.str), ("currency", .str currency),
      ("beneficiary_id", .str beneficiary_id), ("executed", .bool true)]

/-- The invoice, whose currency is the given one. -/
def requiredInvoice (invoice_id currency : String) : Mutation Exn AccountsSimulator Dict := do
  let invoice ← read fun sim => sim.invoices.get? invoice_id
  match invoice with
  | none => raising (.error (simulatorValidationError "unknown invoice"))
  | some invoice => do
    raising (require (invoice.get "currency" = .str currency)
      (simulatorValidationError "currency mismatch"))
    pure invoice

/-- `prepare_payment`. -/
def preparePayment : Mutation Exn AccountsSimulator Dict := do
  let (invoice_id, amount, currency) ← raising (paymentArgs arguments)
  let _ ← requiredInvoice invoice_id currency
  pure (prepared invoice_id amount currency)

/-- `prepare_refund`. -/
def prepareRefund : Mutation Exn AccountsSimulator Dict := do
  let (invoice_id, amount, currency) ← raising (paymentArgs arguments)
  pure (prepared invoice_id amount currency)

/-- `execute_payment`. -/
def executePayment : Mutation Exn AccountsSimulator Dict := do
  let (invoice_id, amount, currency) ← raising (paymentArgs arguments)
  let beneficiary_id ← raising (argumentText arguments "beneficiary_id")
  let invoice ← requiredInvoice invoice_id currency
  raising (require (pyStr (invoice.get "amount_minor") = amount.str)
    (simulatorValidationError "amount mismatch"))
  let payment := executed invoice_id amount currency beneficiary_id
  write fun sim => { sim with payments := sim.payments ++ [payment] }
  pure payment

end handlers

/-- The handler of a money tool. -/
def handler (tool_name : String) (arguments : Dict) : Mutation Exn AccountsSimulator Dict :=
  if tool_name = "prepare_payment" then preparePayment arguments
  else if tool_name = "prepare_refund" then prepareRefund arguments
  else if tool_name = "execute_payment" then executePayment arguments
  else raising (.error (Exn.parts .keyError [.repr (.str tool_name)]))

/-! ## Section 3: Agreement -/

/-- The payment has the amount and the currency of the invoice. -/
structure Pays (payment invoice : Dict) : Prop where
  currency : payment.get "currency" = invoice.get "currency"
  amount : ∃ text paid owed, payment.get "amount_minor" = .str text ∧
    decimalOf text = some paid ∧ decimalOf (pyStr (invoice.get "amount_minor")) = some owed ∧
      paid.equal owed = true

/-- The handler completes with a payment of the invoice, and records it if it is
    executed. -/
def Settles (action : ActionIntent) (accounts : AccountsSimulator) : Prop :=
  ∃ payment invoice, invoiceOf action.arguments accounts = some invoice ∧ Pays payment invoice ∧
    exec (handler action.tool_name action.arguments) accounts =
      (.ok payment,
        if action.tool_name = "execute_payment" then
          { accounts with payments := accounts.payments ++ [payment] }
        else accounts)

/-- The amount of the invoice is written in plain digits. -/
def PlainInvoice (action : ActionIntent) (accounts : AccountsSimulator) : Prop :=
  ∃ invoice, invoiceOf action.arguments accounts = some invoice ∧
    ∃ n : Nat, pyStr (invoice.get "amount_minor") = toString n

section agreement
variable {action : ActionIntent} {accounts : AccountsSimulator}

/-- Only text is written as a currency. -/
theorem eq_str_of_currency {value : Json} {currency : String} (h : pyStr value = currency)
    (hcurrency : currency ∈ SUPPORTED_CURRENCIES) : value = .str currency := by
  -- what other values are written as begins with another character
  have hfirst : currency.toList.head? = some 'U' ∨ currency.toList.head? = some 'E' := by
    simp only [SUPPORTED_CURRENCIES, List.mem_cons, List.not_mem_nil, or_false] at hcurrency
    rcases hcurrency with rfl | rfl
    · exact Or.inl rfl
    · exact Or.inr rfl
  have hother : ∀ cs : List Char, String.ofList cs = currency → cs.head? ≠ some 'U' →
      cs.head? ≠ some 'E' → False := by
    intro cs hcs hU hE
    rw [← hcs, String.toList_ofList] at hfirst
    exact hfirst.elim hU hE
  cases value with
  | str s => exact congrArg Json.str h
  | null =>
    subst h
    exact absurd hcurrency (by decide)
  | bool b =>
    subst h
    cases b <;> exact absurd hcurrency (by decide)
  | int i =>
    obtain ⟨c, cs, hcs, hc⟩ := Json.dumpsInt_head i
    have hchars : String.ofList (Json.dumpsInt i) = currency := h
    rw [hcs] at hchars
    exact (hother _ hchars (by rintro ⟨⟩; revert hc; decide) (by rintro ⟨⟩; revert hc; decide)).elim
  | float x =>
    cases x with
    | finite d =>
      obtain ⟨c, cs, hcs, hc⟩ := Json.dumpsMantissa_head d
      have hchars : String.ofList (if d.neg then '-' :: Json.dumpsMantissa d
        else Json.dumpsMantissa d) = currency := h
      split at hchars
      · exact (hother _ hchars (by simp) (by simp)).elim
      · rw [hcs] at hchars
        exact (hother _ hchars (by rintro ⟨⟩; revert hc; decide)
          (by rintro ⟨⟩; revert hc; decide)).elim
    | infinity neg =>
      subst h
      cases neg <;> exact absurd hcurrency (by decide)
    | nan =>
      subst h
      exact absurd hcurrency (by decide)
  | arr xs =>
    have hchars : "[" ++ ", ".intercalate (reprElems xs) ++ "]" = currency := by
      rw [← h]
      rfl
    rw [← hchars] at hfirst
    simp at hfirst
  | obj ms =>
    have hchars : "\x7b" ++ ", ".intercalate (reprMembers ms) ++ "\x7d" = currency := by
      rw [← h]
      rfl
    rw [← hchars] at hfirst
    simp at hfirst

/-- What validation has established of a payment. -/
structure Validated (action : ActionIntent) (accounts : AccountsSimulator) (invoice : Dict) (id : String)
    (n : Nat) (code : String) : Prop where
  invoice_id : action.arguments.get "invoice_id" = .str id
  found : accounts.invoices.get? id = some invoice
  amount : parseAmount (action.arguments.get "amount_minor") = .ok (.finite false n 0)
  bounded : n ≤ 100000000
  currency : action.arguments.get "currency" = .str code
  invoice_currency : invoice.get "currency" = .str code
  owed : ∃ owed, decimalOf (pyStr (invoice.get "amount_minor")) = some owed ∧
    (PyDecimal.finite false n 0).equal owed = true
  beneficiary : action.tool_name = "execute_payment" →
    ∃ vendor_id, action.arguments.get "beneficiary_id" = .str vendor_id

/-- An amount is owed only where one is given. -/
theorem owed_given {invoice : Dict} {n : Nat} {owed : PyDecimal} (hn : 0 < n)
    (hread : decimalOf (fieldText invoice "amount_minor" "0") = some owed)
    (hequal : (PyDecimal.finite false n 0).equal owed = true) :
    decimalOf (pyStr (invoice.get "amount_minor")) = some owed := by
  unfold fieldText pyOr at hread
  split at hread
  · exact hread
  · have hzero : decimalOf (toString 0) = some owed := hread
    rw [of_decimalOf_toString hzero, PyDecimal.equal_int] at hequal
    omega

theorem currency_given {invoice : Dict} {code : String} (hcode : code ∈ SUPPORTED_CURRENCIES)
    (h : code = fieldText invoice "currency" "") : invoice.get "currency" = .str code := by
  have hvalue := eq_str_of_currency h.symm hcode
  unfold pyOr at hvalue
  split at hvalue
  · exact hvalue
  · obtain rfl := Json.str.inj hvalue
    exact absurd hcode (by decide)

theorem invoiceOf_eq_some {arguments invoice : Dict}
    (h : invoiceOf arguments accounts = some invoice) :
    ∃ id, arguments.get "invoice_id" = .str id ∧ accounts.invoices.get? id = some invoice := by
  unfold invoiceOf at h
  split at h
  · next id hid => exact ⟨id, hid, h⟩
  · cases h

theorem failed_ne_passed (reason : String) : failed reason ≠ passed := by
  intro heq
  cases congrArg ArgumentValidationResult.ok heq

theorem validateInvoice_passed {amount : PyDecimal} {code : String} {invoice : Dict}
    (hrefund : action.tool_name ≠ "prepare_refund")
    (h : validateInvoice action amount code invoice = .ok passed) :
    code = fieldText invoice "currency" "" ∧
      ∃ owed, decimalOf (fieldText invoice "amount_minor" "0") = some owed ∧
        amount.equal owed = true ∧
          (action.tool_name = "execute_payment" →
            action.arguments.get "beneficiary_id" = .str (fieldText invoice "vendor_id" "")) := by
  unfold validateInvoice at h
  cases hread : decimalOf (fieldText invoice "amount_minor" "0") with
  | none =>
    rw [hread] at h
    cases h
  | some owed =>
    rw [hread] at h
    dsimp only at h
    split at h
    · exact absurd (Except.ok.inj h) (failed_ne_passed _)
    next hcurrency =>
    have hdiffer : amountsDiffer action.tool_name amount owed = .ok (!amount.equal owed) := by
      unfold amountsDiffer
      rw [if_neg hrefund]
    rw [hdiffer, ok_bind] at h
    cases hequal : amount.equal owed with
    | false =>
      rw [hequal] at h
      exact absurd (Except.ok.inj h) (failed_ne_passed _)
    | true =>
      rw [hequal] at h
      simp only [Bool.not_true, Bool.false_eq_true, if_false] at h
      split at h
      · exact absurd (Except.ok.inj h) (failed_ne_passed _)
      next hbeneficiary =>
      refine ⟨not_not.mp hcurrency, owed, rfl, hequal, ?_⟩
      intro hexecute
      by_contra hother
      exact hbeneficiary ⟨Or.inl hexecute, hother⟩

theorem validated_of_passed (htool : action.tool_name = "prepare_payment" ∨
      action.tool_name = "execute_payment")
    (h : validateCompanyAction action (some accounts) = .ok passed) :
    ∃ invoice id n code, Validated action accounts invoice id n code := by
  have hmoney : action.tool_name ∈ MONEY_TOOLS := by
    rcases htool with htool | htool <;> rw [htool] <;> decide
  have hrefund : action.tool_name ≠ "prepare_refund" := by
    rcases htool with htool | htool <;> rw [htool] <;> decide
  unfold validateCompanyAction at h
  rw [if_pos hmoney] at h
  unfold validateMoney at h
  cases hamount : parseAmount (action.arguments.get "amount_minor") with
  | error reason =>
    rw [hamount] at h
    exact absurd (Except.ok.inj h) (failed_ne_passed _)
  | ok amount =>
    obtain ⟨-, n, rfl, hn, hbound⟩ := parseAmount_ok hamount
    rw [hamount] at h
    dsimp only at h
    split at h
    · next code hcode =>
      split at h
      · exact absurd (Except.ok.inj h) (failed_ne_passed _)
      next hsupported =>
      rw [Option.bind_some] at h
      cases hinvoice : invoiceOf action.arguments accounts with
      | none =>
        rw [hinvoice] at h
        exact absurd (Except.ok.inj h) (failed_ne_passed _)
      | some invoice =>
        rw [hinvoice] at h
        dsimp only at h
        obtain ⟨id, hid, hfound⟩ := invoiceOf_eq_some hinvoice
        obtain ⟨hcurrency, owed, howed, hequal, hbeneficiary⟩ := validateInvoice_passed hrefund h
        exact ⟨invoice, id, n, code, hid, hfound, hamount, hbound, hcode,
          currency_given (not_not.mp hsupported) hcurrency, ⟨owed, owed_given hn howed hequal, hequal⟩,
          fun hexecute => ⟨_, hbeneficiary hexecute⟩⟩
    · exact absurd (Except.ok.inj h) (failed_ne_passed _)

theorem argumentText_str {arguments : Dict} {name text : String}
    (h : arguments.get name = .str text) : argumentText arguments name = .ok text := by
  unfold argumentText member
  cases hget : arguments.get? name with
  | none =>
    unfold Dict.get at h
    rw [hget] at h
    cases h
  | some value =>
    unfold Dict.get at h
    rw [hget] at h
    obtain rfl : value = .str text := h
    rfl

section validated
variable {invoice : Dict} {id code : String} {n : Nat}

theorem Validated.invoiceOf (h : Validated action accounts invoice id n code) :
    invoiceOf action.arguments accounts = some invoice := by
  unfold Accounts.invoiceOf
  rw [h.invoice_id]
  exact h.found

/-- What the handlers read of an action that validation accepts. -/
theorem Validated.paymentArgs (h : Validated action accounts invoice id n code) :
    paymentArgs action.arguments = .ok (id, .finite false n 0, code) := by
  have hamount : argumentText action.arguments "amount_minor" =
      .ok (pyStr (action.arguments.get "amount_minor")) := by
    unfold argumentText member Dict.get
    cases hget : action.arguments.get? "amount_minor" with
    | none =>
      have hparse := h.amount
      unfold Dict.get at hparse
      rw [hget] at hparse
      cases hparse
    | some value => rfl
  unfold Accounts.paymentArgs
  rw [hamount, ok_bind, parseDecimalMinor_amount h.amount, ok_bind, argumentText_str h.invoice_id,
    ok_bind, argumentText_str h.currency, ok_bind]
  rfl

theorem Validated.requiredInvoice (h : Validated action accounts invoice id n code) :
    exec (requiredInvoice id code) accounts = (.ok invoice, accounts) := by
  unfold Accounts.requiredInvoice
  rw [Mutation.exec_read_bind, h.found]
  dsimp only
  rw [(require_ok (u := ())).mpr h.invoice_currency, Mutation.exec_ok_bind]
  rfl

/-- What a handler reports of an action that validation accepts is a payment of
    the invoice. -/
theorem Validated.pays (h : Validated action accounts invoice id n code) {payment : Dict}
    (hamount : payment.get "amount_minor" = .str (toString n))
    (hcurrency : payment.get "currency" = .str code) : Pays payment invoice := by
  obtain ⟨owed, howed, hequal⟩ := h.owed
  exact ⟨hcurrency.trans h.invoice_currency.symm, toString n, .finite false n 0, owed, hamount,
    decimalOf_toString h.bounded, howed, hequal⟩

theorem Validated.plain_iff (h : Validated action accounts invoice id n code) :
    PlainInvoice action accounts ↔ pyStr (invoice.get "amount_minor") = toString n := by
  constructor
  · rintro ⟨other, hother, m, hm⟩
    obtain rfl : invoice = other := Option.some.inj (h.invoiceOf.symm.trans hother)
    obtain ⟨owed, howed, hequal⟩ := h.owed
    rw [hm] at howed
    rw [of_decimalOf_toString howed, PyDecimal.equal_int] at hequal
    rw [hm, hequal]
  · intro hplain
    exact ⟨invoice, h.invoiceOf, n, hplain⟩

theorem Validated.prepare (h : Validated action accounts invoice id n code) :
    exec (preparePayment action.arguments) accounts =
      (.ok (prepared id (.finite false n 0) code), accounts) := by
  unfold preparePayment
  rw [h.paymentArgs, Mutation.exec_ok_bind]
  dsimp only
  rw [Mutation.exec_bind_ok h.requiredInvoice]
  rfl

theorem Validated.execute (h : Validated action accounts invoice id n code)
    (hexecute : action.tool_name = "execute_payment") :
    ∃ vendor_id, exec (executePayment action.arguments) accounts =
      if pyStr (invoice.get "amount_minor") = toString n then
        (.ok (executed id (.finite false n 0) code vendor_id),
          { accounts with
            payments := accounts.payments ++ [executed id (.finite false n 0) code vendor_id] })
      else (.error (simulatorValidationError "amount mismatch"), accounts) := by
  obtain ⟨vendor_id, hvendor⟩ := h.beneficiary hexecute
  refine ⟨vendor_id, ?_⟩
  unfold executePayment
  rw [h.paymentArgs, Mutation.exec_ok_bind]
  dsimp only
  rw [argumentText_str hvendor, Mutation.exec_ok_bind, Mutation.exec_bind_ok h.requiredInvoice,
    PyDecimal.str_int]
  by_cases hplain : pyStr (invoice.get "amount_minor") = toString n
  · rw [if_pos hplain, (require_ok (u := ())).mpr hplain, Mutation.exec_ok_bind]
    rfl
  · rw [if_neg hplain, require_error.mpr ⟨hplain, rfl⟩, Mutation.exec_error_bind]

/-- A payment that is prepared is one of the invoice. -/
theorem Validated.settles_prepare (h : Validated action accounts invoice id n code)
    (hprepare : action.tool_name = "prepare_payment") : Settles action accounts := by
  refine ⟨prepared id (.finite false n 0) code, invoice, h.invoiceOf, ?_, ?_⟩
  · apply h.pays
    · rw [← PyDecimal.str_int, prepared, object_get]
      rfl
    · rw [prepared, object_get]
      rfl
  · have hother : action.tool_name ≠ "execute_payment" := by
      rw [hprepare]
      decide
    rw [if_neg hother]
    unfold handler
    rw [if_pos hprepare]
    exact h.prepare

/-- A payment is executed exactly when the texts of the amounts agree. -/
theorem Validated.settles_execute_iff (h : Validated action accounts invoice id n code)
    (hexecute : action.tool_name = "execute_payment") :
    Settles action accounts ↔ pyStr (invoice.get "amount_minor") = toString n := by
  obtain ⟨vendor_id, hrun⟩ := h.execute hexecute
  have hhandler : handler action.tool_name action.arguments = executePayment action.arguments := by
    unfold handler
    rw [hexecute, if_neg (by decide), if_neg (by decide), if_pos rfl]
  constructor
  · rintro ⟨payment, other, -, -, hsettled⟩
    by_contra hplain
    rw [hhandler, hrun, if_neg hplain] at hsettled
    cases congrArg Prod.fst hsettled
  · intro hplain
    refine ⟨executed id (.finite false n 0) code vendor_id, invoice, h.invoiceOf, ?_, ?_⟩
    · apply h.pays
      · rw [← PyDecimal.str_int, executed, object_get]
        rfl
      · rw [executed, object_get]
        rfl
    · rw [hhandler, hrun, if_pos hplain, if_pos hexecute]

end validated

/-- **Payments**: the handler of a payment that validation accepts completes with
    the invoice's amount and currency exactly when it does not execute the
    payment, or the invoice's amount is written in plain digits. -/
theorem payment_settles_iff (action : ActionIntent) (accounts : AccountsSimulator)
    (htool : action.tool_name = "prepare_payment" ∨ action.tool_name = "execute_payment")
    (hvalid : validateCompanyAction action (some accounts) = .ok passed) :
    Settles action accounts ↔
      (action.tool_name = "execute_payment" → PlainInvoice action accounts) := by
  obtain ⟨invoice, id, n, code, h⟩ := validated_of_passed htool hvalid
  rcases htool with hprepare | hexecute
  · have hother : action.tool_name ≠ "execute_payment" := by
      rw [hprepare]
      decide
    exact ⟨fun _ hexecute => absurd hexecute hother, fun _ => h.settles_prepare hprepare⟩
  · rw [h.settles_execute_iff hexecute, ← h.plain_iff]
    exact ⟨fun hplain _ => hplain, fun hplain => hplain hexecute⟩

end agreement

/-- An invoice of 5000 minor units. -/
def pointInvoice (amount_minor : String) : Dict :=
  object
    [("invoice_id", .str "inv-1"), ("vendor_id", .str "ven-1"), ("currency", .str "USD"),
      ("amount_minor", .str amount_minor)]

/-- The records with the invoice. -/
def pointRecords (amount_minor : String) : AccountsSimulator :=
  ⟨Table.empty.set "inv-1" (pointInvoice amount_minor), []⟩

/-- The arguments of its payment. -/
def pointArguments : Dict :=
  object
    [("invoice_id", .str "inv-1"), ("amount_minor", .str "5000"), ("currency", .str "USD"),
      ("beneficiary_id", .str "ven-1")]

/-- The action that executes the payment. -/
def pointAction : ActionIntent :=
  { ActionIntent.contactRead with
    tool_name := "execute_payment"
    arguments_json := Snapshot.ofDict pointArguments
    tool_name_text := by decide }

theorem pointAction_arguments : pointAction.arguments = pointArguments :=
  Snapshot.restore_ofDict pointArguments

theorem pointInvoice_found (amount_minor : String) :
    invoiceOf pointAction.arguments (pointRecords amount_minor) =
      some (pointInvoice amount_minor) := by
  rw [pointAction_arguments]
  rfl

theorem pointAction_valid (amount_minor : String)
    (h : validateInvoice pointAction (.finite false 5000 0) "USD" (pointInvoice amount_minor) =
      .ok passed) :
    validateCompanyAction pointAction (some (pointRecords amount_minor)) = .ok passed := by
  have hamount : parseAmount (pointArguments.get "amount_minor") = .ok (.finite false 5000 0) := by
    decide +kernel
  have hcurrency : pointArguments.get "currency" = .str "USD" := by decide
  unfold validateCompanyAction validateMoney
  rw [if_pos (by decide), Option.bind_some, pointInvoice_found, pointAction_arguments, hamount,
    hcurrency]
  dsimp only
  rw [if_neg (by decide)]
  exact h

/-- The invoice passes if its amount is the one of the action. -/
theorem point_valid (amount_minor : String)
    (h : (decimalOf (fieldText (pointInvoice amount_minor) "amount_minor" "0")).map
      (PyDecimal.equal (.finite false 5000 0)) = some true) :
    validateInvoice pointAction (.finite false 5000 0) "USD" (pointInvoice amount_minor) =
      .ok passed := by
  obtain ⟨owed, howed, hequal⟩ := Option.map_eq_some_iff.mp h
  have hcurrency : "USD" = fieldText (pointInvoice amount_minor) "currency" "" := by
    rw [fieldText, pointInvoice, object_get]
    rfl
  have hvendor : pointArguments.get "beneficiary_id" =
      .str (fieldText (pointInvoice amount_minor) "vendor_id" "") := by
    rw [fieldText, pointInvoice, object_get, pointArguments, object_get]
    rfl
  unfold validateInvoice
  rw [howed]
  dsimp only
  rw [if_neg (not_not.mpr hcurrency), amountsDiffer, if_neg (by decide), ok_bind, hequal,
    pointAction_arguments]
  simp only [Bool.not_true, Bool.false_eq_true, if_false]
  rw [if_neg (fun hother => hother.2 hvendor)]
  rfl

theorem payment_settles_plain : Settles pointAction (pointRecords "5000") :=
  (payment_settles_iff pointAction (pointRecords "5000") (Or.inr rfl)
    (pointAction_valid "5000" (point_valid "5000" (by decide +kernel)))).mpr fun _ =>
      ⟨pointInvoice "5000", pointInvoice_found "5000", 5000, by decide +kernel⟩

/-- An invoice of `5000.0` passes validation, and its payment is refused. -/
theorem pointed_amount_refused :
    ¬ ∀ (action : ActionIntent) (accounts : AccountsSimulator),
      action.tool_name = "prepare_payment" ∨ action.tool_name = "execute_payment" →
        validateCompanyAction action (some accounts) = .ok passed → Settles action accounts := by
  intro h
  have hvalid := pointAction_valid "5000.0" (point_valid "5000.0" (by decide +kernel))
  have hsettles := h pointAction (pointRecords "5000.0") (Or.inr rfl) hvalid
  obtain ⟨invoice, id, n, code, hvalidated⟩ := validated_of_passed (Or.inr rfl) hvalid
  have hplain := (hvalidated.settles_execute_iff rfl).mp hsettles
  have hinvoice : pointInvoice "5000.0" = invoice :=
    Option.some.inj ((pointInvoice_found "5000.0").symm.trans hvalidated.invoiceOf)
  have htext : pyStr ((pointInvoice "5000.0").get "amount_minor") = "5000.0" := by
    decide
  have hread : decimalOf "5000.0" = some (.finite false 50000 (-1)) := by
    decide +kernel
  rw [← htext, hinvoice, hplain] at hread
  have hdigits := of_decimalOf_toString hread
  simp at hdigits

end Accounts

end CBrain
