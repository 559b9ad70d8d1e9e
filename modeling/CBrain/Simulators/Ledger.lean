import CBrain.Simulators.Effects

/-! # The ledger simulator

    Models `LedgerSimulator` (`cbrain/simulators/ledger.py`).  The capabilities
    that move money write the account before they write the amounts of their
    result as text, so each is cut in its checks and the rest.

    `Decimal(text)` is a parameter: it is `none` where it raises
    `InvalidOperation`. -/

namespace CBrain.Simulators

open Json (Dict)
open Mutation (raising write read exec Reads Atomic)

/-! ## Section 1: Accounts -/

/-- `LedgerAccount`. -/
structure LedgerAccount where
  account_id : String
  currency : String
  balance : PyDecimal
  transfer_limit : PyDecimal
  account_id_text : nonBlank account_id = true
  currency_text : nonBlank currency = true
  balance_nonneg : balance.lt? (PyDecimal.ofInt 0) = some false
  transfer_limit_pos : (PyDecimal.ofInt 0).lt? transfer_limit = some true

theorem LedgerAccount.fields_injective : Function.Injective fun account : LedgerAccount =>
    (account.account_id, account.currency, account.balance, account.transfer_limit) := by
  rintro ⟨_, _, _, _, _, _, _, _⟩ ⟨_, _, _, _, _, _, _, _⟩ h
  cases h
  rfl

instance : DecidableEq LedgerAccount := LedgerAccount.fields_injective.decidableEq

/-- The account and the currency of the checked runs have names. -/
theorem nonBlank_acct : nonBlank "acct" = true := by decide

theorem nonBlank_rupee : nonBlank "INR" = true := by decide

/-- `LedgerAccount(...)`. -/
def LedgerAccount.new (account_id currency : String) (balance transfer_limit : PyDecimal) :
    Raises LedgerAccount := do
  let account_id_text ← ensure (nonBlank account_id = true)
    (contractError "account_id must be non-empty text")
  let currency_text ← ensure (nonBlank currency = true)
    (contractError "currency must be non-empty text")
  require (balance.lt? (PyDecimal.ofInt 0) ≠ none) invalidOperation
  let balance_nonneg ← ensure (balance.lt? (PyDecimal.ofInt 0) = some false)
    (contractError "account amounts are invalid")
  require ((PyDecimal.ofInt 0).lt? transfer_limit ≠ none) invalidOperation
  let transfer_limit_pos ← ensure ((PyDecimal.ofInt 0).lt? transfer_limit = some true)
    (contractError "account amounts are invalid")
  pure ⟨account_id, currency, balance, transfer_limit, account_id_text.down, currency_text.down,
    balance_nonneg.down, transfer_limit_pos.down⟩

theorem LedgerAccount.new_ok {account_id currency : String} {balance transfer_limit : PyDecimal}
    {account : LedgerAccount}
    (h : LedgerAccount.new account_id currency balance transfer_limit = .ok account) :
    account.account_id = account_id ∧ account.balance = balance ∧
      account.transfer_limit = transfer_limit := by
  unfold LedgerAccount.new at h
  simp only [bind_ok, pure_ok] at h
  obtain ⟨_, -, _, -, _, -, _, -, _, -, _, -, rfl⟩ := h
  exact ⟨rfl, rfl, rfl⟩

/-- `Beneficiary`. -/
structure Beneficiary where
  beneficiary_id : String
  name : String
  destination_account_ref : String
  deriving DecidableEq

/-- `Beneficiary.to_payload`. -/
def Beneficiary.payload (b : Beneficiary) : Dict :=
  object
    [("beneficiary_id", .str b.beneficiary_id), ("name", .str b.name),
      ("destination_account_ref", .str b.destination_account_ref)]

/-- The tables of a `LedgerSimulator`. -/
structure LedgerTables where
  accounts : Registry String LedgerAccount LedgerAccount.account_id
  beneficiaries : Registry String Beneficiary Beneficiary.beneficiary_id
  transfers : List Dict
  deriving DecidableEq

namespace LedgerSimulator

/-! ## Section 2: Capabilities -/

def PAYMENTS_BALANCE_READ : String := "payments.balance.read"
def PAYMENTS_LIMIT_READ : String := "payments.limit.read"
def PAYMENTS_LIMIT_MODIFY : String := "payments.limit.modify"
def PAYMENTS_BENEFICIARY_ADD : String := "payments.beneficiary.add"
def PAYMENTS_TRANSFER_INITIATE : String := "payments.transfer.initiate"

variable (decimalOf : String → Option PyDecimal) (arguments : Dict)

/-- `_positive_money`. -/
def positiveMoney (value : Json) (path : String) : Raises PyDecimal :=
  positiveAmount decimalOf true value path

/-- `_required_account`. -/
def requiredAccount (account_id : String) : Mutation Exn LedgerTables LedgerAccount := do
  let account ← read fun tables => tables.accounts.get? account_id
  match account with
  | none => raising (.error (notFound "account does not exist"))
  | some account => pure account

/-- `_account_from`. -/
def accountFrom : Mutation Exn LedgerTables LedgerAccount := do
  raising (exactFields arguments ["account_id"] "arguments")
  let account_id ← raising (requiredText (arguments.get "account_id") "arguments.account_id")
  requiredAccount account_id

/-- `_require_currency`. -/
def requireCurrency (account : LedgerAccount) (value : Json) : Raises Unit := do
  let currency ← requiredText value "arguments.currency"
  require (currency = account.currency) (businessError "currency does not match account")

/-- `_balance`. -/
def balance : Mutation Exn LedgerTables Dict := do
  let account ← accountFrom arguments
  let text ← raising (moneyText account.balance)
  pure (object
    [("account_id", .str account.account_id), ("currency", .str account.currency),
      ("balance", .str text)])

/-- `_limit`. -/
def limit : Mutation Exn LedgerTables Dict := do
  let account ← accountFrom arguments
  let text ← raising (moneyText account.transfer_limit)
  pure (object
    [("account_id", .str account.account_id), ("currency", .str account.currency),
      ("transfer_limit", .str text)])

/-- `_modify_limit` up to its write: the account, and the account that replaces
    it. -/
def limitChange : Mutation Exn LedgerTables (LedgerAccount × LedgerAccount) := do
  raising (exactFields arguments ["account_id", "currency", "new_limit"] "arguments")
  let account_id ← raising (requiredText (arguments.get "account_id") "arguments.account_id")
  let account ← requiredAccount account_id
  raising (requireCurrency account (arguments.get "currency"))
  let new_limit ← raising
    (positiveMoney decimalOf (arguments.get "new_limit") "arguments.new_limit")
  let updated ← raising
    (LedgerAccount.new account.account_id account.currency account.balance new_limit)
  pure (account, updated)

/-- `_modify_limit`. -/
def modifyLimit : Mutation Exn LedgerTables Dict := do
  let (account, updated) ← limitChange decimalOf arguments
  write fun tables => { tables with accounts := tables.accounts.put updated }
  let previous_limit ← raising (moneyText account.transfer_limit)
  let new_limit ← raising (moneyText updated.transfer_limit)
  pure (object
    [("account_id", .str account.account_id), ("currency", .str account.currency),
      ("previous_limit", .str previous_limit), ("new_limit", .str new_limit)])

/-- `_add_beneficiary`. -/
def addBeneficiary : Mutation Exn LedgerTables Dict := do
  raising (exactFields arguments ["beneficiary_id", "name", "destination_account_ref"] "arguments")
  let beneficiary_id ← raising
    (requiredText (arguments.get "beneficiary_id") "arguments.beneficiary_id")
  let name ← raising (requiredText (arguments.get "name") "arguments.name")
  let destination_account_ref ← raising
    (requiredText (arguments.get "destination_account_ref") "arguments.destination_account_ref")
  let beneficiary : Beneficiary := ⟨beneficiary_id, name, destination_account_ref⟩
  let existing ← read fun tables => tables.beneficiaries.get? beneficiary_id
  raising (require (existing = none) (conflict "beneficiary already exists"))
  write fun tables => { tables with beneficiaries := tables.beneficiaries.put beneficiary }
  pure (beneficiary.payload.set "status" (.str "ACTIVE") (Json.WF.str _))

/-- What `_transfer` has checked. -/
structure Transfer where
  account : LedgerAccount
  updated : LedgerAccount
  beneficiary_id : String
  amount : PyDecimal

/-- `_transfer` up to its first write. -/
def transferChecked : Mutation Exn LedgerTables Transfer := do
  raising (exactFields arguments ["account_id", "beneficiary_id", "amount", "currency"] "arguments")
  let account_id ← raising (requiredText (arguments.get "account_id") "arguments.account_id")
  let account ← requiredAccount account_id
  raising (requireCurrency account (arguments.get "currency"))
  let beneficiary_id ← raising
    (requiredText (arguments.get "beneficiary_id") "arguments.beneficiary_id")
  let beneficiary ← read fun tables => tables.beneficiaries.get? beneficiary_id
  raising (require (beneficiary ≠ none) (notFound "beneficiary does not exist"))
  let amount ← raising (positiveMoney decimalOf (arguments.get "amount") "arguments.amount")
  raising (require (account.transfer_limit.lt? amount = some false)
    (businessError "amount exceeds current transfer limit"))
  raising (require (account.balance.lt? amount = some false) (businessError "insufficient funds"))
  let remaining ← raising
    (match account.balance.sub? amount with
      | none => .error invalidOperation
      | some remaining => .ok remaining)
  let updated ← raising
    (LedgerAccount.new account.account_id account.currency remaining account.transfer_limit)
  pure ⟨account, updated, beneficiary_id, amount⟩

/-- The record of a transfer. -/
def transferRecord (transfer_id account_id beneficiary_id amount currency : String) : Dict :=
  object
    [("transfer_id", .str transfer_id), ("account_id", .str account_id),
      ("beneficiary_id", .str beneficiary_id), ("amount", .str amount), ("currency", .str currency),
      ("status", .str "SETTLED")]

/-- `_transfer`. -/
def transfer : Mutation Exn LedgerTables Dict := do
  let t ← transferChecked decimalOf arguments
  write fun tables => { tables with accounts := tables.accounts.put t.updated }
  let settled ← read fun tables => tables.transfers.length
  let amount ← raising (moneyText t.amount)
  let record := transferRecord s!"transfer-{settled + 1}" t.account.account_id t.beneficiary_id
    amount t.account.currency
  write fun tables => { tables with transfers := tables.transfers ++ [record] }
  let remaining ← raising (moneyText t.updated.balance)
  pure (record.set "remaining_balance" (.str remaining) (Json.WF.str _))

/-- `_apply`. -/
def apply (capability : String) : Mutation Exn LedgerTables (Dict × Bool) :=
  if capability = PAYMENTS_BALANCE_READ then do
    let result ← balance arguments
    pure (result, false)
  else if capability = PAYMENTS_LIMIT_READ then do
    let result ← limit arguments
    pure (result, false)
  else if capability = PAYMENTS_LIMIT_MODIFY then do
    let result ← modifyLimit decimalOf arguments
    pure (result, true)
  else if capability = PAYMENTS_BENEFICIARY_ADD then do
    let result ← addBeneficiary arguments
    pure (result, true)
  else if capability = PAYMENTS_TRANSFER_INITIATE then do
    let result ← transfer decimalOf arguments
    pure (result, true)
  else raising (.error (contractError "unknown payment capability"))

/-- `LedgerSimulator`. -/
def target : Target LedgerTables where
  domain := "payments"
  capabilities :=
    [PAYMENTS_BALANCE_READ, PAYMENTS_LIMIT_READ, PAYMENTS_LIMIT_MODIFY, PAYMENTS_BENEFICIARY_ADD,
      PAYMENTS_TRANSFER_INITIATE]
  unknown := contractError "unknown payment capability"
  apply _ capability arguments := apply decimalOf arguments capability

/-! ## Section 3: Checks come first -/

section checks
variable {decimalOf : String → Option PyDecimal} {arguments : Dict} {tables : LedgerTables}

theorem reads_requiredAccount (account_id : String) : Reads (requiredAccount account_id) := by
  apply (Mutation.reads_read _).bind
  intro account
  cases account with
  | none => exact Mutation.reads_raising _
  | some account => exact Mutation.reads_pure _

theorem reads_accountFrom : Reads (accountFrom arguments) := by
  apply (Mutation.reads_raising _).bind
  intro _
  apply (Mutation.reads_raising _).bind
  intro account_id
  exact reads_requiredAccount account_id

theorem reads_balance : Reads (balance arguments) := by
  apply reads_accountFrom.bind
  intro account
  apply (Mutation.reads_raising _).bind
  intro text
  exact Mutation.reads_pure _

theorem reads_limit : Reads (limit arguments) := by
  apply reads_accountFrom.bind
  intro account
  apply (Mutation.reads_raising _).bind
  intro text
  exact Mutation.reads_pure _

theorem reads_limitChange : Reads (limitChange decimalOf arguments) := by
  apply (Mutation.reads_raising _).bind
  intro _
  apply (Mutation.reads_raising _).bind
  intro account_id
  apply (reads_requiredAccount account_id).bind
  intro account
  apply (Mutation.reads_raising _).bind
  intro _
  apply (Mutation.reads_raising _).bind
  intro new_limit
  apply (Mutation.reads_raising _).bind
  intro updated
  exact Mutation.reads_pure _

theorem reads_transferChecked : Reads (transferChecked decimalOf arguments) := by
  apply (Mutation.reads_raising _).bind
  intro _
  apply (Mutation.reads_raising _).bind
  intro account_id
  apply (reads_requiredAccount account_id).bind
  intro account
  apply (Mutation.reads_raising _).bind
  intro _
  apply (Mutation.reads_raising _).bind
  intro beneficiary_id
  apply (Mutation.reads_read _).bind
  intro beneficiary
  apply (Mutation.reads_raising _).bind
  intro _
  apply (Mutation.reads_raising _).bind
  intro amount
  apply (Mutation.reads_raising _).bind
  intro _
  apply (Mutation.reads_raising _).bind
  intro _
  apply (Mutation.reads_raising _).bind
  intro remaining
  apply (Mutation.reads_raising _).bind
  intro updated
  exact Mutation.reads_pure _

theorem requiredAccount_ok {account_id : String} {account : LedgerAccount} :
    (exec (requiredAccount account_id) tables).1 = .ok account ↔
      tables.accounts.get? account_id = some account := by
  unfold requiredAccount
  rw [Mutation.exec_read_bind]
  cases tables.accounts.get? account_id with
  | none => simp
  | some found => simp

/-- A limit that is about to be replaced is the account's, and the new one can
    be written as text. -/
theorem limitChange_ok {account updated : LedgerAccount}
    (h : (exec (limitChange decimalOf arguments) tables).1 = .ok (account, updated)) :
    tables.accounts.get? updated.account_id = some account ∧
      moneyText updated.transfer_limit = .ok updated.transfer_limit.text := by
  unfold limitChange at h
  simp only [Mutation.raising_bind_ok, (reads_requiredAccount _).bind_ok, requiredAccount_ok,
    Mutation.exec_pure, Except.ok.injEq, Prod.mk.injEq] at h
  obtain ⟨-, -, account_id, -, _, hfound, -, -, new_limit, hlimit, _, hnew, rfl, rfl⟩ := h
  obtain ⟨hid, -, htransfer⟩ := LedgerAccount.new_ok hnew
  have hkey := Registry.key_of_get? hfound
  rw [hid, htransfer, hkey]
  exact ⟨hfound, moneyText_cents (toCents_positiveAmount hlimit)⟩

/-- An amount that is about to be transferred can be written as text. -/
theorem transferChecked_ok {t : Transfer}
    (h : (exec (transferChecked decimalOf arguments) tables).1 = .ok t) :
    t.account.balance.sub? t.amount = some t.updated.balance ∧
      moneyText t.amount = .ok t.amount.text := by
  unfold transferChecked at h
  simp only [Mutation.raising_bind_ok, (reads_requiredAccount _).bind_ok, Mutation.exec_read_bind,
    Mutation.exec_pure, Except.ok.injEq] at h
  obtain ⟨-, -, account_id, -, account, -, -, -, _, -, -, -, amount, hamount, -, -, -, -, remaining,
    hremaining, updated, hnew, rfl⟩ := h
  obtain ⟨-, hbalance, -⟩ := LedgerAccount.new_ok hnew
  constructor
  · show account.balance.sub? amount = some updated.balance
    cases hsub : account.balance.sub? amount with
    | none =>
      rw [hsub] at hremaining
      cases hremaining
    | some difference =>
      rw [hsub] at hremaining
      rw [hbalance, Except.ok.inj hremaining]
  · exact moneyText_cents (toCents_positiveAmount hamount)

end checks

/-! ## Section 4: When a failure leaves the tables -/

/-- The amount can be written as text. -/
def Writable (amount : PyDecimal) : Prop := ∃ text, moneyText amount = .ok text

/-- The amounts that a new effect writes as text after it has written the
    tables: the limit that is replaced, and the balance that remains. -/
structure Reportable (decimalOf : String → Option PyDecimal) (tables : LedgerTables)
    (capability : String) (arguments : Dict) : Prop where
  limit : capability = PAYMENTS_LIMIT_MODIFY → ∀ account updated,
    (exec (limitChange decimalOf arguments) tables).1 = .ok (account, updated) →
      Writable account.transfer_limit
  balance : capability = PAYMENTS_TRANSFER_INITIATE → ∀ t remaining,
    (exec (transferChecked decimalOf arguments) tables).1 = .ok t →
      t.account.balance.sub? t.amount = some remaining → Writable remaining

section atomicity
variable {decimalOf : String → Option PyDecimal} {arguments : Dict} {tables : LedgerTables}

/-- A limit is changed whole exactly when the limit that it replaces can be
    written. -/
theorem modifyLimit_atomicAt :
    Mutation.AtomicAt (modifyLimit decimalOf arguments) tables ↔
      ∀ account updated, (exec (limitChange decimalOf arguments) tables).1 =
        .ok (account, updated) → Writable account.transfer_limit := by
  unfold modifyLimit
  rw [reads_limitChange.bind_atomicAt]
  constructor
  · intro h account updated hchange
    have hwhole := h (account, updated) hchange
    obtain ⟨hfound, hnew⟩ := limitChange_ok hchange
    cases hprevious : moneyText account.transfer_limit with
    | ok text => exact ⟨text, hprevious⟩
    | error e =>
      -- The account was replaced before the text failed: nothing was kept only
      -- if it was replaced by itself, and then its limit can be written.
      simp only [Mutation.AtomicAt, Mutation.exec_write_bind, hprevious,
        Mutation.exec_error_bind] at hwhole
      have hsame := congrArg (fun t : LedgerTables => t.accounts.get? updated.account_id)
        (hwhole e rfl)
      have hself : (tables.accounts.put updated).get? updated.account_id = some updated := by
        rw [Registry.get?_put, if_pos rfl]
      have heq : updated = account := by
        have h' : some updated = some account := hself.symm.trans (hsame.trans hfound)
        exact Option.some.inj h'
      rw [heq, hprevious] at hnew
      cases hnew
  · intro h change hchange
    obtain ⟨account, updated⟩ := change
    obtain ⟨-, hnew⟩ := limitChange_ok hchange
    obtain ⟨text, hprevious⟩ := h account updated hchange
    intro e he
    simp only [Mutation.exec_write_bind, hprevious, hnew] at he
    cases he

/-- Money is transferred whole exactly when the balance that remains can be
    written. -/
theorem transfer_atomicAt :
    Mutation.AtomicAt (transfer decimalOf arguments) tables ↔
      ∀ t remaining, (exec (transferChecked decimalOf arguments) tables).1 = .ok t →
        t.account.balance.sub? t.amount = some remaining → Writable remaining := by
  unfold transfer
  rw [reads_transferChecked.bind_atomicAt]
  constructor
  · intro h t remaining hchecked hremaining
    have hwhole := h t hchecked
    obtain ⟨hbalance, hamount⟩ := transferChecked_ok hchecked
    obtain rfl := Option.some.inj (hremaining.symm.trans hbalance)
    cases htext : moneyText t.updated.balance with
    | ok text => exact ⟨text, htext⟩
    | error e =>
      -- The transfer was recorded before the text failed.
      simp only [Mutation.AtomicAt, Mutation.exec_write_bind, Mutation.exec_read_bind, hamount,
        Mutation.exec_ok_bind, htext, Mutation.exec_error_bind] at hwhole
      have hsame := congrArg (fun t : LedgerTables => t.transfers.length) (hwhole e rfl)
      simp only [List.length_append, List.length_singleton] at hsame
      omega
  · intro h t hchecked
    obtain ⟨hbalance, hamount⟩ := transferChecked_ok hchecked
    obtain ⟨text, htext⟩ := h t _ hchecked hbalance
    intro e he
    simp only [Mutation.exec_write_bind, Mutation.exec_read_bind, hamount, htext] at he
    cases he

theorem addBeneficiary_atomic : Atomic (addBeneficiary arguments) := by
  apply (Mutation.reads_raising _).bind_atomic
  intro _
  apply (Mutation.reads_raising _).bind_atomic
  intro beneficiary_id
  apply (Mutation.reads_raising _).bind_atomic
  intro name
  apply (Mutation.reads_raising _).bind_atomic
  intro destination_account_ref
  apply (Mutation.reads_read _).bind_atomic
  intro existing
  apply (Mutation.reads_raising _).bind_atomic
  intro _ tables e he
  cases he

/-- A capability is applied whole exactly when what it reports can be written. -/
theorem apply_atomicAt {capability : String} :
    Mutation.AtomicAt (apply decimalOf arguments capability) tables ↔
      Reportable decimalOf tables capability arguments := by
  by_cases hmodify : capability = PAYMENTS_LIMIT_MODIFY
  · have happly : apply decimalOf arguments capability =
        modifyLimit decimalOf arguments >>= fun result => pure (result, true) := by
      unfold apply
      rw [hmodify, if_neg (by decide), if_neg (by decide), if_pos rfl]
    have hother : capability ≠ PAYMENTS_TRANSFER_INITIATE := by
      rw [hmodify]
      decide
    rw [happly, Mutation.atomicAt_bind_pure, modifyLimit_atomicAt]
    exact ⟨fun h => ⟨fun _ => h, fun heq => absurd heq hother⟩, fun h => h.limit hmodify⟩
  · by_cases htransfer : capability = PAYMENTS_TRANSFER_INITIATE
    · have happly : apply decimalOf arguments capability =
          transfer decimalOf arguments >>= fun result => pure (result, true) := by
        unfold apply
        rw [htransfer, if_neg (by decide), if_neg (by decide), if_neg (by decide),
          if_neg (by decide), if_pos rfl]
      rw [happly, Mutation.atomicAt_bind_pure, transfer_atomicAt]
      exact ⟨fun h => ⟨fun heq => absurd heq hmodify, fun _ => h⟩, fun h => h.balance htransfer⟩
    · -- The other capabilities fail before they write.
      have hwhole : Mutation.AtomicAt (apply decimalOf arguments capability) tables := by
        unfold apply
        rw [if_neg hmodify, if_neg htransfer]
        split
        · exact Mutation.atomicAt_bind_pure.mpr (reads_balance.atomic tables)
        split
        · exact Mutation.atomicAt_bind_pure.mpr (reads_limit.atomic tables)
        split
        · exact Mutation.atomicAt_bind_pure.mpr (addBeneficiary_atomic tables)
        · exact (Mutation.reads_raising _).atomic tables
      exact ⟨fun _ => ⟨fun heq => absurd heq hmodify, fun heq => absurd heq htransfer⟩,
        fun _ => hwhole⟩

end atomicity

/-! ## Section 5: Results -/

section results
variable {decimalOf : String → Option PyDecimal} {arguments : Dict}

theorem finite_balance : FiniteResult (balance arguments) := by
  apply Mutation.yields_bind
  intro account
  apply Mutation.yields_bind
  intro text
  apply Mutation.yields_pure
  apply finite_object
  simp

theorem finite_limit : FiniteResult (limit arguments) := by
  apply Mutation.yields_bind
  intro account
  apply Mutation.yields_bind
  intro text
  apply Mutation.yields_pure
  apply finite_object
  simp

theorem finite_modifyLimit : FiniteResult (modifyLimit decimalOf arguments) := by
  apply Mutation.yields_bind
  intro change
  apply Mutation.yields_bind
  intro _
  apply Mutation.yields_bind
  intro previous_limit
  apply Mutation.yields_bind
  intro new_limit
  apply Mutation.yields_pure
  apply finite_object
  simp

theorem finite_addBeneficiary : FiniteResult (addBeneficiary arguments) := by
  iterate 4
    apply Mutation.yields_bind
    intro _
  apply Mutation.yields_bind
  intro existing
  iterate 2
    apply Mutation.yields_bind
    intro _
  apply Mutation.yields_pure
  apply Json.Dict.finite_set
  · apply finite_object
    simp
  · rfl

theorem finite_transfer : FiniteResult (transfer decimalOf arguments) := by
  apply Mutation.yields_bind
  intro t
  apply Mutation.yields_bind
  intro _
  apply Mutation.yields_bind
  intro settled
  apply Mutation.yields_bind
  intro amount
  apply Mutation.yields_bind
  intro _
  apply Mutation.yields_bind
  intro remaining
  apply Mutation.yields_pure
  apply Json.Dict.finite_set
  · apply finite_object
    simp
  · rfl

theorem finite_apply {capability : String} :
    Mutation.Yields (fun answer => Json.finite answer.1.json = true)
      (apply decimalOf arguments capability) := by
  unfold apply
  split
  · exact FiniteResult.answer false finite_balance
  split
  · exact FiniteResult.answer false finite_limit
  split
  · exact FiniteResult.answer true finite_modifyLimit
  split
  · exact FiniteResult.answer true finite_addBeneficiary
  split
  · exact FiniteResult.answer true finite_transfer
  · exact Mutation.yields_raising fun _ h => nomatch h

theorem sound : (target decimalOf).Sound where
  domain := show nonBlank "payments" = true by decide
  unknown := rfl
  finite h := finite_apply _ _ h

end results

end LedgerSimulator

end CBrain.Simulators
