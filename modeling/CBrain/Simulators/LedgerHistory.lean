import CBrain.Simulators.Ledger
import Mathlib.Algebra.BigOperators.Group.List.Basic

/-! # Balances over a run of the ledger

    What the accounts and the recorded transfers of a `LedgerSimulator` say of
    each other after any sequence of calls.  Balances are decimals, and a
    transfer takes its amount away in the default context, which keeps 28
    digits: an account is debited by what was recorded exactly when every
    difference fits. -/

namespace CBrain.Simulators

open Json (Dict)
open Mutation (exec write Reads)

namespace LedgerSimulator

/-! ## Section 1: What is recorded -/

/-- The amount of a recorded transfer. -/
def recordedAmount (transfer : Dict) : Option PyDecimal :=
  match transfer.get "amount" with
  | .str text => PyDecimal.ofFixed text
  | _ => none

/-- What the recorded transfers have moved from an account. -/
def movedFrom (account_id : String) (transfers : List Dict) : ℚ :=
  ((transfers.filter fun t => t.get "account_id" = .str account_id).map fun t =>
    ((recordedAmount t).bind PyDecimal.value?).getD 0).sum

/-- A balance is another less what was moved.  An infinite one stays. -/
def Debited (first now : PyDecimal) (moved : ℚ) : Prop :=
  match first.value? with
  | some x => now.value? = some (x - moved)
  | none => now = first

/-- A ledger when it is opened. -/
def opening (accounts : Registry String LedgerAccount LedgerAccount.account_id)
    (beneficiaries : Registry String Beneficiary Beneficiary.beneficiary_id) : LedgerTables :=
  ⟨accounts, beneficiaries, []⟩

variable (decimalOf : String → Option PyDecimal)

/-- The tables after some calls. -/
def tablesAfter (initial : LedgerTables) (calls : List Call) : LedgerTables :=
  ((target decimalOf).after initial calls).tables

/-- The transfer at a place in the record was made by one of the calls, and its
    amount was within the limit of its account then. -/
def RecordedWithin (initial : LedgerTables) (calls : List Call) (i : Nat) (transfer : Dict) :
    Prop :=
  ∃ past c amount account, past ++ [c] <+: calls ∧
    (tablesAfter decimalOf initial past).transfers.length = i ∧
    (tablesAfter decimalOf initial (past ++ [c])).transfers =
      (tablesAfter decimalOf initial past).transfers ++ [transfer] ∧
    recordedAmount transfer = some amount ∧
    transfer.get "account_id" = .str account.account_id ∧
    (tablesAfter decimalOf initial past).accounts.get? account.account_id = some account ∧
    account.transfer_limit.lt? amount = some false

/-- An account holds its first balance less the transfers from it. -/
def Conserved (initial tables : LedgerTables) : Prop :=
  ∀ account_id account, tables.accounts.get? account_id = some account →
    ∃ first, initial.accounts.get? account_id = some first ∧
      Debited first.balance account.balance (movedFrom account_id tables.transfers)

/-- What holds of a ledger after some calls. -/
structure Balanced (initial : LedgerTables) (calls : List Call) : Prop where
  conserved : Conserved initial (tablesAfter decimalOf initial calls)
  nonneg : ∀ account_id account,
    (tablesAfter decimalOf initial calls).accounts.get? account_id = some account →
      account.balance.lt? (PyDecimal.ofInt 0) = some false
  limited : ∀ i transfer, (tablesAfter decimalOf initial calls).transfers[i]? = some transfer →
    RecordedWithin decimalOf initial calls i transfer
  distinct : ((tablesAfter decimalOf initial calls).transfers.map fun t =>
    t.get "transfer_id").Nodup

/-- If the call makes a transfer, the difference of the balance and the amount
    has no more digits than the context keeps. -/
def SubtractsExactly (initial : LedgerTables) (past : List Call) (c : Call) : Prop :=
  (target decimalOf).Accepts c.request →
    ((target decimalOf).after initial past).effects.get? c.request.idempotency_key = none →
      c.request.capability = PAYMENTS_TRANSFER_INITIATE → ∀ t,
        (exec (transferChecked decimalOf c.request.arguments)
          (tablesAfter decimalOf initial past)).1 = .ok t →
          ∀ x y, t.account.balance.value? = some x → t.amount.value? = some y →
            PyDecimal.Exact (x - y)

/-! ## Section 2: What one call writes -/

section writes
variable {decimalOf} {capability : String} {arguments : Dict} {tables : LedgerTables}

/-- An amount of money is positive and in cents. -/
theorem positiveMoney_ok {value : Json} {path : String} {amount : PyDecimal}
    (h : positiveMoney decimalOf value path = .ok amount) :
    ∃ coeff, amount = .finite false coeff (-2) := by
  unfold positiveMoney positiveAmount at h
  cases hvalue : decimalAmount? decimalOf true value with
  | none =>
    rw [hvalue] at h
    cases h
  | some read =>
    rw [hvalue] at h
    simp only [require_bind_ok] at h
    obtain ⟨⟨hfinite, hpositive, -⟩, hcents⟩ := h
    rw [toCents_ok] at hcents
    cases read with
    | infinity neg => cases hfinite
    | nan => cases hfinite
    | finite neg c e =>
      have hneg : neg = false := by
        by_contra hneg
        have hlt : PyDecimal.value false 0 0 < PyDecimal.value neg c e :=
          of_decide_eq_true (Option.some.inj hpositive)
        rw [Bool.eq_true_of_not_eq_false hneg] at hlt
        have hle : PyDecimal.value true c e ≤ 0 := by
          unfold PyDecimal.value
          have : (0 : ℚ) < 10 ^ e := zpow_pos (by norm_num) e
          simp only [if_true]
          have : (0 : ℚ) ≤ c := Nat.cast_nonneg c
          nlinarith
        have hzero : PyDecimal.value false 0 0 = 0 := by simp [PyDecimal.value]
        rw [hzero] at hlt
        exact absurd hlt (not_lt.mpr hle)
      subst hneg
      unfold PyDecimal.quantize at hcents
      simp only at hcents
      split at hcents
      · exact ⟨_, (Option.some.inj hcents).symm⟩
      · cases hcents

/-- What a transfer has checked when it begins to write. -/
theorem transferChecked_spec {t : Transfer}
    (h : (exec (transferChecked decimalOf arguments) tables).1 = .ok t) :
    tables.accounts.get? t.account.account_id = some t.account ∧
      t.updated.account_id = t.account.account_id ∧
      t.account.transfer_limit.lt? t.amount = some false ∧
      t.account.balance.sub? t.amount = some t.updated.balance ∧
      ∃ coeff, t.amount = .finite false coeff (-2) := by
  have hbalance := (transferChecked_ok h).1
  unfold transferChecked at h
  simp only [Mutation.raising_bind_ok, (reads_requiredAccount _).bind_ok, Mutation.exec_read_bind,
    requiredAccount_ok, Mutation.exec_pure, Except.ok.injEq] at h
  obtain ⟨-, -, account_id, -, account, hfound, -, -, _, -, -, -, amount, hamount, _, hlimit, -, -,
    remaining, -, updated, hnew, rfl⟩ := h
  have hkey := Registry.key_of_get? hfound
  refine ⟨by rw [hkey]; exact hfound, (LedgerAccount.new_ok hnew).1, (require_ok.mp hlimit),
    hbalance, positiveMoney_ok hamount⟩

/-- A changed limit leaves the account its name and its balance. -/
theorem limitChange_spec {account updated : LedgerAccount}
    (h : (exec (limitChange decimalOf arguments) tables).1 = .ok (account, updated)) :
    tables.accounts.get? updated.account_id = some account ∧
      updated.balance = account.balance := by
  refine ⟨(limitChange_ok h).1, ?_⟩
  unfold limitChange at h
  simp only [Mutation.raising_bind_ok, (reads_requiredAccount _).bind_ok, requiredAccount_ok,
    Mutation.exec_pure, Except.ok.injEq, Prod.mk.injEq] at h
  obtain ⟨-, -, account_id, -, _, -, -, -, new_limit, -, _, hnew, rfl, rfl⟩ := h
  exact (LedgerAccount.new_ok hnew).2.1

/-- The record that a transfer adds. -/
def Transfer.record (t : Transfer) (place : Nat) : Dict :=
  transferRecord s!"transfer-{place + 1}" t.account.account_id t.beneficiary_id t.amount.text
    t.account.currency

/-- A transfer writes all or nothing of the account and the record, however it
    ends. -/
theorem transfer_writes :
    (exec (transfer decimalOf arguments) tables).2 =
      match (exec (transferChecked decimalOf arguments) tables).1 with
      | .ok t => { tables with
          accounts := tables.accounts.put t.updated
          transfers := tables.transfers ++ [t.record tables.transfers.length] }
      | .error _ => tables := by
  unfold transfer
  rw [reads_transferChecked.exec_bind]
  cases hchecked : (exec (transferChecked decimalOf arguments) tables).1 with
  | error e => rfl
  | ok t =>
    have hamount := (transferChecked_ok hchecked).2
    simp only [Mutation.exec_write_bind, Mutation.exec_read_bind, hamount, Mutation.exec_ok_bind]
    cases moneyText t.updated.balance with
    | ok text => rfl
    | error e => rfl

/-- What a capability writes: another account in the place of one with its
    balance, a transfer, or neither. -/
inductive Writes (decimalOf : String → Option PyDecimal) (capability : String) (arguments : Dict)
    (before : LedgerTables) : LedgerTables → Prop
  | kept {after : LedgerTables} (accounts : after.accounts = before.accounts)
      (transfers : after.transfers = before.transfers) : Writes decimalOf capability arguments before after
  | limit {after : LedgerTables} (account updated : LedgerAccount)
      (found : before.accounts.get? updated.account_id = some account)
      (balance : updated.balance = account.balance)
      (accounts : after.accounts = before.accounts.put updated)
      (transfers : after.transfers = before.transfers) : Writes decimalOf capability arguments before after
  | transfer {after : LedgerTables} (t : Transfer)
      (initiated : capability = PAYMENTS_TRANSFER_INITIATE)
      (checked : (exec (transferChecked decimalOf arguments) before).1 = .ok t)
      (accounts : after.accounts = before.accounts.put t.updated)
      (transfers : after.transfers = before.transfers ++ [t.record before.transfers.length]) :
      Writes decimalOf capability arguments before after

theorem Writes.same : Writes decimalOf capability arguments tables tables := .kept rfl rfl

theorem Writes.bind {α β : Type} {m : Mutation Exn LedgerTables α}
    {f : α → Mutation Exn LedgerTables β} (hm : Reads m)
    (hf : ∀ a, (exec m tables).1 = .ok a → Writes decimalOf capability arguments tables (exec (f a) tables).2) :
    Writes decimalOf capability arguments tables (exec (m >>= f) tables).2 :=
  hm.bind_final (P := fun after => Writes decimalOf capability arguments tables after) .same hf

theorem modifyLimit_writes :
    Writes decimalOf capability arguments tables (exec (modifyLimit decimalOf arguments) tables).2 := by
  refine Writes.bind reads_limitChange fun change hchange => ?_
  obtain ⟨account, updated⟩ := change
  obtain ⟨hfound, hbalance⟩ := limitChange_spec hchange
  -- Whatever becomes of the texts, the account is replaced.
  have hexec : (exec (do
      write fun tables => { tables with accounts := tables.accounts.put updated }
      let previous_limit ← Mutation.raising (moneyText account.transfer_limit)
      let new_limit ← Mutation.raising (moneyText updated.transfer_limit)
      pure (object
        [("account_id", .str account.account_id), ("currency", .str account.currency),
          ("previous_limit", .str previous_limit), ("new_limit", .str new_limit)])) tables).2 =
      { tables with accounts := tables.accounts.put updated } := by
    rw [Mutation.exec_write_bind]
    cases moneyText account.transfer_limit <;> cases moneyText updated.transfer_limit <;> rfl
  rw [hexec]
  exact .limit account updated hfound hbalance rfl rfl

theorem addBeneficiary_writes :
    Writes decimalOf capability arguments tables (exec (addBeneficiary arguments) tables).2 := by
  refine Writes.bind (Mutation.reads_raising _) fun _ _ => ?_
  refine Writes.bind (Mutation.reads_raising _) fun beneficiary_id _ => ?_
  refine Writes.bind (Mutation.reads_raising _) fun name _ => ?_
  refine Writes.bind (Mutation.reads_raising _) fun destination_account_ref _ => ?_
  refine Writes.bind (Mutation.reads_read _) fun existing _ => ?_
  refine Writes.bind (Mutation.reads_raising _) fun _ _ => ?_
  exact .kept rfl rfl

theorem apply_writes :
    Writes decimalOf capability arguments tables (exec (apply decimalOf arguments capability) tables).2 := by
  unfold apply
  split
  · rw [Mutation.exec_bind_pure, reads_balance tables]
    exact .same
  split
  · rw [Mutation.exec_bind_pure, reads_limit tables]
    exact .same
  split
  · rw [Mutation.exec_bind_pure]
    exact modifyLimit_writes
  split
  · rw [Mutation.exec_bind_pure]
    exact addBeneficiary_writes
  split
  · rename_i hinitiated
    rw [Mutation.exec_bind_pure, transfer_writes]
    cases hchecked : (exec (transferChecked decimalOf arguments) tables).1 with
    | error e => exact .same
    | ok t => exact .transfer t hinitiated hchecked rfl rfl
  · exact .same

end writes

/-! ## Section 3: What the record says -/

section records
variable {decimalOf} {arguments : Dict} {tables : LedgerTables}

@[simp] theorem record_account (t : Transfer) (place : Nat) :
    (t.record place).get "account_id" = .str t.account.account_id := by
  unfold Transfer.record transferRecord
  rw [object_get]
  rfl

theorem record_id (t : Transfer) (place : Nat) :
    (t.record place).get "transfer_id" = .str s!"transfer-{place + 1}" := by
  unfold Transfer.record transferRecord
  rw [object_get]
  rfl

/-- The amount is read back from the record. -/
theorem recordedAmount_record {t : Transfer} (place : Nat)
    (h : ∃ coeff, t.amount = .finite false coeff (-2)) :
    recordedAmount (t.record place) = some t.amount := by
  obtain ⟨coeff, hamount⟩ := h
  have hget : (t.record place).get "amount" = .str t.amount.text := by
    unfold Transfer.record transferRecord
    rw [object_get]
    rfl
  unfold recordedAmount
  rw [hget, hamount]
  exact PyDecimal.ofFixed_text (by omega : (2 : Nat) ≠ 0)

theorem movedFrom_append (account_id : String) (transfers : List Dict) {t : Transfer} {y : ℚ}
    (place : Nat) (hamount : ∃ coeff, t.amount = .finite false coeff (-2))
    (hy : t.amount.value? = some y) :
    movedFrom account_id (transfers ++ [t.record place]) =
      movedFrom account_id transfers + if account_id = t.account.account_id then y else 0 := by
  unfold movedFrom
  rw [List.filter_append, List.map_append, List.sum_append]
  congr 1
  by_cases hsame : account_id = t.account.account_id
  · rw [if_pos hsame, hsame, List.filter_cons_of_pos (by simp)]
    simp [recordedAmount_record place hamount, hy]
  · have hother : ¬ (t.record place).get "account_id" = .str account_id := by
      rw [record_account]
      intro heq
      exact hsame (Json.str.inj heq).symm
    rw [if_neg hsame, List.filter_cons_of_neg (by simpa using hother)]
    rfl

theorem transferId_injective : Function.Injective fun n : Nat => Json.str s!"transfer-{n + 1}" := by
  intro n m h
  have htext : "transfer-" ++ toString (n + 1) = "transfer-" ++ toString (m + 1) := Json.str.inj h
  have hchars := congrArg String.toList htext
  rw [String.toList_append, String.toList_append] at hchars
  have hdigits : Nat.toDigits 10 (n + 1) = Nat.toDigits 10 (m + 1) := by
    simpa using List.append_cancel_left hchars
  have hvalue := congrArg (fun ds => Nat.ofDigitChars 10 ds 0) hdigits
  simp only [Nat.ofDigitChars_ten_toDigits] at hvalue
  omega

end records

/-! ## Section 4: Runs -/

section runs
variable {decimalOf} {initial : LedgerTables} {past : List Call} {c : Call}

/-- **Step**: a call is refused or replayed and writes nothing, or it writes
    what its capability does. -/
theorem tablesAfter_append (past : List Call) (c : Call) :
    (¬ ((target decimalOf).Accepts c.request ∧
        ((target decimalOf).after initial past).effects.get? c.request.idempotency_key = none) ∧
      tablesAfter decimalOf initial (past ++ [c]) = tablesAfter decimalOf initial past) ∨
    ((target decimalOf).Accepts c.request ∧
      ((target decimalOf).after initial past).effects.get? c.request.idempotency_key = none ∧
      tablesAfter decimalOf initial (past ++ [c]) =
        (exec (apply decimalOf c.request.arguments c.request.capability)
          (tablesAfter decimalOf initial past)).2) := by
  unfold tablesAfter
  rw [Target.after_append]
  by_cases hnew : (target decimalOf).Accepts c.request ∧
      ((target decimalOf).after initial past).effects.get? c.request.idempotency_key = none
  · exact Or.inr ⟨hnew.1, hnew.2, Target.tables_applied sound hnew.1 hnew.2⟩
  · exact Or.inl ⟨hnew, Target.tables_kept sound hnew⟩

/-- The ids of the transfers are their places. -/
theorem ids_of_run (calls : List Call) (hinitial : initial.transfers = []) :
    ((tablesAfter decimalOf initial calls).transfers.map fun t => t.get "transfer_id") =
      (List.range (tablesAfter decimalOf initial calls).transfers.length).map fun i =>
        Json.str s!"transfer-{i + 1}" := by
  induction calls using List.reverseRecOn with
  | nil =>
    show (initial.transfers.map _) = (List.range initial.transfers.length).map _
    rw [hinitial]
    rfl
  | append_singleton past c ih =>
    rcases @tablesAfter_append decimalOf initial past c with
      ⟨-, hsame⟩ | ⟨-, -, hafter⟩
    · rw [hsame]
      exact ih
    · have hwrites : Writes decimalOf c.request.capability c.request.arguments _
          (tablesAfter decimalOf initial (past ++ [c])) := hafter ▸ apply_writes
      cases hwrites with
      | kept accounts transfers =>
        rw [transfers]
        exact ih
      | limit account updated found balance accounts transfers =>
        rw [transfers]
        exact ih
      | transfer t initiated checked accounts transfers =>
        rw [transfers, List.map_append, ih, List.length_append, List.length_singleton,
          List.range_succ, List.map_append, List.map_singleton, List.map_singleton, record_id]

/-- An exact difference is debited. -/
theorem Debited.sub {first now amount next : PyDecimal} {moved y : ℚ}
    (h : Debited first now moved) (hsub : now.sub? amount = some next)
    (hy : amount.value? = some y)
    (hexact : ∀ x, now.value? = some x → PyDecimal.Exact (x - y)) :
    Debited first next (moved + y) := by
  unfold Debited at h ⊢
  cases hfirst : first.value? with
  | some x =>
    simp only [hfirst] at h ⊢
    rw [(PyDecimal.sub_value_iff hsub h hy).mpr (hexact _ h)]
    congr 1
    ring
  | none =>
    simp only [hfirst] at h ⊢
    subst h
    cases amount with
    | finite neg c e =>
      cases now with
      | finite neg c e => cases hfirst
      | infinity neg => exact (Option.some.inj hsub).symm
      | nan => exact (Option.some.inj hsub).symm
    | infinity neg => cases hy
    | nan => cases hy

/-- What is debited on both sides of a difference was exact. -/
theorem Debited.exact {first now amount next : PyDecimal} {moved x y : ℚ}
    (h : Debited first now moved) (h' : Debited first next (moved + y))
    (hsub : now.sub? amount = some next) (hx : now.value? = some x) (hy : amount.value? = some y) :
    PyDecimal.Exact (x - y) := by
  apply (PyDecimal.sub_value_iff hsub hx hy).mp
  unfold Debited at h h'
  cases hfirst : first.value? with
  | some start =>
    simp only [hfirst] at h h'
    obtain rfl := Option.some.inj (hx.symm.trans h)
    rw [h']
    congr 1
    ring
  | none =>
    simp only [hfirst] at h
    rw [h, hfirst] at hx
    cases hx

/-- **Step**: what a capability writes is conserved if its difference is
    exact. -/
theorem Writes.conserved {capability : String} {arguments : Dict} {before after : LedgerTables}
    (h : Writes decimalOf capability arguments before after) (hbefore : Conserved initial before)
    (hexact : capability = PAYMENTS_TRANSFER_INITIATE → ∀ t,
      (exec (transferChecked decimalOf arguments) before).1 = .ok t →
        ∀ x y, t.account.balance.value? = some x → t.amount.value? = some y →
          PyDecimal.Exact (x - y)) : Conserved initial after := by
  intro account_id account hfound
  cases h with
  | kept accounts transfers =>
    rw [accounts] at hfound
    rw [transfers]
    exact hbefore account_id account hfound
  | limit replaced updated found balance accounts transfers =>
    rw [accounts, Registry.get?_put] at hfound
    rw [transfers]
    by_cases hsame : account_id = updated.account_id
    · rw [if_pos hsame] at hfound
      obtain rfl := Option.some.inj hfound
      rw [hsame, balance]
      exact hbefore _ replaced found
    · rw [if_neg hsame] at hfound
      exact hbefore account_id account hfound
  | transfer t initiated checked accounts transfers =>
    obtain ⟨hsource, hid, -, hsub, hamount⟩ := transferChecked_spec checked
    obtain ⟨coeff, hcents⟩ := hamount
    obtain ⟨y, hy⟩ : ∃ y, t.amount.value? = some y := ⟨_, by rw [hcents]; rfl⟩
    rw [accounts, Registry.get?_put, hid] at hfound
    rw [transfers, movedFrom_append account_id _ _ ⟨coeff, hcents⟩ hy]
    by_cases hsame : account_id = t.account.account_id
    · rw [if_pos hsame] at hfound ⊢
      obtain rfl := Option.some.inj hfound
      obtain ⟨first, hfirst, hdebited⟩ := hbefore account_id t.account (hsame ▸ hsource)
      refine ⟨first, hfirst, hdebited.sub hsub hy ?_⟩
      intro x hx
      exact hexact initiated t checked x y hx hy
    · rw [if_neg hsame] at hfound ⊢
      rw [add_zero]
      exact hbefore account_id account hfound

/-- **Step**: a new transfer was within the limit, and the earlier ones are as
    they were. -/
theorem limited_append
    (hbefore : ∀ i transfer, (tablesAfter decimalOf initial past).transfers[i]? = some transfer →
      RecordedWithin decimalOf initial past i transfer) :
    ∀ i transfer, (tablesAfter decimalOf initial (past ++ [c])).transfers[i]? = some transfer →
      RecordedWithin decimalOf initial (past ++ [c]) i transfer := by
  intro i transfer hplace
  have hearlier : (tablesAfter decimalOf initial past).transfers[i]? = some transfer →
      RecordedWithin decimalOf initial (past ++ [c]) i transfer := by
    intro h
    obtain ⟨before, d, amount, account, hextends, hrest⟩ := hbefore i transfer h
    exact ⟨before, d, amount, account, hextends.trans (List.prefix_append past [c]), hrest⟩
  rcases @tablesAfter_append decimalOf initial past c with
    ⟨-, hsame⟩ | ⟨-, -, hafter⟩
  · rw [hsame] at hplace
    exact hearlier hplace
  · have hwrites : Writes decimalOf c.request.capability c.request.arguments _
        (tablesAfter decimalOf initial (past ++ [c])) := hafter ▸ apply_writes
    cases hwrites with
    | kept accounts transfers =>
      rw [transfers] at hplace
      exact hearlier hplace
    | limit account updated found balance accounts transfers =>
      rw [transfers] at hplace
      exact hearlier hplace
    | transfer t initiated checked accounts transfers =>
      rw [transfers] at hplace
      by_cases hold : i < (tablesAfter decimalOf initial past).transfers.length
      · rw [List.getElem?_append_left hold] at hplace
        exact hearlier hplace
      · rw [List.getElem?_append_right (not_lt.mp hold), List.getElem?_singleton] at hplace
        obtain ⟨hsource, -, hlimit, -, hamount⟩ := transferChecked_spec checked
        by_cases hlast : i - (tablesAfter decimalOf initial past).transfers.length = 0
        · rw [if_pos hlast] at hplace
          obtain rfl := Option.some.inj hplace
          exact ⟨past, c, t.amount, t.account, List.prefix_refl _, by omega, transfers,
            recordedAmount_record _ hamount, record_account t _, hsource, hlimit⟩
        · rw [if_neg hlast] at hplace
          cases hplace

/-- The opening conserves what it opens with. -/
theorem conserved_opening (hinitial : initial.transfers = []) : Conserved initial initial := by
  intro account_id account hfound
  refine ⟨account, hfound, ?_⟩
  rw [hinitial]
  unfold Debited
  cases hvalue : account.balance.value? with
  | none => rfl
  | some x => simp [movedFrom]

/-- **Run**: a run whose differences are exact conserves. -/
theorem conserved_of_run (hinitial : initial.transfers = []) (calls : List Call)
    (hexact : EveryCall (SubtractsExactly decimalOf initial) calls) :
    Conserved initial (tablesAfter decimalOf initial calls) := by
  induction calls using List.reverseRecOn with
  | nil => exact conserved_opening hinitial
  | append_singleton past c ih =>
    have hpast : Conserved initial (tablesAfter decimalOf initial past) :=
      ih fun before d h => hexact before d (h.trans (List.prefix_append past [c]))
    rcases @tablesAfter_append decimalOf initial past c with
      ⟨-, hsame⟩ | ⟨haccepts, hfresh, hafter⟩
    · rw [hsame]
      exact hpast
    · have hwrites : Writes decimalOf c.request.capability c.request.arguments _
          (tablesAfter decimalOf initial (past ++ [c])) := hafter ▸ apply_writes
      exact hwrites.conserved hpast (hexact past c (List.prefix_refl _) haccepts hfresh)

/-- **Run**: every transfer was within the limit of its time. -/
theorem limited_of_run (hinitial : initial.transfers = []) (calls : List Call) :
    ∀ i transfer, (tablesAfter decimalOf initial calls).transfers[i]? = some transfer →
      RecordedWithin decimalOf initial calls i transfer := by
  induction calls using List.reverseRecOn with
  | nil =>
    intro i transfer h
    have hnone : initial.transfers[i]? = some transfer := h
    rw [hinitial] at hnone
    cases hnone
  | append_singleton past c ih => exact limited_append ih

/-- **Step**: if an account conserves before and after a transfer, its
    difference was exact. -/
theorem subtractsExactly_of_conserved
    (hbefore : Conserved initial (tablesAfter decimalOf initial past))
    (hafter : Conserved initial (tablesAfter decimalOf initial (past ++ [c]))) :
    SubtractsExactly decimalOf initial past c := by
  intro haccepts hfresh hinitiated t hchecked x y hx hy
  obtain ⟨hsource, hid, -, hsub, hamount⟩ := transferChecked_spec hchecked
  have htables : tablesAfter decimalOf initial (past ++ [c]) =
      { tablesAfter decimalOf initial past with
        accounts := (tablesAfter decimalOf initial past).accounts.put t.updated
        transfers := (tablesAfter decimalOf initial past).transfers ++
          [t.record (tablesAfter decimalOf initial past).transfers.length] } := by
    rcases @tablesAfter_append decimalOf initial past c with
      ⟨hkept, -⟩ | ⟨-, -, hwritten⟩
    · exact absurd ⟨haccepts, hfresh⟩ hkept
    · rw [hwritten, hinitiated]
      unfold apply
      rw [if_neg (by decide), if_neg (by decide), if_neg (by decide), if_neg (by decide),
        if_pos rfl, Mutation.exec_bind_pure, transfer_writes, hchecked]
  obtain ⟨first, hfirst, hdebited⟩ := hbefore _ _ hsource
  obtain ⟨first', hfirst', hdebited'⟩ := hafter t.account.account_id t.updated (by
    rw [htables]
    show (Registry.put _ t.updated).get? _ = _
    rw [Registry.get?_put, if_pos hid.symm])
  obtain rfl := Option.some.inj (hfirst'.symm.trans hfirst)
  rw [htables] at hdebited'
  simp only [movedFrom_append _ _ _ hamount hy, if_true] at hdebited'
  exact hdebited.exact hdebited' hsub hx hy

/-- **Balances.**  From any accounts, and in every state that a sequence of
    calls reaches, each account holds its first balance less the transfers
    recorded from it, none is negative, each transfer was within the limit in
    force when it was made and no two have one id, if and only if every
    transfer's difference has no more digits than the context keeps. -/
theorem balanced_iff (decimalOf : String → Option PyDecimal)
    (accounts : Registry String LedgerAccount LedgerAccount.account_id)
    (beneficiaries : Registry String Beneficiary Beneficiary.beneficiary_id)
    (calls : List Call) :
    (∀ past, past <+: calls → Balanced decimalOf (opening accounts beneficiaries) past) ↔
      EveryCall (SubtractsExactly decimalOf (opening accounts beneficiaries)) calls := by
  constructor
  · intro h past c hextends
    exact subtractsExactly_of_conserved
      (h past ((List.prefix_append past [c]).trans hextends)).conserved
      (h (past ++ [c]) hextends).conserved
  · intro hexact past hextends
    refine ⟨conserved_of_run rfl past fun before c h => hexact before c (h.trans hextends),
      fun _ account _ => account.balance_nonneg, limited_of_run rfl past, ?_⟩
    rw [ids_of_run past rfl]
    exact List.nodup_range.map transferId_injective

end runs

/-! ## Section 5: A balance with a digit too many -/

/-- An account whose balance has 29 digits. -/
def precise : LedgerAccount where
  account_id := "acct"
  currency := "INR"
  balance := .finite false 12345678901234567890123456789 (-3)
  transfer_limit := .ofInt 5
  account_id_text := nonBlank_acct
  currency_text := nonBlank_rupee
  balance_nonneg := by decide +kernel
  transfer_limit_pos := by decide +kernel

/-- A beneficiary. -/
def vendor : Beneficiary := ⟨"vendor", "Vendor", "ref"⟩

/-- Transfer one rupee. -/
def transferOne : Call where
  request :=
    { capability := PAYMENTS_TRANSFER_INITIATE
      request_id := "r"
      idempotency_key := "k"
      arguments := object
        [("account_id", .str "acct"), ("beneficiary_id", .str "vendor"), ("amount", .nat 1),
          ("currency", .str "INR")] }
  clock := .ok ""

/-- The transfer of one rupee leaves a balance that was rounded. -/
theorem rounded_balance :
    ¬ ∀ past, past <+: [transferOne] →
      Balanced (fun _ => none) (opening (Registry.empty.put precise) (Registry.empty.put vendor))
        past := by
  intro h
  have hexact := subtractsExactly_of_conserved (h [] (List.nil_prefix)).conserved
    (h [transferOne] (List.prefix_refl _)).conserved
  have haccepts : (target fun _ => none).Accepts transferOne.request :=
    ⟨by decide, by decide, by decide, by decide, by decide +kernel⟩
  have hchecked : (exec (transferChecked (fun _ => none) transferOne.request.arguments)
      (opening (Registry.empty.put precise) (Registry.empty.put vendor))).1.map
        (fun t => (t.account.balance, t.amount, t.updated.balance)) =
      .ok (precise.balance, .finite false 100 (-2),
        .finite false 1234567890123456789012345579 (-2)) := by
    decide +kernel
  obtain ⟨t, hrun, ht⟩ := map_ok.mp hchecked
  obtain ⟨hbalance, hamount, hupdated⟩ : t.account.balance = _ ∧ t.amount = _ ∧
      t.updated.balance = _ := by simpa using ht
  have hx : t.account.balance.value? =
      some (PyDecimal.value false 12345678901234567890123456789 (-3)) := by
    rw [hbalance]
    rfl
  have hy : t.amount.value? = some (PyDecimal.value false 100 (-2)) := by
    rw [hamount]
    rfl
  have hsub := (transferChecked_spec hrun).2.2.2.1
  have hvalue := (PyDecimal.sub_value_iff hsub hx hy).mpr
    (hexact haccepts rfl rfl t hrun _ _ hx hy)
  rw [hupdated] at hvalue
  have hrounded : PyDecimal.value false 1234567890123456789012345579 (-2) ≠
      PyDecimal.value false 12345678901234567890123456789 (-3) - PyDecimal.value false 100 (-2) := by
    decide +kernel
  exact hrounded (Option.some.inj hvalue)

end LedgerSimulator

end CBrain.Simulators
