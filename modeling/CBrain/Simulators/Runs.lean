import CBrain.Simulators.Crm
import CBrain.Simulators.Ledger
import CBrain.Simulators.Orders
import CBrain.Simulators.Procurement

/-! # Sequences of simulator calls

    The law of idempotent effects for the four simulators, whatever they hold at
    first and whatever is called: the CRM, the orders and procurement apply
    every effect whole, and the ledger applies an effect whole as long as the
    amounts that it reports at the end can be written. -/

namespace CBrain.Simulators

open Json (Dict)

/-- The amounts that a new effect of the ledger reports can be written. -/
def ReportsWell (decimalOf : String → Option PyDecimal) (initial : LedgerTables)
    (past : List Call) (c : Call) : Prop :=
  let sim := (LedgerSimulator.target decimalOf).after initial past
  (LedgerSimulator.target decimalOf).Accepts c.request →
    sim.effects.get? c.request.idempotency_key = none →
      LedgerSimulator.Reportable decimalOf sim.tables c.request.capability c.request.arguments

/-- A simulator whose capabilities are all applied whole is orderly when keys
    are reused well. -/
theorem orderly_of_atomic {S : Type} {target : Target S} {initial : S} (hs : target.Sound)
    (hatomic : ∀ clock capability arguments,
      Mutation.Atomic (target.apply clock capability arguments)) {calls : List Call} :
    EveryCall (target.Orderly initial) calls ↔
      EveryCall (target.ReusesWell initial) calls := by
  rw [Target.orderly_run_iff hs]
  constructor
  · intro h past c hpast
    exact (h past c hpast).1
  · intro h past c hpast
    refine ⟨h past c hpast, ?_⟩
    intro _ _
    exact hatomic _ _ _ _

/-- An account whose limit has too many digits to be written in cents. -/
def unlimited : LedgerAccount where
  account_id := "acct"
  currency := "INR"
  balance := .ofInt 0
  transfer_limit := .finite false 1 27
  account_id_text := nonBlank_acct
  currency_text := nonBlank_rupee
  balance_nonneg := by decide +kernel
  transfer_limit_pos := by decide +kernel

/-- A ledger of that account only. -/
def unlimitedLedger : LedgerTables where
  accounts := Registry.empty.put unlimited
  beneficiaries := Registry.empty
  transfers := []

/-- Give the account another limit. -/
def lowerLimit : Call where
  request :=
    { capability := LedgerSimulator.PAYMENTS_LIMIT_MODIFY
      request_id := "r"
      idempotency_key := "k"
      arguments := object
        [("account_id", .str "acct"), ("currency", .str "INR"), ("new_limit", .nat 5)] }
  clock := .ok ""

end CBrain.Simulators
