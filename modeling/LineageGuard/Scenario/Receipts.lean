import LineageGuard.Library.Attempt
import LineageGuard.Library.Latest
import Mathlib.Data.String.Basic
import Mathlib.Tactic

/-
This file translates the receipts of the scenario operations and their resolution.
-/

namespace LineageGuard.Scenario

open Attempt Latest

section Metrics

/-- The runtime has its own numbers with a fraction. -/
inductive MetricValue (Real : Type)
  | int (value : ℤ)
  | float (value : Real)
  | str (value : String)
  deriving DecidableEq

variable {Real : Type}

abbrev Entries (Real : Type) := List (String × MetricValue Real)

/-- A later value of a key replaces the earlier one. -/
def insertEntry (key : String) (value : MetricValue Real) : Entries Real → Entries Real
  | [] => [(key, value)]
  | (other, found) :: rest =>
      if key < other then (key, value) :: (other, found) :: rest
      else if key = other then (key, value) :: rest
      else (other, found) :: insertEntry key value rest

def Ordered (entries : Entries Real) : Prop := entries.Pairwise fun first second => first.1 < second.1

theorem insertEntry_key {key other : String} {value found : MetricValue Real}
    {entries : Entries Real} (present : (other, found) ∈ insertEntry key value entries) :
    other = key ∨ (other, found) ∈ entries := by
  induction entries with
  | nil => exact Or.inl (Prod.mk.inj (List.mem_singleton.mp present)).1
  | cons entry rest ih =>
      rw [insertEntry] at present
      split_ifs at present with before same
      · exact (List.mem_cons.mp present).imp (fun here => (Prod.mk.inj here).1) id
      · exact (List.mem_cons.mp present).imp (fun here => (Prod.mk.inj here).1)
          (List.mem_cons_of_mem _)
      · rcases List.mem_cons.mp present with here | later
        · rw [here]
          exact Or.inr List.mem_cons_self
        · exact (ih later).imp id (List.mem_cons_of_mem _)

theorem insertEntry_ordered {key : String} {value : MetricValue Real} {entries : Entries Real}
    (ordered : Ordered entries) : Ordered (insertEntry key value entries) := by
  induction entries with
  | nil => exact List.pairwise_singleton _ _
  | cons entry rest ih =>
      obtain ⟨other, found⟩ := entry
      obtain ⟨first, others⟩ := List.pairwise_cons.mp ordered
      rw [insertEntry]
      split_ifs with before same
      · refine List.pairwise_cons.mpr ⟨fun entry present => ?_, ordered⟩
        rcases List.mem_cons.mp present with rfl | later
        · exact before
        · exact lt_trans before (first entry later)
      · subst same
        exact List.pairwise_cons.mpr ⟨first, others⟩
      · refine List.pairwise_cons.mpr ⟨fun entry present => ?_, ih others⟩
        have inserted : (entry.1, entry.2) ∈ insertEntry key value rest := present
        rcases insertEntry_key inserted with isKey | later
        · rw [isKey]
          exact lt_of_le_of_ne (not_lt.mp before) (Ne.symm same)
        · exact first entry later

/-- The metrics of a receipt are sorted, and every key has one value. -/
@[ext]
structure Metrics (Real : Type) where
  entries : Entries Real
  ordered : Ordered entries

instance [DecidableEq Real] : DecidableEq (Metrics Real) := fun first second =>
  decidable_of_iff (first.entries = second.entries)
    ⟨fun same => Metrics.ext same, fun same => same ▸ rfl⟩

namespace Metrics

def empty : Metrics Real := ⟨[], List.Pairwise.nil⟩

def insert (metrics : Metrics Real) (key : String) (value : MetricValue Real) : Metrics Real :=
  ⟨insertEntry key value metrics.entries, insertEntry_ordered metrics.ordered⟩

/-- The later metrics win. -/
def update (metrics : Metrics Real) (entries : Entries Real) : Metrics Real :=
  entries.foldl (fun found entry => found.insert entry.1 entry.2) metrics

def ofList (entries : Entries Real) : Metrics Real := empty.update entries

def get (metrics : Metrics Real) (key : String) : Option (MetricValue Real) :=
  metrics.entries.lookup key

/-- Every entry of these is an entry of the metrics. -/
def Binds (metrics : Metrics Real) (entries : Entries Real) : Prop :=
  ∀ entry ∈ entries, metrics.get entry.1 = some entry.2

instance [DecidableEq Real] (metrics : Metrics Real) (entries : Entries Real) :
    Decidable (metrics.Binds entries) := List.decidableBAll _ _

end Metrics

end Metrics

section Receipts

inductive ReceiptStatus
  | planned | reconciliationRequired | success | failure | skipped
  deriving DecidableEq

def ReceiptStatus.value : ReceiptStatus → String
  | .planned => "PLANNED"
  | .reconciliationRequired => "RECONCILIATION_REQUIRED"
  | .success => "SUCCESS"
  | .failure => "FAILURE"
  | .skipped => "SKIPPED"

def statuses : List ReceiptStatus :=
  [.planned, .reconciliationRequired, .success, .failure, .skipped]

structure OperationReceipt (Real : Type) where
  scenarioId : String
  operationKind : String
  entityUrn : Option String
  aspectName : Option String
  idempotencyKey : String
  status : ReceiptStatus
  detailCode : String
  recordedAt : String
  proposalHash : String
  ownershipNonce : String
  metrics : Metrics Real
  previousHash : String
  recordHash : String
  deriving DecidableEq

structure ExactOperationIdentity where
  scenarioId : String
  operationKind : String
  entityUrn : Option String
  aspectName : Option String
  idempotencyKey : String
  proposalHash : String

variable {Real : Type}

/-- The receipts of one operation share these fields. -/
structure OperationKey where
  operationKind : String
  entityUrn : Option String
  aspectName : Option String
  idempotencyKey : String
  deriving DecidableEq

def OperationReceipt.key (receipt : OperationReceipt Real) : OperationKey :=
  ⟨receipt.operationKind, receipt.entityUrn, receipt.aspectName, receipt.idempotencyKey⟩

def ExactOperationIdentity.key (identity : ExactOperationIdentity) : OperationKey :=
  ⟨identity.operationKind, identity.entityUrn, identity.aspectName, identity.idempotencyKey⟩

def ExactOperationIdentity.accepts (identity : ExactOperationIdentity)
    (receipt : OperationReceipt Real) : Bool :=
  receipt.scenarioId = identity.scenarioId && receipt.key = identity.key

/-- A resolved receipt comes with its index. -/
abbrev ResolvedOperationReceipt (Real : Type) := ℕ × OperationReceipt Real

/-- An older success never masks a newer failure of the same operation. -/
def resolveLatestExactOperation (receipts : List (OperationReceipt Real))
    (identity : ExactOperationIdentity) (expectedOutcomes : List (ReceiptStatus × String))
    (errorPrefix : String) : Except String (ResolvedOperationReceipt Real) := do
  let resolved ← present (latest identity.accepts receipts) (errorPrefix ++ "_MISSING")
  require (resolved.2.proposalHash = identity.proposalHash) (errorPrefix ++ "_PROPOSAL_MISMATCH")
  require ((resolved.2.status, resolved.2.detailCode) ∈ expectedOutcomes)
    (errorPrefix ++ "_NOT_CURRENT")
  return resolved

theorem resolveLatestExactOperation_ok {receipts : List (OperationReceipt Real)}
    {identity : ExactOperationIdentity} {expectedOutcomes : List (ReceiptStatus × String)}
    {errorPrefix : String} {resolved : ResolvedOperationReceipt Real} :
    resolveLatestExactOperation receipts identity expectedOutcomes errorPrefix = .ok resolved ↔
      latest identity.accepts receipts = some resolved ∧
        resolved.2.proposalHash = identity.proposalHash ∧
        (resolved.2.status, resolved.2.detailCode) ∈ expectedOutcomes := by
  simp only [resolveLatestExactOperation, bind_ok, present_ok, require_ok, exists_const, pure_ok]
  constructor
  · rintro ⟨found, isLatest, same, expected, rfl⟩
    exact ⟨isLatest, same, expected⟩
  · rintro ⟨isLatest, same, expected⟩
    exact ⟨resolved, isLatest, same, expected, rfl⟩

/-- These effects require live inspection before they are tried again. -/
def liveReconciliationKinds : List String := ["seed", "ingest-query", "reset"]

def openStatuses : List ReceiptStatus := [.planned, .failure, .reconciliationRequired]

def OperationReceipt.isOpen (receipt : OperationReceipt Real) : Bool :=
  liveReconciliationKinds.contains receipt.operationKind && openStatuses.contains receipt.status

/-- An operation keeps the place of its first receipt. -/
def recordLatest (latestReceipts : List (OperationReceipt Real)) (receipt : OperationReceipt Real) :
    List (OperationReceipt Real) :=
  if latestReceipts.any fun other => other.key = receipt.key then
    latestReceipts.map fun other => if other.key = receipt.key then receipt else other
  else latestReceipts ++ [receipt]

def latestByKey (scenarioId : String) (receipts : List (OperationReceipt Real)) :
    List (OperationReceipt Real) :=
  (receipts.filter fun receipt => receipt.scenarioId = scenarioId).foldl recordLatest []

def unresolved (scenarioId : String) (receipts : List (OperationReceipt Real)) :
    List (OperationReceipt Real) :=
  (latestByKey scenarioId receipts).filter OperationReceipt.isOpen

end Receipts

end LineageGuard.Scenario
