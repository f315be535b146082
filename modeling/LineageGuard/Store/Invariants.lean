import LineageGuard.Db.EffectRules
import LineageGuard.Store.Streams
import Mathlib.Tactic

/-
This file gives the invariants that every operation of the store keeps.
-/

namespace LineageGuard

open Relational Attempt

/-- A run row shows the state that the replay of its events reaches. -/
structure Shows (run : RunRow) (state : StreamState) : Prop where
  status : run.status = state.currentStatus
  generation : run.leaseGeneration = state.highestLeaseGeneration
  lease : run.lease = state.activeLease.map fun lease =>
    ⟨lease.id, lease.workerId, lease.expiresAt.instant⟩
  current : ∀ lease ∈ state.activeLease, lease.generation = run.leaseGeneration ∧
    lease.expiresAt = toISOString (toDate lease.expiresAt.instant)

/-- The run rows and the event rows tell the same history. -/
structure History (db : Db) : Prop where
  streams : ∀ runId, Stored runId (db.events runId)
  shown : ∀ run ∈ db.runs, Shows run (replay run.id (db.events run.id))
  canonical : ∀ row ∈ db.runEvents, row.Canonical
  past : ∀ row ∈ db.runEvents, row.createdAt ≤ db.clock
  known : ∀ row ∈ db.runEvents, db.run? row.runId ≠ none

/-- A run that has reached its validation never returns to it. -/
def pastValidation : List RunStatus :=
  [.validated, .reviewArtifactCreated, .writebackPending, .completed, .failedGithub,
    .failedWriteback, .cancelled]

/-- An intent binds the latest validation receipt of its live run. -/
structure Binds (db : Db) (intent : IntentRow) (run : RunRow) (validation : ValidationReceiptRow) :
    Prop where
  found : db.run? intent.runId = some run
  mode : run.executionMode = .live
  settled : run.status ∈ pastValidation
  latest : db.latestValidation? intent.runId = some validation
  receiptId : intent.validationReceiptId = validation.id
  candidate : intent.candidateFingerprint = validation.payload.protectedHeaders.candidateFingerprint
  artifacts : intent.artifactSetFingerprint = validation.payload.payload.artifactSetFingerprint

/-- A reservation repeats its intent and its approval. -/
structure Authorized (db : Db) (row : ReservationRow) (intent : IntentRow)
    (approval : ApprovalRow) : Prop where
  found : db.intent? row.intentId = some intent
  intends : Intends intent row
  receiptId : intent.validationReceiptId = row.validationReceiptId
  approved : approval ∈ db.approvals
  permits : Permits approval row
  allowed : row.runStatus = effectState row.kind

/-- A receipt repeats its intent. -/
structure Receipts (db : Db) (row : ReceiptRow) (intent : IntentRow) : Prop where
  found : db.intent? row.intentId = some intent
  binding : row.payload.binding = some (intentBinding intent)
  columns : receiptColumns row =
    (intent.validationReceiptId, intent.candidateFingerprint, intent.artifactSetFingerprint)

/-- The rows of the effects bind one another. -/
structure Bindings (db : Db) : Prop where
  intents : ∀ intent ∈ db.intents, ∃ run validation, Binds db intent run validation
  targets : ∀ intent ∈ db.intents, 1 ≤ utf16Length intent.target ∧ utf16Length intent.target ≤ 500
  approvals : ∀ approval ∈ db.approvals, ∃ run,
    db.run? approval.runId = some run ∧ run.executionMode = .live
  reservations : ∀ row ∈ db.reservations, ∃ intent approval, Authorized db row intent approval
  receipts : ∀ row ∈ db.receipts, ∃ intent, Receipts db row intent

/-- The consumption of a reservation has created the attempt. -/
structure Invokes (reservation : ReservationRow) (attempt : AttemptRow) (consumedAt : ℕ) : Prop where
  id : reservation.id = attempt.reservationId
  intentId : reservation.intentId = attempt.intentId
  state : reservation.state = .consumed attempt.id attempt.fencingToken consumedAt
  workerId : reservation.workerId = attempt.workerId
  invokeBy : attempt.claimExpiresAt = reservation.invokeBy
  consumed : consumedAt ≤ attempt.claimedAt

/-- A proof fixes the state of its attempt. -/
def provedState : ProofOutcome → EffectAttemptState
  | .applied => .succeeded
  | .notApplied => .reconciliationRequired

/-- The attempts, the receipts and the proofs agree on the outcome of each effect. -/
structure Outcomes (db : Db) : Prop where
  invoked : ∀ attempt ∈ db.attempts, ∃ reservation ∈ db.reservations, ∃ consumedAt,
    Invokes reservation attempt consumedAt
  attempted : ∀ reservation ∈ db.reservations, ∀ id ∈ reservation.state.attemptId,
    ∃ attempt ∈ db.attempts, attempt.id = id ∧ attempt.reservationId = reservation.id
  stamped : ∀ attempt ∈ db.attempts, attempt.updatedAt ≤ db.clock
  received : ∀ receipt ∈ db.receipts, ∃ attempt ∈ db.attempts,
    attempt.intentId = receipt.intentId ∧ attempt.state = .succeeded
  succeeded : ∀ attempt ∈ db.attempts, attempt.state = .succeeded →
    db.receiptOf? attempt.intentId ≠ none
  proved : ∀ proof ∈ db.reconciliations, ∃ attempt ∈ db.attempts,
    attempt.id = proof.attemptId ∧ attempt.state = provedState proof.proofOutcome

/-- A reservation blocks its run from its insertion until it expires or its effect is resolved. -/
def Blocks (db : Db) (reservation : ReservationRow) : Prop :=
  Db.Waiting reservation db.clock ∨ db.Unresolved reservation

/-- The run of a reservation that blocks still has the owner that the reservation names. -/
def Owners (db : Db) : Prop :=
  ∀ reservation ∈ db.reservations, Blocks db reservation →
    ∃ run lease, db.run? reservation.runId = some run ∧ Owned run lease reservation ∧
      reservation.invokeBy ≤ lease.expiresAt

/-- These are the receipts of one kind of effect of a run. -/
def EffectReceipt (db : Db) (runId : RunId) (kind : EffectKind) (receipt : ReceiptRow) : Prop :=
  receipt ∈ db.receipts ∧ ∃ intent ∈ db.intents,
    intent.id = receipt.intentId ∧ intent.runId = runId ∧ intent.kind = kind

def OneEffect (db : Db) (runId : RunId) (kind : EffectKind) : Prop :=
  ∃ receipt, ∀ other, EffectReceipt db runId kind other ↔ other = receipt

/-- A run that has its review artifact has exactly one receipt for it. -/
def reviewed : List RunStatus := [.reviewArtifactCreated, .writebackPending, .completed]

/-- The receipts of a run are complete for its status. -/
def Completions (db : Db) : Prop :=
  ∀ run ∈ db.runs, run.status ∈ reviewed → run.executionMode = .live ∧
    OneEffect db run.id .githubReview ∧
    (run.status = .completed → OneEffect db run.id .datahubWriteback)

/-- These are the invariants of the store. -/
structure Inv (db : Db) : Prop where
  history : History db
  bindings : Bindings db
  outcomes : Outcomes db
  owners : Owners db
  completions : Completions db

namespace Outcomes

variable {db : Db} (outcomes : Outcomes db)

include outcomes

/-- An intent has at most one attempt. -/
theorem attempt_unique {first second : AttemptRow} (isFirst : first ∈ db.attempts)
    (isSecond : second ∈ db.attempts) (same : first.intentId = second.intentId) :
    first = second := by
  obtain ⟨left, isLeft, _, leftInvokes⟩ := outcomes.invoked first isFirst
  obtain ⟨right, isRight, _, rightInvokes⟩ := outcomes.invoked second isSecond
  have active : SameActiveIntent left right := by
    refine ⟨?_, ?_, ?_⟩
    · rw [leftInvokes.state]
      rfl
    · rw [rightInvokes.state]
      rfl
    · rw [leftInvokes.intentId, rightInvokes.intentId, same]
  have shared : left = right :=
    Table.eq_of_conflict isLeft isRight (Or.inr (Or.inr (Or.inr (Or.inr active))))
  have states := leftInvokes.state
  rw [shared, rightInvokes.state] at states
  injection states with ids
  exact Table.eq_of_conflict isFirst isSecond (Or.inl ids.symm)

/-- The only attempt of an intent is its latest one. -/
theorem latestAttempt {attempt : AttemptRow} (isAttempt : attempt ∈ db.attempts) :
    db.latestAttempt? attempt.intentId = some attempt := by
  cases latest : db.latestAttempt? attempt.intentId with
  | none =>
      have empty := firstBy_eq_none.mp latest
      have present : attempt ∈ db.attempts.rows.filter fun row =>
          decide (row.intentId = attempt.intentId) := by
        simpa [Table.mem_rows] using isAttempt
      rw [empty] at present
      simp at present
  | some found =>
      obtain ⟨isFound, same⟩ := Db.latestAttempt?_mem latest
      rw [outcomes.attempt_unique isFound isAttempt same]

/-- Only a succeeded attempt has a receipt for its intent. -/
theorem receipt_none {attempt : AttemptRow} (isAttempt : attempt ∈ db.attempts)
    (pending : attempt.state ≠ .succeeded) : db.receiptOf? attempt.intentId = none := by
  rw [Db.receiptOf?_eq_none]
  intro receipt isReceipt same
  obtain ⟨found, isFound, intents, state⟩ := outcomes.received receipt isReceipt
  have equal := outcomes.attempt_unique isFound isAttempt (intents.trans same)
  exact pending (equal ▸ state)

/-- The proof of an attempt fixes its state. -/
theorem proof_state {attempt : AttemptRow} (isAttempt : attempt ∈ db.attempts)
    {proof : ReconciliationRow} (isProof : proof ∈ db.reconciliations)
    (same : proof.attemptId = attempt.id) : attempt.state = provedState proof.proofOutcome := by
  obtain ⟨found, isFound, id, state⟩ := outcomes.proved proof isProof
  have equal : found = attempt := Table.eq_of_conflict isFound isAttempt (Or.inl (id.trans same))
  rw [← equal]
  exact state

end Outcomes

end LineageGuard
