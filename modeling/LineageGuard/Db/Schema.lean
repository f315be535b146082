import LineageGuard.Domain.Stream
import LineageGuard.Library.Table
import Mathlib.Tactic

/-
This file gives the rows of the store and the constraints of their tables.
-/

namespace LineageGuard

open Relational

inductive ExecutionMode
  | live | verifiedReplay
  deriving DecidableEq, Repr

inductive EffectKind
  | githubReview | datahubWriteback
  deriving DecidableEq, Repr

inductive ValidationEffectKind
  | githubWrite | datahubWrite
  deriving DecidableEq, Repr

/-- An effect of each kind happens in one status only. -/
def effectState : EffectKind → RunStatus
  | .githubReview => .validated
  | .datahubWriteback => .writebackPending

def validationEffectKind : EffectKind → ValidationEffectKind
  | .githubReview => .githubWrite
  | .datahubWriteback => .datahubWrite

structure LeaseGuard where
  leaseId : LeaseId
  workerId : String
  generation : ℕ
  fencingVersion : ℕ
  deriving DecidableEq, Repr

/-- The three lease columns of a run are all present or all missing. -/
structure RunLease where
  leaseId : LeaseId
  workerId : String
  expiresAt : ℕ
  deriving DecidableEq, Repr

structure RunRow where
  id : RunId
  requestKey : String
  inputFingerprint : Fingerprint
  executionMode : ExecutionMode
  status : RunStatus
  payload : Jsonb
  version : ℕ
  nextAttemptAt : ℕ
  lease : Option RunLease
  leaseGeneration : ℕ
  createdAt : ℕ
  updatedAt : ℕ
  deriving DecidableEq, Repr

instance : Schema RunRow where
  check row := 1 ≤ row.requestKey.length ∧ row.requestKey.length ≤ 512 ∧
    row.leaseGeneration ≤ 1000000 ∧
    ∀ lease ∈ row.lease, 1 ≤ lease.workerId.length ∧ lease.workerId.length ≤ 256
  conflict left right := left.id = right.id ∨ left.requestKey = right.requestKey
  symmetric _ _ := Or.imp Eq.symm Eq.symm
  decidableCheck _ := inferInstanceAs (Decidable (_ ∧ _))
  decidableConflict _ _ := inferInstanceAs (Decidable (_ ∨ _))

/-- These are the status changes that the database lists. -/
def listedTransitions : List (RunStatus × RunStatus) :=
  [(.created, .changeParsed), (.changeParsed, .baselineAssessed),
    (.baselineAssessed, .contextCollecting), (.contextCollecting, .contextCollected),
    (.contextCollecting, .failedContext), (.contextCollected, .riskDecided),
    (.contextCollected, .failedContext), (.riskDecided, .migrationPlanned),
    (.riskDecided, .failedGeneration), (.migrationPlanned, .patchGenerated),
    (.migrationPlanned, .failedGeneration), (.patchGenerated, .validating),
    (.patchGenerated, .failedGeneration), (.validating, .validated),
    (.validating, .failedValidation), (.validated, .reviewArtifactCreated),
    (.validated, .failedGithub), (.reviewArtifactCreated, .writebackPending),
    (.reviewArtifactCreated, .failedGithub), (.writebackPending, .completed),
    (.writebackPending, .failedWriteback)]

/-- The database accepts a listed change and every cancellation. -/
def SqlTransition (source target : RunStatus) : Prop :=
  (source, target) ∈ listedTransitions ∨ target = .cancelled

instance (source target : RunStatus) : Decidable (SqlTransition source target) :=
  inferInstanceAs (Decidable (_ ∨ _))

structure RunEventRow where
  id : EventId
  runId : RunId
  sequence : ℕ
  type : RunEventType
  payload : RunEvent
  createdAt : ℕ
  leaseId : LeaseId
  workerId : String
  generation : ℕ
  fromStatus : Option RunStatus
  toStatus : Option RunStatus
  deriving DecidableEq, Repr

/-- The columns of an event row repeat the fields of its payload. -/
def RunEventRow.DomainBinding (row : RunEventRow) : Prop :=
  row.payload.eventId = row.id ∧ row.payload.runId = row.runId ∧
  row.payload.sequence = row.sequence ∧ row.payload.type = row.type ∧
  row.payload.leaseId = row.leaseId ∧ row.payload.workerId = row.workerId ∧
  row.payload.generation = row.generation ∧ row.payload.occurredAt.instant = row.createdAt

instance (row : RunEventRow) : Decidable row.DomainBinding := inferInstanceAs (Decidable (_ ∧ _))

/-- The status columns of a status event repeat its two statuses, which form a listed change. -/
def RunEventRow.StatusBinding (row : RunEventRow) : Prop :=
  match row.payload.body with
  | .statusChanged source target _ =>
      row.fromStatus = some source ∧ row.toStatus = some target ∧ SqlTransition source target
  | _ => True

instance (row : RunEventRow) : Decidable row.StatusBinding := by
  unfold RunEventRow.StatusBinding
  split <;> infer_instance

instance : Schema RunEventRow where
  check row := row.sequence ≤ 299 ∧ row.DomainBinding ∧ row.StatusBinding
  conflict left right :=
    left.id = right.id ∨ (left.runId, left.sequence) = (right.runId, right.sequence)
  symmetric _ _ := Or.imp Eq.symm Eq.symm
  decidableCheck _ := inferInstanceAs (Decidable (_ ∧ _))
  decidableConflict _ _ := inferInstanceAs (Decidable (_ ∨ _))

structure RunLeaseRow where
  leaseId : LeaseId
  runId : RunId
  workerId : String
  generation : ℕ
  acquiredAt : ℕ
  expiresAt : ℕ
  deriving DecidableEq, Repr

instance : Schema RunLeaseRow where
  check row := 1 ≤ row.workerId.length ∧ row.workerId.length ≤ 256 ∧
    1 ≤ row.generation ∧ row.generation ≤ 1000000
  conflict left right := left.leaseId = right.leaseId
  symmetric _ _ := Eq.symm
  decidableCheck _ := inferInstanceAs (Decidable (_ ∧ _))
  decidableConflict _ _ := inferInstanceAs (Decidable (_ = _))

structure RetryAttemptRow where
  id : RetryId
  runId : RunId
  operation : RetryOperation
  attempt : ℕ
  retryAt : ℕ
  createdAt : ℕ
  deriving DecidableEq, Repr

instance : Schema RetryAttemptRow where
  check row := ∃ delay ∈ retryDelay row.attempt, row.retryAt = row.createdAt + toTimestamp delay
  conflict left right := left.id = right.id ∨
    (left.runId, left.operation, left.attempt) = (right.runId, right.operation, right.attempt)
  symmetric _ _ := Or.imp Eq.symm Eq.symm
  decidableCheck _ := inferInstanceAs (Decidable (∃ _, _ ∧ _))
  decidableConflict _ _ := inferInstanceAs (Decidable (_ ∨ _))

/-- The store compares two contexts by their whole text. -/
structure ImpactContext where
  collectionOriginMode : ExecutionMode
  impactContextFingerprint : Fingerprint
  document : Jsonb
  deriving DecidableEq, Repr

/-- The outcome of a collected result names the mode of its context. -/
inductive ImpactCollectionResult
  | failed (mode : ExecutionMode) (report : Jsonb)
  | collected (context : ImpactContext)
  deriving DecidableEq, Repr

def collectionMode : ImpactCollectionResult → ExecutionMode
  | .failed mode _ => mode
  | .collected context => context.collectionOriginMode

inductive BundleKind
  | evidence | context
  deriving DecidableEq, Repr

inductive BundlePayload
  | evidence (payload : Jsonb)
  | context (result : ImpactCollectionResult)
  deriving DecidableEq, Repr

def BundlePayload.kind : BundlePayload → BundleKind
  | .evidence _ => .evidence
  | .context _ => .context

structure RunBundleRow where
  id : BundleId
  runId : RunId
  position : ℕ
  payload : BundlePayload
  deriving DecidableEq, Repr

instance : Schema RunBundleRow where
  check row := 0 < row.position ∧ row.position ≤ 200
  conflict left right := left.id = right.id ∨
    (left.runId, left.payload.kind, left.position) =
      (right.runId, right.payload.kind, right.position)
  symmetric _ _ := Or.imp Eq.symm Eq.symm
  decidableCheck _ := inferInstanceAs (Decidable (_ ∧ _))
  decidableConflict _ _ := inferInstanceAs (Decidable (_ ∨ _))

inductive DecisionScope
  | baseline | grounded
  deriving DecidableEq, Repr

structure RunDecisionRow where
  id : DecisionId
  runId : RunId
  scope : DecisionScope
  payload : Jsonb
  deriving DecidableEq, Repr

instance : Schema RunDecisionRow where
  check _ := True
  conflict left right := left.id = right.id ∨ (left.runId, left.scope) = (right.runId, right.scope)
  symmetric _ _ := Or.imp Eq.symm Eq.symm
  decidableCheck _ := inferInstanceAs (Decidable True)
  decidableConflict _ _ := inferInstanceAs (Decidable (_ ∨ _))

structure MigrationCandidate where
  sourceImpactContextFingerprint : Fingerprint
  document : Jsonb
  deriving DecidableEq, Repr

structure MigrationCandidateRow where
  id : MigrationId
  runId : RunId
  position : ℕ
  payload : MigrationCandidate
  deriving DecidableEq, Repr

instance : Schema MigrationCandidateRow where
  check row := 0 < row.position ∧ row.position ≤ 20
  conflict left right := left.id = right.id ∨
    (left.runId, left.position) = (right.runId, right.position)
  symmetric _ _ := Or.imp Eq.symm Eq.symm
  decidableCheck _ := inferInstanceAs (Decidable (_ ∧ _))
  decidableConflict _ _ := inferInstanceAs (Decidable (_ ∨ _))

inductive SignatureAlgorithm
  | ed25519 | other
  deriving DecidableEq, Repr

structure ProtectedHeaders where
  runId : RunId
  leaseId : LeaseId
  workerId : String
  generation : ℕ
  candidateFingerprint : Fingerprint
  authorizedRunEventStreamFingerprint : Fingerprint
  algorithm : SignatureAlgorithm
  deriving DecidableEq, Repr

structure ValidationPayload where
  artifactSetFingerprint : Fingerprint
  completedAt : IsoDateTime
  deriving DecidableEq, Repr

/-- The document holds the fields of the receipt that the store only stores and hashes. -/
structure SignedLiveValidationReceipt where
  protectedHeaders : ProtectedHeaders
  payload : ValidationPayload
  document : Jsonb
  deriving DecidableEq, Repr

structure ValidationReceiptRow where
  id : ValidationReceiptId
  runId : RunId
  position : ℕ
  payload : SignedLiveValidationReceipt
  deriving DecidableEq, Repr

instance : Schema ValidationReceiptRow where
  check row := 0 < row.position ∧ row.position ≤ 20 ∧
    row.payload.protectedHeaders.algorithm = .ed25519
  conflict left right := left.id = right.id ∨
    (left.runId, left.position) = (right.runId, right.position)
  symmetric _ _ := Or.imp Eq.symm Eq.symm
  decidableCheck _ := inferInstanceAs (Decidable (_ ∧ _))
  decidableConflict _ _ := inferInstanceAs (Decidable (_ ∨ _))

structure IntentRow where
  id : IntentId
  runId : RunId
  kind : EffectKind
  target : String
  idempotencyKey : String
  inputFingerprint : Fingerprint
  input : Jsonb
  validationReceiptId : ValidationReceiptId
  candidateFingerprint : Fingerprint
  artifactSetFingerprint : Fingerprint
  deriving DecidableEq, Repr

instance : Schema IntentRow where
  check row := 1 ≤ row.target.length ∧ row.target.length ≤ 500 ∧
    1 ≤ row.idempotencyKey.length ∧ row.idempotencyKey.length ≤ 512
  conflict left right := left.id = right.id ∨
    (left.kind, left.target, left.idempotencyKey) =
      (right.kind, right.target, right.idempotencyKey)
  symmetric _ _ := Or.imp Eq.symm Eq.symm
  decidableCheck _ := inferInstanceAs (Decidable (_ ∧ _))
  decidableConflict _ _ := inferInstanceAs (Decidable (_ ∨ _))

structure ApprovalPayload where
  runId : RunId
  effectKind : ValidationEffectKind
  target : String
  inputFingerprint : Fingerprint
  validationReceiptId : ValidationReceiptId
  validationReceiptFingerprint : Fingerprint
  validationCompletedAt : IsoDateTime
  approvedBy : String
  approvedAt : IsoDateTime
  expiresAt : IsoDateTime
  deriving DecidableEq, Repr

structure ApprovalHeaders where
  schemaVersion : ℕ
  purpose : String
  algorithm : SignatureAlgorithm
  issuer : String
  keyId : String
  nonce : String
  deriving DecidableEq, Repr

structure EffectApprovalAssertion where
  protectedHeaders : ApprovalHeaders
  payload : ApprovalPayload
  signedPayloadFingerprint : Fingerprint
  signature : String
  deriving DecidableEq, Repr

structure ApprovalRow where
  id : ApprovalId
  runId : RunId
  kind : EffectKind
  target : String
  inputFingerprint : Fingerprint
  validationReceiptId : ValidationReceiptId
  validationReceiptFingerprint : Fingerprint
  validationCompletedAt : ℕ
  approvedBy : String
  approvedAt : ℕ
  expiresAt : ℕ
  payload : ApprovalPayload
  approvalFingerprint : Fingerprint
  approvalAssertion : EffectApprovalAssertion
  createdAt : ℕ
  deriving DecidableEq, Repr

instance : Schema ApprovalRow where
  check row := 1 ≤ row.target.length ∧ row.target.length ≤ 1024 ∧
    1 ≤ row.approvedBy.length ∧ row.approvedBy.length ≤ 240
  conflict left right := left.id = right.id ∨ left.approvalFingerprint = right.approvalFingerprint
  symmetric _ _ := Or.imp Eq.symm Eq.symm
  decidableCheck _ := inferInstanceAs (Decidable (_ ∧ _))
  decidableConflict _ _ := inferInstanceAs (Decidable (_ ∨ _))

/-- Only a consumed reservation names its attempt. -/
inductive ReservationState
  | reserved
  | consumed (attemptId : AttemptId) (attemptFence : AttemptFence) (consumedAt : ℕ)
  | cancelledPreSend
  deriving DecidableEq, Repr

def ReservationState.attemptId : ReservationState → Option AttemptId
  | .consumed attemptId _ _ => some attemptId
  | _ => none

def ReservationState.attemptFence : ReservationState → Option AttemptFence
  | .consumed _ attemptFence _ => some attemptFence
  | _ => none

/-- The partial index covers the reservations in these two states. -/
def ReservationState.active : ReservationState → Bool
  | .cancelledPreSend => false
  | _ => true

structure ReservationRow where
  id : ReservationId
  runId : RunId
  intentId : IntentId
  idempotencyKey : String
  kind : EffectKind
  target : String
  inputFingerprint : Fingerprint
  intentFingerprint : Fingerprint
  validationReceiptId : ValidationReceiptId
  validationReceiptFingerprint : Fingerprint
  approvalId : ApprovalId
  approvalFingerprint : Fingerprint
  eventPrefixFingerprint : Fingerprint
  runVersion : ℕ
  runStatus : RunStatus
  leaseId : LeaseId
  workerId : String
  generation : ℕ
  tokenHash : Fingerprint
  invokeBy : ℕ
  state : ReservationState
  deriving DecidableEq, Repr

/-- Two missing values never collide in a unique column. -/
def SamePresent {A : Type} (left right : Option A) : Prop := left = right ∧ left ≠ none

instance {A : Type} [DecidableEq A] (left right : Option A) : Decidable (SamePresent left right) :=
  inferInstanceAs (Decidable (_ ∧ _))

theorem SamePresent.symm {A : Type} {left right : Option A} (same : SamePresent left right) :
    SamePresent right left := by
  obtain ⟨rfl, present⟩ := same
  exact ⟨rfl, present⟩

/-- Two active reservations never share their intent. -/
def SameActiveIntent (left right : ReservationRow) : Prop :=
  left.state.active = true ∧ right.state.active = true ∧ left.intentId = right.intentId

instance (left right : ReservationRow) : Decidable (SameActiveIntent left right) :=
  inferInstanceAs (Decidable (_ ∧ _))

theorem SameActiveIntent.symm {left right : ReservationRow} (same : SameActiveIntent left right) :
    SameActiveIntent right left := ⟨same.2.1, same.1, same.2.2.symm⟩

instance : Schema ReservationRow where
  check row := row.runStatus ∈ [.validated, .writebackPending] ∧ 0 < row.generation
  conflict left right := left.id = right.id ∨ left.tokenHash = right.tokenHash ∨
    SamePresent left.state.attemptId right.state.attemptId ∨
    SamePresent left.state.attemptFence right.state.attemptFence ∨ SameActiveIntent left right
  symmetric _ _ := Or.imp Eq.symm (Or.imp Eq.symm (Or.imp SamePresent.symm
    (Or.imp SamePresent.symm SameActiveIntent.symm)))
  decidableCheck _ := inferInstanceAs (Decidable (_ ∧ _))
  decidableConflict _ _ := inferInstanceAs (Decidable (_ ∨ _))

inductive EffectAttemptState
  | readyToInvoke | succeeded | reconciliationRequired
  deriving DecidableEq, Repr

structure AttemptRow where
  id : AttemptId
  intentId : IntentId
  attempt : ℕ
  workerId : String
  fencingToken : AttemptFence
  state : EffectAttemptState
  claimedAt : ℕ
  claimExpiresAt : ℕ
  updatedAt : ℕ
  reservationId : ReservationId
  deriving DecidableEq, Repr

instance : Schema AttemptRow where
  check row := 1 ≤ row.attempt ∧ row.attempt ≤ 3 ∧
    1 ≤ row.workerId.length ∧ row.workerId.length ≤ 160 ∧ row.claimedAt < row.claimExpiresAt
  conflict left right := left.id = right.id ∨ left.fencingToken = right.fencingToken ∨
    (left.intentId, left.attempt) = (right.intentId, right.attempt)
  symmetric _ _ := Or.imp Eq.symm (Or.imp Eq.symm Eq.symm)
  decidableCheck _ := inferInstanceAs (Decidable (_ ∧ _))
  decidableConflict _ _ := inferInstanceAs (Decidable (_ ∨ _))

structure ReceiptBindingPayload where
  intentId : IntentId
  runId : RunId
  effectKind : EffectKind
  target : String
  inputFingerprint : Fingerprint
  validationReceiptId : ValidationReceiptId
  candidateFingerprint : Fingerprint
  artifactSetFingerprint : Fingerprint
  deriving DecidableEq, Repr

/-- The binding is missing when one of its fields has the wrong type. -/
structure EffectReceiptPayload where
  binding : Option ReceiptBindingPayload
  document : Jsonb
  deriving DecidableEq, Repr

structure ReceiptRow where
  id : ReceiptId
  intentId : IntentId
  payload : EffectReceiptPayload
  validationReceiptId : ValidationReceiptId
  candidateFingerprint : Fingerprint
  artifactSetFingerprint : Fingerprint
  deriving DecidableEq, Repr

instance : Schema ReceiptRow where
  check _ := True
  conflict left right := left.id = right.id ∨ left.intentId = right.intentId
  symmetric _ _ := Or.imp Eq.symm Eq.symm
  decidableCheck _ := inferInstanceAs (Decidable True)
  decidableConflict _ _ := inferInstanceAs (Decidable (_ ∨ _))

structure FailureRow where
  id : FailureId
  intentId : IntentId
  runId : RunId
  position : ℕ
  payload : Jsonb
  createdAt : ℕ
  deriving DecidableEq, Repr

instance : Schema FailureRow where
  check row := 1 ≤ row.position ∧ row.position ≤ 100
  conflict left right := left.id = right.id ∨
    (left.intentId, left.position) = (right.intentId, right.position)
  symmetric _ _ := Or.imp Eq.symm Eq.symm
  decidableCheck _ := inferInstanceAs (Decidable (_ ∧ _))
  decidableConflict _ _ := inferInstanceAs (Decidable (_ ∨ _))

inductive ProofOutcome
  | applied | notApplied
  deriving DecidableEq, Repr

structure ReconciliationRow where
  id : ReconciliationId
  attemptId : AttemptId
  proofOutcome : ProofOutcome
  payload : Jsonb
  deriving DecidableEq, Repr

instance : Schema ReconciliationRow where
  check _ := True
  conflict left right := left.id = right.id ∨ left.attemptId = right.attemptId
  symmetric _ _ := Or.imp Eq.symm Eq.symm
  decidableCheck _ := inferInstanceAs (Decidable True)
  decidableConflict _ _ := inferInstanceAs (Decidable (_ ∨ _))

/-- A committed state of the database and the latest time that its clock has shown. -/
structure Db where
  clock : ℕ
  runs : Table RunRow
  runEvents : Table RunEventRow
  runLeases : Table RunLeaseRow
  retryAttempts : Table RetryAttemptRow
  runBundles : Table RunBundleRow
  runDecisions : Table RunDecisionRow
  migrationCandidates : Table MigrationCandidateRow
  validationReceipts : Table ValidationReceiptRow
  intents : Table IntentRow
  approvals : Table ApprovalRow
  reservations : Table ReservationRow
  attempts : Table AttemptRow
  receipts : Table ReceiptRow
  failures : Table FailureRow
  reconciliations : Table ReconciliationRow

/-- The migrations leave every table empty. -/
def Db.migrated (clock : ℕ) : Db where
  clock := clock
  runs := .empty
  runEvents := .empty
  runLeases := .empty
  retryAttempts := .empty
  runBundles := .empty
  runDecisions := .empty
  migrationCandidates := .empty
  validationReceipts := .empty
  intents := .empty
  approvals := .empty
  reservations := .empty
  attempts := .empty
  receipts := .empty
  failures := .empty
  reconciliations := .empty

end LineageGuard
