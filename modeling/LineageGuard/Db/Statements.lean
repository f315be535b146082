import LineageGuard.Db.Schema
import LineageGuard.Library.Attempt
import Mathlib.Tactic

/-
This file gives the queries, the triggers and the writes of single rows.
-/

namespace LineageGuard

open Relational Attempt

inductive SqlState
  | uniqueViolation | checkViolation | notNullViolation | foreignKeyViolation
  deriving DecidableEq, Repr

/-- These are the errors that a store operation throws. -/
inductive StoreError
  | type (message : String)
  | domain (cause : DomainError)
  | leaseConflict (message : String)
  | stateConflict (message : String)
  | notFound (message : String)
  | idempotencyConflict (message : String)
  | corruptData (message : String)
  | corruptStream (cause : DomainError)
  | external (message : String)
  | database (state : SqlState) (message : String)
  deriving DecidableEq, Repr

/-- Both constructors stand for a `CorruptDataError`. -/
def StoreError.isCorruptData : StoreError → Bool
  | .corruptData _ => true
  | .corruptStream _ => true
  | _ => false

def checkError (message : String) : StoreError := .database .checkViolation message

def Violation.toError : Violation → StoreError
  | .check => .database .checkViolation "row violates a check constraint"
  | .unique => .database .uniqueViolation "row violates a unique constraint"

/-- A rejected write raises the error of its constraint. -/
def write {Row : Type} [Schema Row] (written : Except Violation (Table Row)) :
    Except StoreError (Table Row) := written.mapError Violation.toError

@[simp] theorem write_ok {Row : Type} [Schema Row] {written : Except Violation (Table Row)}
    {table : Table Row} : write written = .ok table ↔ written = .ok table := mapError_ok

namespace Db

def run? (db : Db) (id : RunId) : Option RunRow := db.runs.find? fun row => row.id = id

def intent? (db : Db) (id : IntentId) : Option IntentRow := db.intents.find? fun row => row.id = id

def attempt? (db : Db) (id : AttemptId) : Option AttemptRow :=
  db.attempts.find? fun row => row.id = id

def approval? (db : Db) (id : ApprovalId) : Option ApprovalRow :=
  db.approvals.find? fun row => row.id = id

def reservation? (db : Db) (id : ReservationId) : Option ReservationRow :=
  db.reservations.find? fun row => row.id = id

def receiptOf? (db : Db) (intentId : IntentId) : Option ReceiptRow :=
  db.receipts.find? fun row => row.intentId = intentId

def reconciliationOf? (db : Db) (attemptId : AttemptId) : Option ReconciliationRow :=
  db.reconciliations.find? fun row => row.attemptId = attemptId

/-- The rows of a stream are read in the order of their sequence. -/
def eventRows (db : Db) (runId : RunId) : List RunEventRow :=
  (db.runEvents.rows.filter fun row => row.runId = runId).insertionSort
    fun first second => first.sequence ≤ second.sequence

/-- The next position of a list of positions follows the largest one. -/
def nextAfter (positions : List ℕ) : ℕ := positions.foldr (fun position next =>
  max (position + 1) next) 0

def nextSequence (db : Db) (runId : RunId) : ℕ :=
  nextAfter ((db.runEvents.rows.filter fun row => row.runId = runId).map (·.sequence))

def nextBundlePosition (db : Db) (runId : RunId) (kind : BundleKind) : ℕ :=
  max 1 (nextAfter ((db.runBundles.rows.filter fun row =>
    row.runId = runId ∧ row.payload.kind = kind).map (·.position)))

def nextCandidatePosition (db : Db) (runId : RunId) : ℕ :=
  max 1 (nextAfter ((db.migrationCandidates.rows.filter fun row =>
    row.runId = runId).map (·.position)))

def nextValidationPosition (db : Db) (runId : RunId) : ℕ :=
  max 1 (nextAfter ((db.validationReceipts.rows.filter fun row =>
    row.runId = runId).map (·.position)))

def nextFailurePosition (db : Db) (intentId : IntentId) : ℕ :=
  max 1 (nextAfter ((db.failures.rows.filter fun row =>
    row.intentId = intentId).map (·.position)))

def nextAttempt (db : Db) (intentId : IntentId) : ℕ :=
  max 1 (nextAfter ((db.attempts.rows.filter fun row =>
    row.intentId = intentId).map (·.attempt)))

def latestValidation? (db : Db) (runId : RunId) : Option ValidationReceiptRow :=
  firstBy (fun first second => second.position < first.position)
    (db.validationReceipts.rows.filter fun row => row.runId = runId)

def latestCandidate? (db : Db) (runId : RunId) : Option MigrationCandidateRow :=
  firstBy (fun first second => second.position < first.position)
    (db.migrationCandidates.rows.filter fun row => row.runId = runId)

def latestContext? (db : Db) (runId : RunId) : Option RunBundleRow :=
  firstBy (fun first second => second.position < first.position)
    (db.runBundles.rows.filter fun row => row.runId = runId ∧ row.payload.kind = .context)

def latestAttempt? (db : Db) (intentId : IntentId) : Option AttemptRow :=
  firstBy (fun first second => second.attempt < first.attempt)
    (db.attempts.rows.filter fun row => row.intentId = intentId)

/-- An effect of a run is an intent with its receipt and its validation receipt. -/
def effects (db : Db) (runId : RunId) (kind : EffectKind) :
    List (IntentRow × ReceiptRow × ValidationReceiptRow) :=
  (db.intents.rows.filter fun intent => intent.runId = runId ∧ intent.kind = kind).flatMap
    fun intent => (db.receipts.rows.filter fun receipt => receipt.intentId = intent.id).flatMap
      fun receipt => (db.validationReceipts.rows.filter fun validation =>
        validation.id = intent.validationReceiptId).map fun validation =>
          (intent, receipt, validation)

/-- A reservation that waits for its send blocks until it expires. -/
def Waiting (reservation : ReservationRow) (now : ℕ) : Prop :=
  reservation.state = .reserved ∧ now < reservation.invokeBy

instance (reservation : ReservationRow) (now : ℕ) : Decidable (Waiting reservation now) :=
  inferInstanceAs (Decidable (_ ∧ _))

/-- A consumed reservation blocks until a receipt or a negative proof exists. -/
def Unresolved (db : Db) (reservation : ReservationRow) : Prop :=
  ∃ attemptId ∈ reservation.state.attemptId,
    (∀ receipt ∈ db.receipts.rows, receipt.intentId ≠ reservation.intentId) ∧
    ∀ reconciliation ∈ db.reconciliations.rows,
      ¬ (reconciliation.attemptId = attemptId ∧ reconciliation.proofOutcome = .notApplied)

instance (db : Db) (reservation : ReservationRow) : Decidable (db.Unresolved reservation) :=
  inferInstanceAs (Decidable (∃ _ ∈ reservation.state.attemptId, _ ∧ _))

/-- An active invocation freezes the owner of its run. -/
def ActiveInvocation (db : Db) (runId : RunId) (now : ℕ) : Prop :=
  ∃ reservation ∈ db.reservations.rows, reservation.runId = runId ∧
    (Waiting reservation now ∨ db.Unresolved reservation)

instance (db : Db) (runId : RunId) (now : ℕ) : Decidable (db.ActiveInvocation runId now) :=
  inferInstanceAs (Decidable (∃ _ ∈ db.reservations.rows, _ ∧ _))

end Db

inductive RunColumn
  | status | leaseId | workerId | leaseGeneration | leaseExpiresAt | version | nextAttemptAt
  | updatedAt
  deriving DecidableEq, Repr

/-- These columns name the owner of a run. -/
def SameOwner (old new : RunRow) : Prop :=
  new.status = old.status ∧ new.lease.map (·.leaseId) = old.lease.map (·.leaseId) ∧
    new.lease.map (·.workerId) = old.lease.map (·.workerId) ∧
    new.leaseGeneration = old.leaseGeneration

instance (old new : RunRow) : Decidable (SameOwner old new) := inferInstanceAs (Decidable (_ ∧ _))

def enforceActiveEffectInvocation (db : Db) (now : ℕ) (old new : RunRow) :
    Except StoreError Unit :=
  reject (db.ActiveInvocation old.id now ∧ ¬ SameOwner old new)
    (checkError "active effect invocation blocks transition or lease reassignment")

/-- These effects bind the latest validation receipt of their run. -/
def boundEffects (db : Db) (runId : RunId) (kind : EffectKind) :
    List (IntentRow × ReceiptRow × ValidationReceiptRow) :=
  (db.effects runId kind).filter fun (intent, _, validation) =>
    (db.latestValidation? runId).map (·.id) = some validation.id ∧
    intent.candidateFingerprint = validation.payload.protectedHeaders.candidateFingerprint ∧
    intent.artifactSetFingerprint = validation.payload.payload.artifactSetFingerprint

def receiptColumns (receipt : ReceiptRow) : ValidationReceiptId × Fingerprint × Fingerprint :=
  (receipt.validationReceiptId, receipt.candidateFingerprint, receipt.artifactSetFingerprint)

/-- This is the binding that a `SELECT INTO` reads from the first row. -/
def firstBinding (rows : List (IntentRow × ReceiptRow × ValidationReceiptRow)) :
    Option (ValidationReceiptId × Fingerprint × Fingerprint) :=
  rows.head?.map fun (_, receipt, _) => receiptColumns receipt

def enforceRunEffectCompletion (db : Db) (old new : RunRow) : Except StoreError Unit :=
  whenever (new.status ∈ [.reviewArtifactCreated, .completed] ∧ new.status ≠ old.status) do
    require (new.executionMode = .live)
      (checkError "verified replay cannot complete external effects")
    let github := boundEffects db new.id .githubReview
    require (github.length = 1) (checkError "exactly one GitHub receipt binding is required")
    whenever (new.status = .completed) do
      let datahub := boundEffects db new.id .datahubWriteback
      require (datahub.length = 1) (checkError "exactly one DataHub receipt binding is required")
      require (firstBinding github = firstBinding datahub)
        (checkError "completed effects do not share exact binding")

def enforceExecutionModeImmutable (old new : RunRow) : Except StoreError Unit :=
  require (new.executionMode = old.executionMode)
    (checkError "run execution mode is immutable")

/-- The columns of the `SET` clause decide which triggers of the table fire. -/
def updateRun (db : Db) (now : ℕ) (id : RunId) (columns : List RunColumn)
    (change : RunRow → RunRow) : Except StoreError Db :=
  match db.run? id with
  | none => .ok db
  | some old => do
      whenever (∃ column ∈ columns,
          column ∈ [RunColumn.status, .leaseId, .workerId, .leaseGeneration])
        (enforceActiveEffectInvocation db now old (change old))
      whenever (.status ∈ columns) (enforceRunEffectCompletion db old (change old))
      enforceExecutionModeImmutable old (change old)
      let runs ← write (db.runs.update (fun row => row.id = id) change)
      pure { db with runs := runs }

/-- A foreign key needs a row that it references. -/
def reference {Row : Type} (found : Option Row) : Except StoreError Unit :=
  require (found ≠ none) (.database .foreignKeyViolation "row references a missing row")

def insertRunEvent (db : Db) (row : RunEventRow) : Except StoreError Db := do
  require (row.sequence = db.nextSequence row.runId)
    (checkError "event sequence must be contiguous")
  let runEvents ← write (db.runEvents.insert row)
  reference (db.run? row.runId)
  pure { db with runEvents := runEvents }

def insertRunLease (db : Db) (row : RunLeaseRow) : Except StoreError Db := do
  let runLeases ← write (db.runLeases.insert row)
  reference (db.run? row.runId)
  pure { db with runLeases := runLeases }

/-- This is the status test of `authorize_retry_attempt`. -/
def retryAllowed (operation : RetryOperation) (status : RunStatus) : Prop :=
  (operation = .datahubRead ∧ status = .contextCollecting) ∨
  (operation = .generation ∧ status ∈ [.riskDecided, .migrationPlanned]) ∨
  (operation = .githubWrite ∧ status = .validated) ∨
  (operation = .datahubWrite ∧ status = .writebackPending)

instance (operation : RetryOperation) (status : RunStatus) :
    Decidable (retryAllowed operation status) := inferInstanceAs (Decidable (_ ∨ _))

def insertRetryAttempt (db : Db) (row : RetryAttemptRow) : Except StoreError Db := do
  require (∃ run ∈ db.run? row.runId, retryAllowed row.operation run.status)
    (checkError "retry operation is not allowed in state")
  let retryAttempts ← write (db.retryAttempts.insert row)
  pure { db with retryAttempts := retryAttempts }

/-- A context bundle has the execution mode of its run. -/
def enforceImpactCollectionMode (db : Db) (row : RunBundleRow) : Except StoreError Unit :=
  match row.payload with
  | .evidence _ => .ok ()
  | .context result =>
      require (∃ run ∈ db.run? row.runId, run.executionMode = collectionMode result)
        (checkError "impact collection mode does not match immutable run mode")

def insertRunBundle (db : Db) (row : RunBundleRow) : Except StoreError Db := do
  enforceImpactCollectionMode db row
  let runBundles ← write (db.runBundles.insert row)
  reference (db.run? row.runId)
  pure { db with runBundles := runBundles }

def insertRunDecision (db : Db) (row : RunDecisionRow) : Except StoreError Db := do
  let runDecisions ← write (db.runDecisions.insert row)
  reference (db.run? row.runId)
  pure { db with runDecisions := runDecisions }

def insertMigrationCandidate (db : Db) (row : MigrationCandidateRow) : Except StoreError Db := do
  let migrationCandidates ← write (db.migrationCandidates.insert row)
  reference (db.run? row.runId)
  pure { db with migrationCandidates := migrationCandidates }

def insertValidationReceipt (db : Db) (row : ValidationReceiptRow) : Except StoreError Db := do
  let validationReceipts ← write (db.validationReceipts.insert row)
  reference (db.run? row.runId)
  pure { db with validationReceipts := validationReceipts }

/-- An intent binds the latest validation receipt of a live run. -/
def enforceEffectIntentAuthority (db : Db) (row : IntentRow) : Except StoreError Unit := do
  require (∀ run ∈ db.run? row.runId, run.executionMode = .live)
    (checkError "verified replay cannot authorize external effects")
  require (∃ validation ∈ db.latestValidation? row.runId,
      row.validationReceiptId = validation.id ∧
      row.candidateFingerprint = validation.payload.protectedHeaders.candidateFingerprint ∧
      row.artifactSetFingerprint = validation.payload.payload.artifactSetFingerprint)
    (checkError "effect intent must bind the current same-run validation")

def insertIntent (db : Db) (row : IntentRow) : Except StoreError Db := do
  enforceEffectIntentAuthority db row
  let intents ← write (db.intents.insert row)
  reference (db.run? row.runId)
  pure { db with intents := intents }

def insertReservation (db : Db) (row : ReservationRow) : Except StoreError Db := do
  let reservations ← write (db.reservations.insert row)
  reference (db.run? row.runId)
  reference (db.intent? row.intentId)
  reference (db.validationReceipts.find? fun found => found.id = row.validationReceiptId)
  reference (db.approval? row.approvalId)
  pure { db with reservations := reservations }

def updateReservation (db : Db) (id : ReservationId) (state : ReservationState) :
    Except StoreError Db := do
  let reservations ← write (db.reservations.update (fun row => row.id = id) fun row =>
    { row with state := state })
  pure { db with reservations := reservations }

/-- An attempt belongs to the reservation that names it. -/
def enforceEffectAttemptAuthority (db : Db) (row : AttemptRow) : Except StoreError Unit :=
  require (row.state = .readyToInvoke ∧ ∃ reservation ∈ db.reservation? row.reservationId,
      reservation.intentId = row.intentId ∧ reservation.state.attemptId = some row.id ∧
      reservation.state.attemptFence = some row.fencingToken)
    (checkError "effect attempt requires a consumed reservation")

def insertAttempt (db : Db) (row : AttemptRow) : Except StoreError Db := do
  enforceEffectAttemptAuthority db row
  let attempts ← write (db.attempts.insert row)
  reference (db.intent? row.intentId)
  pure { db with attempts := attempts }

/-- An attempt leaves its first state through a failure or an expiry, and succeeds through a
receipt. -/
def enforceEffectAttemptTransition (db : Db) (now : ℕ) (old : AttemptRow)
    (state : EffectAttemptState) (updatedAt : ℕ) : Except StoreError Unit := do
  require (old.updatedAt ≤ updatedAt) (checkError "effect attempt identity is immutable")
  require ((old.state = .readyToInvoke ∧ state = .reconciliationRequired ∧
        (old.claimExpiresAt ≤ now ∨ ∃ failure ∈ db.failures.rows,
          failure.intentId = old.intentId ∧ old.claimedAt ≤ failure.createdAt)) ∨
      (old.state ∈ [.readyToInvoke, .reconciliationRequired] ∧ state = .succeeded ∧
        ∃ receipt ∈ db.receipts.rows, receipt.intentId = old.intentId))
    (checkError "invalid effect attempt state transition")

def updateAttempt (db : Db) (now : ℕ) (id : AttemptId) (state : EffectAttemptState)
    (updatedAt : ℕ) : Except StoreError Db :=
  match db.attempt? id with
  | none => .ok db
  | some old => do
      enforceEffectAttemptTransition db now old state updatedAt
      let attempts ← write (db.attempts.update (fun row => row.id = id) fun row =>
        { row with state := state, updatedAt := updatedAt })
      pure { db with attempts := attempts }

inductive OutcomeTable
  | receipts | failures
  deriving DecidableEq, Repr

/-- An outcome belongs to the latest attempt of its intent, which a reservation authorizes. A missing
proof leaves the guard on a receipt unknown, so only a negative proof rejects it. -/
def enforceEffectOutcomeAuthority (db : Db) (table : OutcomeTable) (intentId : IntentId) :
    Except StoreError Unit :=
  require (∃ attempt ∈ db.latestAttempt? intentId,
      (∃ reservation ∈ db.reservation? attempt.reservationId,
        reservation.state.attemptId = some attempt.id ∧
        reservation.state.attemptFence = some attempt.fencingToken) ∧
      (attempt.state = .readyToInvoke ∨
        (table = .receipts ∧ attempt.state = .reconciliationRequired ∧
          (db.reconciliationOf? attempt.id).map (·.proofOutcome) ≠ some .notApplied)))
    (checkError "effect outcome lacks consumed invocation authority")

/-- These are the fields that a receipt repeats from its intent. -/
def intentBinding (intent : IntentRow) : ReceiptBindingPayload where
  intentId := intent.id
  runId := intent.runId
  effectKind := intent.kind
  target := intent.target
  inputFingerprint := intent.inputFingerprint
  validationReceiptId := intent.validationReceiptId
  candidateFingerprint := intent.candidateFingerprint
  artifactSetFingerprint := intent.artifactSetFingerprint

/-- A receipt repeats its intent, which still binds the latest validation receipt. -/
def enforceEffectReceiptPayloadBinding (db : Db) (row : ReceiptRow) : Except StoreError Unit :=
  require (∃ intent ∈ db.intent? row.intentId,
      row.payload.binding = some (intentBinding intent) ∧
      row.validationReceiptId = intent.validationReceiptId ∧
      row.candidateFingerprint = intent.candidateFingerprint ∧
      row.artifactSetFingerprint = intent.artifactSetFingerprint ∧
      ∃ validation ∈ db.latestValidation? intent.runId,
        validation.id = intent.validationReceiptId ∧
        intent.candidateFingerprint = validation.payload.protectedHeaders.candidateFingerprint ∧
        intent.artifactSetFingerprint = validation.payload.payload.artifactSetFingerprint)
    (checkError "effect receipt payload binding mismatch")

/-- A second receipt of an intent is dropped after the triggers have accepted it. -/
def insertReceipt (db : Db) (row : ReceiptRow) : Except StoreError Db := do
  enforceEffectOutcomeAuthority db .receipts row.intentId
  enforceEffectReceiptPayloadBinding db row
  match db.receiptOf? row.intentId with
  | some _ => pure db
  | none =>
      let receipts ← write (db.receipts.insert row)
      pure { db with receipts := receipts }

def insertFailure (db : Db) (row : FailureRow) : Except StoreError Db := do
  enforceEffectOutcomeAuthority db .failures row.intentId
  let failures ← write (db.failures.insert row)
  pure { db with failures := failures }

/-- A proof belongs to an attempt that requires it and that a reservation authorizes. -/
def enforceEffectReconciliationAuthority (db : Db) (row : ReconciliationRow) :
    Except StoreError Unit :=
  require (∃ attempt ∈ db.attempt? row.attemptId,
      attempt.state = .reconciliationRequired ∧
      ∃ reservation ∈ db.reservation? attempt.reservationId,
        reservation.state.attemptId = some attempt.id)
    (checkError "effect reconciliation authority rejected")

/-- A second proof of an attempt is dropped after the trigger has accepted it. -/
def insertReconciliation (db : Db) (row : ReconciliationRow) : Except StoreError Db := do
  enforceEffectReconciliationAuthority db row
  match db.reconciliationOf? row.attemptId with
  | some _ => pure db
  | none =>
      let reconciliations ← write (db.reconciliations.insert row)
      pure { db with reconciliations := reconciliations }

end LineageGuard
