import LineageGuard.Store.Validation
import Mathlib.Tactic

/-
This file translates the status transitions, the retries and the appends of a leased run.
-/

namespace LineageGuard

open Relational Attempt

namespace Store

variable (env : Environment)

/-- A transition reads the clock and the stream before it waits for the lock of its run. The lag is the
wait, and the reader has seen that many events. -/
structure EarlierRead where
  lag : ℕ
  seen : ℕ

def earlierNow (t : ℕ → ℕ) (read : EarlierRead) : ℕ := toDate (t 0 - read.lag)

def earlierRows (db : Db) (runId : RunId) (read : EarlierRead) : List RunEventRow :=
  (db.eventRows runId).take read.seen

def eventGuard (event : RunEvent) (fencingVersion : ℕ) : LeaseGuard :=
  ⟨event.leaseId, event.workerId, event.generation, fencingVersion⟩

def assertBoundEffectReceipt (db : Db) (runId : RunId) (kind : EffectKind) :
    Except StoreError ReceiptBindingPayload :=
  match (recordedEffects db runId kind).filter fun (intent, _, validation) =>
      intent.candidateFingerprint = validation.payload.protectedHeaders.candidateFingerprint ∧
      intent.artifactSetFingerprint = validation.payload.payload.artifactSetFingerprint with
  | [(intent, receipt, _)] => assertEffectReceiptPayload env db intent receipt.payload
  | _ => .error (.stateConflict "effect requires a successful validation-bound receipt")

def assertCompletionPrerequisites (db : Db) (runId : RunId) : Except StoreError Unit := do
  let github ← assertBoundEffectReceipt env db runId .githubReview
  let datahub ← assertBoundEffectReceipt env db runId .datahubWriteback
  require (github.validationReceiptId = datahub.validationReceiptId ∧
      github.candidateFingerprint = datahub.candidateFingerprint ∧
      github.artifactSetFingerprint = datahub.artifactSetFingerprint)
    (.stateConflict "completed effects do not share one authenticated binding")

/-- These checks depend on the status that the run enters. -/
def transitionPrerequisites (db : Db) (now : ℕ) (runId : RunId) (target : RunStatus) :
    Except StoreError Unit :=
  match target with
  | .validated => do
      let _ ← assertAcceptedValidation env db now runId true false
      pure ()
  | .reviewArtifactCreated => do
      let _ ← assertBoundEffectReceipt env db runId .githubReview
      pure ()
  | .completed => do
      let _ ← assertAcceptedValidation env db now runId false false
      assertCompletionPrerequisites env db runId
  | _ => .ok ()

def transition (db : Db) (t : ℕ → ℕ) (read : EarlierRead) (untrustedEvent : RunEvent)
    (expectedVersion : ℕ) : Except StoreError (Db × RunRow × EventRecord) := do
  let runId := untrustedEvent.runId
  require (expectedVersion ≤ maxSafeInteger)
    (.type "expected run version must be a non-negative safe integer")
  let now := earlierNow t read
  let event ← authorizeEvent (earlierRows db runId read)
    { untrustedEvent with occurredAt := toISOString now } now
  match event.body with
  | .statusChanged source target _ => do
      let row ← lockRunForLease db (t 0) event.runId (eventGuard event expectedVersion)
      require (row.status = source) (.stateConflict "event from-state is stale")
      require (event.sequence = db.nextSequence event.runId)
        (.stateConflict "event sequence is stale")
      transitionPrerequisites env db (t 1) event.runId target
      let (stored, changed) ← transitionRun db (fun reading => t (reading + 2)) event.runId source
        target event.leaseId event.workerId event.generation (toTimestamp now) event expectedVersion
      let inserted ← present (stored.runEvents.find? fun row => row.id = event.eventId)
        (.notFound "event not found")
      let persisted ← eventFromRow inserted event
      let record ← runFromRow changed
      pure (stored, record, persisted)
  | _ => .error (.stateConflict "transition requires RUN_STATUS_CHANGED")

def RunRow.retried (retryAt occurredAt : ℕ) (row : RunRow) : RunRow :=
  { row with
    nextAttemptAt := retryAt
    lease := none
    version := row.version + 1
    updatedAt := occurredAt }

/-- The store fills in the times of a retry event that it receives. -/
def retryEvent (untrustedEvent : RunEvent) (now : ℕ) : Except StoreError RunEvent :=
  match untrustedEvent.body with
  | .retryScheduled operation attempt _ reason => do
      let delay ← present (retryDelay attempt) (.type "retry attempt must be 1-3")
      pure { untrustedEvent with
        occurredAt := toISOString now
        body := .retryScheduled operation attempt (toISOString (now + delay)) reason }
  | _ => .error (.type "retry attempt must be 1-3")

/-- The guard takes the version that the transaction has read before the lock. -/
def scheduleRetry (db : Db) (t : ℕ → ℕ) (read : EarlierRead) (seenVersion : ℕ)
    (untrustedEvent : RunEvent) (retryId : RetryId) (releasedEventId : EventId) :
    Except StoreError (Db × RunRow × RetryAttemptRow) := do
  let runId := untrustedEvent.runId
  let now := earlierNow t read
  let proposed ← retryEvent untrustedEvent now
  let event ← authorizeEvent (earlierRows db runId read) proposed now
  match event.body with
  | .retryScheduled operation attempt retryAt _ => do
      let guard := eventGuard event seenVersion
      let _ ← lockRunForLease db (t 0) event.runId guard
      let retry : RetryAttemptRow :=
        { id := retryId, runId := event.runId, operation, attempt
          retryAt := retryAt.instant, createdAt := event.occurredAt.instant }
      let retried ← insertRetryAttempt db retry
      let appended ← appendEvent retried event
      let released ← authorizeEvent (appended.eventRows event.runId)
        (releasedEvent event.runId guard releasedEventId (event.sequence + 1) now) now
      let closed ← appendEvent appended released
      let updated ← updateRun closed (t 1) event.runId
        [.nextAttemptAt, .leaseId, .workerId, .leaseExpiresAt, .version, .updatedAt]
        (RunRow.retried retryAt.instant event.occurredAt.instant)
      let run ← present (updated.run? event.runId) (.notFound "run not found")
      let record ← runFromRow run
      pure (updated, record, retry)
  | _ => .error (.stateConflict "scheduleRetry requires RUN_RETRY_SCHEDULED")

/-- An append adds one record under a lease and raises the version of the run. -/
def appendUnderLease {Id : Type} (db : Db) (t : ℕ → ℕ) (runId : RunId) (guard : LeaseGuard)
    (insert : RunRow → Except StoreError (Db × Id × ℕ)) :
    Except StoreError (Db × Id × ℕ × ℕ) := do
  let row ← lockRunForLease db (t 0) runId guard
  let (stored, id, position) ← insert row
  let updated ← updateRun stored (t 1) runId [.version, .updatedAt] (RunRow.bumped (t 1))
  pure (updated, id, position, guard.fencingVersion + 1)

/-- This is `appendBundle` for the kind `EVIDENCE`. -/
def appendEvidenceBundle (db : Db) (t : ℕ → ℕ) (runId : RunId) (guard : LeaseGuard)
    (payload : Jsonb) (id : BundleId) : Except StoreError (Db × BundleId × ℕ × ℕ) := do
  canonical payload 1048576
  appendUnderLease db t runId guard fun _ => do
    let position := db.nextBundlePosition runId .evidence
    let stored ← insertRunBundle db ⟨id, runId, position, .evidence payload⟩
    pure (stored, id, position)

def documentOfResult : ImpactCollectionResult → Jsonb
  | .failed _ report => report
  | .collected context => context.document

/-- This is also `appendBundle` for the kind `CONTEXT`. -/
def appendImpactCollectionResult (db : Db) (t : ℕ → ℕ) (runId : RunId) (guard : LeaseGuard)
    (payload : ImpactCollectionResult) (id : BundleId) :
    Except StoreError (Db × BundleId × ℕ × ℕ) := do
  canonical (documentOfResult payload) 1048576
  appendUnderLease db t runId guard fun row => do
    require (row.executionMode = collectionMode payload)
      (.stateConflict "impact collection mode does not match immutable run mode")
    let position := db.nextBundlePosition runId .context
    let stored ← insertRunBundle db ⟨id, runId, position, .context payload⟩
    pure (stored, id, position)

def appendMigrationCandidate (db : Db) (t : ℕ → ℕ) (runId : RunId) (guard : LeaseGuard)
    (payload : MigrationCandidate) (id : MigrationId) :
    Except StoreError (Db × MigrationId × ℕ × ℕ) := do
  canonical payload.document 2097152
  appendUnderLease db t runId guard fun _ => do
    let position := db.nextCandidatePosition runId
    let stored ← insertMigrationCandidate db ⟨id, runId, position, payload⟩
    pure (stored, id, position)

/-- A decision leaves the update time of its run unchanged. -/
def saveDecision (db : Db) (t : ℕ → ℕ) (runId : RunId) (guard : LeaseGuard)
    (scope : DecisionScope) (payload : Jsonb) (id : DecisionId) :
    Except StoreError (Db × DecisionId × ℕ) := do
  canonical payload 1048576
  let row ← lockRunForLease db (t 0) runId guard
  let stored ← insertRunDecision db ⟨id, runId, scope, payload⟩
  let updated ← updateRun stored (t 1) runId [.version] (RunRow.bumped row.updatedAt)
  pure (updated, id, guard.fencingVersion + 1)

end Store

end LineageGuard
