import LineageGuard.Db.Statements
import LineageGuard.Library.ThreeValued
import Mathlib.Tactic

/-
This file translates the database functions that change a run or an effect.
-/

namespace LineageGuard

open Relational Attempt SqlLogic

/-- These are the digests that the database computes from its own rows. -/
structure SqlHashing where
  candidate : MigrationCandidate → Fingerprint
  runEventStream : List RunEvent → Fingerprint
  signedReceipt : Option SignedLiveValidationReceipt → Fingerprint
  approvalPayload : ApprovalPayload → Fingerprint
  intent : Option IntentRow → Fingerprint

def Db.events (db : Db) (runId : RunId) : List RunEvent := (db.eventRows runId).map (·.payload)

def currentRunEventPrefixFingerprint (sql : SqlHashing) (db : Db) (runId : Option RunId) :
    Fingerprint :=
  sql.runEventStream (runId.elim [] db.events)

section Runs

/-- These effects have a receipt that repeats the binding of its intent. -/
def recordedEffects (db : Db) (runId : RunId) (kind : EffectKind) :
    List (IntentRow × ReceiptRow × ValidationReceiptRow) :=
  (db.effects runId kind).filter fun (intent, receipt, validation) =>
    receipt.validationReceiptId = validation.id ∧
    receipt.candidateFingerprint = intent.candidateFingerprint ∧
    receipt.artifactSetFingerprint = intent.artifactSetFingerprint

/-- A status event carries these columns besides its payload. -/
def statusEventRow (runId : RunId) (sequence : ℕ) (event : RunEvent) (occurredAt : ℕ)
    (leaseId : LeaseId) (workerId : String) (generation : ℕ) (source target : RunStatus) :
    RunEventRow where
  id := event.eventId
  runId := runId
  sequence := sequence
  type := event.type
  payload := event
  createdAt := occurredAt
  leaseId := leaseId
  workerId := workerId
  generation := generation
  fromStatus := some source
  toStatus := some target

/-- The transition clears the lease of a run that it ends. -/
def RunRow.transitioned (target : RunStatus) (occurredAt : ℕ) (row : RunRow) : RunRow :=
  { row with
    status := target
    version := row.version + 1
    updatedAt := occurredAt
    lease := if isTerminalRunStatus target then none else row.lease }

def transitionRun (db : Db) (t : ℕ → ℕ) (runId : RunId) (source target : RunStatus)
    (leaseId : LeaseId) (workerId : String) (generation : ℕ) (occurredAt : ℕ) (event : RunEvent)
    (expectedVersion : ℕ) : Except StoreError (Db × RunRow) := do
  require (∃ run ∈ db.run? runId, run.version = expectedVersion)
    (checkError "transition version fence rejected")
  require (SqlTransition source target) (checkError "invalid status transition")
  whenever (target ∈ [.validated, .completed]) <|
    require (∃ validation ∈ db.validationReceipts.rows, validation.runId = runId ∧
        validation.payload.protectedHeaders.algorithm = .ed25519)
      (checkError "accepted validation prerequisite missing")
  whenever (target = .reviewArtifactCreated) <|
    require (recordedEffects db runId .githubReview ≠ [])
      (checkError "GitHub review receipt prerequisite missing")
  whenever (target = .completed) <|
    require (recordedEffects db runId .githubReview ≠ [] ∧
        recordedEffects db runId .datahubWriteback ≠ [])
      (checkError "completion prerequisites missing")
  let nextSequence := db.nextSequence runId
  require (event.sequence = nextSequence) (checkError "event sequence is stale")
  require (∃ run ∈ db.run? runId, run.status = source ∧ run.leaseGeneration = generation ∧
      ∃ lease ∈ run.lease, lease.leaseId = leaseId ∧ lease.workerId = workerId ∧
        t 0 < lease.expiresAt)
    (checkError "transition fence rejected")
  let updated ← updateRun db (t 1) runId
    [.status, .version, .updatedAt, .leaseId, .workerId, .leaseExpiresAt]
    (RunRow.transitioned target occurredAt)
  let stored ← insertRunEvent updated
    (statusEventRow runId nextSequence event occurredAt leaseId workerId generation source target)
  let changed ← present (stored.run? runId) (checkError "transition fence rejected")
  pure (stored, changed)

/-- Every append raises the version of its run. -/
def RunRow.bumped (updatedAt : ℕ) (row : RunRow) : RunRow :=
  { row with version := row.version + 1, updatedAt := updatedAt }

def signerInsertValidationReceipt (sql : SqlHashing) (db : Db) (t : ℕ → ℕ)
    (id : ValidationReceiptId) (runId : RunId) (position : ℕ)
    (payload : SignedLiveValidationReceipt) (guard : LeaseGuard) :
    Except StoreError Db := do
  require (∃ run ∈ db.run? runId, run.executionMode = .live ∧ run.status = .validating ∧
      run.leaseGeneration = guard.generation ∧ run.version = guard.fencingVersion ∧
      ∃ lease ∈ run.lease, lease.leaseId = guard.leaseId ∧ lease.workerId = guard.workerId ∧
        t 0 < lease.expiresAt)
    (checkError "live validation signer authority rejected")
  require (payload.protectedHeaders.runId = runId ∧
      (∃ candidate ∈ db.latestCandidate? runId,
        payload.protectedHeaders.candidateFingerprint = sql.candidate candidate.payload) ∧
      payload.protectedHeaders.authorizedRunEventStreamFingerprint =
        currentRunEventPrefixFingerprint sql db (some runId))
    (checkError "live validation signer authority rejected")
  let stored ← insertValidationReceipt db
    { id := id, runId := runId, position := position, payload := payload }
  updateRun stored (t 1) runId [.version, .updatedAt] (RunRow.bumped (t 1))

end Runs

section Approvals

/-- The payload of an approval repeats its columns. -/
def approvalColumnsPayload (row : ApprovalRow) : ApprovalPayload where
  runId := row.runId
  effectKind := validationEffectKind row.kind
  target := row.target
  inputFingerprint := row.inputFingerprint
  validationReceiptId := row.validationReceiptId
  validationReceiptFingerprint := row.validationReceiptFingerprint
  validationCompletedAt := row.payload.validationCompletedAt
  approvedBy := row.approvedBy
  approvedAt := row.payload.approvedAt
  expiresAt := row.payload.expiresAt

/-- An approval lasts at most one hour of the database clock. -/
def approvalInterval : ℕ := 3600000000

def enforceEffectApprovalBinding (sql : SqlHashing) (db : Db) (now : ℕ) (row : ApprovalRow) :
    Except StoreError Unit := do
  require (∀ run ∈ db.run? row.runId, run.executionMode = .live ∧
      run.status = effectState row.kind ∧ ∀ lease ∈ run.lease, now < lease.expiresAt)
    (checkError "approval payload or authority is not canonical")
  require (row.approvedAt ≤ now ∧ now < row.expiresAt ∧
      row.expiresAt ≤ now + approvalInterval ∧ row.approvedAt < row.expiresAt)
    (checkError "approval payload or authority is not canonical")
  require (∃ validation ∈ db.latestValidation? row.runId,
      row.validationReceiptId = validation.id ∧
      row.validationReceiptFingerprint = sql.signedReceipt (some validation.payload) ∧
      row.validationCompletedAt = validation.payload.payload.completedAt.instant ∧
      row.validationCompletedAt ≤ row.approvedAt)
    (checkError "approval payload or authority is not canonical")
  require (row.payload = approvalColumnsPayload row ∧
      row.payload.validationCompletedAt.instant = row.validationCompletedAt ∧
      row.payload.approvedAt.instant = row.approvedAt ∧
      row.payload.expiresAt.instant = row.expiresAt ∧
      row.approvalFingerprint = sql.approvalPayload row.payload)
    (checkError "approval payload or authority is not canonical")
  require (row.approvalAssertion.protectedHeaders.purpose = "LINEAGEGUARD_EFFECT_APPROVAL" ∧
      row.approvalAssertion.protectedHeaders.schemaVersion = 2 ∧
      row.approvalAssertion.protectedHeaders.algorithm = .ed25519 ∧
      row.approvalAssertion.payload = row.payload)
    (checkError "approval payload or authority is not canonical")

/-- A second approval with the same fingerprint is dropped after the trigger has accepted it. -/
def insertApproval (sql : SqlHashing) (db : Db) (now : ℕ) (row : ApprovalRow) :
    Except StoreError (Db × Option ApprovalRow) := do
  enforceEffectApprovalBinding sql db now row
  match db.approvals.find? fun found => found.approvalFingerprint = row.approvalFingerprint with
  | some _ => pure (db, none)
  | none =>
      let approvals ← write (db.approvals.insert row)
      reference (db.run? row.runId)
      pure ({ db with approvals := approvals }, some row)

def approvalInsertEffectApproval (sql : SqlHashing) (db : Db) (t : ℕ → ℕ) (row : ApprovalRow)
    (guard : LeaseGuard) : Except StoreError (Db × Option ApprovalRow) := do
  require (∃ run ∈ db.run? row.runId, run.leaseGeneration = guard.generation ∧
      run.version = guard.fencingVersion ∧
      ∃ lease ∈ run.lease, lease.leaseId = guard.leaseId ∧ lease.workerId = guard.workerId)
    (checkError "approval authority fence rejected")
  insertApproval sql db (t 1) { row with createdAt := t 0 }

end Approvals

section Effects

def effectInsertIntent (db : Db) (t : ℕ → ℕ) (row : IntentRow) (guard : LeaseGuard) :
    Except StoreError Db := do
  require (∃ run ∈ db.run? row.runId, run.executionMode = .live ∧
      run.status = effectState row.kind ∧
      run.leaseGeneration = guard.generation ∧ run.version = guard.fencingVersion ∧
      ∃ lease ∈ run.lease, lease.leaseId = guard.leaseId ∧ lease.workerId = guard.workerId ∧
        t 0 < lease.expiresAt)
    (checkError "effect intent authority rejected")
  let stored ← insertIntent db row
  updateRun stored (t 1) row.runId [.version, .updatedAt] (RunRow.bumped (t 1))

/-- A missing kind falls into the last case of the expression. -/
def statusOfKind : Option EffectKind → RunStatus
  | some .githubReview => .validated
  | _ => .writebackPending

structure ReserveArguments where
  id : Option ReservationId
  runId : Option RunId
  intentId : Option IntentId
  idempotencyKey : Option String
  kind : Option EffectKind
  target : Option String
  inputFingerprint : Option Fingerprint
  validationReceiptId : Option ValidationReceiptId
  validationReceiptFingerprint : Option Fingerprint
  approvalId : Option ApprovalId
  approvalFingerprint : Option Fingerprint
  eventPrefixFingerprint : Option Fingerprint
  leaseId : Option LeaseId
  workerId : Option String
  generation : Option ℕ
  expectedVersion : Option ℕ
  tokenHash : Option Fingerprint
  invokeBy : Option ℕ

/-- The approval query compares every argument in its `WHERE` clause. -/
def reservedApproval? (db : Db) (args : ReserveArguments) : Option ApprovalRow :=
  db.approvals.find? fun row => some row.id = args.approvalId ∧ some row.runId = args.runId ∧
    some row.kind = args.kind ∧ some row.target = args.target ∧
    some row.inputFingerprint = args.inputFingerprint

def reserveGuards (sql : SqlHashing) (db : Db) (t : ℕ → ℕ) (args : ReserveArguments) :
    List Truth :=
  let run := args.runId.bind db.run?
  let lease := run.bind (·.lease)
  let intent := args.intentId.bind db.intent?
  let validation := args.runId.bind db.latestValidation?
  let approval := reservedApproval? db args
  [isNull run,
    notEqual (run.map (·.executionMode)) (some .live),
    notEqual (run.map (·.version)) args.expectedVersion,
    notEqual (run.map (·.status)) (some (statusOfKind args.kind)),
    isDistinct (lease.map (·.leaseId)) args.leaseId,
    isDistinct (lease.map (·.workerId)) args.workerId,
    isDistinct (run.map (·.leaseGeneration)) args.generation,
    lessEqual (lease.map (·.expiresAt)) (some (t 0)),
    greater args.invokeBy (lease.map (·.expiresAt)),
    notEqual (some (currentRunEventPrefixFingerprint sql db args.runId))
      args.eventPrefixFingerprint,
    isNull intent,
    notEqual (intent.map (·.runId)) args.runId,
    notEqual (intent.map (·.idempotencyKey)) args.idempotencyKey,
    notEqual (intent.map (·.kind)) args.kind,
    notEqual (intent.map (·.target)) args.target,
    notEqual (intent.map (·.inputFingerprint)) args.inputFingerprint,
    isDistinct (validation.map (·.id)) args.validationReceiptId,
    isDistinct args.validationReceiptFingerprint
      (some (sql.signedReceipt (validation.map (·.payload)))),
    isNull approval,
    notEqual (approval.map (·.approvalFingerprint)) args.approvalFingerprint,
    notEqual (approval.map (·.validationReceiptId)) args.validationReceiptId,
    notEqual (approval.map (·.validationReceiptFingerprint)) args.validationReceiptFingerprint,
    notEqual (approval.map (·.approvalAssertion.protectedHeaders.schemaVersion)) (some 2),
    isDistinct (approval.map (·.approvalAssertion.payload)) (approval.map (·.payload)),
    lessEqual (approval.map (·.expiresAt)) (some (t 1)),
    greater args.invokeBy (approval.map (·.expiresAt)),
    lessEqual args.invokeBy (some (t 2))]

def notNull {A : Type} (value : Option A) : Except StoreError A :=
  present value (.database .notNullViolation "null value in a column that is not null")

def effectReserveCurrent (sql : SqlHashing) (db : Db) (t : ℕ → ℕ) (args : ReserveArguments) :
    Except StoreError (Db × ReservationRow) := do
  reject (Holds (anyOf (reserveGuards sql db t args)))
    (checkError "effect reservation authority rejected")
  let id ← notNull args.id
  let runId ← notNull args.runId
  let intentId ← notNull args.intentId
  let idempotencyKey ← notNull args.idempotencyKey
  let kind ← notNull args.kind
  let target ← notNull args.target
  let inputFingerprint ← notNull args.inputFingerprint
  let validationReceiptId ← notNull args.validationReceiptId
  let validationReceiptFingerprint ← notNull args.validationReceiptFingerprint
  let approvalId ← notNull args.approvalId
  let approvalFingerprint ← notNull args.approvalFingerprint
  let eventPrefixFingerprint ← notNull args.eventPrefixFingerprint
  let leaseId ← notNull args.leaseId
  let workerId ← notNull args.workerId
  let generation ← notNull args.generation
  let runVersion ← notNull args.expectedVersion
  let tokenHash ← notNull args.tokenHash
  let invokeBy ← notNull args.invokeBy
  let runStatus ← notNull ((db.run? runId).map (·.status))
  let row : ReservationRow :=
    { id, runId, intentId, idempotencyKey, kind, target, inputFingerprint
      intentFingerprint := sql.intent (db.intent? intentId)
      validationReceiptId, validationReceiptFingerprint, approvalId, approvalFingerprint
      eventPrefixFingerprint, runVersion, runStatus, leaseId, workerId, generation, tokenHash
      invokeBy
      state := .reserved }
  let stored ← insertReservation db row
  pure (stored, row)

/-- The three functions that follow take the same arguments. -/
structure EffectArguments where
  id : Option ReservationId
  tokenHash : Option Fingerprint
  runId : Option RunId
  intentId : Option IntentId
  idempotencyKey : Option String
  kind : Option EffectKind
  target : Option String
  canonicalEffectFingerprint : Option Fingerprint
  validationReceiptId : Option ValidationReceiptId
  validationReceiptFingerprint : Option Fingerprint
  approvalId : Option ApprovalId
  approvalFingerprint : Option Fingerprint
  intentFingerprint : Option Fingerprint
  deriving DecidableEq, Repr

/-- These comparisons bind the arguments to the reservation. -/
def bindingGuards (reservation : ReservationRow) (args : EffectArguments) : List Truth :=
  [notEqual (some reservation.tokenHash) args.tokenHash,
    notEqual (some reservation.runId) args.runId,
    notEqual (some reservation.intentId) args.intentId,
    notEqual (some reservation.idempotencyKey) args.idempotencyKey,
    notEqual (some reservation.kind) args.kind,
    notEqual (some reservation.target) args.target,
    notEqual (some reservation.inputFingerprint) args.canonicalEffectFingerprint,
    notEqual (some reservation.validationReceiptId) args.validationReceiptId,
    notEqual (some reservation.validationReceiptFingerprint) args.validationReceiptFingerprint,
    notEqual (some reservation.approvalId) args.approvalId,
    notEqual (some reservation.approvalFingerprint) args.approvalFingerprint,
    notEqual (some reservation.intentFingerprint) args.intentFingerprint]

/-- This comparison recomputes the fingerprint of the stored intent. -/
def intentGuard (sql : SqlHashing) (db : Db) (args : EffectArguments) : Truth :=
  notEqual (some (sql.intent (args.intentId.bind db.intent?))) args.intentFingerprint

/-- These comparisons bind the reservation to the current rows of its run. -/
def staleGuards (sql : SqlHashing) (db : Db) (t : ℕ → ℕ) (reservation : ReservationRow)
    (args : EffectArguments) : List Truth :=
  let run := args.runId.bind db.run?
  let lease := run.bind (·.lease)
  let validation := args.runId.bind db.latestValidation?
  let approval := args.approvalId.bind db.approval?
  [notEqual (run.map (·.executionMode)) (some .live),
    notEqual (run.map (·.version)) (some reservation.runVersion),
    notEqual (run.map (·.status)) (some reservation.runStatus),
    isDistinct (lease.map (·.leaseId)) (some reservation.leaseId),
    isDistinct (lease.map (·.workerId)) (some reservation.workerId),
    isDistinct (run.map (·.leaseGeneration)) (some reservation.generation),
    lessEqual (lease.map (·.expiresAt)) (some (t 0)),
    lessEqual (some reservation.invokeBy) (some (t 1)),
    notEqual (some (currentRunEventPrefixFingerprint sql db args.runId))
      (some reservation.eventPrefixFingerprint),
    isDistinct (validation.map (·.id)) (some reservation.validationReceiptId),
    isDistinct (some reservation.validationReceiptFingerprint)
      (some (sql.signedReceipt (validation.map (·.payload)))),
    isNull approval,
    notEqual (approval.map (·.approvalFingerprint)) (some reservation.approvalFingerprint),
    notEqual (approval.map (·.validationReceiptId)) (some reservation.validationReceiptId),
    notEqual (approval.map (·.validationReceiptFingerprint))
      (some reservation.validationReceiptFingerprint),
    notEqual (approval.map (·.approvalAssertion.protectedHeaders.schemaVersion)) (some 2),
    isDistinct (approval.map (·.approvalAssertion.payload)) (approval.map (·.payload)),
    lessEqual (approval.map (·.expiresAt)) (some (t 2))]

def effectVerifyCurrent (sql : SqlHashing) (db : Db) (t : ℕ → ℕ) (args : EffectArguments) :
    Except StoreError ReservationRow := do
  let reservation ← present (args.id.bind db.reservation?)
    (checkError "effect reservation claim binding rejected")
  reject (Holds (anyOf (bindingGuards reservation args ++ [intentGuard sql db args])))
    (checkError "effect reservation claim binding rejected")
  reject (reservation.state = .reserved ∧ Holds (anyOf (staleGuards sql db t reservation args)))
    (checkError "effect reservation is stale or expired")
  pure reservation

structure ConsumedEffect where
  reservationId : ReservationId
  canonicalEffectFingerprint : Option Fingerprint
  invokeBy : ℕ
  attemptId : AttemptId
  attemptFence : AttemptFence

/-- The two identifiers are the random ones that the function draws. -/
def effectConsumeCurrent (sql : SqlHashing) (db : Db) (t : ℕ → ℕ) (args : EffectArguments)
    (attemptId : AttemptId) (attemptFence : AttemptFence) :
    Except StoreError (Db × ConsumedEffect) := do
  let reservation ← present (args.id.bind db.reservation?)
    (checkError "effect reservation consume rejected")
  reject (reservation.state ≠ .reserved) (checkError "effect reservation consume rejected")
  reject (Holds (anyOf (bindingGuards reservation args ++ intentGuard sql db args ::
      staleGuards sql db t reservation args)))
    (checkError "effect reservation consume rejected")
  let nextAttempt := args.intentId.elim 1 db.nextAttempt
  require (nextAttempt ≤ 3) (checkError "effect attempt limit reached")
  let consumed ← updateReservation db reservation.id (.consumed attemptId attemptFence (t 3))
  let intentId ← notNull args.intentId
  let stored ← insertAttempt consumed
    { id := attemptId, intentId, attempt := nextAttempt, workerId := reservation.workerId
      fencingToken := attemptFence, state := .readyToInvoke, claimedAt := t 4
      claimExpiresAt := reservation.invokeBy, updatedAt := t 5
      reservationId := reservation.id }
  pure (stored, ⟨reservation.id, args.canonicalEffectFingerprint, reservation.invokeBy, attemptId,
    attemptFence⟩)

def effectCancelReservationBeforeSend (db : Db) (args : EffectArguments) :
    Except StoreError Db := do
  let reservation ← present (args.id.bind db.reservation?)
    (checkError "pre-send reservation cancellation rejected")
  reject (reservation.state ≠ .reserved)
    (checkError "pre-send reservation cancellation rejected")
  reject (Holds (anyOf (bindingGuards reservation args)))
    (checkError "pre-send reservation cancellation rejected")
  updateReservation db reservation.id .cancelledPreSend

end Effects

end LineageGuard
