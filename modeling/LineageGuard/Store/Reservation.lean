import LineageGuard.Store.Effects
import Mathlib.Tactic

/-
This file translates the reservation of the store and the snapshot that it returns.
-/

namespace LineageGuard

open Relational Attempt

structure ValidationEffectRequest where
  runId : RunId
  effectKind : ValidationEffectKind
  inputFingerprint : Fingerprint
  target : String
  intentId : IntentId
  idempotencyKey : String
  deriving DecidableEq, Repr

/-- A token writes 32 random bytes with the characters of a signature. -/
structure ReservationToken where
  text : String
  alphabet : text.toList.all Store.signatureAlphabet = true
  length : text.length = 43

/-- These are the random values of a reservation and the digest of its token. -/
structure ReservationDraw where
  reservationId : ReservationId
  token : ReservationToken
  tokenHash : Fingerprint

structure SnapshotLease where
  leaseId : LeaseId
  workerId : String
  generation : ℕ
  expiresAt : IsoDateTime
  deriving DecidableEq, Repr

inductive ApprovalStatus
  | approved | other
  deriving DecidableEq, Repr

structure SnapshotApproval where
  status : ApprovalStatus
  approvedBy : String
  approvedAt : IsoDateTime
  expiresAt : IsoDateTime
  validationReceiptId : ValidationReceiptId
  validationReceiptFingerprint : Fingerprint
  validationCompletedAt : IsoDateTime
  approvalFingerprint : Fingerprint
  approvalId : ApprovalId
  deriving DecidableEq, Repr

/-- The store returns this snapshot after it has committed the reservation. -/
structure CurrentEffectReservationSnapshot where
  originalValidationBinding : ValidationAuthorityBinding
  originalValidationEventPrefix : List RunEvent
  currentRunEventStream : List RunEvent
  currentStatus : RunStatus
  currentLease : SnapshotLease
  effectKind : ValidationEffectKind
  inputFingerprint : Fingerprint
  target : String
  intentId : IntentId
  idempotencyKey : String
  approval : SnapshotApproval
  validationReceiptId : ValidationReceiptId
  validationReceiptFingerprint : Fingerprint
  approvalId : ApprovalId
  approvalFingerprint : Fingerprint
  storedLiveReceipt : SignedLiveValidationReceipt
  storedLiveReceiptFingerprint : Fingerprint
  reservationId : ReservationId
  reservationToken : ReservationToken
  intentFingerprint : Fingerprint
  invokeBy : IsoDateTime
  trustedDatabaseTime : IsoDateTime

/-- The kind of a request names the kind of the effect. -/
def requestedKind : ValidationEffectKind → EffectKind
  | .githubWrite => .githubReview
  | .datahubWrite => .datahubWriteback

namespace Store

variable (env : Environment)

/-- These are the rows that a reservation reads. -/
structure ReservationRead where
  run : RunRow
  lease : RunLease
  validation : ValidationReceiptRow
  intent : IntentRow
  binding : ValidationAuthorityBinding
  events : List RunEvent
  approval : ApprovalRow

def requestedIntent? (db : Db) (request : ValidationEffectRequest) : Option IntentRow :=
  db.intents.find? fun row => row.id = request.intentId ∧ row.runId = request.runId ∧
    row.kind = requestedKind request.effectKind ∧ row.target = request.target ∧
    row.inputFingerprint = request.inputFingerprint ∧
    row.idempotencyKey = request.idempotencyKey

def requestedApproval (request : ValidationEffectRequest) : ApprovalRequest :=
  ⟨request.runId, requestedKind request.effectKind, request.target, request.inputFingerprint⟩

def readReservation (db : Db) (now : ℕ) (request : ValidationEffectRequest)
    (validationReceiptFingerprint : Fingerprint) : Except StoreError ReservationRead := do
  let row ← present (db.run? request.runId) (.notFound "run not found")
  let run ← runFromRow row
  require (run.status = effectState (requestedKind request.effectKind))
    (.leaseConflict "effect snapshot requires the exact current state and lease")
  let lease ← present run.lease
    (.leaseConflict "effect snapshot requires the exact current state and lease")
  require (toTimestamp now < lease.expiresAt)
    (.leaseConflict "effect snapshot requires the exact current state and lease")
  let validation ← present (db.latestValidation? request.runId)
    (.stateConflict "effect snapshot requires validation")
  let receipt := validation.payload
  require (env.script.receiptId receipt = validation.id)
    (.corruptData "stored validation receipt ID does not match its content")
  require (env.script.signedReceipt receipt = validationReceiptFingerprint)
    (.stateConflict "effect reservation validation receipt is stale")
  let intent ← present (requestedIntent? db request)
    (.stateConflict "effect reservation requires the exact persisted intent")
  require (intent.validationReceiptId = validation.id)
    (.stateConflict "effect reservation requires the exact persisted intent")
  let binding ← validationBinding env db request.runId
    (some receipt.protectedHeaders.authorizedRunEventStreamFingerprint)
  requireLiveEffectContext binding.context
  let records ← authorizedEvents (db.eventRows request.runId)
  let approval ← requireCurrentApproval env db (requestedApproval request) now
  pure ⟨run, lease, validation, intent, binding, records.map (·.payload), approval⟩

/-- A reservation lasts 30 seconds, and never longer than the lease or the approval. -/
def ReservationRead.invokeBy (read : ReservationRead) (now : ℕ) : ℕ :=
  min (now + 30000) (min (toDate read.lease.expiresAt) (toDate read.approval.expiresAt))

def ReservationRead.arguments (read : ReservationRead) (now : ℕ)
    (request : ValidationEffectRequest) (draw : ReservationDraw) : ReserveArguments where
  id := some draw.reservationId
  runId := some request.runId
  intentId := some request.intentId
  idempotencyKey := some request.idempotencyKey
  kind := some (requestedKind request.effectKind)
  target := some request.target
  inputFingerprint := some request.inputFingerprint
  validationReceiptId := some read.validation.id
  validationReceiptFingerprint := some (env.script.signedReceipt read.validation.payload)
  approvalId := some read.approval.id
  approvalFingerprint := some read.approval.approvalFingerprint
  eventPrefixFingerprint := some (env.script.runEventStream read.events)
  leaseId := some read.lease.leaseId
  workerId := some read.lease.workerId
  generation := some read.run.leaseGeneration
  expectedVersion := some read.run.version
  tokenHash := some draw.tokenHash
  invokeBy := some (toTimestamp (read.invokeBy now))

def ReservationRead.snapshotApproval (read : ReservationRead) : SnapshotApproval where
  status := .approved
  approvedBy := read.approval.approvedBy
  approvedAt := toISOString (toDate read.approval.approvedAt)
  expiresAt := toISOString (toDate read.approval.expiresAt)
  validationReceiptId := read.approval.validationReceiptId
  validationReceiptFingerprint := read.approval.validationReceiptFingerprint
  validationCompletedAt := toISOString (toDate read.approval.validationCompletedAt)
  approvalFingerprint := read.approval.approvalFingerprint
  approvalId := read.approval.id

def ReservationRead.snapshot (read : ReservationRead) (now : ℕ)
    (request : ValidationEffectRequest) (draw : ReservationDraw)
    (intentFingerprint : Fingerprint) : CurrentEffectReservationSnapshot where
  originalValidationBinding := read.binding
  originalValidationEventPrefix := read.binding.authorizedRunEventStream
  currentRunEventStream := read.events
  currentStatus := read.run.status
  currentLease := ⟨read.lease.leaseId, read.lease.workerId, read.run.leaseGeneration,
    toISOString (toDate read.lease.expiresAt)⟩
  effectKind := request.effectKind
  inputFingerprint := request.inputFingerprint
  target := request.target
  intentId := request.intentId
  idempotencyKey := request.idempotencyKey
  approval := read.snapshotApproval
  validationReceiptId := read.validation.id
  validationReceiptFingerprint := env.script.signedReceipt read.validation.payload
  approvalId := read.approval.id
  approvalFingerprint := read.approval.approvalFingerprint
  storedLiveReceipt := read.validation.payload
  storedLiveReceiptFingerprint := env.script.signedReceipt read.validation.payload
  reservationId := draw.reservationId
  reservationToken := draw.token
  intentFingerprint := intentFingerprint
  invokeBy := toISOString (read.invokeBy now)
  trustedDatabaseTime := toISOString now

/-- The reservation commits before the caller sees its snapshot. -/
def reserveCurrentEffect (db : Db) (t : ℕ → ℕ) (request : ValidationEffectRequest)
    (validationReceiptFingerprint : Fingerprint) (draw : ReservationDraw) :
    Except StoreError (Db × CurrentEffectReservationSnapshot) := do
  require (1 ≤ utf16Length request.target ∧ utf16Length request.target ≤ 500)
    (.type "effect target must be 1-500 characters")
  let now := toDate (t 0)
  let read ← readReservation env db now request validationReceiptFingerprint
  require (now < read.invokeBy now) (.leaseConflict "effect reservation authority expired")
  let (stored, row) ← effectReserveCurrent env.sql db (fun reading => t (reading + 1))
    (read.arguments env now request draw)
  require (row.id = draw.reservationId) (.stateConflict "effect reservation was not stored")
  pure (stored, read.snapshot env now request draw row.intentFingerprint)

end Store

end LineageGuard
