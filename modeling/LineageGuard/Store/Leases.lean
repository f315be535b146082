import LineageGuard.Db.Functions
import Mathlib.Tactic

/-
This file translates the creation and the leases of runs.
-/

namespace LineageGuard

open Relational Attempt

structure EventRecord where
  id : EventId
  runId : RunId
  sequence : ℕ
  type : RunEventType
  payload : RunEvent
  createdAt : ℕ

namespace Store

/-- A document is stored only when its canonical text is short enough. -/
def canonical (payload : Jsonb) (maxBytes : ℕ) : Except StoreError Unit :=
  require (payload.bytes ≤ maxBytes) (.type "payload exceeds its limit")

/-- The version of a record must be a safe integer of the script. -/
def runFromRow (row : RunRow) : Except StoreError RunRow := do
  require (row.version ≤ maxSafeInteger) (.stateConflict "run version is not a safe integer")
  pure row

/-- The creation returns an old run with the same request key. -/
def createRun (db : Db) (t : ℕ → ℕ) (id : RunId) (requestKey : String)
    (inputFingerprint : Fingerprint) (executionMode : ExecutionMode) (payload : Jsonb)
    (nextAttemptAt : ℕ) : Except StoreError (Db × RunRow) := do
  canonical payload 1048576
  match db.runs.find? fun row => row.requestKey = requestKey with
  | some row =>
      require (row.inputFingerprint = inputFingerprint ∧ row.executionMode = executionMode)
        (.idempotencyConflict "request key was reused with different input")
      let run ← runFromRow row
      pure (db, run)
  | none =>
      let row : RunRow :=
        { id, requestKey, inputFingerprint, executionMode, status := .created, payload
          version := 0, nextAttemptAt := toTimestamp nextAttemptAt, lease := none
          leaseGeneration := 0, createdAt := t 0, updatedAt := t 1 }
      let runs ← write (db.runs.insert row)
      let run ← runFromRow row
      pure ({ db with runs := runs }, run)

/-- This is the row that the insertion of an event writes. -/
def eventRow (event : RunEvent) : RunEventRow where
  id := event.eventId
  runId := event.runId
  sequence := event.sequence
  type := event.type
  payload := event
  createdAt := event.occurredAt.instant
  leaseId := event.leaseId
  workerId := event.workerId
  generation := event.generation
  fromStatus := match event.body with
    | .statusChanged source _ _ => some source
    | _ => none
  toStatus := match event.body with
    | .statusChanged _ target _ => some target
    | _ => none

def eventFromRow (row : RunEventRow) (payload : RunEvent) : Except StoreError EventRecord := do
  require (payload.eventId = row.id ∧ payload.runId = row.runId ∧
      payload.sequence = row.sequence ∧ payload.type = row.type ∧
      payload.occurredAt.time = toDate row.createdAt)
    (.corruptData "persisted run event columns do not match its domain payload")
  pure ⟨row.id, row.runId, payload.sequence, payload.type, payload, toDate row.createdAt⟩

def appendEvent (db : Db) (event : RunEvent) : Except StoreError Db := do
  let stored ← insertRunEvent db (eventRow event)
  let _ ← eventFromRow (eventRow event) event
  pure stored

/-- The stored rows are authorized again one by one. -/
def authorizeRows : List RunEvent → List RunEventRow → Except StoreError (List EventRecord)
  | _, [] => .ok []
  | stream, row :: rest => do
      let authorized ← (authorizeRunEvent stream row.payload
        (toISOString (toDate row.createdAt))).mapError StoreError.corruptStream
      let payload ← present authorized.getLast?
        (.corruptData "persisted run event stream is empty")
      let record ← eventFromRow row payload
      let records ← authorizeRows (stream ++ [payload]) rest
      pure (record :: records)

/-- The argument holds the rows that the query returns. -/
def authorizedEvents (rows : List RunEventRow) : Except StoreError (List EventRecord) :=
  authorizeRows [] rows

def authorizeEvent (rows : List RunEventRow) (proposed : RunEvent) (trustedTime : ℕ) :
    Except StoreError RunEvent := do
  let current ← authorizedEvents rows
  let stream ← (authorizeRunEvent (current.map (·.payload)) proposed
    (toISOString trustedTime)).mapError StoreError.domain
  present stream.getLast? (.stateConflict "domain did not authorize an event")

/-- A snapshot reads the other records of the run as they are stored. -/
def snapshot (db : Db) (runId : RunId) : Except StoreError (RunRow × List EventRecord) := do
  let events ← authorizedEvents (db.eventRows runId)
  let row ← present (db.run? runId) (.notFound "run not found")
  let run ← runFromRow row
  pure (run, events)

/-- A guard matches the row with its identity, worker, generation and version. -/
def GuardMatches (row : RunRow) (guard : LeaseGuard) (now : ℕ) : Prop :=
  row.leaseGeneration = guard.generation ∧ row.version = guard.fencingVersion ∧
    ∃ lease ∈ row.lease, lease.leaseId = guard.leaseId ∧ lease.workerId = guard.workerId ∧
      now < lease.expiresAt

instance (row : RunRow) (guard : LeaseGuard) (now : ℕ) : Decidable (GuardMatches row guard now) :=
  inferInstanceAs (Decidable (_ ∧ _))

def lockRunForLease (db : Db) (now : ℕ) (runId : RunId) (guard : LeaseGuard) :
    Except StoreError RunRow := do
  let row ← present (db.run? runId) (.notFound "run not found")
  let _ ← runFromRow row
  require (GuardMatches row guard now)
    (.leaseConflict "lease identity, worker, generation, or fence is stale")
  pure row

/-- These are the rows that the claim query considers, without the rows that others lock. -/
def dueRuns (db : Db) (now : ℕ) (locked : List RunId) : List RunRow :=
  db.runs.rows.filter fun row =>
    row.nextAttemptAt ≤ now ∧ row.status ∉ terminalStatuses ∧
    (∀ lease ∈ row.lease, lease.expiresAt ≤ now) ∧ row.id ∉ locked

/-- The claim query orders by next attempt, creation and identity. -/
def claimsBefore (first second : RunRow) : Bool :=
  first.nextAttemptAt < second.nextAttemptAt ∨
  (first.nextAttemptAt = second.nextAttemptAt ∧
    (first.createdAt < second.createdAt ∨
      (first.createdAt = second.createdAt ∧ first.id.suffix < second.id.suffix)))

/-- These are the random identifiers of one claim. -/
structure ClaimIds where
  expiredEventId : EventId
  acquiredEventId : EventId
  leaseId : LeaseId

def expiredEvent (row : RunRow) (lease : RunLease) (eventId : EventId) (sequence now : ℕ) :
    RunEvent where
  eventId := eventId
  runId := row.id
  sequence := sequence
  occurredAt := toISOString now
  leaseId := lease.leaseId
  workerId := lease.workerId
  generation := row.leaseGeneration
  body := .leaseExpired (toISOString now)

def acquiredEvent (row : RunRow) (workerId : String) (ids : ClaimIds)
    (sequence now expiresAt : ℕ) : RunEvent where
  eventId := ids.acquiredEventId
  runId := row.id
  sequence := sequence
  occurredAt := toISOString now
  leaseId := ids.leaseId
  workerId := workerId
  generation := row.leaseGeneration + 1
  body := .leaseAcquired (toISOString expiresAt)

/-- A claim closes the expired lease of the run first. -/
def expireLease (db : Db) (row : RunRow) (ids : ClaimIds) (now : ℕ) : Except StoreError Db :=
  match row.lease with
  | none => .ok db
  | some lease => do
      let expired ← authorizeEvent (db.eventRows row.id)
        (expiredEvent row lease ids.expiredEventId (db.nextSequence row.id) now) now
      appendEvent db expired

def RunRow.claimed (workerId : String) (leaseId : LeaseId) (generation expiresAt now : ℕ)
    (row : RunRow) : RunRow :=
  { row with
    lease := some ⟨leaseId, workerId, toTimestamp expiresAt⟩
    leaseGeneration := generation
    version := row.version + 1
    updatedAt := toTimestamp now }

def claimRun (db : Db) (t : ℕ → ℕ) (row : RunRow) (workerId : String) (leaseMillis : ℕ)
    (ids : ClaimIds) : Except StoreError (Db × RunRow) := do
  let _ ← runFromRow row
  let now := toDate (t 1)
  let closed ← expireLease db row ids now
  let generation := row.leaseGeneration + 1
  let expiresAt := now + leaseMillis
  let acquired ← authorizeEvent (closed.eventRows row.id)
    (acquiredEvent row workerId ids (closed.nextSequence row.id) now expiresAt) now
  let leased ← insertRunLease closed
    { leaseId := ids.leaseId, runId := row.id, workerId, generation
      acquiredAt := toTimestamp now, expiresAt := toTimestamp expiresAt }
  let updated ← updateRun leased (t 2) row.id
    [.leaseId, .workerId, .leaseGeneration, .leaseExpiresAt, .version, .updatedAt]
    (RunRow.claimed workerId ids.leaseId generation expiresAt now)
  let stored ← appendEvent updated acquired
  let run ← present (stored.run? row.id) (.notFound "run not found")
  let record ← runFromRow run
  pure (stored, record)

/-- A claim takes the first row that the query returns. -/
def claimDue (db : Db) (t : ℕ → ℕ) (locked : List RunId) (workerId : String) (leaseMillis : ℕ)
    (ids : ClaimIds) : Except StoreError (Db × Option RunRow) := do
  require (1 ≤ utf16Length workerId ∧ utf16Length workerId ≤ 160)
    (.type "worker ID must be 1-160 characters")
  require (0 < leaseMillis ∧ leaseMillis ≤ maxSafeInteger) (.type "lease duration must be positive")
  match firstBy claimsBefore (dueRuns db (t 0) locked) with
  | none => pure (db, none)
  | some row =>
      let (stored, record) ← claimRun db t row workerId leaseMillis ids
      pure (stored, some record)

def RunRow.renewed (expiresAt now : ℕ) (row : RunRow) : RunRow :=
  { row with
    lease := row.lease.map fun lease => { lease with expiresAt := toTimestamp expiresAt }
    version := row.version + 1
    updatedAt := toTimestamp now }

def renewedEvent (runId : RunId) (guard : LeaseGuard) (eventId : EventId)
    (sequence now previousExpiresAt expiresAt : ℕ) : RunEvent where
  eventId := eventId
  runId := runId
  sequence := sequence
  occurredAt := toISOString now
  leaseId := guard.leaseId
  workerId := guard.workerId
  generation := guard.generation
  body := .leaseRenewed (toISOString previousExpiresAt) (toISOString expiresAt)

def renewLease (db : Db) (t : ℕ → ℕ) (runId : RunId) (guard : LeaseGuard) (leaseMillis : ℕ)
    (eventId : EventId) : Except StoreError (Db × RunRow) := do
  require (0 < leaseMillis ∧ leaseMillis ≤ maxSafeInteger) (.type "lease duration must be positive")
  let row ← lockRunForLease db (t 0) runId guard
  let lease ← present row.lease (.leaseConflict "lease is missing expiry")
  let now := toDate (t 1)
  let expiresAt := max now (toDate lease.expiresAt) + leaseMillis
  let event ← authorizeEvent (db.eventRows runId)
    (renewedEvent runId guard eventId (db.nextSequence runId) now (toDate lease.expiresAt)
      expiresAt) now
  let updated ← updateRun db (t 2) runId [.leaseExpiresAt, .version, .updatedAt]
    (RunRow.renewed expiresAt now)
  let stored ← appendEvent updated event
  let run ← present (stored.run? runId) (.notFound "run not found")
  let record ← runFromRow run
  pure (stored, record)

def RunRow.released (now : ℕ) (row : RunRow) : RunRow :=
  { row with lease := none, version := row.version + 1, updatedAt := toTimestamp now }

def releasedEvent (runId : RunId) (guard : LeaseGuard) (eventId : EventId) (sequence now : ℕ) :
    RunEvent where
  eventId := eventId
  runId := runId
  sequence := sequence
  occurredAt := toISOString now
  leaseId := guard.leaseId
  workerId := guard.workerId
  generation := guard.generation
  body := .leaseReleased

def releaseLease (db : Db) (t : ℕ → ℕ) (runId : RunId) (guard : LeaseGuard) (eventId : EventId) :
    Except StoreError (Db × RunRow) := do
  let _ ← lockRunForLease db (t 0) runId guard
  let now := toDate (t 1)
  let event ← authorizeEvent (db.eventRows runId)
    (releasedEvent runId guard eventId (db.nextSequence runId) now) now
  let updated ← updateRun db (t 2) runId
    [.leaseId, .workerId, .leaseExpiresAt, .version, .updatedAt] (RunRow.released now)
  let stored ← appendEvent updated event
  let run ← present (stored.run? runId) (.notFound "run not found")
  let record ← runFromRow run
  pure (stored, record)

end Store

end LineageGuard
