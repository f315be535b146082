import LineageGuard.Values
import LineageGuard.Library.Attempt
import Mathlib.Tactic

/-
This file translates the run statuses and the run event schemas.
-/

namespace LineageGuard

open Attempt

inductive RunStatus
  | created | changeParsed | baselineAssessed | contextCollecting | contextCollected
  | riskDecided | migrationPlanned | patchGenerated | validating | validated
  | reviewArtifactCreated | writebackPending | completed
  | failedContext | failedGeneration | failedValidation | failedGithub | failedWriteback
  | cancelled
  deriving DecidableEq, Repr

def terminalStatuses : List RunStatus :=
  [.completed, .failedContext, .failedGeneration, .failedValidation, .failedGithub,
    .failedWriteback, .cancelled]

def successTransitions : RunStatus → Option RunStatus
  | .created => some .changeParsed
  | .changeParsed => some .baselineAssessed
  | .baselineAssessed => some .contextCollecting
  | .contextCollecting => some .contextCollected
  | .contextCollected => some .riskDecided
  | .riskDecided => some .migrationPlanned
  | .migrationPlanned => some .patchGenerated
  | .patchGenerated => some .validating
  | .validating => some .validated
  | .validated => some .reviewArtifactCreated
  | .reviewArtifactCreated => some .writebackPending
  | .writebackPending => some .completed
  | _ => none

def failureTransitions : RunStatus → Option RunStatus
  | .contextCollecting => some .failedContext
  | .contextCollected => some .failedContext
  | .riskDecided => some .failedGeneration
  | .migrationPlanned => some .failedGeneration
  | .patchGenerated => some .failedGeneration
  | .validating => some .failedValidation
  | .validated => some .failedGithub
  | .reviewArtifactCreated => some .failedGithub
  | .writebackPending => some .failedWriteback
  | _ => none

def isTerminalRunStatus (status : RunStatus) : Bool := terminalStatuses.contains status

def isAdjacentRunStatus (source target : RunStatus) : Bool :=
  if isTerminalRunStatus source then false
  else if target = .cancelled then true
  else successTransitions source == some target || failureTransitions source == some target

inductive RetryOperation
  | datahubRead | generation | githubWrite | datahubWrite
  deriving DecidableEq, Repr

def retryStates : RetryOperation → List RunStatus
  | .datahubRead => [.contextCollecting]
  | .generation => [.riskDecided, .migrationPlanned]
  | .githubWrite => [.validated]
  | .datahubWrite => [.writebackPending]

/-- The policy delay of an attempt, in milliseconds. -/
def retryDelay : ℕ → Option ℕ
  | 1 => some 1000
  | 2 => some 5000
  | 3 => some 30000
  | _ => none

inductive RunEventType
  | runStatusChanged | runLeaseAcquired | runLeaseRenewed | runLeaseReleased | runLeaseExpired
  | runRetryScheduled
  deriving DecidableEq, Repr

/-- These are the fields that only one type of event carries. -/
inductive RunEventBody
  | statusChanged (source target : RunStatus) (detail : Option String)
  | leaseAcquired (expiresAt : IsoDateTime)
  | leaseRenewed (previousExpiresAt expiresAt : IsoDateTime)
  | leaseReleased
  | leaseExpired (expiredAt : IsoDateTime)
  | retryScheduled (operation : RetryOperation) (attempt : ℕ) (retryAt : IsoDateTime)
      (reason : String)
  deriving DecidableEq, Repr

def RunEventBody.type : RunEventBody → RunEventType
  | .statusChanged .. => .runStatusChanged
  | .leaseAcquired .. => .runLeaseAcquired
  | .leaseRenewed .. => .runLeaseRenewed
  | .leaseReleased => .runLeaseReleased
  | .leaseExpired .. => .runLeaseExpired
  | .retryScheduled .. => .runRetryScheduled

structure RunEvent where
  eventId : EventId
  runId : RunId
  sequence : ℕ
  occurredAt : IsoDateTime
  leaseId : LeaseId
  workerId : String
  generation : ℕ
  body : RunEventBody
  deriving DecidableEq, Repr

def RunEvent.type (event : RunEvent) : RunEventType := event.body.type

inductive IssueCode
  | invalidFormat
  | tooSmall
  | tooBig
  | custom (message : String)
  deriving DecidableEq, Repr

inductive PathItem
  | index (position : ℕ)
  | field (name : String)
  deriving DecidableEq, Repr

structure Issue where
  code : IssueCode
  path : List PathItem
  deriving DecidableEq, Repr

/-- The check adds its issue unless the condition holds. -/
def issueUnless (condition : Prop) [Decidable condition] (code : IssueCode)
    (path : List PathItem) : List Issue :=
  if condition then [] else [⟨code, path⟩]

@[simp] theorem issueUnless_nil {condition : Prop} [Decidable condition] {code : IssueCode}
    {path : List PathItem} : issueUnless condition code path = [] ↔ condition := by
  simp [issueUnless]

def isoDateTimeIssues (value : IsoDateTime) (field : String) : List Issue :=
  issueUnless value.Valid .invalidFormat [.field field]

def textIssues (text : String) (limit : ℕ) (field : String) : List Issue :=
  issueUnless (1 ≤ utf16Length text) .tooSmall [.field field] ++
    issueUnless (utf16Length text ≤ limit) .tooBig [.field field]

/-- These are the checks of the two shared shapes. -/
def eventBaseIssues (event : RunEvent) : List Issue :=
  isoDateTimeIssues event.occurredAt "occurredAt" ++
  textIssues event.workerId 160 "workerId" ++
  issueUnless (0 < event.generation) .tooSmall [.field "generation"] ++
  issueUnless (event.generation ≤ 1000000) .tooBig [.field "generation"]

/-- These are the checks of one type of event. -/
def eventBodyIssues (event : RunEvent) : List Issue :=
  match event.body with
  | .statusChanged source target detail =>
      (detail.elim [] fun text => textIssues text 500 "detail") ++
      issueUnless (isAdjacentRunStatus source target) (.custom "Invalid run status transition")
        [.field "to"]
  | .leaseAcquired expiresAt =>
      isoDateTimeIssues expiresAt "expiresAt" ++
      issueUnless (event.occurredAt.time < expiresAt.time)
        (.custom "Lease expiry must be after acquisition") [.field "expiresAt"]
  | .leaseRenewed previousExpiresAt expiresAt =>
      isoDateTimeIssues previousExpiresAt "previousExpiresAt" ++
      isoDateTimeIssues expiresAt "expiresAt" ++
      issueUnless (previousExpiresAt.time < expiresAt.time ∧
          event.occurredAt.time < previousExpiresAt.time)
        (.custom "Renewal must occur before and extend the active lease") [.field "expiresAt"]
  | .leaseReleased => []
  | .leaseExpired expiredAt =>
      isoDateTimeIssues expiredAt "expiredAt" ++
      issueUnless (expiredAt = event.occurredAt)
        (.custom "Lease expiry event time must match occurrence") [.field "expiredAt"]
  | .retryScheduled _ attempt retryAt reason =>
      issueUnless (1 ≤ attempt) .tooSmall [.field "attempt"] ++
      issueUnless (attempt ≤ 3) .tooBig [.field "attempt"] ++
      isoDateTimeIssues retryAt "retryAt" ++
      textIssues reason 500 "reason" ++
      issueUnless (∃ delay ∈ retryDelay attempt, retryAt.time = event.occurredAt.time + delay)
        (.custom "Retry must use the policy delay for its attempt") [.field "retryAt"]

/-- These are the issues that `runEventSchema` reports. -/
def runEventIssues (event : RunEvent) : List Issue :=
  eventBaseIssues event ++ eventBodyIssues event

structure ActiveLease where
  id : LeaseId
  workerId : String
  generation : ℕ
  expiresAt : IsoDateTime
  deriving DecidableEq, Repr

/-- An event belongs to the lease whose identity, worker and generation it carries. -/
def ActiveLease.Owns (lease : ActiveLease) (event : RunEvent) : Prop :=
  lease.id = event.leaseId ∧ lease.workerId = event.workerId ∧ lease.generation = event.generation

instance (lease : ActiveLease) (event : RunEvent) : Decidable (lease.Owns event) :=
  inferInstanceAs (Decidable (_ ∧ _))

/-- The refinement carries this state from one event to the next. -/
structure StreamState where
  index : ℕ
  runId : RunId
  eventIds : List EventId
  previous : Option RunEvent
  currentStatus : RunStatus
  activeLease : Option ActiveLease
  usedLeaseIds : List LeaseId
  highestLeaseGeneration : ℕ
  retryAttempts : RetryOperation → ℕ

def StreamState.initial (runId : RunId) : StreamState where
  index := 0
  runId := runId
  eventIds := []
  previous := none
  currentStatus := .created
  activeLease := none
  usedLeaseIds := []
  highestLeaseGeneration := 0
  retryAttempts := fun _ => 0

def RunEvent.lease (event : RunEvent) (expiresAt : IsoDateTime) : ActiveLease :=
  ⟨event.leaseId, event.workerId, event.generation, expiresAt⟩

/-- The state after one event does not depend on the issues of that event. -/
def StreamState.next (state : StreamState) (event : RunEvent) : StreamState :=
  let read := { state with
    index := state.index + 1
    eventIds := event.eventId :: state.eventIds
    previous := some event }
  match event.body with
  | .statusChanged _ target _ =>
      { read with
        currentStatus := target
        activeLease := if isTerminalRunStatus target then none else state.activeLease }
  | .leaseAcquired expiresAt =>
      { read with
        usedLeaseIds := event.leaseId :: state.usedLeaseIds
        highestLeaseGeneration := max state.highestLeaseGeneration event.generation
        activeLease := some (event.lease expiresAt) }
  | .leaseRenewed _ expiresAt => { read with activeLease := some (event.lease expiresAt) }
  | .leaseReleased => { read with activeLease := none }
  | .leaseExpired _ => { read with activeLease := none }
  | .retryScheduled operation attempt _ _ =>
      { read with retryAttempts := Function.update state.retryAttempts operation attempt }

/-- The issue of an event names its position and possibly one of its fields. -/
def StreamState.add (state : StreamState) (condition : Prop) [Decidable condition]
    (message : String) (field : Option String) : List Issue :=
  issueUnless condition (.custom message) (.index state.index :: (field.map .field).toList)

/-- These checks hold for an event of every type. -/
def StreamState.commonIssues (state : StreamState) (event : RunEvent) : List Issue :=
  state.add (event.runId = state.runId) "Event stream mixes run IDs" (some "runId") ++
  state.add (event.eventId ∉ state.eventIds) "Event IDs must be unique" (some "eventId") ++
  state.add (event.sequence = state.index) "Sequence must be contiguous and zero-based"
    (some "sequence") ++
  state.add (∀ earlier ∈ state.previous, earlier.occurredAt.time ≤ event.occurredAt.time)
    "Event timestamps must be monotonic" (some "occurredAt") ++
  state.add (¬ (0 < state.index ∧ isTerminalRunStatus state.currentStatus = true))
    "No event is allowed after terminal state" none

/-- These checks bind an operational event to the active lease. -/
def StreamState.operationalIssues (state : StreamState) (event : RunEvent) : List Issue :=
  state.add (∃ lease ∈ state.activeLease, lease.Owns event)
    "Operational event does not match the active lease and worker" none

def StreamState.bodyIssues (state : StreamState) (event : RunEvent) : List Issue :=
  match event.body with
  | .statusChanged source _ _ =>
      state.add (∃ lease ∈ state.activeLease,
          lease.Owns event ∧ event.occurredAt.time < lease.expiresAt.time)
        "Status transition requires the live active lease and worker" none ++
      state.add (source = state.currentStatus)
        "Status transition does not continue from current state" (some "from")
  | .leaseAcquired _ =>
      state.add (state.activeLease = none) "Cannot acquire an overlapping lease" none ++
      state.add (event.leaseId ∉ state.usedLeaseIds) "Lease IDs cannot be reused"
        (some "leaseId") ++
      state.add (state.highestLeaseGeneration < event.generation)
        "Lease generation must increase strictly" (some "generation")
  | .leaseRenewed previousExpiresAt _ =>
      state.operationalIssues event ++
      state.add (∃ lease ∈ state.activeLease, lease.expiresAt = previousExpiresAt ∧
          event.occurredAt.time < lease.expiresAt.time)
        "Lease renewal does not match a live active lease" none
  | .leaseReleased =>
      state.operationalIssues event ++
      state.add (∀ lease ∈ state.activeLease, event.occurredAt.time < lease.expiresAt.time)
        "Expired lease requires an explicit expiry event, not release" none
  | .leaseExpired expiredAt =>
      state.operationalIssues event ++
      state.add (∃ lease ∈ state.activeLease, lease.expiresAt.time ≤ expiredAt.time)
        "Lease cannot expire before its active expiry" none
  | .retryScheduled operation attempt _ _ =>
      state.operationalIssues event ++
      state.add (∃ lease ∈ state.activeLease, event.occurredAt.time < lease.expiresAt.time)
        "Retry requires a live matching lease" none ++
      state.add (state.currentStatus ∈ retryStates operation)
        "Retry is not valid in the current state" (some "operation") ++
      state.add (attempt = state.retryAttempts operation + 1)
        "Retry attempts must increase contiguously" (some "attempt")

def StreamState.issues (state : StreamState) (event : RunEvent) : List Issue :=
  state.commonIssues event ++ state.bodyIssues event

def refineFrom : StreamState → List RunEvent → List Issue
  | _, [] => []
  | state, event :: rest => state.issues event ++ refineFrom (state.next event) rest

/-- The replay of a stream folds its events from the state of a new run. -/
def replay (runId : RunId) (events : List RunEvent) : StreamState :=
  events.foldl StreamState.next (.initial runId)

def elementIssues : ℕ → List RunEvent → List Issue
  | _, [] => []
  | index, event :: rest =>
      (runEventIssues event).map (fun issue => { issue with path := .index index :: issue.path }) ++
        elementIssues (index + 1) rest

/-- These are the issues that `runEventStreamSchema` reports. -/
def runEventStreamIssues (events : List RunEvent) : List Issue :=
  issueUnless (1 ≤ events.length) .tooSmall [] ++
  issueUnless (events.length ≤ 300) .tooBig [] ++
  elementIssues 0 events ++
  (events.head?.elim [] fun first => refineFrom (.initial first.runId) events)

/-- The domain reports the issues of a parse or the message of a failed check. -/
inductive DomainError
  | zod (issues : List Issue)
  | error (message : String)
  deriving DecidableEq, Repr

/-- A parse returns its input or reports every issue. -/
def parseWith {A : Type} (issues : A → List Issue) (value : A) : Except DomainError A :=
  if issues value = [] then .ok value else .error (.zod (issues value))

def isoDateTimeSchema : IsoDateTime → Except DomainError IsoDateTime :=
  parseWith fun value => issueUnless value.Valid .invalidFormat []

def runEventSchema : RunEvent → Except DomainError RunEvent := parseWith runEventIssues

def runEventStreamSchema : List RunEvent → Except DomainError (List RunEvent) :=
  parseWith runEventStreamIssues

/-- The structural parse of the current stream checks its events one by one. -/
def structuralCurrent : List RunEvent → Except DomainError (List RunEvent) :=
  parseWith fun events => issueUnless (events.length ≤ 300) .tooBig [] ++ elementIssues 0 events

/-- An empty current stream needs no further parse. -/
def parseCurrent (structural : List RunEvent) : Except DomainError (List RunEvent) :=
  if structural = [] then .ok [] else runEventStreamSchema structural

/-- This is the only gate through which an event enters a stream. -/
def authorizeRunEvent (currentStream : List RunEvent) (proposedEvent : RunEvent)
    (trustedCurrentTime : IsoDateTime) : Except DomainError (List RunEvent) := do
  let now ← isoDateTimeSchema trustedCurrentTime
  let structural ← structuralCurrent currentStream
  let current ← parseCurrent structural
  let proposed ← runEventSchema proposedEvent
  require (proposed.occurredAt = now)
    (.error "Proposed event occurrence must match trusted current time")
  runEventStreamSchema (current ++ [proposed])

end LineageGuard
