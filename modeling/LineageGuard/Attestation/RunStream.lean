import LineageGuard.Domain.Stream
import LineageGuard.Library.Attempt
import Mathlib.Tactic

/-
This file translates the replay of a run stream in the validation service.
-/

namespace LineageGuard

open Attempt

namespace Attestation

/-- The service tracks the lease of a stream together with its acquisition. -/
structure TrackedLease where
  acquiredAt : IsoDateTime
  expiresAt : IsoDateTime
  leaseId : LeaseId
  workerId : String
  generation : ℕ
  runId : RunId
  deriving DecidableEq, Repr

structure TrackedRun where
  active : Option TrackedLease
  status : RunStatus
  deriving DecidableEq, Repr

def TrackedRun.initial : TrackedRun := ⟨none, .created⟩

def acquiredLease (event : RunEvent) (expiresAt : IsoDateTime) : TrackedLease where
  acquiredAt := event.occurredAt
  expiresAt := expiresAt
  leaseId := event.leaseId
  workerId := event.workerId
  generation := event.generation
  runId := event.runId

/-- A renewal keeps every other field of the lease, and a final status keeps the lease. -/
def TrackedRun.next (tracked : TrackedRun) (event : RunEvent) : TrackedRun :=
  match event.body with
  | .leaseAcquired expiresAt =>
      { tracked with active := some (acquiredLease event expiresAt) }
  | .leaseRenewed _ expiresAt =>
      { tracked with active := tracked.active.map fun lease => { lease with expiresAt } }
  | .leaseReleased | .leaseExpired _ => { tracked with active := none }
  | .statusChanged _ target _ => { tracked with status := target }
  | .retryScheduled .. => tracked

/-- The service passes every event through the gate again. -/
def authorizeAll : List RunEvent → TrackedRun → List RunEvent →
    Except DomainError (List RunEvent × TrackedRun)
  | events, tracked, [] => .ok (events, tracked)
  | events, tracked, event :: rest => do
      let authorized ← authorizeRunEvent events event event.occurredAt
      authorizeAll authorized (tracked.next event) rest

structure ValidatedRun where
  events : List RunEvent
  activeLease : TrackedLease
  status : RunStatus
  deriving DecidableEq, Repr

/-- A call of the service fails with the error of a schema or with its own message. -/
inductive AttestationError
  | domain (error : DomainError)
  | attestationInvalid (message : String)
  deriving DecidableEq, Repr

def validateRunStream (eventsInput : List RunEvent) (requiredStatus : Option RunStatus) :
    Except AttestationError ValidatedRun := do
  let (events, tracked) ← (authorizeAll [] .initial eventsInput).mapError .domain
  let active ← present tracked.active
    (.attestationInvalid "run stream lacks the required live lease/state")
  require (∀ status ∈ requiredStatus, tracked.status = status)
    (.attestationInvalid "run stream lacks the required live lease/state")
  pure ⟨events, active, tracked.status⟩

/-- This is the lease that the domain replays. -/
def TrackedLease.lease (tracked : TrackedLease) : ActiveLease :=
  ⟨tracked.leaseId, tracked.workerId, tracked.generation, tracked.expiresAt⟩

/-- The tracked run agrees with the replay of the domain. -/
structure Tracks (tracked : TrackedRun) (state : StreamState) : Prop where
  status : tracked.status = state.currentStatus
  active : tracked.active.map TrackedLease.lease = state.activeLease
  belongs : ∀ lease ∈ tracked.active, lease.runId = state.runId

section Replay

variable {runId : RunId}

/-- An event that the domain accepts keeps the agreement unless it ends the run. -/
theorem Tracks.next {tracked : TrackedRun} {state : StreamState} {event : RunEvent}
    (tracks : Tracks tracked state) (accepted : state.issues event = [])
    (open_ : isTerminalRunStatus (state.next event).currentStatus = false) :
    Tracks (tracked.next event) (state.next event) := by
  obtain ⟨status, active, belongs⟩ := tracks
  simp only [StreamState.issues, List.append_eq_nil_iff] at accepted
  obtain ⟨common, own⟩ := accepted
  simp only [StreamState.commonIssues, StreamState.add, List.append_eq_nil_iff,
    issueUnless_nil] at common
  have sameRun : event.runId = state.runId := common.1.1.1.1
  cases body : event.body with
  | statusChanged source target detail =>
      simp only [StreamState.next, body] at open_ ⊢
      simp only [TrackedRun.next, body]
      refine ⟨rfl, ?_, belongs⟩
      rw [open_]
      exact active
  | leaseAcquired expiresAt =>
      simp only [StreamState.next, TrackedRun.next, body]
      refine ⟨status, rfl, ?_⟩
      intro lease held
      rw [← Option.mem_some_iff.mp held]
      exact sameRun
  | leaseRenewed previousExpiresAt expiresAt =>
      simp only [StreamState.bodyIssues, body, StreamState.operationalIssues, StreamState.add,
        List.append_eq_nil_iff, issueUnless_nil] at own
      obtain ⟨⟨lease, held, id, worker, generation⟩, _⟩ := own
      rw [← active, Option.mem_def, Option.map_eq_some_iff] at held
      obtain ⟨found, isFound, rfl⟩ := held
      simp only [TrackedLease.lease] at id worker generation
      simp only [StreamState.next, TrackedRun.next, body, isFound, Option.map_some]
      refine ⟨status, ?_, ?_⟩
      · rw [Option.map_some, TrackedLease.lease, RunEvent.lease, id, worker, generation]
      · intro lease renewed
        rw [← Option.mem_some_iff.mp renewed]
        exact belongs found isFound
  | leaseReleased =>
      simp only [StreamState.next, TrackedRun.next, body]
      exact ⟨status, rfl, by simp⟩
  | leaseExpired expiredAt =>
      simp only [StreamState.next, TrackedRun.next, body]
      exact ⟨status, rfl, by simp⟩
  | retryScheduled operation attempt retryAt reason =>
      simp only [StreamState.next, TrackedRun.next, body]
      exact ⟨status, active, belongs⟩

/-- A stored stream has no event after the end of its run. -/
theorem earlier_open {events : List RunEvent} {event : RunEvent}
    (stored : Stored runId (events ++ [event])) :
    isTerminalRunStatus (replay runId events).currentStatus = false := by
  obtain ⟨_, _, _, accepted⟩ := stored_append.mp stored
  simp only [StreamState.issues, StreamState.commonIssues, StreamState.add,
    List.append_eq_nil_iff, issueUnless_nil, replay_index] at accepted
  have last := accepted.1.2
  cases events with
  | nil => rfl
  | cons first rest => simpa using last

theorem stored_tracks {events : List RunEvent} (stored : Stored runId events)
    (running : isTerminalRunStatus (replay runId events).currentStatus = false) :
    Tracks (events.foldl TrackedRun.next .initial) (replay runId events) := by
  induction events using List.reverseRecOn with
  | nil => exact ⟨rfl, rfl, by simp [TrackedRun.initial]⟩
  | append_singleton rest event ih =>
      obtain ⟨earlier, _, _, accepted⟩ := stored_append.mp stored
      rw [List.foldl_append, replay_append]
      rw [replay_append] at running
      exact (ih earlier (earlier_open stored)).next accepted running

/-- The gate accepts a stored stream event by event. -/
theorem authorizeAll_ok {first second : List RunEvent} (tracked : TrackedRun)
    (stored : Stored runId (first ++ second)) :
    authorizeAll first tracked second = .ok (first ++ second, second.foldl TrackedRun.next tracked) := by
  induction second generalizing first tracked with
  | nil => simp [authorizeAll]
  | cons event rest ih =>
      have split : first ++ event :: rest = first ++ [event] ++ rest := by simp
      rw [split] at stored ⊢
      have longer : Stored runId (first ++ [event]) := stored.of_append
      have belongs : event.runId = runId := longer.event_runId (by simp)
      have gate : authorizeRunEvent first event event.occurredAt = .ok (first ++ [event]) :=
        (authorizeRunEvent_ok belongs longer.of_append).mpr ⟨rfl, rfl, longer⟩
      rw [authorizeAll, gate]
      exact ih (tracked.next event) stored

/-- The service accepts a stored stream whose run holds a lease in the required status. -/
theorem validateRunStream_stored {events : List RunEvent} {lease : ActiveLease}
    (stored : Stored runId events) (held : lease ∈ (replay runId events).activeLease)
    (running : isTerminalRunStatus (replay runId events).currentStatus = false) :
    ∃ run, validateRunStream events (some (replay runId events).currentStatus) = .ok run ∧
      run.events = events ∧ run.activeLease.lease = lease ∧ run.activeLease.runId = runId := by
  obtain ⟨status, active, belongs⟩ := stored_tracks stored running
  rw [Option.mem_def, ← active, Option.map_eq_some_iff] at held
  obtain ⟨tracked, isTracked, same⟩ := held
  have authorized : authorizeAll [] .initial events =
      .ok (events, events.foldl TrackedRun.next .initial) := authorizeAll_ok .initial stored
  refine ⟨⟨events, tracked, (replay runId events).currentStatus⟩, ?_, rfl, same, ?_⟩
  · simp only [validateRunStream, bind_ok, mapError_ok, present_ok, require_ok, pure_ok]
    refine ⟨_, authorized, tracked, isTracked, (), ?_, ?_⟩
    · intro required isRequired
      rw [status, Option.mem_some_iff.mp isRequired]
    · rw [status]
  · rw [belongs tracked isTracked, replay_runId]

end Replay

end Attestation

end LineageGuard
