import LineageGuard.Attestation.RunStream
import LineageGuard.Guarantees.StreamLanguage
import Mathlib.Tactic

/-
This file compares the two replays of a run event stream.
-/

namespace LineageGuard.Attestation

open Attempt

/-- The service computes this lease and this status from a stream. -/
def trackedRun (events : List RunEvent) : TrackedRun := events.foldl TrackedRun.next .initial

/-- The run that the domain replays is open in the required status and holds a lease. -/
structure HeldOpen (state : StreamState) (requiredStatus : Option RunStatus) : Prop where
  running : isTerminalRunStatus state.currentStatus = false
  required : ∀ status ∈ requiredStatus, state.currentStatus = status
  held : ∃ lease, state.activeLease = some lease

/-- The service and the domain read the same owner and the same status from a stream. -/
structure ReplaysAgree (runId : RunId) (events : List RunEvent) : Prop where
  status : (trackedRun events).status = (replay runId events).currentStatus
  lease : (trackedRun events).active.map TrackedLease.lease = (replay runId events).activeLease
  accepts : ∀ requiredStatus, (∃ run, validateRunStream events requiredStatus = .ok run) ↔
    HeldOpen (replay runId events) requiredStatus
  returns : ∀ requiredStatus run, validateRunStream events requiredStatus = .ok run →
    run.events = events ∧ run.activeLease.runId = runId ∧
      some run.activeLease.lease = (replay runId events).activeLease ∧
        run.status = (replay runId events).currentStatus

section Replays

variable {runId : RunId} {events : List RunEvent}

/-- The service accepts a stored stream whose tracked run holds a lease in the right status. -/
theorem validateRunStream_ok (stored : Stored runId events) {requiredStatus : Option RunStatus}
    {run : ValidatedRun} : validateRunStream events requiredStatus = .ok run ↔
      run.events = events ∧ (trackedRun events).active = some run.activeLease ∧
        (trackedRun events).status = run.status ∧
          ∀ status ∈ requiredStatus, run.status = status := by
  have authorized : authorizeAll [] .initial events = .ok (events, trackedRun events) :=
    authorizeAll_ok .initial stored
  simp only [validateRunStream, bind_ok, mapError_ok, present_ok, require_ok, pure_ok, authorized,
    Except.ok.injEq]
  constructor
  · rintro ⟨_, rfl, active, isActive, _, required, rfl⟩
    exact ⟨rfl, isActive, rfl, required⟩
  · rintro ⟨isEvents, isActive, isStatus, required⟩
    refine ⟨_, rfl, run.activeLease, isActive, (), ?_, ?_⟩
    · rw [isStatus]
      exact required
    · rw [isStatus, ← isEvents]

theorem stored_replaysAgree (stored : Stored runId events)
    (running : ∀ event ∈ events, ¬ event.EndsRun) : ReplaysAgree runId events := by
  have isOpen : isTerminalRunStatus (replay runId events).currentStatus = false :=
    status_open running
  obtain ⟨status, lease, belongs⟩ := stored_tracks stored isOpen
  rw [replay_runId] at belongs
  constructor
  case status => exact status
  case lease => exact lease
  case accepts =>
      intro requiredStatus
      constructor
      · rintro ⟨run, accepted⟩
        obtain ⟨_, isActive, isStatus, required⟩ := (validateRunStream_ok stored).mp accepted
        refine ⟨isOpen, ?_, run.activeLease.lease, ?_⟩
        · rw [← status, ← trackedRun, isStatus]
          exact required
        · rw [← lease, ← trackedRun, isActive, Option.map_some]
      · rintro ⟨_, required, held, isHeld⟩
        rw [← lease, Option.map_eq_some_iff] at isHeld
        obtain ⟨active, isActive, _⟩ := isHeld
        rw [← status] at required
        exact ⟨⟨events, active, (trackedRun events).status⟩,
          (validateRunStream_ok stored).mpr ⟨rfl, isActive, rfl, required⟩⟩
  case returns =>
      intro requiredStatus run accepted
      obtain ⟨isEvents, isActive, isStatus, _⟩ := (validateRunStream_ok stored).mp accepted
      refine ⟨isEvents, belongs run.activeLease isActive, ?_, ?_⟩
      · rw [← lease, ← trackedRun, isActive, Option.map_some]
      · rw [← status, ← trackedRun, isStatus]

/-- The service keeps the lease of a run that ends, and the domain drops it. -/
theorem ended_apart (lawful : Lawful runId events)
    (ended : ∃ event ∈ events, event.EndsRun) :
    (trackedRun events).active.map TrackedLease.lease ≠ (replay runId events).activeLease := by
  induction events using List.reverseRecOn with
  | nil => simp at ended
  | append_singleton past last =>
      obtain ⟨earlier, enters⟩ := lawful_append.mp lawful
      have running := enters.follows.running
      have isLast : last.EndsRun := by
        obtain ⟨event, present, ends⟩ := ended
        rcases List.mem_append.mp present with old | added
        · exact absurd ends (running event old)
        · rwa [← List.mem_singleton.mp added]
      obtain ⟨status, sets, final⟩ := isLast
      have tracks := stored_tracks (stored_lawful.mpr earlier) (status_open running)
      have follows := enters.follows.body
      unfold BodyFollows at follows
      unfold RunEvent.target at sets
      cases body : last.body with
      | statusChanged source target detail =>
          rw [body] at follows sets
          cases sets
          obtain ⟨_, _, lease, held, _⟩ := follows
          have kept : (trackedRun (past ++ [last])).active = (trackedRun past).active := by
            rw [trackedRun, List.foldl_append, List.foldl_cons, List.foldl_nil, TrackedRun.next,
              body]
            rfl
          have dropped : (replay runId (past ++ [last])).activeLease = none := by
            rw [replay_append, next_activeLease, RunEvent.tenure, body]
            simp only [if_pos final, Option.getD_some]
          rw [kept, dropped, trackedRun, tracks.active, replay_tenure.mp held]
          simp
      | leaseAcquired | leaseRenewed | leaseReleased | leaseExpired | retryScheduled =>
          rw [body] at sets
          cases sets

end Replays

section Samples

def sampleAcquired : RunEvent := sampleHistoryEvent 0 (.leaseAcquired (toISOString 1000))

/-- The worker cancels its run within its lease. -/
def sampleCancelled : RunEvent :=
  sampleHistoryEvent 1 (.statusChanged .created .cancelled none)

end Samples

end LineageGuard.Attestation
