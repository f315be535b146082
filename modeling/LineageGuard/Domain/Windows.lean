import LineageGuard.Domain.Stream
import Mathlib.Tactic

/-
This file gives the windows of the leases of a stream and shows that they never overlap.
-/

namespace LineageGuard

/-- A lease runs from its acquisition to its expiry or to its release, whichever comes first. -/
structure LeaseWindow where
  leaseId : LeaseId
  generation : ℕ
  start : ℕ
  finish : ℕ
  deriving DecidableEq, Repr

/-- A renewal moves the end of its lease and a release cuts it. -/
def RunEvent.finish (event : RunEvent) (finish : ℕ) : ℕ :=
  match event.body with
  | .leaseRenewed _ expiresAt => expiresAt.time
  | .leaseReleased => min finish event.occurredAt.time
  | _ => finish

def LeaseWindow.next (event : RunEvent) (window : LeaseWindow) : LeaseWindow :=
  if window.leaseId = event.leaseId then { window with finish := event.finish window.finish }
  else window

/-- An acquisition opens a window, and every other event acts on the window of its lease. -/
def nextWindows (windows : List LeaseWindow) (event : RunEvent) : List LeaseWindow :=
  match event.body with
  | .leaseAcquired expiresAt =>
      windows ++ [⟨event.leaseId, event.generation, event.occurredAt.time, expiresAt.time⟩]
  | _ => windows.map (LeaseWindow.next event)

def leaseWindows (events : List RunEvent) : List LeaseWindow := events.foldl nextWindows []

/-- The later lease has a larger generation and starts after the end of the earlier one. -/
structure LeaseWindow.Before (earlier later : LeaseWindow) : Prop where
  generation : earlier.generation < later.generation
  leaseId : earlier.leaseId ≠ later.leaseId
  apart : earlier.finish ≤ later.start

section Next

variable (event : RunEvent) (window : LeaseWindow)

@[simp] theorem LeaseWindow.next_leaseId : (window.next event).leaseId = window.leaseId := by
  unfold LeaseWindow.next
  split <;> rfl

@[simp] theorem LeaseWindow.next_generation :
    (window.next event).generation = window.generation := by
  unfold LeaseWindow.next
  split <;> rfl

@[simp] theorem LeaseWindow.next_start : (window.next event).start = window.start := by
  unfold LeaseWindow.next
  split <;> rfl

end Next

/-- The window is the one of the active lease. -/
def StreamState.Opens (state : StreamState) (window : LeaseWindow) : Prop :=
  ∃ lease ∈ state.activeLease, lease.id = window.leaseId ∧
    lease.generation = window.generation ∧ lease.expiresAt.time = window.finish

/-- The window has ended and belongs to no active lease. -/
def StreamState.Closes (state : StreamState) (window : LeaseWindow) : Prop :=
  (∀ lease ∈ state.activeLease, lease.id ≠ window.leaseId) ∧
    ∀ last ∈ state.previous, window.finish ≤ last.occurredAt.time

/-- The windows of a stream fit the state that the replay of the stream reaches. -/
structure Windowed (state : StreamState) (windows : List LeaseWindow) : Prop where
  ordered : windows.Pairwise LeaseWindow.Before
  generations : ∀ window ∈ windows, window.generation ≤ state.highestLeaseGeneration
  used : ∀ window ∈ windows, window.leaseId ∈ state.usedLeaseIds
  current : ∀ lease ∈ state.activeLease, lease.generation = state.highestLeaseGeneration
  placed : isTerminalRunStatus state.currentStatus = false → ∀ window ∈ windows,
    state.Opens window ∨ state.Closes window
  started : ∀ window ∈ windows, 0 < state.index ∧ ∃ last, state.previous = some last

/-- An event without issues is not earlier than the last one and follows no terminal status. -/
theorem issues_common {state : StreamState} {event : RunEvent}
    (accepted : state.issues event = []) :
    (∀ earlier ∈ state.previous, earlier.occurredAt.time ≤ event.occurredAt.time) ∧
      (0 < state.index → isTerminalRunStatus state.currentStatus = false) := by
  simp only [StreamState.issues, StreamState.commonIssues, StreamState.add,
    List.append_eq_nil_iff, issueUnless_nil] at accepted
  refine ⟨accepted.1.1.2, fun started => ?_⟩
  simpa [started] using accepted.1.2

/-- Every event but an acquisition belongs to the active lease. -/
theorem issues_owned {state : StreamState} {event : RunEvent}
    (accepted : state.issues event = []) :
    (∃ expiresAt, event.body = .leaseAcquired expiresAt) ∨
      ∃ lease ∈ state.activeLease, lease.Owns event := by
  have body := (List.append_eq_nil_iff.mp accepted).2
  unfold StreamState.bodyIssues at body
  split at body
  case h_2 expiresAt isBody => exact Or.inl ⟨expiresAt, isBody⟩
  all_goals
    simp only [StreamState.operationalIssues, StreamState.add, List.append_eq_nil_iff,
      issueUnless_nil] at body
  case h_1 =>
    obtain ⟨⟨lease, active, owns, _⟩, _⟩ := body
    exact Or.inr ⟨lease, active, owns⟩
  case h_3 | h_4 | h_5 => exact Or.inr body.1
  case h_6 => exact Or.inr body.1.1.1

/-- The lease that is active after an event is the lease of the event. -/
theorem next_active {state : StreamState} {event : RunEvent} {lease : ActiveLease}
    (active : lease ∈ state.activeLease) (owns : lease.Owns event) :
    ∀ later ∈ (state.next event).activeLease,
      later.id = event.leaseId ∧ later.generation = event.generation := by
  intro later isLater
  unfold StreamState.next at isLater
  split at isLater <;> simp only at isLater
  case h_1 =>
    split at isLater
    · cases isLater
    · obtain rfl := Option.mem_unique isLater active
      exact ⟨owns.1, owns.2.2⟩
  case h_2 | h_3 =>
    cases isLater
    exact ⟨rfl, rfl⟩
  case h_4 | h_5 => cases isLater
  case h_6 =>
    obtain rfl := Option.mem_unique isLater active
    exact ⟨owns.1, owns.2.2⟩

/-- Only an acquisition uses a lease identity or raises the generation. -/
theorem next_highest {state : StreamState} {event : RunEvent}
    (other : ∀ expiresAt, event.body ≠ .leaseAcquired expiresAt) :
    (state.next event).highestLeaseGeneration = state.highestLeaseGeneration ∧
      (state.next event).usedLeaseIds = state.usedLeaseIds ∧
      ∀ windows, nextWindows windows event = windows.map (LeaseWindow.next event) := by
  unfold StreamState.next nextWindows
  cases body : event.body with
  | leaseAcquired expiresAt => exact absurd body (other expiresAt)
  | _ => exact ⟨rfl, rfl, fun _ => rfl⟩

namespace Windowed

variable {state : StreamState} {windows : List LeaseWindow} {event : RunEvent}

/-- The window of the lease that owns an event is the open one. -/
theorem opens (windowed : Windowed state windows) (accepted : state.issues event = [])
    {lease : ActiveLease} (active : lease ∈ state.activeLease) (owns : lease.Owns event)
    {window : LeaseWindow} (present : window ∈ windows) :
    (window.leaseId = event.leaseId ∧ lease.generation = window.generation ∧
        lease.expiresAt.time = window.finish) ∨
      (window.leaseId ≠ event.leaseId ∧ ∀ last ∈ state.previous,
        window.finish ≤ last.occurredAt.time) := by
  have going := (issues_common accepted).2 (windowed.started window present).1
  rcases windowed.placed going window present with ⟨found, isFound, id, generation, expires⟩ |
    ⟨apart, ended⟩
  · obtain rfl := Option.mem_unique isFound active
    exact Or.inl ⟨id.symm.trans owns.1, generation, expires⟩
  · exact Or.inr ⟨fun same => apart lease active (owns.1.trans same.symm), ended⟩

/-- An event of the active lease changes no window but the last one. -/
theorem ordered_map (windowed : Windowed state windows) (accepted : state.issues event = [])
    {lease : ActiveLease} (active : lease ∈ state.activeLease) (owns : lease.Owns event) :
    (windows.map (LeaseWindow.next event)).Pairwise LeaseWindow.Before := by
  rw [List.pairwise_map]
  refine windowed.ordered.imp_of_mem fun {earlier later} isEarlier isLater before => ?_
  refine ⟨by simpa using before.generation, by simpa using before.leaseId, ?_⟩
  rcases windowed.opens accepted active owns isEarlier with ⟨_, generation, _⟩ | ⟨other, _⟩
  · have newest := windowed.current lease active
    have bounded := windowed.generations later isLater
    have smaller := before.generation
    omega
  · rw [LeaseWindow.next_start, LeaseWindow.next, if_neg other]
    exact before.apart

/-- An event of the active lease leaves its window open or closes it. -/
theorem placed_owned (accepted : state.issues event = []) (shape : runEventIssues event = [])
    {lease : ActiveLease} (active : lease ∈ state.activeLease) (owns : lease.Owns event)
    (going : isTerminalRunStatus (state.next event).currentStatus = false) {window : LeaseWindow}
    (same : window.leaseId = event.leaseId) (generation : lease.generation = window.generation)
    (expires : lease.expiresAt.time = window.finish) :
    (state.next event).Opens (window.next event) ∨ (state.next event).Closes (window.next event) := by
  have moved : window.next event = { window with finish := event.finish window.finish } := by
    rw [LeaseWindow.next, if_pos same]
  have checked := (List.append_eq_nil_iff.mp accepted).2
  have shaped := (List.append_eq_nil_iff.mp shape).2
  have named : lease.id = window.leaseId := owns.1.trans same.symm
  rw [moved]
  cases body : event.body with
  | statusChanged source target detail =>
      simp only [StreamState.next, body] at going ⊢
      refine Or.inl ⟨lease, ?_, named, generation, ?_⟩
      · simpa only [going, Bool.false_eq_true, if_false] using active
      · simpa only [RunEvent.finish, body] using expires
  | leaseAcquired expiresAt =>
      simp only [StreamState.bodyIssues, body, StreamState.add, List.append_eq_nil_iff,
        issueUnless_nil] at checked
      rw [checked.1.1] at active
      cases active
  | leaseRenewed previousExpiresAt expiresAt =>
      simp only [StreamState.next, body, StreamState.Opens, RunEvent.finish]
      exact Or.inl ⟨_, rfl, same.symm, owns.2.2.symm.trans generation, rfl⟩
  | leaseReleased =>
      simp only [StreamState.next, body, StreamState.Closes, RunEvent.finish]
      refine Or.inr ⟨fun found isFound => (by cases isFound), fun last isLast => ?_⟩
      cases isLast
      exact Nat.min_le_right _ _
  | leaseExpired expiredAt =>
      simp only [eventBodyIssues, body, List.append_eq_nil_iff, issueUnless_nil] at shaped
      simp only [StreamState.bodyIssues, body, StreamState.add, List.append_eq_nil_iff,
        issueUnless_nil] at checked
      obtain ⟨_, found, isFound, ended⟩ := checked
      obtain rfl := Option.mem_unique isFound active
      simp only [StreamState.next, body, StreamState.Closes, RunEvent.finish]
      refine Or.inr ⟨fun other isOther => (by cases isOther), fun last isLast => ?_⟩
      cases isLast
      rw [← expires, ← shaped.2]
      exact ended
  | retryScheduled operation attempt retryAt reason =>
      simp only [StreamState.next, body, StreamState.Opens, RunEvent.finish]
      exact Or.inl ⟨lease, active, named, generation, expires⟩

/-- An event of the active lease keeps the windows fitting. -/
theorem next_owned (windowed : Windowed state windows) (accepted : state.issues event = [])
    (shape : runEventIssues event = []) {lease : ActiveLease} (active : lease ∈ state.activeLease)
    (owns : lease.Owns event) (other : ∀ expiresAt, event.body ≠ .leaseAcquired expiresAt) :
    Windowed (state.next event) (nextWindows windows event) := by
  obtain ⟨highest, used, mapped⟩ :
      (state.next event).highestLeaseGeneration = state.highestLeaseGeneration ∧
        (state.next event).usedLeaseIds = state.usedLeaseIds ∧
        ∀ windows, nextWindows windows event = windows.map (LeaseWindow.next event) :=
    next_highest other
  rw [mapped]
  refine ⟨windowed.ordered_map accepted active owns, ?_, ?_, ?_, ?_, ?_⟩
  · simp only [List.mem_map, forall_exists_index, and_imp, forall_apply_eq_imp_iff₂, highest,
      LeaseWindow.next_generation]
    exact windowed.generations
  · simp only [List.mem_map, forall_exists_index, and_imp, forall_apply_eq_imp_iff₂, used,
      LeaseWindow.next_leaseId]
    exact windowed.used
  · intro later isLater
    rw [highest, (next_active active owns later isLater).2, ← owns.2.2]
    exact windowed.current lease active
  · intro going
    simp only [List.mem_map, forall_exists_index, and_imp, forall_apply_eq_imp_iff₂]
    intro window present
    rcases windowed.opens accepted active owns present with ⟨same, generation, expires⟩ |
      ⟨apart, ended⟩
    · exact placed_owned accepted shape active owns going same generation expires
    · rw [LeaseWindow.next, if_neg apart]
      refine Or.inr ⟨fun later isLater named => ?_, fun last isLast => ?_⟩
      · exact apart (named.symm.trans (next_active active owns later isLater).1)
      · obtain ⟨_, before, isBefore⟩ := windowed.started window present
        rw [next_previous, Option.mem_some_iff] at isLast
        rw [← isLast]
        exact Nat.le_trans (ended before isBefore) ((issues_common accepted).1 before isBefore)
  · intro window present
    rw [next_index, next_previous]
    exact ⟨Nat.succ_pos _, event, rfl⟩

/-- An acquisition adds the window of a new lease. -/
theorem next_acquired (windowed : Windowed state windows) (accepted : state.issues event = [])
    {expiresAt : IsoDateTime} (body : event.body = .leaseAcquired expiresAt) :
    Windowed (state.next event) (nextWindows windows event) := by
  have checked := (List.append_eq_nil_iff.mp accepted).2
  simp only [StreamState.bodyIssues, body, StreamState.add, List.append_eq_nil_iff,
    issueUnless_nil] at checked
  obtain ⟨⟨free, fresh⟩, larger⟩ := checked
  have ended : ∀ window ∈ windows, window.finish ≤ event.occurredAt.time := by
    intro window present
    obtain ⟨started, last, isLast⟩ := windowed.started window present
    rcases windowed.placed ((issues_common accepted).2 started) window present with
      ⟨lease, active, _⟩ | ⟨_, before⟩
    · rw [free] at active
      cases active
    · exact Nat.le_trans (before last isLast) ((issues_common accepted).1 last isLast)
  have top : (state.next event).highestLeaseGeneration = event.generation := by
    simp only [StreamState.next, body]
    exact Nat.max_eq_right (Nat.le_of_lt larger)
  have taken : (state.next event).usedLeaseIds = event.leaseId :: state.usedLeaseIds := by
    simp only [StreamState.next, body]
  have held : (state.next event).activeLease = some (event.lease expiresAt) := by
    simp only [StreamState.next, body]
  simp only [nextWindows, body]
  refine ⟨?_, ?_, ?_, ?_, ?_, ?_⟩
  · refine List.pairwise_append.mpr ⟨windowed.ordered, List.pairwise_singleton _ _, ?_⟩
    intro window present added isAdded
    rw [List.mem_singleton.mp isAdded]
    refine ⟨Nat.lt_of_le_of_lt (windowed.generations window present) larger, ?_,
      ended window present⟩
    intro same
    have used := windowed.used window present
    rw [same] at used
    exact fresh used
  · intro window present
    rw [top]
    rcases List.mem_append.mp present with old | added
    · exact Nat.le_of_lt (Nat.lt_of_le_of_lt (windowed.generations window old) larger)
    · rw [List.mem_singleton.mp added]
  · intro window present
    rw [taken]
    rcases List.mem_append.mp present with old | added
    · exact List.mem_cons_of_mem _ (windowed.used window old)
    · rw [List.mem_singleton.mp added]
      exact List.mem_cons_self
  · intro lease active
    rw [held, Option.mem_some_iff] at active
    rw [top, ← active]
    rfl
  · intro _ window present
    rcases List.mem_append.mp present with old | added
    · refine Or.inr ⟨fun lease active same => ?_, fun last isLast => ?_⟩
      · rw [held, Option.mem_some_iff] at active
        have used := windowed.used window old
        rw [← same, ← active] at used
        exact fresh used
      · rw [next_previous, Option.mem_some_iff] at isLast
        rw [← isLast]
        exact ended window old
    · rw [List.mem_singleton.mp added]
      exact Or.inl ⟨_, held, rfl, rfl, rfl⟩
  · intro window present
    rw [next_index, next_previous]
    exact ⟨Nat.succ_pos _, event, rfl⟩

end Windowed

/-- The windows of a stored stream fit its replay. -/
theorem Stored.windowed {runId : RunId} {events : List RunEvent} (stored : Stored runId events) :
    Windowed (replay runId events) (leaseWindows events) := by
  induction events using List.reverseRecOn with
  | nil =>
      refine ⟨List.Pairwise.nil, ?_, ?_, ?_, ?_, ?_⟩
      · intro window present
        cases present
      · intro window present
        cases present
      · intro lease active
        cases active
      · intro _ window present
        cases present
      · intro window present
        cases present
  | append_singleton earlier event ih =>
      obtain ⟨before, _, shape, accepted⟩ := stored_append.mp stored
      have windowed := ih before
      rw [replay_append, leaseWindows, List.foldl_append]
      rcases issues_owned accepted with ⟨expiresAt, body⟩ | ⟨lease, active, owns⟩
      · exact windowed.next_acquired accepted body
      · refine windowed.next_owned accepted shape active owns fun expiresAt body => ?_
        have checked := (List.append_eq_nil_iff.mp accepted).2
        simp only [StreamState.bodyIssues, body, StreamState.add, List.append_eq_nil_iff,
          issueUnless_nil] at checked
        rw [checked.1.1] at active
        cases active

/-- The windows of a stored stream never overlap, and their generations rise. -/
theorem Stored.windows_before {runId : RunId} {events : List RunEvent}
    (stored : Stored runId events) : (leaseWindows events).Pairwise LeaseWindow.Before :=
  stored.windowed.ordered

end LineageGuard
