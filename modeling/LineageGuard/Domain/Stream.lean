import LineageGuard.Domain.Run
import LineageGuard.Library.Attempt
import Mathlib.Tactic

/-
This file gives the rules of run event streams and of their replay.
-/

namespace LineageGuard

open Attempt

theorem parseWith_ok {A : Type} {issues : A → List Issue} {value result : A} :
    parseWith issues value = .ok result ↔ issues value = [] ∧ value = result := by
  unfold parseWith
  split <;> simp_all

theorem elementIssues_nil (index : ℕ) (events : List RunEvent) :
    elementIssues index events = [] ↔ ∀ event ∈ events, runEventIssues event = [] := by
  induction events generalizing index with
  | nil => simp [elementIssues]
  | cons event rest ih => simp [elementIssues, ih]

theorem refineFrom_append (state : StreamState) (first second : List RunEvent) :
    refineFrom state (first ++ second) =
      refineFrom state first ++ refineFrom (first.foldl StreamState.next state) second := by
  induction first generalizing state with
  | nil => rfl
  | cons event rest ih => simp [refineFrom, ih]

@[simp] theorem replay_nil (runId : RunId) : replay runId [] = .initial runId := rfl

theorem replay_append (runId : RunId) (events : List RunEvent) (event : RunEvent) :
    replay runId (events ++ [event]) = (replay runId events).next event := by
  simp [replay]

@[simp] theorem next_index (state : StreamState) (event : RunEvent) :
    (state.next event).index = state.index + 1 := by
  unfold StreamState.next
  cases event.body <;> rfl

@[simp] theorem next_runId (state : StreamState) (event : RunEvent) :
    (state.next event).runId = state.runId := by
  unfold StreamState.next
  cases event.body <;> rfl

@[simp] theorem next_previous (state : StreamState) (event : RunEvent) :
    (state.next event).previous = some event := by
  unfold StreamState.next
  cases event.body <;> rfl

@[simp] theorem next_eventIds (state : StreamState) (event : RunEvent) :
    (state.next event).eventIds = event.eventId :: state.eventIds := by
  unfold StreamState.next
  cases event.body <;> rfl

theorem next_usedLeaseIds (state : StreamState) (event : RunEvent) (leaseId : LeaseId)
    (used : leaseId ∈ (state.next event).usedLeaseIds) :
    leaseId = event.leaseId ∨ leaseId ∈ state.usedLeaseIds := by
  unfold StreamState.next at used
  split at used <;> simp_all

theorem replay_index (runId : RunId) (events : List RunEvent) :
    (replay runId events).index = events.length := by
  induction events using List.reverseRecOn with
  | nil => rfl
  | append_singleton rest event ih => simp [replay_append, ih]

theorem replay_runId (runId : RunId) (events : List RunEvent) :
    (replay runId events).runId = runId := by
  induction events using List.reverseRecOn with
  | nil => rfl
  | append_singleton rest event ih => simp [replay_append, ih]

theorem replay_eventIds (runId : RunId) (events : List RunEvent) (eventId : EventId) :
    eventId ∈ (replay runId events).eventIds ↔ ∃ event ∈ events, event.eventId = eventId := by
  induction events using List.reverseRecOn with
  | nil => simp [StreamState.initial]
  | append_singleton rest event ih =>
      simp only [replay_append, next_eventIds, List.mem_cons, ih, List.mem_append,
        List.not_mem_nil, or_false]
      constructor
      · rintro (rfl | ⟨earlier, present, rfl⟩)
        · exact ⟨event, Or.inr rfl, rfl⟩
        · exact ⟨earlier, Or.inl present, rfl⟩
      · rintro ⟨found, present | rfl, rfl⟩
        · exact Or.inr ⟨found, present, rfl⟩
        · exact Or.inl rfl

/-- Every used lease identity occurs in the stream. -/
theorem replay_usedLeaseIds (runId : RunId) (events : List RunEvent) (leaseId : LeaseId)
    (used : leaseId ∈ (replay runId events).usedLeaseIds) :
    ∃ event ∈ events, event.leaseId = leaseId := by
  induction events using List.reverseRecOn with
  | nil => simp [StreamState.initial] at used
  | append_singleton rest event ih =>
      rw [replay_append] at used
      rcases next_usedLeaseIds _ _ _ used with rfl | earlier
      · exact ⟨event, by simp, rfl⟩
      · obtain ⟨found, present, same⟩ := ih earlier
        exact ⟨found, List.mem_append_left _ present, same⟩

/-- An event of the stream carries the active lease. -/
theorem replay_owner (runId : RunId) (events : List RunEvent) {lease : ActiveLease}
    (active : lease ∈ (replay runId events).activeLease) : ∃ event ∈ events, lease.Owns event := by
  induction events using List.reverseRecOn with
  | nil => cases active
  | append_singleton rest event ih =>
      have kept : lease ∈ (replay runId rest).activeLease →
          ∃ found ∈ rest ++ [event], lease.Owns found := by
        intro earlier
        obtain ⟨found, present, same⟩ := ih earlier
        exact ⟨found, List.mem_append_left _ present, same⟩
      have last : event ∈ rest ++ [event] := by simp
      rw [replay_append, StreamState.next] at active
      split at active <;> simp only at active
      case h_1 =>
        split at active
        · cases active
        · exact kept active
      case h_2 | h_3 =>
        cases active
        exact ⟨event, last, rfl, rfl, rfl⟩
      case h_4 | h_5 => cases active
      case h_6 => exact kept active

/-- The last event of the replay occurs in the stream. -/
theorem replay_previous (runId : RunId) (events : List RunEvent) {last : RunEvent}
    (previous : last ∈ (replay runId events).previous) : last ∈ events := by
  induction events using List.reverseRecOn with
  | nil => cases previous
  | append_singleton rest event =>
      rw [replay_append, next_previous, Option.mem_some_iff] at previous
      simp [previous]

/-- A stored stream is a stream of one run that the schema accepts once it is not empty. -/
structure Stored (runId : RunId) (events : List RunEvent) : Prop where
  shaped : ∀ event ∈ events, runEventIssues event = []
  bounded : events.length ≤ 300
  refined : refineFrom (.initial runId) events = []

theorem Stored.nil (runId : RunId) : Stored runId [] :=
  ⟨by simp, by simp, rfl⟩

/-- A stored stream grows by one event exactly when the replay raises no issue for it. -/
theorem stored_append {runId : RunId} {events : List RunEvent} {event : RunEvent} :
    Stored runId (events ++ [event]) ↔
      Stored runId events ∧ events.length < 300 ∧ runEventIssues event = [] ∧
        (replay runId events).issues event = [] := by
  constructor
  · rintro ⟨shaped, bounded, refined⟩
    rw [refineFrom_append, List.append_eq_nil_iff] at refined
    simp only [List.length_append, List.length_singleton] at bounded
    refine ⟨⟨fun old present => shaped old (List.mem_append_left _ present), by omega,
      refined.1⟩, by omega, shaped event (by simp), ?_⟩
    simpa [refineFrom, replay] using refined.2
  · rintro ⟨⟨shaped, bounded, refined⟩, room, shape, accepted⟩
    refine ⟨?_, by simp only [List.length_append, List.length_singleton]; omega, ?_⟩
    · intro old present
      rcases List.mem_append.mp present with earlier | added
      · exact shaped old earlier
      · rw [List.mem_singleton.mp added]
        exact shape
    · rw [refineFrom_append, refined]
      simpa [refineFrom, replay] using accepted

theorem Stored.of_append {runId : RunId} {first second : List RunEvent}
    (stored : Stored runId (first ++ second)) : Stored runId first := by
  refine ⟨fun event present => stored.shaped event (List.mem_append_left _ present), ?_, ?_⟩
  · have := stored.bounded
    simp only [List.length_append] at this
    omega
  · have refined := stored.refined
    rw [refineFrom_append, List.append_eq_nil_iff] at refined
    exact refined.1

/-- Every event of a stored stream belongs to the run of the stream. -/
theorem Stored.event_runId {runId : RunId} {events : List RunEvent} (stored : Stored runId events)
    {event : RunEvent} (present : event ∈ events) : event.runId = runId := by
  induction events using List.reverseRecOn with
  | nil => simp at present
  | append_singleton rest last ih =>
      obtain ⟨earlier, room, shape, accepted⟩ := stored_append.mp stored
      rcases List.mem_append.mp present with old | added
      · exact ih earlier old
      · rw [List.mem_singleton.mp added]
        simp only [StreamState.issues, StreamState.commonIssues, StreamState.add,
          List.append_eq_nil_iff, issueUnless_nil, replay_runId] at accepted
        exact accepted.1.1.1.1.1

theorem streamIssues_nil {runId : RunId} {events : List RunEvent} (nonempty : events ≠ [])
    (belongs : ∀ event ∈ events.head?, event.runId = runId) :
    runEventStreamIssues events = [] ↔ Stored runId events := by
  cases events with
  | nil => exact absurd rfl nonempty
  | cons first rest =>
      have same : first.runId = runId := belongs first rfl
      simp only [runEventStreamIssues, List.append_eq_nil_iff, issueUnless_nil, elementIssues_nil,
        List.head?_cons, Option.elim_some, same]
      constructor
      · rintro ⟨⟨⟨_, bounded⟩, shaped⟩, refined⟩
        exact ⟨shaped, bounded, refined⟩
      · rintro ⟨shaped, bounded, refined⟩
        exact ⟨⟨⟨by simp, bounded⟩, shaped⟩, refined⟩

/-- The schema accepts a stored stream unless it is empty. -/
theorem Stored.schema {runId : RunId} {events : List RunEvent} (stored : Stored runId events)
    (nonempty : events ≠ []) : runEventStreamSchema events = .ok events := by
  refine parseWith_ok.mpr ⟨(streamIssues_nil nonempty ?_).mpr stored, rfl⟩
  intro event isHead
  exact stored.event_runId (List.mem_of_mem_head? isHead)

/-- The schema rejects an empty stream. -/
theorem schema_nil : runEventStreamSchema [] = .error (.zod [⟨.tooSmall, []⟩]) := rfl

/-- The gate appends an event exactly when the longer stream is stored. -/
theorem authorizeRunEvent_ok {current : List RunEvent} {proposed : RunEvent} {now : IsoDateTime}
    {stream : List RunEvent} {runId : RunId} (belongs : proposed.runId = runId)
    (stored : Stored runId current) :
    authorizeRunEvent current proposed now = .ok stream ↔
      stream = current ++ [proposed] ∧ proposed.occurredAt = now ∧
        Stored runId (current ++ [proposed]) := by
  have head : ∀ event ∈ (current ++ [proposed]).head?, event.runId = runId := by
    intro event isHead
    cases current with
    | nil =>
        cases isHead
        exact belongs
    | cons first rest =>
        exact stored.event_runId (List.mem_of_mem_head? isHead)
  have parsed : structuralCurrent current = .ok current := by
    refine parseWith_ok.mpr ⟨?_, rfl⟩
    rw [List.append_eq_nil_iff, issueUnless_nil, elementIssues_nil]
    exact ⟨stored.bounded, stored.shaped⟩
  have kept : parseCurrent current = .ok current := by
    unfold parseCurrent
    split
    · next empty => rw [empty]
    · next nonempty => exact stored.schema nonempty
  simp only [authorizeRunEvent, parsed, bind_ok, Except.ok.injEq, exists_eq_left', kept,
    isoDateTimeSchema, runEventSchema, runEventStreamSchema, parseWith_ok, issueUnless_nil,
    require_ok]
  constructor
  · rintro ⟨_, ⟨valid, rfl⟩, _, ⟨shape, rfl⟩, _, rfl, accepted, rfl⟩
    exact ⟨rfl, rfl, (streamIssues_nil (by simp) head).mp accepted⟩
  · rintro ⟨rfl, rfl, longer⟩
    have shape := (stored_append.mp longer).2.2.1
    have valid : proposed.occurredAt.Valid := by
      simp only [runEventIssues, eventBaseIssues, isoDateTimeIssues, List.append_eq_nil_iff,
        issueUnless_nil] at shape
      exact shape.1.1.1.1
    exact ⟨_, ⟨valid, rfl⟩, _, ⟨shape, rfl⟩, (), rfl,
      (streamIssues_nil (by simp) head).mpr longer, rfl⟩

end LineageGuard
