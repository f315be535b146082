import LineageGuard.Domain.Stream
import LineageGuard.Library.Journal
import Mathlib.Tactic

/-
This file states what a run event stream means and shows that the schema accepts these streams.
-/

namespace LineageGuard

open Journal Attempt

section Workflow

/-- A successful run goes through these statuses in this order. -/
def workflow : List RunStatus :=
  [.created, .changeParsed, .baselineAssessed, .contextCollecting, .contextCollected,
    .riskDecided, .migrationPlanned, .patchGenerated, .validating, .validated,
    .reviewArtifactCreated, .writebackPending, .completed]

/-- A run fails from these statuses into these ones. -/
def failures : List (RunStatus × RunStatus) :=
  [(.contextCollecting, .failedContext), (.contextCollected, .failedContext),
    (.riskDecided, .failedGeneration), (.migrationPlanned, .failedGeneration),
    (.patchGenerated, .failedGeneration), (.validating, .failedValidation),
    (.validated, .failedGithub), (.reviewArtifactCreated, .failedGithub),
    (.writebackPending, .failedWriteback)]

/-- A run advances, fails, or is cancelled before it completes. -/
def LegalEdge (source target : RunStatus) : Prop :=
  (source, target) ∈ workflow.zip workflow.tail ∨ (source, target) ∈ failures ∨
    (source ∈ workflow.dropLast ∧ target = .cancelled)

instance (source target : RunStatus) : Decidable (LegalEdge source target) :=
  inferInstanceAs (Decidable (_ ∨ _ ∨ _ ∧ _))

theorem isAdjacentRunStatus_iff {source target : RunStatus} :
    isAdjacentRunStatus source target = true ↔ LegalEdge source target := by
  cases source <;> cases target <;> decide

/-- A status is final when no edge leaves it. -/
def Final (status : RunStatus) : Prop := ∀ target, ¬ LegalEdge status target

theorem isTerminalRunStatus_iff {status : RunStatus} :
    isTerminalRunStatus status = true ↔ Final status := by
  constructor
  · intro terminal target edge
    rw [← isAdjacentRunStatus_iff, isAdjacentRunStatus, if_pos terminal] at edge
    cases edge
  · intro final
    by_contra open_
    refine final .cancelled (isAdjacentRunStatus_iff.mp ?_)
    rw [isAdjacentRunStatus, if_neg open_, if_pos rfl]

instance (status : RunStatus) : Decidable (Final status) :=
  decidable_of_iff _ isTerminalRunStatus_iff

end Workflow

section Language

/-- This is the status that an event sets. -/
def RunEvent.target (event : RunEvent) : Option RunStatus :=
  match event.body with
  | .statusChanged _ target _ => some target
  | _ => none

/-- An event grants a lease, ends the lease that is held, or leaves it. -/
def RunEvent.tenure (event : RunEvent) : Option (Option ActiveLease) :=
  match event.body with
  | .statusChanged _ target _ => if Final target then some none else none
  | .leaseAcquired expiresAt => some (some (event.lease expiresAt))
  | .leaseRenewed _ expiresAt => some (some (event.lease expiresAt))
  | .leaseReleased => some none
  | .leaseExpired _ => some none
  | .retryScheduled .. => none

def RunEvent.Acquires (event : RunEvent) : Prop := event.type = .runLeaseAcquired

def RunEvent.EndsRun (event : RunEvent) : Prop := ∃ status ∈ event.target, Final status

def RunEvent.retries (operation : RetryOperation) (event : RunEvent) : Bool :=
  match event.body with
  | .retryScheduled other _ _ _ => other = operation
  | _ => false

/-- The run is in the status that its last status change sets. -/
def InStatus (past : List RunEvent) (status : RunStatus) : Prop :=
  Holds RunEvent.target .created past status

/-- The run holds the lease that its last tenure event leaves. -/
def Tenure (past : List RunEvent) (lease : Option ActiveLease) : Prop :=
  Holds RunEvent.tenure none past lease

/-- A worker acts within its lease. -/
def LiveOwner (past : List RunEvent) (event : RunEvent) (lease : ActiveLease) : Prop :=
  Tenure past (some lease) ∧ lease.Owns event ∧ event.occurredAt.time < lease.expiresAt.time

/-- This is the rule of each type of event against the events before it. -/
def BodyFollows (past : List RunEvent) (event : RunEvent) : Prop :=
  match event.body with
  | .statusChanged source target _ =>
      LegalEdge source target ∧ InStatus past source ∧ ∃ lease, LiveOwner past event lease
  | .leaseAcquired _ =>
      Tenure past none ∧ ∀ earlier ∈ past, earlier.Acquires →
        earlier.leaseId ≠ event.leaseId ∧ earlier.generation < event.generation
  | .leaseRenewed previousExpiresAt _ =>
      ∃ lease, LiveOwner past event lease ∧ lease.expiresAt = previousExpiresAt
  | .leaseReleased => ∃ lease, LiveOwner past event lease
  | .leaseExpired expiredAt =>
      ∃ lease, Tenure past (some lease) ∧ lease.Owns event ∧
        lease.expiresAt.time ≤ expiredAt.time
  | .retryScheduled operation attempt _ _ =>
      (∃ lease, LiveOwner past event lease) ∧
        (∃ status ∈ retryStates operation, InStatus past status) ∧
          attempt = past.countP (RunEvent.retries operation) + 1

/-- An event follows only events that leave its run open. -/
structure Follows (past : List RunEvent) (event : RunEvent) : Prop where
  running : ∀ earlier ∈ past, ¬ earlier.EndsRun
  body : BodyFollows past event

def IsText (text : String) (limit : ℕ) : Prop :=
  1 ≤ utf16Length text ∧ utf16Length text ≤ limit

/-- These are the rules of each type of event by itself. -/
def BodyShaped (event : RunEvent) : Prop :=
  match event.body with
  | .statusChanged _ _ detail => ∀ text ∈ detail, IsText text 500
  | .leaseAcquired expiresAt => expiresAt.Valid ∧ event.occurredAt.time < expiresAt.time
  | .leaseRenewed previousExpiresAt expiresAt =>
      previousExpiresAt.Valid ∧ expiresAt.Valid ∧
        event.occurredAt.time < previousExpiresAt.time ∧
          previousExpiresAt.time < expiresAt.time
  | .leaseReleased => True
  | .leaseExpired expiredAt => expiredAt = event.occurredAt ∧ expiredAt.Valid
  | .retryScheduled _ attempt retryAt reason =>
      retryAt.Valid ∧ IsText reason 500 ∧
        ∃ delay ∈ retryDelay attempt, retryAt.time = event.occurredAt.time + delay

structure Shaped (event : RunEvent) : Prop where
  dated : event.occurredAt.Valid
  worker : IsText event.workerId 160
  generation : 1 ≤ event.generation ∧ event.generation ≤ 1000000
  body : BodyShaped event

/-- These are the rules of the events of one run. -/
structure Lawful (runId : RunId) (events : List RunEvent) : Prop where
  bounded : events.length ≤ 300
  shaped : ∀ event ∈ events, Shaped event
  oneRun : ∀ event ∈ events, event.runId = runId
  distinct : (events.map RunEvent.eventId).Nodup
  contiguous : events.map RunEvent.sequence = List.range events.length
  chronological : events.Pairwise fun earlier later =>
    earlier.occurredAt.time ≤ later.occurredAt.time
  follows : Everywhere Follows events

/-- A stream is the nonempty history of one run. -/
def RunLanguage (events : List RunEvent) : Prop := events ≠ [] ∧ ∃ runId, Lawful runId events

end Language

section Replay

variable {runId : RunId} {past : List RunEvent} {event : RunEvent}

theorem next_currentStatus (state : StreamState) (event : RunEvent) :
    (state.next event).currentStatus = event.target.getD state.currentStatus := by
  unfold StreamState.next RunEvent.target
  cases event.body <;> rfl

theorem next_activeLease (state : StreamState) (event : RunEvent) :
    (state.next event).activeLease = event.tenure.getD state.activeLease := by
  unfold StreamState.next RunEvent.tenure
  cases event.body with
  | statusChanged source target detail =>
      simp only [← isTerminalRunStatus_iff]
      split <;> rfl
  | leaseAcquired | leaseRenewed | leaseReleased | leaseExpired | retryScheduled => rfl

/-- The replay computes the status of the run. -/
theorem replay_status {status : RunStatus} :
    InStatus past status ↔ (replay runId past).currentStatus = status := by
  have folds : (replay runId past).currentStatus =
      past.foldl (fun held event => (RunEvent.target event).getD held) .created := by
    induction past using List.reverseRecOn with
    | nil => rfl
    | append_singleton rest last ih =>
        rw [replay_append, next_currentStatus, ih, List.foldl_append]
        rfl
  rw [InStatus, holds_foldl, folds]

/-- The replay computes the tenure of the run. -/
theorem replay_tenure {lease : Option ActiveLease} :
    Tenure past lease ↔ (replay runId past).activeLease = lease := by
  have folds : (replay runId past).activeLease =
      past.foldl (fun held event => (RunEvent.tenure event).getD held) none := by
    induction past using List.reverseRecOn with
    | nil => rfl
    | append_singleton rest last ih =>
        rw [replay_append, next_activeLease, ih, List.foldl_append]
        rfl
  rw [Tenure, holds_foldl, folds]

theorem replay_holds {lease : ActiveLease} :
    lease ∈ (replay runId past).activeLease ↔ Tenure past (some lease) := by
  rw [replay_tenure, Option.mem_def]

/-- The replay knows the leases that the run acquired. -/
theorem replay_acquired {leaseId : LeaseId} :
    leaseId ∈ (replay runId past).usedLeaseIds ↔
      ∃ earlier ∈ past, earlier.Acquires ∧ earlier.leaseId = leaseId := by
  induction past using List.reverseRecOn with
  | nil => simp [StreamState.initial]
  | append_singleton rest last ih =>
      have added : leaseId ∈ ((replay runId rest).next last).usedLeaseIds ↔
          leaseId ∈ (replay runId rest).usedLeaseIds ∨
            (last.Acquires ∧ last.leaseId = leaseId) := by
        unfold StreamState.next RunEvent.Acquires RunEvent.type
        cases last.body <;> simp [RunEventBody.type, eq_comm, or_comm]
      rw [replay_append, added, ih]
      simp only [List.mem_append, List.mem_singleton, or_and_right, exists_or, exists_eq_left]

/-- The replay knows the largest generation that the run acquired. -/
theorem replay_generation {generation : ℕ} (positive : 0 < generation) :
    (replay runId past).highestLeaseGeneration < generation ↔
      ∀ earlier ∈ past, earlier.Acquires → earlier.generation < generation := by
  induction past using List.reverseRecOn with
  | nil => simpa [StreamState.initial] using positive
  | append_singleton rest last ih =>
      have added : ((replay runId rest).next last).highestLeaseGeneration < generation ↔
          (replay runId rest).highestLeaseGeneration < generation ∧
            (last.Acquires → last.generation < generation) := by
        unfold StreamState.next RunEvent.Acquires RunEvent.type
        cases last.body <;> simp [RunEventBody.type]
      rw [replay_append, added, ih, List.forall_mem_append, List.forall_mem_singleton]

/-- The replay of a stored stream counts the retries of each operation. -/
theorem replay_retries (stored : Stored runId past) (operation : RetryOperation) :
    (replay runId past).retryAttempts operation =
      past.countP (RunEvent.retries operation) := by
  induction past using List.reverseRecOn with
  | nil => rfl
  | append_singleton rest last ih =>
      obtain ⟨earlier, _, _, accepted⟩ := stored_append.mp stored
      have counted := ih earlier
      rw [replay_append, List.countP_append, List.countP_singleton, ← counted]
      unfold StreamState.next RunEvent.retries
      cases body : last.body with
      | retryScheduled other attempt retryAt reason =>
          have own := (List.append_eq_nil_iff.mp accepted).2
          simp only [StreamState.bodyIssues, body, StreamState.add, List.append_eq_nil_iff,
            issueUnless_nil] at own
          have contiguous := own.2
          by_cases same : other = operation
          · subst same
            simpa using contiguous
          · have apart : operation ≠ other := Ne.symm same
            simp [same, apart]
      | statusChanged | leaseAcquired | leaseRenewed | leaseReleased | leaseExpired => simp

end Replay

section Entry

variable {runId : RunId} {past : List RunEvent} {event : RunEvent}

theorem textIssues_nil {text : String} {limit : ℕ} {field : String} :
    textIssues text limit field = [] ↔ IsText text limit := by
  simp only [textIssues, List.append_eq_nil_iff, issueUnless_nil, IsText]

/-- This is the part of the schema of one event that reads the table of the statuses. -/
def LegalBody (event : RunEvent) : Prop :=
  match event.body with
  | .statusChanged source target _ => LegalEdge source target
  | _ => True

theorem retryDelay_bounded {attempt delay : ℕ} (known : delay ∈ retryDelay attempt) :
    1 ≤ attempt ∧ attempt ≤ 3 := by
  unfold retryDelay at known
  split at known
  case h_4 => cases known
  all_goals decide

/-- The schema of one event accepts the shaped events whose edge is legal. -/
theorem runEventIssues_shaped : runEventIssues event = [] ↔ Shaped event ∧ LegalBody event := by
  have base : eventBaseIssues event = [] ↔ event.occurredAt.Valid ∧ IsText event.workerId 160 ∧
      1 ≤ event.generation ∧ event.generation ≤ 1000000 := by
    simp only [eventBaseIssues, List.append_eq_nil_iff, textIssues_nil, isoDateTimeIssues,
      issueUnless_nil, and_assoc, Nat.lt_iff_add_one_le, Nat.zero_add]
  have own : eventBodyIssues event = [] ↔ BodyShaped event ∧ LegalBody event := by
    unfold eventBodyIssues BodyShaped LegalBody
    cases event.body with
    | statusChanged source target detail =>
        cases detail <;>
          simp [textIssues_nil, isAdjacentRunStatus_iff]
    | leaseAcquired expiresAt => simp [isoDateTimeIssues]
    | leaseRenewed previousExpiresAt expiresAt =>
        simp only [isoDateTimeIssues, List.append_eq_nil_iff, issueUnless_nil, and_true]
        tauto
    | leaseReleased => simp
    | leaseExpired expiredAt =>
        simp only [isoDateTimeIssues, List.append_eq_nil_iff, issueUnless_nil, and_true]
        tauto
    | retryScheduled operation attempt retryAt reason =>
        simp only [isoDateTimeIssues, textIssues_nil, List.append_eq_nil_iff, issueUnless_nil,
          and_true]
        constructor
        · rintro ⟨⟨⟨_, dated⟩, reason⟩, delay⟩
          exact ⟨dated, reason, delay⟩
        · rintro ⟨dated, reason, delay, known, later⟩
          exact ⟨⟨⟨retryDelay_bounded known, dated⟩, reason⟩, delay, known, later⟩
  rw [runEventIssues, List.append_eq_nil_iff, base, own]
  constructor
  · rintro ⟨⟨dated, worker, generation⟩, body, legal⟩
    exact ⟨⟨dated, worker, generation, body⟩, legal⟩
  · rintro ⟨⟨dated, worker, generation, body⟩, legal⟩
    exact ⟨⟨dated, worker, generation⟩, body, legal⟩

theorem operationalIssues_nil : (replay runId past).operationalIssues event = [] ↔
    ∃ lease, Tenure past (some lease) ∧ lease.Owns event := by
  simp only [StreamState.operationalIssues, StreamState.add, issueUnless_nil, replay_holds]

/-- Two tenures of one history are the same. -/
theorem Tenure.unique {first second : Option ActiveLease} (one : Tenure past first)
    (other : Tenure past second) : first = second := by
  rw [Tenure, holds_foldl] at one other
  exact one.symm.trans other

theorem liveOwner_iff : (∃ lease, LiveOwner past event lease) ↔
    (∃ lease, Tenure past (some lease) ∧ lease.Owns event) ∧
      ∃ lease, Tenure past (some lease) ∧ event.occurredAt.time < lease.expiresAt.time := by
  constructor
  · rintro ⟨lease, held, owns, live⟩
    exact ⟨⟨lease, held, owns⟩, lease, held, live⟩
  · rintro ⟨⟨lease, held, owns⟩, other, alsoHeld, live⟩
    cases Tenure.unique held alsoHeld
    exact ⟨lease, held, owns, live⟩

/-- The checks of one type of event are its rule against the events before it. -/
theorem bodyIssues_follows (stored : Stored runId past) (positive : 0 < event.generation) :
    ((replay runId past).bodyIssues event = [] ∧ LegalBody event) ↔ BodyFollows past event := by
  unfold StreamState.bodyIssues LegalBody BodyFollows
  cases event.body with
  | statusChanged source target detail =>
      simp only [StreamState.add, List.append_eq_nil_iff, issueUnless_nil, replay_holds,
        eq_comm (a := source), ← replay_status, LiveOwner]
      tauto
  | leaseAcquired expiresAt =>
      simp only [StreamState.add, List.append_eq_nil_iff, issueUnless_nil, ← replay_tenure,
        replay_acquired, replay_generation positive, and_true, not_exists, not_and, and_assoc]
      refine and_congr_right fun _ => ?_
      rw [← forall₂_and]
      exact forall₂_congr fun _ _ => forall_and.symm
  | leaseRenewed previousExpiresAt expiresAt =>
      simp only [StreamState.add, List.append_eq_nil_iff, issueUnless_nil, replay_holds, and_true,
        operationalIssues_nil]
      constructor
      · rintro ⟨⟨lease, held, owns⟩, other, alsoHeld, same, live⟩
        cases Tenure.unique held alsoHeld
        exact ⟨lease, ⟨held, owns, live⟩, same⟩
      · rintro ⟨lease, ⟨held, owns, live⟩, same⟩
        exact ⟨⟨lease, held, owns⟩, lease, held, same, live⟩
  | leaseReleased =>
      simp only [StreamState.add, List.append_eq_nil_iff, issueUnless_nil, replay_holds, and_true,
        operationalIssues_nil]
      constructor
      · rintro ⟨⟨lease, held, owns⟩, live⟩
        exact ⟨lease, held, owns, live lease held⟩
      · rintro ⟨lease, held, owns, live⟩
        refine ⟨⟨lease, held, owns⟩, ?_⟩
        intro other alsoHeld
        cases Tenure.unique held alsoHeld
        exact live
  | leaseExpired expiredAt =>
      simp only [StreamState.add, List.append_eq_nil_iff, issueUnless_nil, replay_holds, and_true,
        operationalIssues_nil]
      constructor
      · rintro ⟨⟨lease, held, owns⟩, other, alsoHeld, ended⟩
        cases Tenure.unique held alsoHeld
        exact ⟨lease, held, owns, ended⟩
      · rintro ⟨lease, held, owns, ended⟩
        exact ⟨⟨lease, held, owns⟩, lease, held, ended⟩
  | retryScheduled operation attempt retryAt reason =>
      simp only [StreamState.add, List.append_eq_nil_iff, issueUnless_nil, replay_holds, and_true,
        operationalIssues_nil, replay_retries stored, @replay_status runId,
        exists_eq_right', liveOwner_iff, and_assoc]

end Entry

section Streams

variable {runId : RunId} {past : List RunEvent} {event : RunEvent}

/-- This is what a history asks of its next event. -/
structure Enters (runId : RunId) (past : List RunEvent) (event : RunEvent) : Prop where
  room : past.length < 300
  shaped : Shaped event
  sameRun : event.runId = runId
  fresh : ∀ earlier ∈ past, earlier.eventId ≠ event.eventId
  contiguous : event.sequence = past.length
  chronological : ∀ earlier ∈ past, earlier.occurredAt.time ≤ event.occurredAt.time
  follows : Follows past event

theorem lawful_nil : Lawful runId [] where
  bounded := by simp
  shaped := by simp
  oneRun := by simp
  distinct := by simp
  contiguous := rfl
  chronological := by simp
  follows := everywhere_nil

theorem lawful_append :
    Lawful runId (past ++ [event]) ↔ Lawful runId past ∧ Enters runId past event := by
  constructor
  · intro lawful
    have bounded := lawful.bounded
    have contiguous := lawful.contiguous
    simp only [List.length_append, List.length_singleton] at bounded
    simp only [List.map_append, List.map_singleton, List.length_append, List.length_singleton,
      List.range_succ, List.append_singleton_inj] at contiguous
    have distinct := lawful.distinct
    rw [List.map_append, List.map_singleton, List.nodup_append'] at distinct
    have chronological := List.pairwise_append.mp lawful.chronological
    have follows := everywhere_append.mp lawful.follows
    constructor
    · exact
        { bounded := by omega
          shaped := fun earlier present => lawful.shaped earlier (List.mem_append_left _ present)
          oneRun := fun earlier present => lawful.oneRun earlier (List.mem_append_left _ present)
          distinct := distinct.1
          contiguous := contiguous.1
          chronological := chronological.1
          follows := follows.1 }
    · exact
        { room := by omega
          shaped := lawful.shaped event (by simp)
          sameRun := lawful.oneRun event (by simp)
          fresh := fun earlier present same =>
            distinct.2.2 (List.mem_map_of_mem present) (by simp [same])
          contiguous := contiguous.2
          chronological := fun earlier present => chronological.2.2 earlier present event (by simp)
          follows := follows.2 }
  · rintro ⟨lawful, enters⟩
    exact
      { bounded := by
          rw [List.length_append, List.length_singleton]
          exact enters.room
        shaped := List.forall_mem_append.mpr ⟨lawful.shaped, by simpa using enters.shaped⟩
        oneRun := List.forall_mem_append.mpr ⟨lawful.oneRun, by simpa using enters.sameRun⟩
        distinct := by
          rw [List.map_append, List.map_singleton, List.nodup_append']
          refine ⟨lawful.distinct, List.nodup_singleton _, ?_⟩
          rw [List.disjoint_singleton]
          intro present
          obtain ⟨earlier, isEarlier, same⟩ := List.mem_map.mp present
          exact enters.fresh earlier isEarlier same
        contiguous := by
          rw [List.map_append, List.map_singleton, List.length_append, List.length_singleton,
            List.range_succ, lawful.contiguous, enters.contiguous]
        chronological := by
          refine List.pairwise_append.mpr ⟨lawful.chronological, List.pairwise_singleton _ _, ?_⟩
          intro earlier present other isEvent
          rw [List.mem_singleton.mp isEvent]
          exact enters.chronological earlier present
        follows := everywhere_append.mpr ⟨lawful.follows, enters.follows⟩ }

/-- A history without an end is in an open status. -/
theorem status_open (running : ∀ earlier ∈ past, ¬ earlier.EndsRun) :
    isTerminalRunStatus (replay runId past).currentStatus = false := by
  rw [Bool.eq_false_iff, ne_eq, isTerminalRunStatus_iff]
  intro final
  rcases replay_status.mpr (rfl : (replay runId past).currentStatus = _) with
    ⟨created, _⟩ | ⟨before, last, after, whole, sets, _⟩
  · rw [created] at final
    exact final .cancelled (by decide)
  · exact running last (by simp [whole]) ⟨_, sets, final⟩

/-- An event may follow a lawful history exactly when the run is still open. -/
theorem running_iff (lawful : Lawful runId past) :
    (∀ earlier ∈ past, ¬ earlier.EndsRun) ↔
      ¬ (0 < past.length ∧ isTerminalRunStatus (replay runId past).currentStatus = true) := by
  constructor
  · rintro running ⟨_, terminal⟩
    rw [status_open running] at terminal
    cases terminal
  · intro open_
    induction past using List.reverseRecOn with
    | nil => simp
    | append_singleton rest last =>
        have follows := (lawful_append.mp lawful).2.follows
        refine List.forall_mem_append.mpr ⟨follows.running, ?_⟩
        rw [List.forall_mem_singleton]
        rintro ⟨status, sets, final⟩
        refine open_ ⟨by simp, ?_⟩
        rw [replay_append, next_currentStatus, Option.mem_def.mp sets, Option.getD_some]
        exact isTerminalRunStatus_iff.mpr final

/-- No event of a lawful history is later than its last one. -/
theorem chronological_iff (lawful : Lawful runId past) :
    (∀ earlier ∈ (replay runId past).previous,
        earlier.occurredAt.time ≤ event.occurredAt.time) ↔
      ∀ earlier ∈ past, earlier.occurredAt.time ≤ event.occurredAt.time := by
  constructor
  · intro ordered
    induction past using List.reverseRecOn with
    | nil => simp
    | append_singleton rest last =>
        have lastFits : last.occurredAt.time ≤ event.occurredAt.time := by
          apply ordered
          rw [replay_append, next_previous]
          rfl
        refine List.forall_mem_append.mpr ⟨?_, by simpa using lastFits⟩
        intro earlier present
        exact ((lawful_append.mp lawful).2.chronological earlier present).trans lastFits
  · intro ordered earlier isPrevious
    exact ordered earlier (replay_previous runId past isPrevious)

theorem commonIssues_enters (lawful : Lawful runId past) :
    (replay runId past).commonIssues event = [] ↔
      event.runId = runId ∧ (∀ earlier ∈ past, earlier.eventId ≠ event.eventId) ∧
        event.sequence = past.length ∧
        (∀ earlier ∈ past, earlier.occurredAt.time ≤ event.occurredAt.time) ∧
        ∀ earlier ∈ past, ¬ earlier.EndsRun := by
  rw [running_iff lawful, ← chronological_iff lawful]
  simp only [StreamState.commonIssues, StreamState.add, List.append_eq_nil_iff, issueUnless_nil,
    replay_runId, replay_index, replay_eventIds, and_assoc, not_exists, not_and]

/-- The schema accepts one more event of a lawful history exactly when the event enters it. -/
theorem enters_iff (stored : Stored runId past) (lawful : Lawful runId past) :
    (past.length < 300 ∧ runEventIssues event = [] ∧ (replay runId past).issues event = []) ↔
      Enters runId past event := by
  rw [StreamState.issues, List.append_eq_nil_iff, commonIssues_enters lawful,
    runEventIssues_shaped]
  constructor
  · rintro ⟨room, ⟨shaped, legal⟩, ⟨sameRun, fresh, contiguous, chronological, running⟩, own⟩
    have body := (bodyIssues_follows stored shaped.generation.1).mp ⟨own, legal⟩
    exact ⟨room, shaped, sameRun, fresh, contiguous, chronological, ⟨running, body⟩⟩
  · rintro ⟨room, shaped, sameRun, fresh, contiguous, chronological, ⟨running, body⟩⟩
    obtain ⟨own, legal⟩ := (bodyIssues_follows stored shaped.generation.1).mpr body
    exact ⟨room, ⟨shaped, legal⟩, ⟨sameRun, fresh, contiguous, chronological, running⟩, own⟩

/-- The schema accepts exactly the lawful histories of a run. -/
theorem stored_lawful : Stored runId past ↔ Lawful runId past := by
  induction past using List.reverseRecOn with
  | nil => exact iff_of_true (Stored.nil runId) lawful_nil
  | append_singleton rest last ih =>
      rw [stored_append, lawful_append, ← ih]
      refine and_congr_right fun stored => ?_
      exact enters_iff stored (ih.mp stored)

theorem language_of {events : List RunEvent} (nonempty : events ≠ [])
    (belongs : ∀ event ∈ events.head?, event.runId = runId) :
    RunLanguage events ↔ Stored runId events := by
  rw [stored_lawful]
  constructor
  · rintro ⟨_, other, lawful⟩
    have same : other = runId := by
      cases events with
      | nil => exact absurd rfl nonempty
      | cons first rest => rw [← belongs first rfl, lawful.oneRun first (by simp)]
    exact same ▸ lawful
  · exact fun lawful => ⟨nonempty, runId, lawful⟩

/-- The schema returns the streams of the language. -/
theorem runEventStreamSchema_iff {events stream : List RunEvent} :
    runEventStreamSchema events = .ok stream ↔ stream = events ∧ RunLanguage events := by
  cases events with
  | nil =>
      rw [schema_nil]
      exact iff_of_false (by simp) fun claimed => claimed.2.1 rfl
  | cons first rest =>
      have belongs : ∀ event ∈ (first :: rest).head?, event.runId = first.runId := by
        rintro event isHead
        rw [Option.mem_some_iff.mp isHead]
      rw [runEventStreamSchema, parseWith_ok, streamIssues_nil (by simp) belongs,
        language_of (by simp) belongs, and_comm, eq_comm]

theorem RunLanguage.of_append {first second : List RunEvent} (nonempty : first ≠ [])
    (language : RunLanguage (first ++ second)) : RunLanguage first := by
  obtain ⟨_, runId, lawful⟩ := language
  exact ⟨nonempty, runId, stored_lawful.mp (stored_lawful.mpr lawful).of_append⟩

/-- The gate returns the streams of the language that end with the proposed event. -/
theorem authorizeRunEvent_iff {current : List RunEvent} {proposed : RunEvent}
    {now : IsoDateTime} {stream : List RunEvent} :
    authorizeRunEvent current proposed now = .ok stream ↔
      stream = current ++ [proposed] ∧ proposed.occurredAt = now ∧
        RunLanguage (current ++ [proposed]) := by
  constructor
  · intro authorized
    simp only [authorizeRunEvent, isoDateTimeSchema, structuralCurrent, runEventSchema, bind_ok,
      parseWith_ok, require_ok] at authorized
    obtain ⟨_, ⟨_, rfl⟩, _, ⟨_, rfl⟩, kept, isKept, _, ⟨_, rfl⟩, _, sameTime, longer⟩ :=
      authorized
    have whole : kept = current := by
      unfold parseCurrent at isKept
      split at isKept
      · next empty => rw [empty, ← Except.ok.inj isKept]
      · next => exact (runEventStreamSchema_iff.mp isKept).1
    subst whole
    obtain ⟨isStream, language⟩ := runEventStreamSchema_iff.mp longer
    exact ⟨isStream, sameTime, language⟩
  · rintro ⟨isStream, sameTime, _, runId, lawful⟩
    have stored := stored_lawful.mpr lawful
    have belongs := (lawful_append.mp lawful).2.sameRun
    exact (authorizeRunEvent_ok belongs stored.of_append).mpr ⟨isStream, sameTime, stored⟩

/-- A run grows event by event through the gate, each at its own time. -/
def authorizeEach (current events : List RunEvent) : Except DomainError (List RunEvent) :=
  events.foldlM (fun stream event => authorizeRunEvent stream event event.occurredAt) current

theorem authorizeEach_iff {current events stream : List RunEvent} :
    authorizeEach current events = .ok stream ↔
      stream = current ++ events ∧ (events = [] ∨ RunLanguage (current ++ events)) := by
  induction events generalizing current with
  | nil =>
      simp only [authorizeEach, List.foldlM_nil, pure_ok, List.append_nil, true_or, and_true]
      exact eq_comm
  | cons event rest ih =>
      have split : current ++ event :: rest = current ++ [event] ++ rest := by simp
      rw [authorizeEach, List.foldlM_cons, bind_ok, split]
      simp only [authorizeRunEvent_iff, reduceCtorEq, false_or]
      constructor
      · rintro ⟨_, ⟨rfl, _, language⟩, continues⟩
        obtain ⟨rfl, rfl | whole⟩ := ih.mp continues
        · exact ⟨by simp, by simpa using language⟩
        · exact ⟨by simp, whole⟩
      · rintro ⟨rfl, language⟩
        have shorter := language.of_append (by simp)
        exact ⟨_, ⟨rfl, trivial, shorter⟩, ih.mpr ⟨rfl, Or.inr language⟩⟩

end Streams

section Result

/-- The schema and the gate accept exactly the nonempty histories of one run, whose nonempty
prefixes are histories as well and which the gate extends to histories. -/
theorem run_stream_language :
    (∀ events stream, runEventStreamSchema events = .ok stream ↔
      stream = events ∧ RunLanguage events) ∧
    (∀ event rest stream, authorizeEach [] (event :: rest) = .ok stream ↔
      stream = event :: rest ∧ RunLanguage (event :: rest)) ∧
    (∀ current proposed now stream, authorizeRunEvent current proposed now = .ok stream ↔
      stream = current ++ [proposed] ∧ proposed.occurredAt = now ∧
        RunLanguage (current ++ [proposed])) ∧
    (∀ event first second, runEventStreamSchema (event :: first ++ second) =
        .ok (event :: first ++ second) →
      runEventStreamSchema (event :: first) = .ok (event :: first)) ∧
    ∀ current proposed now stream, authorizeRunEvent current proposed now = .ok stream →
      runEventStreamSchema stream = .ok stream := by
  refine ⟨fun events stream => runEventStreamSchema_iff, ?_, ?_, ?_, ?_⟩
  · intro event rest stream
    rw [authorizeEach_iff, List.nil_append]
    simp
  · intro current proposed now stream
    exact authorizeRunEvent_iff
  · intro event first second accepted
    have language := (runEventStreamSchema_iff.mp accepted).2
    exact runEventStreamSchema_iff.mpr ⟨rfl, language.of_append (by simp)⟩
  · intro current proposed now stream authorized
    obtain ⟨isStream, _, language⟩ := authorizeRunEvent_iff.mp authorized
    rw [isStream]
    exact runEventStreamSchema_iff.mpr ⟨rfl, language⟩

/-- These are the rules of a description that leaves out the identity of the leases. -/
def DescribedEntry (past : List RunEvent) (event : RunEvent) : Prop :=
  (∀ earlier ∈ past, ¬ earlier.EndsRun) ∧
    match event.body with
    | .statusChanged source target _ =>
        LegalEdge source target ∧ InStatus past source ∧ ∃ lease, LiveOwner past event lease
    | .leaseAcquired _ => Tenure past none
    | .retryScheduled operation attempt _ _ =>
        attempt = past.countP (RunEvent.retries operation) + 1
    | _ => True

structure Described (events : List RunEvent) : Prop where
  filled : events ≠ []
  shaped : ∀ event ∈ events, runEventSchema event = .ok event
  contiguous : events.map RunEvent.sequence = List.range events.length
  chronological : events.Pairwise fun earlier later =>
    earlier.occurredAt.time ≤ later.occurredAt.time
  described : Everywhere DescribedEntry events

def sampleHistoryEvent (sequence : ℕ) (body : RunEventBody) : RunEvent where
  eventId := ⟨sequence⟩
  runId := ⟨0⟩
  sequence := sequence
  occurredAt := toISOString sequence
  leaseId := ⟨0⟩
  workerId := "worker"
  generation := 1
  body := body

/-- The run releases its lease and acquires it again. -/
def sampleHistory : List RunEvent :=
  [sampleHistoryEvent 0 (.leaseAcquired (toISOString 1000)),
    sampleHistoryEvent 1 .leaseReleased,
    sampleHistoryEvent 2 (.leaseAcquired (toISOString 1000))]

example : runEventStreamSchema (sampleHistory.take 2) = .ok (sampleHistory.take 2) := by decide

theorem sampleHistory_entry {past : List RunEvent}
    (silent : ∀ earlier ∈ past, earlier.target = none) :
    ∀ earlier ∈ past, ¬ earlier.EndsRun := by
  rintro earlier present ⟨status, sets, _⟩
  rw [silent earlier present] at sets
  cases sets

theorem sampleHistory_described : Described sampleHistory where
  filled := by simp [sampleHistory]
  shaped := by
    simp only [sampleHistory, List.forall_mem_cons, List.not_mem_nil, false_implies,
      implies_true, and_true, runEventSchema, parseWith_ok]
    decide
  contiguous := by decide
  chronological := by decide
  described := by
    have whole : sampleHistory = [] ++ [sampleHistoryEvent 0 (.leaseAcquired (toISOString 1000))] ++
        [sampleHistoryEvent 1 .leaseReleased] ++
        [sampleHistoryEvent 2 (.leaseAcquired (toISOString 1000))] := rfl
    rw [whole, everywhere_append, everywhere_append, everywhere_append]
    refine ⟨⟨⟨everywhere_nil, ?_⟩, ?_⟩, ?_⟩
    · exact ⟨by simp, holds_foldl.mpr rfl⟩
    · exact ⟨sampleHistory_entry (by decide), trivial⟩
    · exact ⟨sampleHistory_entry (by decide), holds_foldl.mpr rfl⟩

/-- A description without the identity of the leases is too weak. -/
theorem described_stream_rejected : ¬ ∀ events,
    (∃ stream, runEventStreamSchema events = .ok stream) ↔ Described events := by
  intro claimed
  obtain ⟨stream, accepted⟩ := (claimed sampleHistory).mpr sampleHistory_described
  obtain ⟨_, _, runId, lawful⟩ := runEventStreamSchema_iff.mp accepted
  have follows := lawful.follows (sampleHistory.take 2) _ [] rfl
  have acquired : sampleHistoryEvent 0 (.leaseAcquired (toISOString 1000)) ∈
      sampleHistory.take 2 := by simp [sampleHistory]
  exact (follows.body.2 _ acquired rfl).1 rfl

end Result

end LineageGuard
