import LineageGuard.Guarantees.EffectReplay
import Mathlib.Tactic

/-
This file shows that the scheduled retries of a run follow the retry policy.
-/

namespace LineageGuard

open Relational Attempt Store

section Streams

/-- A scheduled retry tells its operation, its attempt and its two times. -/
structure ScheduledRetry where
  operation : RetryOperation
  attempt : ℕ
  retryAt : ℕ
  createdAt : ℕ
  deriving DecidableEq

def RunEvent.retry? (event : RunEvent) : Option ScheduledRetry :=
  match event.body with
  | .retryScheduled operation attempt retryAt _ =>
      some ⟨operation, attempt, retryAt.instant, event.occurredAt.instant⟩
  | _ => none

/-- These are the retries that the events of a stream schedule, in the order of the stream. -/
def retriesOf (events : List RunEvent) : List ScheduledRetry := events.filterMap RunEvent.retry?

def attemptsOf (operation : RetryOperation) (retries : List ScheduledRetry) : List ℕ :=
  (retries.filter fun retry => retry.operation = operation).map (·.attempt)

/-- A release gives back the lease under which an event occurred, at the time of the event. -/
structure Releases (event release : RunEvent) : Prop where
  body : release.body = .leaseReleased
  lease : release.leaseId = event.leaseId
  worker : release.workerId = event.workerId
  generation : release.generation = event.generation
  time : release.occurredAt = event.occurredAt

/-- The event after each retry releases its lease. -/
def ReleasedAtOnce (events : List RunEvent) : Prop :=
  ∀ before event after, events = before ++ event :: after → event.retry? ≠ none →
    ∃ release rest, after = release :: rest ∧ Releases event release

theorem retriesOf_append (first second : List RunEvent) :
    retriesOf (first ++ second) = retriesOf first ++ retriesOf second :=
  List.filterMap_append

theorem retriesOf_quiet {events : List RunEvent} (quiet : ∀ event ∈ events, event.retry? = none) :
    retriesOf events = [] := List.filterMap_eq_nil_iff.mpr quiet

theorem attemptsOf_append (operation : RetryOperation) (first second : List ScheduledRetry) :
    attemptsOf operation (first ++ second) =
      attemptsOf operation first ++ attemptsOf operation second := by
  rw [attemptsOf, List.filter_append, List.map_append]
  rfl

theorem ReleasedAtOnce.append {first second : List RunEvent} (early : ReleasedAtOnce first)
    (late : ReleasedAtOnce second) : ReleasedAtOnce (first ++ second) := by
  intro before event after split retried
  rcases List.append_eq_append_iff.mp split with ⟨middle, isBefore, isSecond⟩ |
    ⟨middle, isFirst, isAfter⟩
  · exact late middle event after isSecond retried
  · cases middle with
    | nil => exact late [] event after isAfter.symm retried
    | cons head rest =>
        obtain ⟨rfl, rfl⟩ := List.cons.inj isAfter
        obtain ⟨release, later, rfl, releases⟩ := early before event rest isFirst retried
        exact ⟨release, later ++ second, rfl, releases⟩

theorem releasedAtOnce_quiet {events : List RunEvent}
    (quiet : ∀ event ∈ events, event.retry? = none) : ReleasedAtOnce events := by
  rintro before event after rfl retried
  exact absurd (quiet event (by simp)) retried

theorem next_retryAttempts (state : StreamState) {event : RunEvent} (quiet : event.retry? = none) :
    (state.next event).retryAttempts = state.retryAttempts := by
  unfold StreamState.next
  unfold RunEvent.retry? at quiet
  cases body : event.body <;> simp_all

/-- The attempts of an operation in a stored stream are counted from one to at most three. -/
theorem Stored.attempts {runId : RunId} {events : List RunEvent} (stored : Stored runId events)
    (operation : RetryOperation) :
    attemptsOf operation (retriesOf events) =
        List.range' 1 ((replay runId events).retryAttempts operation) ∧
      (replay runId events).retryAttempts operation ≤ 3 := by
  induction events using List.reverseRecOn with
  | nil => exact ⟨rfl, Nat.zero_le _⟩
  | append_singleton rest event ih =>
      obtain ⟨earlier, _, shape, accepted⟩ := stored_append.mp stored
      obtain ⟨attempts, bounded⟩ := ih earlier
      rw [retriesOf_append, attemptsOf_append, attempts, replay_append]
      cases body : event.body with
      | retryScheduled scheduled attempt retryAt reason =>
          have isRetry : retriesOf [event] =
              [⟨scheduled, attempt, retryAt.instant, event.occurredAt.instant⟩] := by
            simp [retriesOf, RunEvent.retry?, body]
          simp only [runEventIssues, eventBodyIssues, body, List.append_eq_nil_iff,
            issueUnless_nil] at shape
          simp only [StreamState.issues, StreamState.bodyIssues, body, StreamState.add,
            List.append_eq_nil_iff, issueUnless_nil] at accepted
          have counted := accepted.2.2
          have small := shape.2.1.1.1.2
          have state : ((replay runId rest).next event).retryAttempts =
              Function.update (replay runId rest).retryAttempts scheduled attempt := by
            simp [StreamState.next, body]
          rw [isRetry, state]
          by_cases same : scheduled = operation
          · subst same
            rw [Function.update_self, counted, List.range'_1_concat]
            refine ⟨?_, counted ▸ small⟩
            simp [attemptsOf, Nat.add_comm]
          · rw [Function.update_of_ne (Ne.symm same)]
            refine ⟨?_, bounded⟩
            simp [attemptsOf, same]
      | statusChanged | leaseAcquired | leaseRenewed | leaseReleased | leaseExpired =>
          have quiet : event.retry? = none := by rw [RunEvent.retry?, body]
          have none' : retriesOf [event] = [] := retriesOf_quiet (by simpa using quiet)
          rw [none', next_retryAttempts _ quiet]
          exact ⟨List.append_nil _, bounded⟩

/-- A retry of a stored stream was scheduled in one of its states and under a live lease. -/
theorem Stored.retry_leased {runId : RunId} {before after : List RunEvent} {event : RunEvent}
    {operation : RetryOperation} {attempt : ℕ} {retryAt : IsoDateTime} {reason : String}
    (stored : Stored runId (before ++ event :: after))
    (body : event.body = .retryScheduled operation attempt retryAt reason) :
    (replay runId before).currentStatus ∈ retryStates operation ∧
      ∃ lease ∈ (replay runId before).activeLease,
        lease.Owns event ∧ event.occurredAt.time < lease.expiresAt.time := by
  rw [List.append_cons] at stored
  obtain ⟨_, _, _, accepted⟩ := stored_append.mp stored.of_append
  simp only [StreamState.issues, StreamState.bodyIssues, body, StreamState.operationalIssues,
    StreamState.add, List.append_eq_nil_iff, issueUnless_nil] at accepted
  obtain ⟨_, ⟨⟨⟨lease, active, owns⟩, other, isActive, live⟩, status⟩, _⟩ := accepted
  obtain rfl := Option.some.inj (Option.mem_def.mp active ▸ isActive)
  exact ⟨status, lease, active, owns, live⟩

/-- A retry of a stored stream is the next attempt of its operation. -/
theorem Stored.retry_next {runId : RunId} {before after : List RunEvent} {event : RunEvent}
    {operation : RetryOperation} {attempt : ℕ} {retryAt : IsoDateTime} {reason : String}
    (stored : Stored runId (before ++ event :: after))
    (body : event.body = .retryScheduled operation attempt retryAt reason) :
    attempt = (attemptsOf operation (retriesOf before)).length + 1 := by
  rw [List.append_cons] at stored
  obtain ⟨earlier, _, _, accepted⟩ := stored_append.mp stored.of_append
  simp only [StreamState.issues, StreamState.bodyIssues, body, StreamState.operationalIssues,
    StreamState.add, List.append_eq_nil_iff, issueUnless_nil] at accepted
  rw [(earlier.attempts operation).1, List.length_range']
  exact accepted.2.2

end Streams

section Rows

variable {env : Environment} {db next : Db} {t : ℕ → ℕ}

/-- A row of the table tells the same as an event. -/
def RetryAttemptRow.scheduled (row : RetryAttemptRow) : ScheduledRetry :=
  ⟨row.operation, row.attempt, row.retryAt, row.createdAt⟩

def retryRows (db : Db) (runId : RunId) : List RetryAttemptRow :=
  db.retryAttempts.rows.filter fun row => row.runId = runId

/-- The retry rows repeat the retry events, and the last of them sets the time of the run. -/
structure Retries (db : Db) : Prop where
  rows : ∀ runId,
    (retryRows db runId).map RetryAttemptRow.scheduled = retriesOf (db.events runId)
  released : ∀ runId, ReleasedAtOnce (db.events runId)
  due : ∀ run ∈ db.runs, ∀ last ∈ (retriesOf (db.events run.id)).getLast?,
    run.nextAttemptAt = last.retryAt

/-- A run keeps the time of its next attempt, or it is new. -/
def StillDue (db : Db) (new : RunRow) : Prop :=
  (∃ old ∈ db.runs, old.id = new.id ∧ old.nextAttemptAt = new.nextAttemptAt) ∨
    db.run? new.id = none

/-- A step without a retry leaves the retry rows and the times alone. -/
structure QuietStep (db next : Db) : Prop where
  rows : next.retryAttempts = db.retryAttempts
  events : ∀ runId, ∃ added, next.events runId = db.events runId ++ added ∧
    ∀ event ∈ added, event.retry? = none
  runs : ∀ new ∈ next.runs, StillDue db new

theorem Rewritten.stillDue {runs : Table RunRow} {id : RunId} {change : RunRow → RunRow}
    (rewritten : Rewritten db.runs runs id change)
    (keeps : ∀ row, (change row).id = row.id ∧ (change row).nextAttemptAt = row.nextAttemptAt) :
    ∀ new ∈ runs, StillDue db new := by
  intro new present
  obtain ⟨old, isOld, rfl⟩ := rewritten.mem.mp present
  refine Or.inl ⟨old, isOld, ?_⟩
  split
  · exact ⟨(keeps old).1.symm, (keeps old).2.symm⟩
  · exact ⟨rfl, rfl⟩

theorem Store.Appended.quiet {runId : RunId} {now : ℕ} {added : List RunEvent}
    {runEvents : Table RunEventRow} (appended : Appended db runId now added runEvents)
    (quiet : ∀ event ∈ added, event.retry? = none) (target : RunId) :
    ∃ later, Db.events { db with runEvents := runEvents } target = db.events target ++ later ∧
      ∀ event ∈ later, event.retry? = none := by
  refine ⟨_, appended.streams target, ?_⟩
  split
  · exact quiet
  · exact fun event present => nomatch present

theorem claimEvents_quiet (row : RunRow) (workerId : String) (ids : ClaimIds)
    (first second now expiresAt : ℕ) :
    ∀ event ∈ claimEvents row workerId ids first second now expiresAt, event.retry? = none := by
  intro event present
  rcases List.mem_append.mp present with expired | acquired
  · cases held : row.lease with
    | none =>
        rw [held] at expired
        exact nomatch expired
    | some lease =>
        rw [held] at expired
        rw [List.mem_singleton.mp expired]
        rfl
  · rw [List.mem_singleton.mp acquired]
    rfl

theorem Commit.quietStep {op : Op} (commit : Commit env db t op next)
    (other : ∀ read seenVersion event retryId releasedEventId,
      op ≠ .scheduleRetry read seenVersion event retryId releasedEventId) : QuietStep db next := by
  have still : ∀ new ∈ db.runs, StillDue db new :=
    fun new present => Or.inl ⟨new, present, rfl, rfl⟩
  have silent : ∀ runId, ∃ added, db.events runId = db.events runId ++ added ∧
      ∀ event ∈ added, event.retry? = none :=
    fun runId => ⟨[], (List.append_nil _).symm, fun event present => nomatch present⟩
  cases commit with
  | created fresh mode inserted =>
      refine ⟨rfl, silent, fun new present => ?_⟩
      rcases (Table.mem_insert inserted new).mp present with old | rfl
      · exact still new old
      · exact Or.inr (run?_insert_none inserted)
  | claimed positive selected appended free rewritten =>
      exact ⟨rfl, appended.quiet (claimEvents_quiet _ _ _ _ _ _ _),
        rewritten.stillDue fun row => ⟨rfl, rfl⟩⟩
  | renewed positive fenced held appended rewritten =>
      refine ⟨rfl, appended.quiet fun event present => ?_,
        rewritten.stillDue fun row => ⟨rfl, rfl⟩⟩
      rw [List.mem_singleton.mp present]
      rfl
  | released fenced free appended rewritten =>
      refine ⟨rfl, appended.quiet fun event present => ?_,
        rewritten.stillDue fun row => ⟨rfl, rfl⟩⟩
      rw [List.mem_singleton.mp present]
      rfl
  | transitioned body fenced status listed prerequisites allowed appended rewritten =>
      refine ⟨rfl, appended.quiet fun event present => ?_,
        rewritten.stillDue fun row => ⟨rfl, rfl⟩⟩
      rw [List.mem_singleton.mp present]
      simp [RunEvent.retry?, RunEvent.at, body]
  | retried => exact absurd rfl (other _ _ _ _ _)
  | recorded guarded fenced bundles candidates rewritten =>
      exact ⟨rfl, silent, rewritten.stillDue fun row => ⟨rfl, rfl⟩⟩
  | validated found mode validating belongs inserted rewritten =>
      exact ⟨rfl, silent, rewritten.stillDue fun row => ⟨rfl, rfl⟩⟩
  | intended begins inserted rewritten =>
      exact ⟨rfl, silent, rewritten.stillDue fun row => ⟨rfl, rfl⟩⟩
  | unchanged | approved | reserved | consumed | cancelled | succeeded | ambiguous | disproved
    | applied => exact ⟨rfl, silent, still⟩

/-- A quiet step keeps the retries of every run. -/
theorem QuietStep.kept (step : QuietStep db next) (history : History db) (retries : Retries db) :
    Retries next := by
  have same : ∀ runId, retriesOf (next.events runId) = retriesOf (db.events runId) := by
    intro runId
    obtain ⟨added, events, quiet⟩ := step.events runId
    rw [events, retriesOf_append, retriesOf_quiet quiet, List.append_nil]
  refine ⟨fun runId => ?_, fun runId => ?_, fun run present last isLast => ?_⟩
  · rw [same, ← retries.rows, retryRows, step.rows]
    rfl
  · obtain ⟨added, events, quiet⟩ := step.events runId
    rw [events]
    exact (retries.released runId).append (releasedAtOnce_quiet quiet)
  · rw [same] at isLast
    rcases step.runs run present with ⟨old, isOld, id, time⟩ | absent
    · rw [← time]
      exact retries.due old isOld last (id ▸ isLast)
    · rw [history.events_nil absent] at isLast
      exact nomatch isLast

/-- A schedule adds one row and two events, and it gives the lease of the run back. -/
structure Schedules (db next : Db) (t : ℕ → ℕ) (read : EarlierRead) (event : RunEvent)
    (guard : LeaseGuard) (retryId : RetryId) (operation : RetryOperation) (attempt delay : ℕ)
    (retried released : RunEvent) : Prop where
  given : ∃ retryAt reason, event.body = .retryScheduled operation attempt retryAt reason
  policy : retryDelay attempt = some delay
  fenced : ∃ run, Fenced db (t 0) event.runId guard run ∧ retryAllowed operation run.status
  rows : next.retryAttempts.rows = db.retryAttempts.rows ++
    [retryRow retryId event.runId operation attempt delay (earlierNow t read)]
  body : ∃ reason, retried.body =
    .retryScheduled operation attempt (toISOString (earlierNow t read + delay)) reason
  occurred : retried.occurredAt = toISOString (earlierNow t read)
  releases : Releases retried released
  stored : Stored event.runId (db.events event.runId ++ [retried, released])
  events : ∀ runId, next.events runId =
    db.events runId ++ if event.runId = runId then [retried, released] else []
  runs : Rewritten db.runs next.runs event.runId (RunRow.retried
    (toTimestamp (earlierNow t read + delay)) (toTimestamp (earlierNow t read)))

theorem scheduleRetry_schedules {read : EarlierRead} {seenVersion : ℕ} {event : RunEvent}
    {retryId : RetryId} {releasedEventId : EventId} {record : RunRow} {retry : RetryAttemptRow}
    (history : History db)
    (done : scheduleRetry db t read seenVersion event retryId releasedEventId =
      .ok (next, record, retry)) :
    ∃ operation attempt delay retried released, Schedules db next t read event
      (eventGuard event seenVersion) retryId operation attempt delay retried released := by
  obtain ⟨operation, attempt, given, delay, reason, run, sequence, runEvents, retryAttempts, runs,
    body, policy, fenced, listed, free, entered, appended, rewritten, rfl⟩ :=
    scheduleRetry_ok (history.streams _) done
  exact ⟨operation, attempt, delay,
    retriedEvent event operation attempt delay reason (earlierNow t read),
    releasedEvent event.runId (eventGuard event seenVersion) releasedEventId sequence
      (earlierNow t read), ⟨given, reason, body⟩, policy, ⟨run, fenced, listed⟩,
    Table.insert_ok.mp entered, ⟨reason, rfl⟩, rfl, ⟨rfl, rfl, rfl, rfl, rfl⟩, appended.stored, appended.streams,
    rewritten⟩

/-- A retry event and its release form a released stream. -/
theorem Releases.atOnce {retried released : RunEvent} (releases : Releases retried released) :
    ReleasedAtOnce [retried, released] := by
  have quiet : released.retry? = none := by rw [RunEvent.retry?, releases.body]
  intro before event after split isRetry
  cases before with
  | nil =>
      obtain ⟨rfl, rfl⟩ := List.cons.inj split
      exact ⟨released, [], rfl, releases⟩
  | cons head rest =>
      have later : event ∈ [released] := by
        rw [(List.cons.inj split).2]
        simp
      rw [List.mem_singleton.mp later] at isRetry
      exact absurd quiet isRetry

/-- A schedule keeps the retries of every run. -/
theorem Schedules.kept {read : EarlierRead} {event : RunEvent} {guard : LeaseGuard}
    {retryId : RetryId} {operation : RetryOperation} {attempt delay : ℕ}
    {retried released : RunEvent}
    (schedules : Schedules db next t read event guard retryId operation attempt delay retried
      released) (retries : Retries db) : Retries next := by
  have quiet : released.retry? = none := by rw [RunEvent.retry?, schedules.releases.body]
  have retry : retried.retry? = some ⟨operation, attempt,
      toTimestamp (earlierNow t read + delay), toTimestamp (earlierNow t read)⟩ := by
    obtain ⟨reason, body⟩ := schedules.body
    rw [RunEvent.retry?, body, schedules.occurred]
    rfl
  have entries : ∀ runId, retriesOf (next.events runId) =
      retriesOf (db.events runId) ++ if event.runId = runId then
        [⟨operation, attempt, toTimestamp (earlierNow t read + delay),
          toTimestamp (earlierNow t read)⟩] else [] := by
    intro runId
    rw [schedules.events, retriesOf_append]
    split
    · simp [retriesOf, retry, quiet]
    · rfl
  refine ⟨fun runId => ?_, fun runId => ?_, fun row present last isLast => ?_⟩
  · rw [entries, ← retries.rows, retryRows, schedules.rows, List.filter_append, List.map_append]
    refine congrArg _ ?_
    by_cases same : event.runId = runId
    · rw [if_pos same]
      simp [retryRow, same, RetryAttemptRow.scheduled]
    · rw [if_neg same]
      simp [retryRow, same]
  · rw [schedules.events]
    refine (retries.released runId).append ?_
    split
    · exact schedules.releases.atOnce
    · exact releasedAtOnce_quiet fun event present => nomatch present
  · rw [entries] at isLast
    obtain ⟨old, isOld, rfl⟩ := schedules.runs.mem.mp present
    by_cases same : old.id = event.runId
    · rw [if_pos same] at isLast ⊢
      rw [if_pos (show event.runId = (RunRow.retried _ _ old).id from same.symm),
        List.getLast?_append, List.getLast?_singleton, Option.some_or] at isLast
      obtain rfl := Option.some.inj isLast
      rfl
    · rw [if_neg same] at isLast ⊢
      rw [if_neg (fun equal => same equal.symm), List.append_nil] at isLast
      exact retries.due old isOld last isLast

theorem migrated_retries (clock : ℕ) : Retries (.migrated clock) where
  rows _ := rfl
  released _ _ _ _ split := by simp [Db.events, Db.eventRows, Db.migrated, Table.empty] at split
  due _ present := nomatch present

/-- Every step keeps the retries of every run. -/
theorem after_retries (inv : Inv db) (retries : Retries db) (step : Step) :
    Retries (after env db step) := by
  rcases after_cases env db step with ⟨next, done, state⟩ | ⟨_, state⟩
  · have moved : Retries next := by
      by_cases schedules : ∃ read seenVersion event retryId releasedEventId,
          step.op = .scheduleRetry read seenVersion event retryId releasedEventId
      · obtain ⟨read, seenVersion, event, retryId, releasedEventId, isSchedule⟩ := schedules
        rw [isSchedule] at done
        obtain ⟨⟨record, retry⟩, done⟩ := map_fst_ok.mp done
        obtain ⟨_, _, _, _, _, schedules⟩ := scheduleRetry_schedules inv.history done
        exact schedules.kept retries
      · have commit := exec_commit inv.history inv.outcomes done
        refine (commit.quietStep ?_).kept inv.history retries
        intro read seenVersion event retryId releasedEventId isSchedule
        exact schedules ⟨read, seenVersion, event, retryId, releasedEventId, isSchedule⟩
    rw [state]
    exact ⟨moved.rows, moved.released, moved.due⟩
  · rw [state]
    exact ⟨retries.rows, retries.released, retries.due⟩

theorem Reachable.retries (reached : Reachable env db) : Retries db := by
  obtain ⟨clock, reached⟩ := reached
  have keeps : ∀ state step, Inv state ∧ Retries state →
      Inv (LineageGuard.after env state step) ∧ Retries (LineageGuard.after env state step) :=
    fun state step kept => ⟨after_inv kept.1 step, after_retries kept.1 kept.2 step⟩
  obtain ⟨steps, rfl⟩ := reached
  exact (Runs.run_keeps keeps ⟨migrated_inv clock, migrated_retries clock⟩ steps).2

end Rows

section Discipline

variable {env : Environment} {db : Db} {t : ℕ → ℕ}

/-- The script and the trigger allow the same states for each operation. -/
theorem retryAllowed_iff (operation : RetryOperation) (status : RunStatus) :
    retryAllowed operation status ↔ status ∈ retryStates operation := by
  cases operation <;> simp [retryAllowed, retryStates]

/-- These are the facts that hold of the retries of one run. -/
structure RetryDiscipline (db : Db) (runId : RunId) : Prop where
  contiguous : ∀ operation, ∃ count ≤ 3,
    attemptsOf operation ((retryRows db runId).map RetryAttemptRow.scheduled) =
      List.range' 1 count
  rows : (retryRows db runId).map RetryAttemptRow.scheduled = retriesOf (db.events runId)
  distinct : (retriesOf (db.events runId)).Nodup
  leased : ∀ before event after operation attempt retryAt reason,
    db.events runId = before ++ event :: after →
    event.body = .retryScheduled operation attempt retryAt reason →
    (replay runId before).currentStatus ∈ retryStates operation ∧
    (∃ lease ∈ (replay runId before).activeLease,
      lease.Owns event ∧ event.occurredAt.time < lease.expiresAt.time) ∧
    ∃ release rest, after = release :: rest ∧ Releases event release
  due : ∀ run, db.run? runId = some run → ∀ last ∈ (retriesOf (db.events runId)).getLast?,
    ∃ delay ∈ retryDelay last.attempt, run.nextAttemptAt = last.createdAt + toTimestamp delay

theorem retryRows_distinct (db : Db) (runId : RunId) :
    ((retryRows db runId).map RetryAttemptRow.scheduled).Nodup := by
  refine List.pairwise_map.mpr ?_
  refine (db.retryAttempts.distinct.filter _).imp_of_mem fun {left right} isLeft isRight apart => ?_
  intro same
  have leftRun := of_decide_eq_true (List.mem_filter.mp isLeft).2
  have rightRun := of_decide_eq_true (List.mem_filter.mp isRight).2
  refine apart (Or.inr ?_)
  simp only [RetryAttemptRow.scheduled, ScheduledRetry.mk.injEq] at same
  rw [leftRun, rightRun, same.1, same.2.1]

theorem Retries.discipline (retries : Retries db) (history : History db) (runId : RunId) :
    RetryDiscipline db runId where
  contiguous operation := by
    obtain ⟨attempts, bounded⟩ := (history.streams runId).attempts operation
    exact ⟨_, bounded, by rw [retries.rows, attempts]⟩
  rows := retries.rows runId
  distinct := by
    rw [← retries.rows]
    exact retryRows_distinct db runId
  leased before event after operation attempt retryAt reason split body := by
    have stored := history.streams runId
    rw [split] at stored
    obtain ⟨status, lease⟩ := stored.retry_leased body
    have isRetry : event.retry? ≠ none := by simp [RunEvent.retry?, body]
    exact ⟨status, lease, retries.released runId before event after split isRetry⟩
  due run found last isLast := by
    obtain ⟨present, rfl⟩ := Db.run?_eq_some.mp found
    have isRetry : last ∈ (retryRows db run.id).map RetryAttemptRow.scheduled := by
      rw [retries.rows]
      exact List.mem_of_getLast? isLast
    obtain ⟨row, isRow, rfl⟩ := List.mem_map.mp isRetry
    obtain ⟨delay, policy, time⟩ :=
      db.retryAttempts.checked row (List.mem_of_mem_filter isRow)
    exact ⟨delay, policy, (retries.due run present _ isLast).trans time⟩

/-- A proposed retry is the next attempt of its operation in a state of its run that allows it, and
its worker holds the live lease of the run. -/
structure NextRetry (db : Db) (t : ℕ → ℕ) (read : EarlierRead) (event : RunEvent)
    (operation : RetryOperation) (attempt : ℕ) (run : RunRow) (lease : RunLease) : Prop where
  given : ∃ retryAt reason, event.body = .retryScheduled operation attempt retryAt reason
  found : db.run? event.runId = some run
  status : run.status ∈ retryStates operation
  next : attempt = (attemptsOf operation
    ((retryRows db event.runId).map RetryAttemptRow.scheduled)).length + 1
  bounded : attempt ≤ 3
  held : run.lease = some lease
  owner : lease.leaseId = event.leaseId ∧ lease.workerId = event.workerId ∧
    run.leaseGeneration = event.generation
  live : t 0 < lease.expiresAt ∧ earlierNow t read < toDate lease.expiresAt

/-- An accepted retry adds one row, releases the lease and sets the time of the next attempt. -/
def RetryCommitted (db next : Db) (t : ℕ → ℕ) (read : EarlierRead) (event : RunEvent)
    (retryId : RetryId) : Prop :=
  ∃ operation attempt run lease delay,
    NextRetry db t read event operation attempt run lease ∧ retryDelay attempt = some delay ∧
    next.retryAttempts.rows = db.retryAttempts.rows ++
      [retryRow retryId event.runId operation attempt delay (earlierNow t read)] ∧
    next.run? event.runId = some (RunRow.retried (toTimestamp (earlierNow t read + delay))
      (toTimestamp (earlierNow t read)) run)

theorem retryDelay_le {attempt delay : ℕ} (policy : retryDelay attempt = some delay) :
    attempt ≤ 3 := by
  unfold retryDelay at policy
  split at policy
  · decide
  · decide
  · decide
  · exact nomatch policy

/-- A schedule that returns was the next retry of its run. -/
theorem scheduleRetry_committed {next : Db} {read : EarlierRead} {seenVersion : ℕ}
    {event : RunEvent} {retryId : RetryId} {releasedEventId : EventId} {record : RunRow}
    {retry : RetryAttemptRow} (history : History db) (retries : Retries db)
    (done : scheduleRetry db t read seenVersion event retryId releasedEventId =
      .ok (next, record, retry)) : RetryCommitted db next t read event retryId := by
  obtain ⟨operation, attempt, delay, retried, released, schedules⟩ :=
    scheduleRetry_schedules history done
  obtain ⟨run, fenced, allowed⟩ := schedules.fenced
  obtain ⟨generation, _, lease, held, leaseId, workerId, live⟩ := fenced.guarded
  obtain ⟨present, same⟩ := Db.run?_eq_some.mp fenced.found
  obtain ⟨reason, body⟩ := schedules.body
  have shown := history.shown run present
  rw [same] at shown
  obtain ⟨_, active, isActive, _, early⟩ := schedules.stored.retry_leased body
  rw [(shown.active held).1] at isActive
  obtain rfl := Option.some.inj isActive
  have inTime : earlierNow t read < toDate lease.expiresAt := by
    simpa [schedules.occurred, IsoDateTime.time, toISOString] using early
  refine ⟨operation, attempt, run, lease, delay, ⟨schedules.given, fenced.found,
    (retryAllowed_iff operation run.status).mp allowed, ?_, retryDelay_le schedules.policy, held,
    ⟨leaseId, workerId, generation⟩, ⟨live, inTime⟩⟩, schedules.policy, schedules.rows, ?_⟩
  · rw [retries.rows]
    exact schedules.stored.retry_next body
  · have selected := schedules.runs.run? (fun _ => rfl) event.runId
    rw [fenced.found, Option.map_some, if_pos same] at selected
    exact selected

/-- The retries of every run follow the policy, and a schedule outside of it changes nothing. -/
theorem retry_discipline (reached : Reachable env db) :
    (∀ runId, RetryDiscipline db runId) ∧
    ∀ (delays : List ℕ) (read : EarlierRead) (seenVersion : ℕ) (event : RunEvent)
      (retryId : RetryId) (releasedEventId : EventId),
      (∀ next record retry, scheduleRetry db (readings db delays) read seenVersion event retryId
        releasedEventId = .ok (next, record, retry) →
        RetryCommitted db next (readings db delays) read event retryId) ∧
      ((¬ ∃ operation attempt run lease,
          NextRetry db (readings db delays) read event operation attempt run lease) →
        (∃ error, scheduleRetry db (readings db delays) read seenVersion event retryId
          releasedEventId = .error error) ∧
        after env db ⟨delays, .scheduleRetry read seenVersion event retryId releasedEventId⟩ =
          { db with clock := db.clock + delays.sum }) := by
  have history := reached.inv.history
  have retries := reached.retries
  refine ⟨retries.discipline history, fun delays read seenVersion event retryId releasedEventId =>
    ⟨fun next record retry => scheduleRetry_committed history retries, fun outside => ?_⟩⟩
  cases scheduled : scheduleRetry db (readings db delays) read seenVersion event retryId
      releasedEventId with
  | ok result =>
      obtain ⟨next, record, retry⟩ := result
      obtain ⟨operation, attempt, run, lease, _, disciplined, _⟩ :=
        scheduleRetry_committed history retries scheduled
      exact absurd ⟨operation, attempt, run, lease, disciplined⟩ outside
  | error error =>
      refine ⟨⟨error, rfl⟩, ?_⟩
      simp only [after, exec, scheduled, Except.map]

/-- The sample run has scheduled the first retry of its review. -/
theorem retry_discipline_handed :
    RetryDiscipline (sampleState handedSteps) ⟨1⟩ ∧
    ((retryRows (sampleState handedSteps) ⟨1⟩).map fun row => (row.operation, row.attempt)) =
      [(.githubWrite, 1)] :=
  ⟨(retry_discipline (sampleState_reachable handedSteps)).1 ⟨1⟩, by decide +kernel⟩

end Discipline

end LineageGuard
