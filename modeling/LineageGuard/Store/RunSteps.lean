import LineageGuard.Store.Streams
import LineageGuard.Store.Transitions
import Mathlib.Tactic

/-
This file says what the operations on the row and the stream of a run commit.
-/

namespace LineageGuard

open Relational Attempt

namespace Store

/-- The guard fences the run that the store has found. -/
structure Fenced (db : Db) (now : ℕ) (runId : RunId) (guard : LeaseGuard) (run : RunRow) :
    Prop where
  found : db.run? runId = some run
  safe : run.version ≤ maxSafeInteger
  guarded : GuardMatches run guard now

theorem runFromRow_ok {row record : RunRow} :
    runFromRow row = .ok record ↔ row.version ≤ maxSafeInteger ∧ row = record := by
  simp only [runFromRow, bind_ok, require_ok, pure_ok]
  constructor
  · rintro ⟨_, safe, rfl⟩
    exact ⟨safe, rfl⟩
  · rintro ⟨safe, rfl⟩
    exact ⟨(), safe, rfl⟩

theorem lockRunForLease_ok {db : Db} {now : ℕ} {runId : RunId} {guard : LeaseGuard}
    {row : RunRow} :
    lockRunForLease db now runId guard = .ok row ↔ Fenced db now runId guard row := by
  simp only [lockRunForLease, bind_ok, present_ok, runFromRow_ok, require_ok, pure_ok]
  constructor
  · rintro ⟨_, found, _, ⟨safe, rfl⟩, _, guarded, rfl⟩
    exact ⟨found, safe, guarded⟩
  · rintro ⟨found, safe, guarded⟩
    exact ⟨row, found, row, ⟨safe, rfl⟩, (), guarded, rfl⟩

section Appends

/-- The events join the end of the stream of their run at one time. -/
structure Appended (db : Db) (runId : RunId) (now : ℕ) (added : List RunEvent)
    (runEvents : Table RunEventRow) : Prop where
  rows : runEvents.rows = db.runEvents.rows ++ added.map eventRow
  streams : ∀ other, Db.events { db with runEvents := runEvents } other =
    db.events other ++ if runId = other then added else []
  occurred : ∀ event ∈ added, event.occurredAt = toISOString now
  stored : Stored runId (db.events runId ++ added)

/-- An append depends on the events of the database alone. -/
theorem Appended.of_same {db other : Db} {runId : RunId} {now : ℕ} {added : List RunEvent}
    {runEvents : Table RunEventRow} (appended : Appended other runId now added runEvents)
    (same : other.runEvents = db.runEvents) : Appended db runId now added runEvents where
  rows := by rw [appended.rows, same]
  streams := by
    intro target
    have extended := appended.streams target
    simp only [Db.events, Db.eventRows, same] at extended ⊢
    exact extended
  occurred := appended.occurred
  stored := by
    have whole := appended.stored
    simp only [Db.events, Db.eventRows, same] at whole ⊢
    exact whole

/-- An authorized event that is inserted is appended. -/
theorem appended_one {db : Db} {event : RunEvent} {now : ℕ} {runEvents : Table RunEventRow}
    (occurred : event.occurredAt = toISOString now)
    (stored : Stored event.runId (db.events event.runId ++ [event]))
    (inserted : db.runEvents.insert (eventRow event) = .ok runEvents)
    (sequence : event.sequence = db.nextSequence event.runId) :
    Appended db event.runId now [event] runEvents where
  rows := Table.insert_ok.mp inserted
  streams := events_insert inserted sequence
  occurred := by simpa using occurred
  stored := stored

/-- A second event follows the events of the same operation. -/
theorem Appended.next {db : Db} {runId : RunId} {now : ℕ} {added : List RunEvent}
    {middle runEvents : Table RunEventRow} {event : RunEvent}
    (earlier : Appended db runId now added middle)
    (later : Appended { db with runEvents := middle } runId now [event] runEvents) :
    Appended db runId now (added ++ [event]) runEvents where
  rows := by rw [later.rows, earlier.rows, List.map_append, List.append_assoc]
  streams := by
    intro other
    have extended := later.streams other
    rw [earlier.streams other] at extended
    rw [extended, List.append_assoc]
    split <;> simp
  occurred := by
    intro item present
    rcases List.mem_append.mp present with old | new
    · exact earlier.occurred item old
    · exact later.occurred item new
  stored := by
    have whole := later.stored
    rw [earlier.streams runId, if_pos rfl, List.append_assoc] at whole
    exact whole

/-- An event that authorizes against its stream and is inserted is appended. -/
theorem appendEvent_appended {db base next : Db} {runId : RunId} {proposed event : RunEvent}
    {now : ℕ} (authorized : authorizeEvent (db.eventRows runId) proposed now = .ok event)
    (appended : appendEvent base event = .ok next) (belongs : proposed.runId = runId)
    (same : base.runEvents = db.runEvents) :
    ∃ runEvents, Appended db runId now [proposed] runEvents ∧
      next = { base with runEvents := runEvents } := by
  subst belongs
  obtain ⟨rfl, occurred, stored⟩ := authorizeEvent_events authorized
  obtain ⟨sequence, _, runEvents, inserted, rfl⟩ := appendEvent_ok.mp appended
  rw [same] at inserted
  have position : event.sequence = db.nextSequence event.runId := by
    rw [sequence, Db.nextSequence, Db.nextSequence, same]
  exact ⟨runEvents, appended_one occurred stored inserted position, rfl⟩

end Appends

section Leases

/-- These are the events of a claim, with the sequence numbers that they receive. -/
def claimEvents (row : RunRow) (workerId : String) (ids : ClaimIds)
    (first second now expiresAt : ℕ) : List RunEvent :=
  (row.lease.elim [] fun lease => [expiredEvent row lease ids.expiredEventId first now]) ++
    [acquiredEvent row workerId ids second now expiresAt]

theorem claimRun_ok {db next : Db} {t : ℕ → ℕ} {row record : RunRow} {workerId : String}
    {leaseMillis : ℕ} {ids : ClaimIds} (found : db.run? row.id = some row)
    (claimed : claimRun db t row workerId leaseMillis ids = .ok (next, record)) :
    ∃ first second runEvents runLeases runs,
      Appended db row.id (toDate (t 1))
        (claimEvents row workerId ids first second (toDate (t 1)) (toDate (t 1) + leaseMillis))
        runEvents ∧
      ¬ db.ActiveInvocation row.id (t 2) ∧
      Rewritten db.runs runs row.id (RunRow.claimed workerId ids.leaseId (row.leaseGeneration + 1)
        (toDate (t 1) + leaseMillis) (toDate (t 1))) ∧
      next = { db with runs := runs, runEvents := runEvents, runLeases := runLeases } := by
  simp only [claimRun, bind_ok, runFromRow_ok, present_ok, pure_ok, insertRunLease, write_ok,
    Prod.mk.injEq] at claimed
  obtain ⟨_, _, closed, expired, acquired, authorized, leased, ⟨runLeases, isLeased, _, _, rfl⟩,
    updated, isUpdated, stored, isStored, _, _, _, _, rfl, _⟩ := claimed
  obtain ⟨middle, early, rfl⟩ : ∃ middle : Table RunEventRow,
      (∀ runEvents second, Appended { db with runEvents := middle } row.id (toDate (t 1))
        [acquiredEvent row workerId ids second (toDate (t 1)) (toDate (t 1) + leaseMillis)]
        runEvents → ∃ first, Appended db row.id (toDate (t 1)) (claimEvents row workerId ids first
          second (toDate (t 1)) (toDate (t 1) + leaseMillis)) runEvents) ∧
      closed = { db with runEvents := middle } := by
    unfold expireLease at expired
    cases held : row.lease with
    | none =>
        simp only [held, Except.ok.injEq] at expired
        refine ⟨db.runEvents, fun runEvents second later => ⟨0, ?_⟩, expired.symm⟩
        simpa only [claimEvents, held, Option.elim_none, List.nil_append] using later
    | some lease =>
        simp only [held, bind_ok] at expired
        obtain ⟨event, isAuthorized, isAppended⟩ := expired
        obtain ⟨middle, earlier, rfl⟩ := appendEvent_appended isAuthorized isAppended rfl rfl
        refine ⟨middle, fun runEvents second later => ⟨db.nextSequence row.id, ?_⟩, rfl⟩
        simpa only [claimEvents, held, Option.elim_some] using earlier.next later
  obtain ⟨allowed, runs, rewritten, rfl⟩ := updateRun_ok isUpdated
  obtain ⟨runEvents, later, rfl⟩ := appendEvent_appended authorized isStored rfl rfl
  obtain ⟨first, appended⟩ := early runEvents _ later
  refine ⟨first, _, runEvents, runLeases, runs, appended, ?_, rewritten, rfl⟩
  intro active
  obtain ⟨_, _, _, generation⟩ := (allowed row found).frozen ⟨.leaseId, by simp, by simp⟩ active
  simp [RunRow.claimed] at generation

theorem renewLease_ok {db next : Db} {t : ℕ → ℕ} {runId : RunId} {guard : LeaseGuard}
    {leaseMillis : ℕ} {eventId : EventId} {record : RunRow}
    (renewed : renewLease db t runId guard leaseMillis eventId = .ok (next, record)) :
    0 < leaseMillis ∧ ∃ run lease sequence runEvents runs,
      Fenced db (t 0) runId guard run ∧ run.lease = some lease ∧
      Appended db runId (toDate (t 1)) [renewedEvent runId guard eventId sequence (toDate (t 1))
        (toDate lease.expiresAt) (max (toDate (t 1)) (toDate lease.expiresAt) + leaseMillis)]
        runEvents ∧
      Rewritten db.runs runs runId (RunRow.renewed
        (max (toDate (t 1)) (toDate lease.expiresAt) + leaseMillis) (toDate (t 1))) ∧
      next = { db with runs := runs, runEvents := runEvents } := by
  simp only [renewLease, bind_ok, require_ok, lockRunForLease_ok, present_ok, pure_ok,
    Prod.mk.injEq] at renewed
  obtain ⟨_, ⟨positive, _⟩, run, fenced, lease, held, event, authorized, updated, isUpdated,
    stored, isStored, _, _, _, _, rfl, _⟩ := renewed
  obtain ⟨_, runs, rewritten, rfl⟩ := updateRun_ok isUpdated
  obtain ⟨runEvents, appended, rfl⟩ := appendEvent_appended authorized isStored rfl rfl
  exact ⟨positive, run, lease, _, runEvents, runs, fenced, held, appended, rewritten, rfl⟩

theorem GuardMatches.lease {row : RunRow} {guard : LeaseGuard} {now : ℕ}
    (guarded : GuardMatches row guard now) : ∃ lease, row.lease = some lease ∧
      lease.leaseId = guard.leaseId ∧ lease.workerId = guard.workerId ∧ now < lease.expiresAt := by
  obtain ⟨_, _, lease, held, leaseId, workerId, live⟩ := guarded
  exact ⟨lease, held, leaseId, workerId, live⟩

theorem releaseLease_ok {db next : Db} {t : ℕ → ℕ} {runId : RunId} {guard : LeaseGuard}
    {eventId : EventId} {record : RunRow}
    (released : releaseLease db t runId guard eventId = .ok (next, record)) :
    ∃ run sequence runEvents runs,
      Fenced db (t 0) runId guard run ∧ ¬ db.ActiveInvocation runId (t 2) ∧
      Appended db runId (toDate (t 1))
        [releasedEvent runId guard eventId sequence (toDate (t 1))] runEvents ∧
      Rewritten db.runs runs runId (RunRow.released (toDate (t 1))) ∧
      next = { db with runs := runs, runEvents := runEvents } := by
  simp only [releaseLease, bind_ok, lockRunForLease_ok, present_ok, pure_ok,
    Prod.mk.injEq] at released
  obtain ⟨run, fenced, event, authorized, updated, isUpdated, stored, isStored, _, _, _, _, rfl,
    _⟩ := released
  obtain ⟨allowed, runs, rewritten, rfl⟩ := updateRun_ok isUpdated
  obtain ⟨runEvents, appended, rfl⟩ := appendEvent_appended authorized isStored rfl rfl
  refine ⟨run, _, runEvents, runs, fenced, ?_, appended, rewritten, rfl⟩
  intro active
  obtain ⟨lease, held, _⟩ := fenced.guarded.lease
  rw [← (Db.run?_eq_some.mp fenced.found).2] at active
  obtain ⟨_, leaseId, _⟩ :=
    (allowed run fenced.found).frozen ⟨.leaseId, by simp, by simp⟩ active
  simp [RunRow.released, held] at leaseId

end Leases

section Transitions

/-- A stream that was read before the lock is the whole stream when its next event fits. -/
theorem earlierRows_whole {db : Db} {runId : RunId} {read : EarlierRead} {event : RunEvent}
    (stored : Stored runId (db.events runId))
    (longer : Stored runId ((earlierRows db runId read).map (·.payload) ++ [event]))
    (sequence : event.sequence = db.nextSequence runId) :
    earlierRows db runId read = db.eventRows runId := by
  have position := longer.last_sequence
  rw [sequence, nextSequence_eq stored, List.length_map] at position
  simp only [Db.events, List.length_map, earlierRows, List.length_take] at position
  exact List.take_of_length_le (by omega)

/-- An event that authorizes against an earlier stream and fits the whole stream is appended. -/
theorem earlier_appended {db : Db} {read : EarlierRead} (proposed : RunEvent) {event : RunEvent}
    {now : ℕ} (stored : Stored proposed.runId (db.events proposed.runId))
    (authorized : authorizeEvent (earlierRows db proposed.runId read) proposed now = .ok event) :
    event = proposed ∧ proposed.occurredAt = toISOString now ∧
      (proposed.sequence = db.nextSequence proposed.runId →
        Stored proposed.runId (db.events proposed.runId ++ [proposed])) := by
  obtain ⟨rfl, occurred, longer⟩ := authorizeEvent_ok
    (fun row present => (eventRows_payload (List.mem_of_mem_take present)).1) authorized
  refine ⟨rfl, occurred, fun sequence => ?_⟩
  have whole : earlierRows db event.runId read = db.eventRows event.runId :=
    earlierRows_whole stored longer sequence
  rw [Db.events, ← whole]
  exact longer

/-- The row of a status event repeats its payload. -/
theorem statusEventRow_eq {event : RunEvent} {source target : RunStatus} {detail : Option String}
    {now : ℕ} (body : event.body = .statusChanged source target detail)
    (occurred : event.occurredAt = toISOString now) :
    statusEventRow event.runId event.sequence event (toTimestamp now) event.leaseId event.workerId
      event.generation source target = eventRow event := by
  simp [statusEventRow, eventRow, body, occurred]

/-- These are the columns that a transition sets. -/
def transitionColumns : List RunColumn :=
  [.status, .version, .updatedAt, .leaseId, .workerId, .leaseExpiresAt]

theorem transitionRun_ok {db next : Db} {t : ℕ → ℕ} {runId : RunId} {source target : RunStatus}
    {leaseId : LeaseId} {workerId : String} {generation occurredAt : ℕ} {event : RunEvent}
    {version : ℕ} {changed run : RunRow} (found : db.run? runId = some run)
    (done : transitionRun db t runId source target leaseId workerId generation occurredAt event
      version = .ok (next, changed)) :
    SqlTransition source target ∧ event.sequence = db.nextSequence runId ∧
    ∃ runEvents runs, UpdateAllowed db (t 1) transitionColumns run
        (RunRow.transitioned target occurredAt run) ∧
      db.runEvents.insert (statusEventRow runId (db.nextSequence runId) event occurredAt leaseId
        workerId generation source target) = .ok runEvents ∧
      Rewritten db.runs runs runId (RunRow.transitioned target occurredAt) ∧
      next = { db with runs := runs, runEvents := runEvents } := by
  simp only [transitionRun, bind_ok, require_ok, present_ok, pure_ok, Prod.mk.injEq] at done
  obtain ⟨_, _, _, allowed, _, _, _, _, _, _, _, sequence, _, _, updated, isUpdated, stored,
    isStored, _, _, rfl, _⟩ := done
  obtain ⟨accepted, runs, rewritten, rfl⟩ := updateRun_ok isUpdated
  obtain ⟨_, _, runEvents, inserted, rfl⟩ := insertRunEvent_ok.mp isStored
  exact ⟨allowed, sequence, runEvents, runs, accepted run found, inserted, rewritten, rfl⟩

/-- The store fills in the time of a status event that it receives. -/
def RunEvent.at (event : RunEvent) (now : ℕ) : RunEvent :=
  { event with occurredAt := toISOString now }

theorem transition_ok {env : Environment} {db next : Db} {t : ℕ → ℕ} {read : EarlierRead}
    {event : RunEvent} {version : ℕ} {record : RunRow} {persisted : EventRecord}
    (stored : Stored event.runId (db.events event.runId))
    (done : transition env db t read event version = .ok (next, record, persisted)) :
    ∃ source target detail run runEvents runs,
      event.body = .statusChanged source target detail ∧
      Fenced db (t 0) event.runId (eventGuard event version) run ∧ run.status = source ∧
      SqlTransition source target ∧
      transitionPrerequisites env db (t 1) event.runId target = .ok () ∧
      UpdateAllowed db (t 3) transitionColumns run
        (RunRow.transitioned target (toTimestamp (earlierNow t read)) run) ∧
      Appended db event.runId (earlierNow t read) [RunEvent.at event (earlierNow t read)]
        runEvents ∧
      Rewritten db.runs runs event.runId
        (RunRow.transitioned target (toTimestamp (earlierNow t read))) ∧
      next = { db with runs := runs, runEvents := runEvents } := by
  simp only [transition, bind_ok] at done
  obtain ⟨_, _, proposed, authorized, done⟩ := done
  obtain ⟨isAt, occurred, extends'⟩ :=
    earlier_appended (RunEvent.at event (earlierNow t read)) stored authorized
  cases body : proposed.body <;> simp only [body, reduceCtorEq] at done
  case statusChanged source target detail =>
    simp only [bind_ok, lockRunForLease_ok, require_ok, present_ok, pure_ok,
      Prod.mk.injEq] at done
    obtain ⟨run, fenced, _, status, _, sequence, _, prerequisites, ⟨changedDb, changed⟩, isChanged,
      _, _, _, _, _, _, rfl, _⟩ := done
    obtain ⟨allowed, _, runEvents, runs, accepted, inserted, rewritten, rfl⟩ :=
      transitionRun_ok fenced.found isChanged
    rw [← isAt] at occurred extends'
    rw [← sequence, statusEventRow_eq body occurred] at inserted
    subst isAt
    exact ⟨source, target, detail, run, runEvents, runs, body, fenced, status, allowed,
      prerequisites, accepted, appended_one occurred (extends' sequence) inserted sequence,
      rewritten, rfl⟩

/-- The store fills in the times of a retry event that it receives. -/
def retriedEvent (event : RunEvent) (operation : RetryOperation) (attempt delay : ℕ)
    (reason : String) (now : ℕ) : RunEvent :=
  { event with
    occurredAt := toISOString now
    body := .retryScheduled operation attempt (toISOString (now + delay)) reason }

theorem retryEvent_ok {event proposed : RunEvent} {now : ℕ}
    (filled : retryEvent event now = .ok proposed) :
    ∃ operation attempt given delay reason,
      event.body = .retryScheduled operation attempt given reason ∧
      retryDelay attempt = some delay ∧
      proposed = retriedEvent event operation attempt delay reason now := by
  unfold retryEvent at filled
  split at filled
  · next operation attempt given reason body =>
      simp only [bind_ok, present_ok, pure_ok] at filled
      obtain ⟨delay, policy, rfl⟩ := filled
      exact ⟨operation, attempt, given, delay, reason, body, policy, rfl⟩
  · cases filled

/-- The retry row tells the event that the store appends. -/
def retryRow (retryId : RetryId) (runId : RunId) (operation : RetryOperation)
    (attempt delay now : ℕ) : RetryAttemptRow :=
  ⟨retryId, runId, operation, attempt, toTimestamp (now + delay), toTimestamp now⟩

theorem scheduleRetry_ok {db next : Db} {t : ℕ → ℕ} {read : EarlierRead} {seenVersion : ℕ}
    {event : RunEvent} {retryId : RetryId} {releasedEventId : EventId} {record : RunRow}
    {retry : RetryAttemptRow} (stored : Stored event.runId (db.events event.runId))
    (done : scheduleRetry db t read seenVersion event retryId releasedEventId =
      .ok (next, record, retry)) :
    ∃ operation attempt given delay reason run sequence runEvents retryAttempts runs,
      event.body = .retryScheduled operation attempt given reason ∧
      retryDelay attempt = some delay ∧
      Fenced db (t 0) event.runId (eventGuard event seenVersion) run ∧
      retryAllowed operation run.status ∧
      ¬ db.ActiveInvocation event.runId (t 1) ∧
      db.retryAttempts.insert (retryRow retryId event.runId operation attempt delay
        (earlierNow t read)) = .ok retryAttempts ∧
      Appended db event.runId (earlierNow t read)
        [retriedEvent event operation attempt delay reason (earlierNow t read),
          releasedEvent event.runId (eventGuard event seenVersion) releasedEventId sequence
            (earlierNow t read)] runEvents ∧
      Rewritten db.runs runs event.runId (RunRow.retried
        (toTimestamp (earlierNow t read + delay)) (toTimestamp (earlierNow t read))) ∧
      next = { db with
        runs := runs, runEvents := runEvents, retryAttempts := retryAttempts } := by
  simp only [scheduleRetry, bind_ok] at done
  obtain ⟨proposed, filled, authorizedEvent, authorized, done⟩ := done
  obtain ⟨operation, attempt, given, delay, reason, body, policy, rfl⟩ := retryEvent_ok filled
  obtain ⟨rfl, occurred, extends'⟩ := earlier_appended
    (retriedEvent event operation attempt delay reason (earlierNow t read)) stored
    authorized
  simp only [retriedEvent, bind_ok, lockRunForLease_ok, present_ok, pure_ok, insertRetryAttempt,
    write_ok, Prod.mk.injEq] at done
  obtain ⟨run, fenced, _, ⟨_, allowed, retryAttempts, entered, rfl⟩, _, isAppended, released,
    isReleased, _, isClosed, _, isUpdated, _, _, _, _, rfl, _⟩ := done
  obtain ⟨run', found, listed⟩ := require_ok.mp allowed
  obtain rfl := Option.some.inj (fenced.found.symm.trans found)
  obtain ⟨sequence, _, middle, inserted, rfl⟩ := appendEvent_ok.mp isAppended
  have earlier := appended_one occurred (extends' sequence) inserted sequence
  obtain ⟨runEvents, later, rfl⟩ := appendEvent_appended isReleased isClosed rfl rfl
  obtain ⟨updatable, runs, rewritten, rfl⟩ := updateRun_ok isUpdated
  refine ⟨operation, attempt, given, delay, reason, run, _, runEvents, retryAttempts, runs, body,
    policy, fenced, listed, ?_, entered, earlier.next (later.of_same rfl), rewritten, rfl⟩
  intro active
  obtain ⟨lease, held, _⟩ := fenced.guarded.lease
  rw [← (Db.run?_eq_some.mp fenced.found).2] at active
  obtain ⟨_, leaseId, _⟩ :=
    (updatable run fenced.found).frozen ⟨.leaseId, by simp, by simp⟩ active
  simp [RunRow.retried, held] at leaseId

end Transitions

section Records

theorem appendUnderLease_ok {Id : Type} {db next : Db} {t : ℕ → ℕ} {runId : RunId}
    {guard : LeaseGuard} {insert : RunRow → Except StoreError (Db × Id × ℕ)} {id : Id}
    {position version : ℕ}
    (appended : appendUnderLease db t runId guard insert = .ok (next, id, position, version)) :
    ∃ run stored runs, Fenced db (t 0) runId guard run ∧
      insert run = .ok (stored, id, position) ∧
      Rewritten stored.runs runs runId (RunRow.bumped (t 1)) ∧
      next = { stored with runs := runs } := by
  simp only [appendUnderLease, bind_ok, lockRunForLease_ok, pure_ok, Prod.mk.injEq] at appended
  obtain ⟨run, fenced, ⟨stored, _, _⟩, inserted, updated, isUpdated, rfl, rfl, rfl, _⟩ := appended
  obtain ⟨_, runs, rewritten, rfl⟩ := updateRun_ok isUpdated
  exact ⟨run, stored, runs, fenced, inserted, rewritten, rfl⟩

theorem appendEvidenceBundle_ok {db next : Db} {t : ℕ → ℕ} {runId : RunId} {guard : LeaseGuard}
    {payload : Jsonb} {id : BundleId} {result : BundleId × ℕ × ℕ}
    (appended : appendEvidenceBundle db t runId guard payload id = .ok (next, result)) :
    ∃ run runBundles runs, Fenced db (t 0) runId guard run ∧
      db.runBundles.Grown runBundles (fun row => row.runId = runId) ∧
      Rewritten db.runs runs runId (RunRow.bumped (t 1)) ∧
      next = { db with runs := runs, runBundles := runBundles } := by
  simp only [appendEvidenceBundle, bind_ok] at appended
  obtain ⟨_, _, isAppended⟩ := appended
  obtain ⟨run, stored, runs, fenced, inserted, rewritten, rfl⟩ := appendUnderLease_ok isAppended
  simp only [insertRunBundle, bind_ok, write_ok, pure_ok, Prod.mk.injEq] at inserted
  obtain ⟨_, ⟨_, _, runBundles, added, _, _, rfl⟩, rfl, _⟩ := inserted
  exact ⟨run, runBundles, runs, fenced, .of_insert added rfl, rewritten, rfl⟩

theorem appendImpactCollectionResult_ok {db next : Db} {t : ℕ → ℕ} {runId : RunId}
    {guard : LeaseGuard} {payload : ImpactCollectionResult} {id : BundleId}
    {result : BundleId × ℕ × ℕ}
    (appended : appendImpactCollectionResult db t runId guard payload id = .ok (next, result)) :
    ∃ run runBundles runs, Fenced db (t 0) runId guard run ∧
      db.runBundles.Grown runBundles (fun row => row.runId = runId) ∧
      Rewritten db.runs runs runId (RunRow.bumped (t 1)) ∧
      next = { db with runs := runs, runBundles := runBundles } := by
  simp only [appendImpactCollectionResult, bind_ok] at appended
  obtain ⟨_, _, isAppended⟩ := appended
  obtain ⟨run, stored, runs, fenced, inserted, rewritten, rfl⟩ := appendUnderLease_ok isAppended
  simp only [insertRunBundle, bind_ok, write_ok, pure_ok, Prod.mk.injEq] at inserted
  obtain ⟨_, _, _, ⟨_, _, runBundles, added, _, _, rfl⟩, rfl, _⟩ := inserted
  exact ⟨run, runBundles, runs, fenced, .of_insert added rfl, rewritten, rfl⟩

theorem appendMigrationCandidate_ok {db next : Db} {t : ℕ → ℕ} {runId : RunId}
    {guard : LeaseGuard} {payload : MigrationCandidate} {id : MigrationId}
    {result : MigrationId × ℕ × ℕ}
    (appended : appendMigrationCandidate db t runId guard payload id = .ok (next, result)) :
    ∃ run migrationCandidates runs, Fenced db (t 0) runId guard run ∧
      db.migrationCandidates.Grown migrationCandidates (fun row => row.runId = runId) ∧
      Rewritten db.runs runs runId (RunRow.bumped (t 1)) ∧
      next = { db with runs := runs, migrationCandidates := migrationCandidates } := by
  simp only [appendMigrationCandidate, bind_ok] at appended
  obtain ⟨_, _, isAppended⟩ := appended
  obtain ⟨run, stored, runs, fenced, inserted, rewritten, rfl⟩ := appendUnderLease_ok isAppended
  simp only [insertMigrationCandidate, bind_ok, write_ok, pure_ok, Prod.mk.injEq] at inserted
  obtain ⟨_, ⟨candidates, added, _, _, rfl⟩, rfl, _⟩ := inserted
  exact ⟨run, candidates, runs, fenced, .of_insert added rfl, rewritten, rfl⟩

theorem saveDecision_ok {db next : Db} {t : ℕ → ℕ} {runId : RunId} {guard : LeaseGuard}
    {scope : DecisionScope} {payload : Jsonb} {id : DecisionId} {result : DecisionId × ℕ}
    (saved : saveDecision db t runId guard scope payload id = .ok (next, result)) :
    ∃ run runDecisions runs, Fenced db (t 0) runId guard run ∧
      Rewritten db.runs runs runId (RunRow.bumped run.updatedAt) ∧
      next = { db with runs := runs, runDecisions := runDecisions } := by
  simp only [saveDecision, bind_ok, lockRunForLease_ok, insertRunDecision, write_ok, pure_ok,
    Prod.mk.injEq] at saved
  obtain ⟨_, _, run, fenced, _, ⟨decisions, _, _, _, rfl⟩, _, isUpdated, rfl, _⟩ := saved
  obtain ⟨_, runs, rewritten, rfl⟩ := updateRun_ok isUpdated
  exact ⟨run, decisions, runs, fenced, rewritten, rfl⟩

end Records

end Store

end LineageGuard
