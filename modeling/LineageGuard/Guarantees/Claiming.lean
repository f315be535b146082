import LineageGuard.Guarantees.Resolution
import Mathlib.Tactic

/-
This file says when a claim returns a lease: the run that it selects must itself be leasable.
-/

namespace LineageGuard

open Relational Attempt Store

section Streams

variable {db : Db} {runId : RunId} {now : ℕ}

theorem runEventIssues_nil {event : RunEvent} :
    runEventIssues event = [] ↔
      (event.occurredAt.Valid ∧
        (1 ≤ utf16Length event.workerId ∧ utf16Length event.workerId ≤ 160) ∧
        0 < event.generation ∧ event.generation ≤ 1000000) ∧ eventBodyIssues event = [] := by
  simp only [runEventIssues, eventBaseIssues, textIssues, isoDateTimeIssues,
    List.append_eq_nil_iff, issueUnless_nil, and_assoc]

/-- The stream of the run can take a next event at this time. -/
structure Extendable (db : Db) (runId : RunId) (now : ℕ) : Prop where
  stored : Stored runId (db.events runId)
  canonical : ∀ row ∈ db.eventRows runId, row.Canonical
  past : ∀ row ∈ db.eventRows runId, toDate row.createdAt ≤ now
  known : db.run? runId ≠ none
  running : isTerminalRunStatus (replay runId (db.events runId)).currentStatus = false

theorem Extendable.common (extendable : Extendable db runId now) {event : RunEvent}
    (belongs : event.runId = runId) (occurred : event.occurredAt = toISOString now)
    (sequence : event.sequence = db.nextSequence runId)
    (fresh : ∀ row ∈ db.runEvents, row.id ≠ event.eventId) :
    (replay runId (db.events runId)).commonIssues event = [] := by
  simp only [StreamState.commonIssues, StreamState.add, List.append_eq_nil_iff, issueUnless_nil,
    replay_runId, replay_index, extendable.running, Bool.false_eq_true, and_false,
    not_false_eq_true, and_true]
  refine ⟨⟨⟨belongs, ?_⟩, sequence.trans (nextSequence_eq extendable.stored)⟩, ?_⟩
  · rw [replay_eventIds]
    rintro ⟨earlier, isEarlier, same⟩
    obtain ⟨row, inStream, rfl⟩ := List.mem_map.mp isEarlier
    have isRow := (mem_eventRows.mp inStream).1
    exact fresh row isRow ((db.runEvents.checked row isRow).2.1.1.symm.trans same)
  · intro earlier isEarlier
    obtain ⟨row, inStream, rfl⟩ := List.mem_map.mp (replay_previous _ _ isEarlier)
    rw [extendable.canonical row inStream, occurred, toISOString_time, toISOString_time]
    exact extendable.past row inStream

/-- A new lease event that the replay accepts is authorized and appended. -/
theorem Extendable.append (extendable : Extendable db runId now) {event : RunEvent}
    (belongs : event.runId = runId) (occurred : event.occurredAt = toISOString now)
    (sequence : event.sequence = db.nextSequence runId)
    (fresh : ∀ row ∈ db.runEvents, row.id ≠ event.eventId)
    (room : (db.events runId).length < 300) (shape : runEventIssues event = [])
    (body : (replay runId (db.events runId)).bodyIssues event = [])
    (plain : (eventRow event).StatusBinding) :
    authorizeEvent (db.eventRows runId) event now = .ok event ∧
      ∃ runEvents, appendEvent db event = .ok { db with runEvents := runEvents } ∧
        Appended db runId now [event] runEvents := by
  subst belongs
  have stored : Stored event.runId (db.events event.runId ++ [event]) :=
    stored_append.mpr ⟨extendable.stored, room, shape, List.append_eq_nil_iff.mpr
      ⟨extendable.common rfl occurred sequence fresh, body⟩⟩
  have checked : Schema.check (eventRow event) := by
    refine ⟨?_, ⟨rfl, rfl, rfl, rfl, rfl, rfl, rfl, rfl⟩, plain⟩
    have position := nextSequence_eq extendable.stored
    simp only [eventRow]
    omega
  have unused : ∀ row ∈ db.runEvents, ¬ Schema.conflict row (eventRow event) := by
    rintro row isRow (same | same)
    · exact fresh row isRow same
    · obtain ⟨sameRun, sameSequence⟩ := Prod.mk.inj same
      have below : row.sequence < db.nextSequence event.runId := by
        refine lt_nextAfter (List.mem_map_of_mem ?_)
        simpa [Table.mem_rows, sameRun, eventRow] using isRow
      rw [sameSequence, ← sequence] at below
      exact absurd below (lt_irrefl _)
  obtain ⟨runEvents, inserted, _⟩ := Table.insert_of_fresh checked unused
  refine ⟨authorizeEvent_stored (fun row present => (eventRows_payload present).1)
    (fun row present => (db.runEvents.checked row (mem_eventRows.mp present).1).2.1)
    extendable.canonical occurred stored, runEvents,
    appendEvent_ok.mpr ⟨sequence, extendable.known, runEvents, inserted, rfl⟩,
    appended_one occurred stored inserted sequence⟩

/-- The stream of a running run in a history is extendable now. -/
theorem History.extendable (history : History db) {row : RunRow} (present : row ∈ db.runs)
    (running : row.status ∉ terminalStatuses) (later : toDate db.clock ≤ now) :
    Extendable db row.id now where
  stored := history.streams row.id
  canonical := fun event isEvent => history.canonical event (mem_eventRows.mp isEvent).1
  past := fun event isEvent =>
    Nat.le_trans (toDate_mono (history.past event (mem_eventRows.mp isEvent).1)) later
  known := by simp [Db.run?_of_mem present]
  running := by
    rw [← (history.shown row present).status]
    simpa [isTerminalRunStatus] using running

/-- A stream stays extendable after an event that does not end its run. -/
theorem Extendable.next (extendable : Extendable db runId now) {event : RunEvent}
    {runEvents : Table RunEventRow} (appended : Appended db runId now [event] runEvents)
    (plain : ((replay runId (db.events runId)).next event).currentStatus =
      (replay runId (db.events runId)).currentStatus) :
    Extendable { db with runEvents := runEvents } runId now := by
  have events : Db.events { db with runEvents := runEvents } runId =
      db.events runId ++ [event] := by rw [appended.streams, if_pos rfl]
  have rows : ∀ row ∈ Db.eventRows { db with runEvents := runEvents } runId,
      row ∈ db.eventRows runId ∨ row = eventRow event := by
    intro row inStream
    obtain ⟨present, belongs⟩ := mem_eventRows.mp inStream
    rcases (mem_appended appended).mp present with old | ⟨added, isAdded, rfl⟩
    · exact Or.inl (mem_eventRows.mpr ⟨old, belongs⟩)
    · exact Or.inr (by rw [List.mem_singleton.mp isAdded])
  have occurred := appended.occurred event (List.mem_singleton_self event)
  refine ⟨?_, fun row inStream => ?_, fun row inStream => ?_, extendable.known, ?_⟩
  · rw [events]
    exact appended.stored
  · rcases rows row inStream with old | rfl
    · exact extendable.canonical row old
    · simp only [RunEventRow.Canonical, eventRow, occurred, toISOString_instant,
        toDate_toTimestamp]
  · rcases rows row inStream with old | rfl
    · exact extendable.past row old
    · simp [eventRow, occurred]
  · rw [events, replay_append, plain]
    exact extendable.running

end Streams

section Claims

variable {db : Db} {t : ℕ → ℕ}

/-- The drawn identifiers are not in use. -/
structure FreshIds (db : Db) (ids : ClaimIds) : Prop where
  expired : ∀ row ∈ db.runEvents, row.id ≠ ids.expiredEventId
  acquired : ∀ row ∈ db.runEvents, row.id ≠ ids.acquiredEventId
  apart : ids.expiredEventId ≠ ids.acquiredEventId
  lease : ∀ row ∈ db.runLeases, row.leaseId ≠ ids.leaseId
  stream : ∀ row ∈ db.runEvents, row.leaseId ≠ ids.leaseId

/-- A worker calls the claim with valid arguments and with new random identifiers. -/
structure ClaimCall (db : Db) (t : ℕ → ℕ) (workerId : String) (leaseMillis : ℕ) (ids : ClaimIds) :
    Prop where
  worker : 1 ≤ utf16Length workerId ∧ utf16Length workerId ≤ 160
  duration : 0 < leaseMillis ∧ leaseMillis ≤ maxSafeInteger
  dated : toDate (t 1) + leaseMillis < isoLimit
  fresh : FreshIds db ids

/-- A due run can be leased on its own. -/
structure Leasable (db : Db) (row : RunRow) : Prop where
  free : ∀ reservation ∈ db.reservations, reservation.runId = row.id → ¬ db.Unresolved reservation
  room : (db.events row.id).length + (if row.lease.isSome then 2 else 1) ≤ 300
  generation : row.leaseGeneration < 1000000

instance (db : Db) (row : RunRow) : Decidable (Leasable db row) :=
  decidable_of_iff ((∀ reservation ∈ db.reservations.rows, reservation.runId = row.id →
      ¬ db.Unresolved reservation) ∧
      (db.events row.id).length + (if row.lease.isSome then 2 else 1) ≤ 300 ∧
      row.leaseGeneration < 1000000)
    ⟨fun ⟨free, room, generation⟩ => ⟨free, room, generation⟩,
      fun ⟨free, room, generation⟩ => ⟨free, room, generation⟩⟩

theorem mem_dueRuns {now : ℕ} {locked : List RunId} {row : RunRow} :
    row ∈ dueRuns db now locked ↔ row ∈ db.runs ∧ row.nextAttemptAt ≤ now ∧
      row.status ∉ terminalStatuses ∧ (∀ lease ∈ row.lease, lease.expiresAt ≤ now) ∧
      row.id ∉ locked := by
  simp [dueRuns, Table.mem_rows]

/-- Only an unresolved effect blocks a due run. -/
theorem Inv.due_inactive (inv : Inv db) {row : RunRow} {now later : ℕ} (present : row ∈ db.runs)
    (expired : ∀ lease ∈ row.lease, lease.expiresAt ≤ now) (started : db.clock ≤ now)
    (ordered : now ≤ later)
    (free : ∀ reservation ∈ db.reservations, reservation.runId = row.id →
      ¬ db.Unresolved reservation) : ¬ db.ActiveInvocation row.id later := by
  rintro ⟨reservation, isIn, belongs, waiting | isOpen⟩
  · obtain ⟨run, lease, found, owned, within⟩ := inv.owners reservation isIn
      (Or.inl (waiting.before (Nat.le_trans started ordered)))
    rw [belongs, Db.run?_of_mem present, Option.some.injEq] at found
    subst found
    have ended := expired lease owned.held
    have live := waiting.2
    omega
  · exact free reservation isIn belongs isOpen

/-- An expired lease of a due run is closed by an accepted event. -/
theorem Inv.expire_accepted (inv : Inv db) {row : RunRow} {ids : ClaimIds} {now : ℕ}
    (present : row ∈ db.runs) (extendable : Extendable db row.id now)
    (ended : ∀ lease ∈ row.lease, toDate lease.expiresAt ≤ now) (dated : now < isoLimit)
    (fresh : FreshIds db ids)
    (room : (db.events row.id).length + (if row.lease.isSome then 2 else 1) ≤ 300) :
    ∃ middle, expireLease db row ids now = .ok { db with runEvents := middle } ∧
      Extendable { db with runEvents := middle } row.id now ∧
      (∀ event ∈ middle, event ∈ db.runEvents ∨ event.id = ids.expiredEventId ∧
        ∀ lease ∈ row.lease, event.leaseId = lease.leaseId) ∧
      (Db.events { db with runEvents := middle } row.id).length < 300 ∧
      (replay row.id (Db.events { db with runEvents := middle } row.id)).activeLease = none ∧
      (replay row.id (Db.events { db with runEvents := middle } row.id)).highestLeaseGeneration =
        row.leaseGeneration ∧
      (replay row.id (Db.events { db with runEvents := middle } row.id)).usedLeaseIds =
        (replay row.id (db.events row.id)).usedLeaseIds := by
  have shown := inv.history.shown row present
  cases held : row.lease with
  | none =>
      refine ⟨db.runEvents, by simp only [expireLease, held], extendable,
        fun event isEvent => Or.inl isEvent, ?_, shown.idle held, shown.generation.symm, rfl⟩
      have space := room
      simp only [held, Option.isSome_none, Bool.false_eq_true, if_false] at space
      exact Nat.lt_of_succ_le space
  | some lease =>
      obtain ⟨active, _⟩ := shown.active held
      have space := room
      simp only [held, Option.isSome_some, if_true] at space
      obtain ⟨carrier, isCarrier, _, worker, generation⟩ := replay_owner _ _ active
      have shaped := (inv.history.streams row.id).shaped carrier isCarrier
      have shape : runEventIssues (expiredEvent row lease ids.expiredEventId
          (db.nextSequence row.id) now) = [] := by
        obtain ⟨⟨_, named, counted⟩, _⟩ := runEventIssues_nil.mp shaped
        rw [← worker] at named
        rw [← generation] at counted
        refine runEventIssues_nil.mpr ⟨⟨toISOString_valid.mpr dated, named, counted⟩, ?_⟩
        simp only [eventBodyIssues, isoDateTimeIssues, expiredEvent, List.append_eq_nil_iff,
          issueUnless_nil, toISOString_valid]
        exact ⟨dated, trivial⟩
      have body : (replay row.id (db.events row.id)).bodyIssues (expiredEvent row lease
          ids.expiredEventId (db.nextSequence row.id) now) = [] := by
        simp only [StreamState.bodyIssues, StreamState.operationalIssues, StreamState.add,
          expiredEvent, active, List.append_eq_nil_iff, issueUnless_nil]
        refine ⟨⟨_, rfl, rfl, rfl, rfl⟩, _, rfl, ?_⟩
        rw [toISOString_time, toISOString_time]
        exact ended lease held
      obtain ⟨authorized, middle, appends, appended⟩ := extendable.append rfl rfl rfl
        fresh.expired (by omega) shape body trivial
      have events : Db.events { db with runEvents := middle } row.id = db.events row.id ++
          [expiredEvent row lease ids.expiredEventId (db.nextSequence row.id) now] := by
        rw [appended.streams, if_pos rfl]
      refine ⟨middle, ?_, extendable.next appended rfl, ?_, ?_, ?_, ?_, ?_⟩
      · simp only [expireLease, held, bind_ok]
        exact ⟨_, authorized, appends⟩
      · intro event isEvent
        rcases (mem_appended appended).mp isEvent with old | ⟨added, isAdded, rfl⟩
        · exact Or.inl old
        · rw [List.mem_singleton.mp isAdded]
          refine Or.inr ⟨rfl, fun other isOther => ?_⟩
          rw [Option.mem_some_iff] at isOther
          rw [← isOther]
          rfl
      · rw [events, List.length_append, List.length_singleton]
        omega
      · rw [events, replay_append]
        rfl
      · rw [events, replay_append]
        exact shown.generation.symm
      · rw [events, replay_append]
        rfl

/-- The acquisition of a lease is an accepted event of a stream without an active lease. -/
theorem Extendable.acquire {row : RunRow} {workerId : String} {leaseMillis now : ℕ}
    {ids : ClaimIds} (extendable : Extendable db row.id now)
    (worker : 1 ≤ utf16Length workerId ∧ utf16Length workerId ≤ 160) (positive : 0 < leaseMillis)
    (dated : now + leaseMillis < isoLimit) (generation : row.leaseGeneration < 1000000)
    (fresh : ∀ event ∈ db.runEvents, event.id ≠ ids.acquiredEventId)
    (room : (db.events row.id).length < 300)
    (idle : (replay row.id (db.events row.id)).activeLease = none)
    (highest : (replay row.id (db.events row.id)).highestLeaseGeneration = row.leaseGeneration)
    (unused : ids.leaseId ∉ (replay row.id (db.events row.id)).usedLeaseIds) :
    let acquired := acquiredEvent row workerId ids (db.nextSequence row.id) now (now + leaseMillis)
    authorizeEvent (db.eventRows row.id) acquired now = .ok acquired ∧
      ∃ runEvents, appendEvent db acquired = .ok { db with runEvents := runEvents } := by
  intro acquired
  have shape : runEventIssues acquired = [] := by
    refine runEventIssues_nil.mpr ⟨⟨toISOString_valid.mpr (by omega), worker,
      Nat.succ_pos _, generation⟩, ?_⟩
    simp only [eventBodyIssues, isoDateTimeIssues, acquired, acquiredEvent,
      List.append_eq_nil_iff, issueUnless_nil, toISOString_valid, toISOString_time]
    exact ⟨dated, by omega⟩
  have body : (replay row.id (db.events row.id)).bodyIssues acquired = [] := by
    simp only [StreamState.bodyIssues, StreamState.add, acquired, acquiredEvent,
      List.append_eq_nil_iff, issueUnless_nil]
    exact ⟨⟨idle, unused⟩, by omega⟩
  obtain ⟨authorized, runEvents, appends, _⟩ :=
    extendable.append rfl rfl rfl fresh room shape body trivial
  exact ⟨authorized, runEvents, appends⟩

/-- The claim accepts the new columns of the run. -/
theorem updateRun_claimed {now expiresAt stamp : ℕ} {row : RunRow} {workerId : String}
    {leaseId : LeaseId} (present : row ∈ db.runs) (free : ¬ db.ActiveInvocation row.id now)
    (worker : 1 ≤ utf16Length workerId ∧ utf16Length workerId ≤ 160)
    (generation : row.leaseGeneration < 1000000) :
    ∃ runs, updateRun db now row.id
        [.leaseId, .workerId, .leaseGeneration, .leaseExpiresAt, .version, .updatedAt]
        (RunRow.claimed workerId leaseId (row.leaseGeneration + 1) expiresAt stamp) =
          .ok { db with runs := runs } ∧
      Db.run? { db with runs := runs } row.id =
        some (RunRow.claimed workerId leaseId (row.leaseGeneration + 1) expiresAt stamp row) := by
  have found := Db.run?_of_mem present
  have safe : ∃ runs, db.runs.update (fun other => other.id = row.id)
      (RunRow.claimed workerId leaseId (row.leaseGeneration + 1) expiresAt stamp) = .ok runs := by
    refine Table.update_of_safe (fun other isOther _ => ?_) (fun left _ right _ => ?_)
    · obtain ⟨key, keyLength, _, _⟩ := db.runs.checked other isOther
      refine ⟨key, keyLength, generation, fun lease isLease => ?_⟩
      rw [Option.mem_def] at isLease
      cases isLease
      exact ⟨length_pos_of_utf16Length worker.1,
        Nat.le_trans (length_le_utf16Length workerId) (Nat.le_trans worker.2 (by decide))⟩
    · simp only [Schema.conflict]
      split <;> split <;> exact id
  obtain ⟨runs, updated⟩ := safe
  refine ⟨runs, (updateRun_some found).mpr ⟨⟨fun _ active => absurd active free, by simp, rfl⟩,
    runs, updated, rfl⟩, ?_⟩
  have rewritten : Rewritten db.runs runs row.id
      (RunRow.claimed workerId leaseId (row.leaseGeneration + 1) expiresAt stamp) := by
    simpa [Rewritten] using Table.update_ok.mp updated
  rw [rewritten.run? fun _ => rfl, found, Option.map_some, if_pos rfl]

/-- A claim leases a due run that is leasable on its own. -/
theorem Inv.claimRun_accepted (inv : Inv db) {row : RunRow} {workerId : String}
    {leaseMillis finish : ℕ} {ids : ClaimIds} {locked : List RunId} (ticks : Ticks t db.clock finish)
    (call : ClaimCall db t workerId leaseMillis ids) (due : row ∈ dueRuns db (t 0) locked)
    (leasable : Leasable db row) (safe : row.version < maxSafeInteger) :
    ∃ next record, claimRun db t row workerId leaseMillis ids = .ok (next, record) := by
  obtain ⟨present, _, running, expired, _⟩ := mem_dueRuns.mp due
  have extendable : Extendable db row.id (toDate (t 1)) :=
    inv.history.extendable present running (toDate_mono (ticks.later 1))
  have ended : ∀ lease ∈ row.lease, toDate lease.expiresAt ≤ toDate (t 1) := fun lease held =>
    toDate_mono (Nat.le_trans (expired lease held) (ticks.ordered (by omega)))
  have dated := call.dated
  obtain ⟨middle, closed, extended, origin, room, idle, highest, used⟩ := inv.expire_accepted present
    extendable ended (by omega) call.fresh leasable.room
  have unused : ids.leaseId ∉
      (replay row.id (Db.events { db with runEvents := middle } row.id)).usedLeaseIds := by
    rw [used]
    intro isUsed
    obtain ⟨event, isEvent, same⟩ := replay_usedLeaseIds _ _ _ isUsed
    obtain ⟨stored, inStream, rfl⟩ := List.mem_map.mp isEvent
    have isStored := (mem_eventRows.mp inStream).1
    obtain ⟨_, _, _, _, leaseId, _⟩ := (db.runEvents.checked stored isStored).2.1
    exact call.fresh.stream stored isStored (leaseId.symm.trans same)
  have drawn : ∀ event ∈ middle, event.id ≠ ids.acquiredEventId := by
    intro event isEvent
    rcases origin event isEvent with old | ⟨isExpiry, _⟩
    · exact call.fresh.acquired event old
    · rw [isExpiry]
      exact call.fresh.apart
  obtain ⟨authorized, runEvents, appends⟩ := extended.acquire call.worker call.duration.1 dated
    leasable.generation drawn room idle highest unused
  obtain ⟨sequence, _, stored, inserted, _⟩ := appendEvent_ok.mp appends
  have checked : Schema.check (⟨ids.leaseId, row.id, workerId, row.leaseGeneration + 1,
      toTimestamp (toDate (t 1)), toTimestamp (toDate (t 1) + leaseMillis)⟩ : RunLeaseRow) :=
    ⟨length_pos_of_utf16Length call.worker.1, Nat.le_trans (length_le_utf16Length workerId)
      (Nat.le_trans call.worker.2 (by decide)), Nat.succ_pos _, leasable.generation⟩
  obtain ⟨runLeases, leased, _⟩ := Table.insert_of_fresh checked call.fresh.lease
  have free : ¬ Db.ActiveInvocation { db with runEvents := middle, runLeases := runLeases }
      row.id (t 2) :=
    inv.due_inactive present expired (ticks.later 0) (ticks.ordered (by omega)) leasable.free
  have owned : row ∈ ({ db with runEvents := middle, runLeases := runLeases } : Db).runs := present
  obtain ⟨runs, updated, found⟩ := updateRun_claimed owned free call.worker leasable.generation
  refine ⟨{ db with runs := runs, runEvents := stored, runLeases := runLeases },
    RunRow.claimed workerId ids.leaseId (row.leaseGeneration + 1) (toDate (t 1) + leaseMillis)
      (toDate (t 1)) row, ?_⟩
  simp only [claimRun, bind_ok, runFromRow_ok, present_ok, pure_ok, insertRunLease, write_ok,
    reference, require_ok]
  refine ⟨row, ⟨Nat.le_of_lt safe, rfl⟩, _, closed, _, authorized, _,
    ⟨runLeases, leased, (), extended.known, rfl⟩, _, updated, _,
    appendEvent_ok.mpr ⟨sequence, ?_, stored, inserted, rfl⟩, _, found, _, ⟨safe, rfl⟩, rfl⟩
  intro missing
  have known := found.symm.trans missing
  cases known

/-- A claim that returns has leased a run with a safe version. -/
theorem claimRun_version {next : Db} {row record : RunRow} {workerId : String} {leaseMillis : ℕ}
    {ids : ClaimIds} (found : db.run? row.id = some row)
    (claimed : claimRun db t row workerId leaseMillis ids = .ok (next, record)) :
    row.version < maxSafeInteger := by
  obtain ⟨first, second, runEvents, runLeases, runs, _, _, rewritten, rfl⟩ :=
    claimRun_ok found claimed
  simp only [claimRun, bind_ok, runFromRow_ok, present_ok, pure_ok, Prod.mk.injEq] at claimed
  obtain ⟨_, _, _, _, _, _, _, _, _, _, stored, _, run, isRun, _, ⟨safe, _⟩, rfl, _⟩ := claimed
  have kept : ∀ old, (RunRow.claimed workerId ids.leaseId (row.leaseGeneration + 1)
      (toDate (t 1) + leaseMillis) (toDate (t 1)) old).id = old.id := fun _ => rfl
  have isClaimed := rewritten.run? kept row.id
  rw [found, Option.map_some, if_pos rfl] at isClaimed
  obtain rfl := Option.some.inj (isRun.symm.trans isClaimed)
  exact safe

/-- A claim that returns has leased a run that was leasable on its own. -/
theorem claimRun_leasable {next : Db} {row record : RunRow} {workerId : String} {leaseMillis : ℕ}
    {ids : ClaimIds} (found : db.run? row.id = some row)
    (claimed : claimRun db t row workerId leaseMillis ids = .ok (next, record)) :
    Leasable db row := by
  obtain ⟨first, second, runEvents, runLeases, runs, appended, free, _, rfl⟩ :=
    claimRun_ok found claimed
  refine ⟨fun reservation isIn belongs isOpen => ?_, ?_, ?_⟩
  · rw [← belongs] at free
    exact free (Blocks.active isIn (Or.inr isOpen))
  · have bounded := appended.stored.bounded
    cases held : row.lease <;>
      simpa [claimEvents, held, Nat.add_assoc] using bounded
  · have shaped := appended.stored.shaped (acquiredEvent row workerId ids second (toDate (t 1))
      (toDate (t 1) + leaseMillis)) (by simp [claimEvents])
    exact (runEventIssues_nil.mp shaped).1.2.2.2

end Claims

section Blocking

variable {env : Environment} {db : Db}

/-- The claim returns a lease of some run. -/
def ClaimReturns (db : Db) (t : ℕ → ℕ) (locked : List RunId) (workerId : String)
    (leaseMillis : ℕ) (ids : ClaimIds) : Prop :=
  ∃ next record, claimDue db t locked workerId leaseMillis ids = .ok (next, some record)

/-- A valid claim returns a lease exactly when the run that it selects is leasable. -/
theorem Inv.claimReturns (inv : Inv db) {t : ℕ → ℕ} {finish : ℕ} (ticks : Ticks t db.clock finish)
    {locked : List RunId} {workerId : String} {leaseMillis : ℕ} {ids : ClaimIds}
    (call : ClaimCall db t workerId leaseMillis ids) :
    ClaimReturns db t locked workerId leaseMillis ids ↔
      ∃ head, firstBy claimsBefore (dueRuns db (t 0) locked) = some head ∧ Leasable db head ∧
        head.version < maxSafeInteger := by
  constructor
  · rintro ⟨next, record, done⟩
    simp only [claimDue, bind_ok, require_ok] at done
    obtain ⟨_, _, _, _, done⟩ := done
    split at done
    · simp at done
    · next head selected =>
        simp only [bind_ok, pure_ok, Prod.mk.injEq, Option.some.injEq] at done
        obtain ⟨⟨_, _⟩, claimed, _, _⟩ := done
        have found := Db.run?_of_mem (mem_dueRuns.mp (firstBy_mem selected)).1
        exact ⟨head, selected, claimRun_leasable found claimed, claimRun_version found claimed⟩
  · rintro ⟨head, selected, leasable, safe⟩
    obtain ⟨next, record, claimed⟩ :=
      inv.claimRun_accepted ticks call (firstBy_mem selected) leasable safe
    refine ⟨next, record, ?_⟩
    simp only [claimDue, bind_ok, require_ok, selected, pure_ok]
    exact ⟨(), call.worker, (), call.duration, _, claimed, rfl⟩

/-- A leasable due run makes a claim return exactly when the first due run is leasable itself. -/
theorem claim_unblocked (reached : Reachable env db) (delays : List ℕ) (locked : List RunId)
    {workerId : String} {leaseMillis : ℕ} {ids : ClaimIds}
    (call : ClaimCall db (readings db delays) workerId leaseMillis ids) :
    ((∃ row ∈ dueRuns db (readings db delays 0) locked, Leasable db row) →
        ClaimReturns db (readings db delays) locked workerId leaseMillis ids) ↔
      (∀ row ∈ dueRuns db (readings db delays 0) locked, ¬ Leasable db row) ∨
        ∃ head, firstBy claimsBefore (dueRuns db (readings db delays 0) locked) = some head ∧
          Leasable db head ∧ head.version < maxSafeInteger := by
  rw [reached.inv.claimReturns (readings_ticks db delays) call]
  constructor
  · intro returns
    by_cases some : ∃ row ∈ dueRuns db (readings db delays 0) locked, Leasable db row
    · exact Or.inr (returns some)
    · exact Or.inl fun row due leasable => some ⟨row, due, leasable⟩
  · rintro (none | head) ⟨row, due, leasable⟩
    · exact absurd leasable (none row due)
    · exact head

end Blocking

section Sample

/-- A second run is created before the lease of the first one expires. -/
def queuedSteps : List Step := consumedSteps ++
  [⟨[1000], .createRun ⟨2⟩ "request-2" ⟨1⟩ .live ⟨1, 1⟩ 0⟩, lateClaimStep]

def lateClaimIds : ClaimIds := ⟨⟨201⟩, ⟨202⟩, ⟨2⟩⟩

instance (db : Db) (t : ℕ → ℕ) (workerId : String) (leaseMillis : ℕ) (ids : ClaimIds) :
    Decidable (ClaimCall db t workerId leaseMillis ids) :=
  decidable_of_iff ((1 ≤ utf16Length workerId ∧ utf16Length workerId ≤ 160) ∧
      (0 < leaseMillis ∧ leaseMillis ≤ maxSafeInteger) ∧
      toDate (t 1) + leaseMillis < isoLimit ∧
      (∀ row ∈ db.runEvents.rows, row.id ≠ ids.expiredEventId) ∧
      (∀ row ∈ db.runEvents.rows, row.id ≠ ids.acquiredEventId) ∧
      ids.expiredEventId ≠ ids.acquiredEventId ∧
      (∀ row ∈ db.runLeases.rows, row.leaseId ≠ ids.leaseId) ∧
      ∀ row ∈ db.runEvents.rows, row.leaseId ≠ ids.leaseId)
    ⟨fun ⟨worker, duration, dated, expired, acquired, apart, lease, stream⟩ =>
      ⟨worker, duration, dated, expired, acquired, apart, lease, stream⟩,
      fun ⟨worker, duration, dated, expired, acquired, apart, lease, stream⟩ =>
      ⟨worker, duration, dated, expired, acquired, apart, lease, stream⟩⟩

/-- The frozen first run makes the claim fail although the second run is due and leasable. -/
theorem frozen_head_blocks :
    Reachable sampleEnvironment (sampleState queuedSteps) ∧
    ClaimCall (sampleState queuedSteps) (readings (sampleState queuedSteps) [1000]) "worker-2" 60000
      lateClaimIds ∧
    (∃ row ∈ dueRuns (sampleState queuedSteps) (readings (sampleState queuedSteps) [1000] 0) [],
      Leasable (sampleState queuedSteps) row) ∧
    ¬ ClaimReturns (sampleState queuedSteps) (readings (sampleState queuedSteps) [1000]) []
      "worker-2" 60000 lateClaimIds := by
  have reached := sampleState_reachable queuedSteps
  have call : ClaimCall (sampleState queuedSteps) (readings (sampleState queuedSteps) [1000])
      "worker-2" 60000 lateClaimIds := by decide +kernel
  have head : ∃ head ∈ firstBy claimsBefore
      (dueRuns (sampleState queuedSteps) (readings (sampleState queuedSteps) [1000] 0) []),
      ¬ Leasable (sampleState queuedSteps) head := by decide +kernel
  refine ⟨reached, call, by decide +kernel, fun returns => ?_⟩
  obtain ⟨first, selected, frozen⟩ := head
  obtain ⟨other, isOther, leasable, _⟩ :=
    (reached.inv.claimReturns (readings_ticks (sampleState queuedSteps) [1000]) call).mp returns
  obtain rfl := Option.some.inj (isOther.symm.trans selected)
  exact frozen leasable

/-- A claim leases the created sample run. -/
theorem claim_unblocked_created :
    ClaimReturns (sampleState [createStep]) (readings (sampleState [createStep]) [1000]) []
      "worker-1" 60000 lateClaimIds := by
  have call : ClaimCall (sampleState [createStep]) (readings (sampleState [createStep]) [1000])
      "worker-1" 60000 lateClaimIds := by decide
  have head : ∃ head ∈ firstBy claimsBefore
      (dueRuns (sampleState [createStep]) (readings (sampleState [createStep]) [1000] 0) []),
      Leasable (sampleState [createStep]) head ∧ head.version < maxSafeInteger := by
    decide
  obtain ⟨first, selected, leasable, safe⟩ := head
  exact (claim_unblocked (sampleState_reachable [createStep]) [1000] [] call).mpr
    (Or.inr ⟨first, selected, leasable, safe⟩) ⟨first, firstBy_mem selected, leasable⟩

end Sample

end LineageGuard
