import LineageGuard.Store.RunChanges
import Mathlib.Tactic

/-
This file shows that every operation keeps the run rows and the event rows in agreement.
-/

namespace LineageGuard

open Relational Attempt Store

theorem replay_append_list (runId : RunId) (events added : List RunEvent) :
    replay runId (events ++ added) = added.foldl StreamState.next (replay runId events) := by
  rw [replay, List.foldl_append, replay]

namespace Shows

variable {row : RunRow} {state : StreamState}

/-- The active lease of the replay is the lease of the row. -/
theorem active (shown : Shows row state) {lease : RunLease} (held : row.lease = some lease) :
    state.activeLease = some ⟨lease.leaseId, lease.workerId, row.leaseGeneration,
      toISOString (toDate lease.expiresAt)⟩ ∧
      lease.expiresAt = toTimestamp (toDate lease.expiresAt) := by
  have same := shown.lease
  rw [held] at same
  obtain ⟨active, isActive, rfl⟩ := Option.map_eq_some_iff.mp same.symm
  obtain ⟨generation, expires⟩ := shown.current active isActive
  refine ⟨?_, congrArg IsoDateTime.instant expires⟩
  rw [isActive, ← generation, ← expires]

theorem idle (shown : Shows row state) (free : row.lease = none) : state.activeLease = none := by
  have same := shown.lease
  rw [free] at same
  exact Option.map_eq_none_iff.mp same.symm

theorem bumped (shown : Shows row state) (updatedAt : ℕ) : Shows (row.bumped updatedAt) state :=
  ⟨shown.status, shown.generation, shown.lease, shown.current⟩

theorem claimed (shown : Shows row state) (workerId : String) (ids : ClaimIds)
    (first second now expiresAt : ℕ) :
    Shows (RunRow.claimed workerId ids.leaseId (row.leaseGeneration + 1) expiresAt now row)
      ((claimEvents row workerId ids first second now expiresAt).foldl StreamState.next state) := by
  have status := shown.status
  have generation := shown.generation
  cases held : row.lease with
  | none =>
      refine ⟨?_, ?_, ?_, ?_⟩ <;>
        simp [claimEvents, held, StreamState.next, acquiredEvent, RunRow.claimed, RunEvent.lease,
          status, generation]
  | some lease =>
      refine ⟨?_, ?_, ?_, ?_⟩ <;>
        simp [claimEvents, held, StreamState.next, expiredEvent, acquiredEvent, RunRow.claimed,
          RunEvent.lease, status, generation]

theorem renewed (shown : Shows row state) {guard : LeaseGuard} {now' : ℕ}
    (guarded : GuardMatches row guard now') (runId : RunId) (eventId : EventId)
    (sequence now previous expiresAt : ℕ) :
    Shows (RunRow.renewed expiresAt now row)
      ([renewedEvent runId guard eventId sequence now previous expiresAt].foldl StreamState.next
        state) := by
  obtain ⟨generation, _, lease, held, leaseId, workerId, _⟩ := guarded
  refine ⟨shown.status, shown.generation, ?_, ?_⟩
  · simp only [Option.mem_def] at held
    simp [StreamState.next, renewedEvent, RunRow.renewed, RunEvent.lease, held, leaseId, workerId]
  · simp [StreamState.next, renewedEvent, RunRow.renewed, RunEvent.lease, generation]

theorem released (shown : Shows row state) (guard : LeaseGuard) (runId : RunId)
    (eventId : EventId) (sequence now : ℕ) :
    Shows (RunRow.released now row)
      ([releasedEvent runId guard eventId sequence now].foldl StreamState.next state) :=
  ⟨shown.status, shown.generation, rfl, by simp [StreamState.next, releasedEvent]⟩

theorem transitioned (shown : Shows row state) {event : RunEvent} {source target : RunStatus}
    {detail : Option String} (body : event.body = .statusChanged source target detail)
    (now : ℕ) :
    Shows (RunRow.transitioned target (toTimestamp now) row)
      ([RunEvent.at event now].foldl StreamState.next state) := by
  have body' : (RunEvent.at event now).body = .statusChanged source target detail := body
  simp only [List.foldl_cons, List.foldl_nil, StreamState.next, body']
  refine ⟨rfl, shown.generation, ?_, ?_⟩
  · simp only [RunRow.transitioned]
    split
    · rfl
    · exact shown.lease
  · intro lease active
    simp only [Option.mem_def] at active
    split at active
    · cases active
    · exact shown.current lease active

theorem retried (shown : Shows row state) (event : RunEvent) (operation : RetryOperation)
    (attempt delay : ℕ) (reason : String) (guard : LeaseGuard) (runId : RunId)
    (eventId : EventId) (sequence now retryAt occurredAt : ℕ) :
    Shows (RunRow.retried retryAt occurredAt row)
      ([retriedEvent event operation attempt delay reason now,
        releasedEvent runId guard eventId sequence now].foldl StreamState.next state) :=
  ⟨shown.status, shown.generation, rfl,
    by simp [StreamState.next, retriedEvent, releasedEvent]⟩

theorem fresh {t : ℕ → ℕ} (fresh : Fresh row t) : Shows row (.initial row.id) :=
  ⟨fresh.status, fresh.generation, by rw [fresh.lease]; rfl, by simp [StreamState.initial]⟩

end Shows

/-- A run shows what an old row has shown, or it is new. -/
def StillShown (db : Db) (t : ℕ → ℕ) (new : RunRow) : Prop :=
  (∃ old ∈ db.runs, old.id = new.id ∧ ∀ state, Shows old state → Shows new state) ∨
    (Fresh new t ∧ db.run? new.id = none)

/-- An operation appends events for the run that it rewrites, or it leaves all events alone. -/
inductive HistoryStep (db next : Db) (t : ℕ → ℕ) : Prop
  | kept (same : next.runEvents = db.runEvents) (shown : ∀ new ∈ next.runs, StillShown db t new)
  | appended (row : RunRow) (now : ℕ) (added : List RunEvent) (change : RunRow → RunRow)
      (found : db.run? row.id = some row) (past : ∃ reading, now ≤ toDate (t reading))
      (appended : Appended db row.id now added next.runEvents)
      (changed : Rewritten db.runs next.runs row.id change)
      (identity : (change row).id = row.id)
      (shown : ∀ state, Shows row state → Shows (change row) (added.foldl StreamState.next state))

theorem Rewritten.bumped_shown {db : Db} {t : ℕ → ℕ} {runs : Table RunRow} {id : RunId}
    {updatedAt : ℕ} (rewritten : Rewritten db.runs runs id (RunRow.bumped updatedAt)) :
    ∀ new ∈ runs, StillShown db t new := by
  intro new present
  obtain ⟨old, isOld, rfl⟩ := rewritten.mem.mp present
  refine Or.inl ⟨old, isOld, ?_, fun state shown => ?_⟩
  · split <;> rfl
  · split
    · exact shown.bumped updatedAt
    · exact shown

theorem earlierNow_le (t : ℕ → ℕ) (read : EarlierRead) : earlierNow t read ≤ toDate (t 0) :=
  toDate_mono (Nat.sub_le _ _)

theorem Commit.historyStep {env : Environment} {db next : Db} {t : ℕ → ℕ} {op : Op}
    (commit : Commit env db t op next) : HistoryStep db next t := by
  have still : ∀ new ∈ db.runs, StillShown db t new :=
    fun new present => Or.inl ⟨new, present, rfl, fun _ shown => shown⟩
  cases commit with
  | unchanged quiet => exact .kept rfl still
  | created fresh mode inserted =>
      refine .kept rfl fun new present => ?_
      rcases (Table.mem_insert inserted new).mp present with old | rfl
      · exact still new old
      · exact Or.inr ⟨fresh, run?_insert_none inserted⟩
  | claimed positive selected appended free rewritten =>
      have found := Db.run?_of_mem (List.mem_of_mem_filter (firstBy_mem selected))
      exact .appended _ _ _ _ found ⟨1, Nat.le_refl _⟩ appended rewritten rfl
        fun state shown => shown.claimed _ _ _ _ _ _
  | renewed positive fenced held appended rewritten =>
      obtain rfl := (Db.run?_eq_some.mp fenced.found).2
      exact .appended _ _ _ _ fenced.found ⟨1, Nat.le_refl _⟩ appended rewritten rfl
        fun state shown => shown.renewed fenced.guarded _ _ _ _ _ _
  | released fenced free appended rewritten =>
      obtain rfl := (Db.run?_eq_some.mp fenced.found).2
      exact .appended _ _ _ _ fenced.found ⟨1, Nat.le_refl _⟩ appended rewritten rfl
        fun state shown => shown.released _ _ _ _ _
  | transitioned body fenced status listed prerequisites allowed appended rewritten =>
      have same := (Db.run?_eq_some.mp fenced.found).2
      rw [← same] at appended rewritten
      refine .appended _ _ _ _ ?_ ⟨0, earlierNow_le t _⟩ appended rewritten rfl
        fun state shown => shown.transitioned body _
      rw [same]
      exact fenced.found
  | retried fenced free appended rewritten =>
      have same := (Db.run?_eq_some.mp fenced.found).2
      rw [← same] at appended rewritten
      refine .appended _ _ _ _ ?_ ⟨0, earlierNow_le t _⟩ appended rewritten rfl
        fun state shown => shown.retried _ _ _ _ _ _ _ _ _ _ _ _
      rw [same]
      exact fenced.found
  | recorded guarded fenced bundles candidates rewritten => exact .kept rfl rewritten.bumped_shown
  | validated found mode validating belongs inserted rewritten =>
      exact .kept rfl rewritten.bumped_shown
  | intended begins inserted rewritten => exact .kept rfl rewritten.bumped_shown
  | approved | reserved | consumed | cancelled | succeeded | ambiguous | disproved | applied =>
      exact .kept rfl still

/-- The events of the database depend on its event table alone. -/
theorem events_congr {db other : Db} (same : other.runEvents = db.runEvents) (runId : RunId) :
    other.events runId = db.events runId := by
  simp only [Db.events, Db.eventRows, same]

theorem mem_appended {db : Db} {runId : RunId} {now : ℕ} {added : List RunEvent}
    {runEvents : Table RunEventRow} (appended : Appended db runId now added runEvents)
    {row : RunEventRow} :
    row ∈ runEvents ↔ row ∈ db.runEvents ∨ ∃ event ∈ added, eventRow event = row := by
  simp only [Table.mem_rows, appended.rows, List.mem_append, List.mem_map]

theorem Store.Appended.belongs {db : Db} {runId : RunId} {now : ℕ} {added : List RunEvent}
    {runEvents : Table RunEventRow} (appended : Appended db runId now added runEvents)
    {event : RunEvent} (present : event ∈ added) : event.runId = runId :=
  appended.stored.event_runId (List.mem_append_right _ present)

/-- A run that does not exist has no events. -/
theorem History.events_nil {db : Db} {runId : RunId} (history : History db)
    (absent : db.run? runId = none) : db.events runId = [] := by
  rw [Db.events, List.map_eq_nil_iff, List.eq_nil_iff_forall_not_mem]
  intro event isEvent
  obtain ⟨stored, belongs⟩ := mem_eventRows.mp isEvent
  exact history.known event stored (belongs ▸ absent)

/-- A step keeps the history, and the clock only moves on. -/
theorem HistoryStep.kept_history {db next : Db} {t : ℕ → ℕ} {finish : ℕ}
    (step : HistoryStep db next t) (runsStep : RunsStep db t next.runs)
    (ticks : Ticks t db.clock finish) (history : History db) :
    History { next with clock := finish } := by
  have started : db.clock ≤ finish := Nat.le_trans (ticks.later 0) (ticks.bounded 0)
  have persists : ∀ id, db.run? id ≠ none →
      Db.run? { next with clock := finish } id ≠ none := by
    intro id known
    obtain ⟨old, found⟩ := Option.ne_none_iff_exists'.mp known
    obtain ⟨new, isNew, _⟩ := runsStep.forward found
    have : Db.run? { next with clock := finish } id = some new := isNew
    simp [this]
  cases step with
  | kept same shown =>
      have events : ∀ runId, Db.events { next with clock := finish } runId = db.events runId :=
        events_congr same
      refine ⟨fun runId => ?_, fun run present => ?_, fun row present => ?_, fun row present => ?_,
        fun row present => ?_⟩
      · rw [events]
        exact history.streams runId
      · rw [events]
        rcases shown run present with ⟨old, isOld, same, shows'⟩ | ⟨fresh, absent⟩
        · rw [← same]
          exact shows' _ (history.shown old isOld)
        · rw [history.events_nil absent]
          exact Shows.fresh fresh
      · exact history.canonical row (by rw [← same]; exact present)
      · exact Nat.le_trans (history.past row (by rw [← same]; exact present)) started
      · exact persists _ (history.known row (by rw [← same]; exact present))
  | appended row now added change found past appended changed identity shown =>
      have events : ∀ runId, Db.events { next with clock := finish } runId =
          db.events runId ++ if row.id = runId then added else [] := appended.streams
      refine ⟨fun runId => ?_, fun run present => ?_, fun item present => ?_,
        fun item present => ?_, fun item present => ?_⟩
      · rw [events]
        by_cases same : row.id = runId
        · rw [if_pos same, ← same]
          exact appended.stored
        · rw [if_neg same, List.append_nil]
          exact history.streams runId
      · obtain ⟨old, isOld, rfl⟩ := changed.mem.mp present
        by_cases same : old.id = row.id
        · obtain rfl : old = row := Table.eq_of_conflict isOld (Db.run?_eq_some.mp found).1
            (Or.inl same)
          rw [if_pos rfl, identity, events, if_pos rfl, replay_append_list]
          exact shown _ (history.shown old isOld)
        · rw [if_neg same, events, if_neg (fun equal => same equal.symm), List.append_nil]
          exact history.shown old isOld
      · rcases (mem_appended appended).mp present with old | ⟨event, isEvent, rfl⟩
        · exact history.canonical item old
        · have occurred := appended.occurred event isEvent
          simp only [RunEventRow.Canonical, eventRow, occurred, toISOString_instant,
            toDate_toTimestamp]
      · rcases (mem_appended appended).mp present with old | ⟨event, isEvent, rfl⟩
        · exact Nat.le_trans (history.past item old) started
        · obtain ⟨reading, before⟩ := past
          have occurred := appended.occurred event isEvent
          simp only [eventRow, occurred, toISOString_instant]
          exact Nat.le_trans (toTimestamp_le.mpr before) (ticks.bounded reading)
      · rcases (mem_appended appended).mp present with old | ⟨event, isEvent, rfl⟩
        · exact persists _ (history.known item old)
        · have belongs : (eventRow event).runId = row.id := appended.belongs isEvent
          rw [belongs]
          exact persists _ (by simp [found])

end LineageGuard
