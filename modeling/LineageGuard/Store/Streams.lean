import LineageGuard.Db.Rules
import LineageGuard.Store.Leases
import Mathlib.Tactic

/-
This file says which streams the store reads and extends.
-/

namespace LineageGuard

open Relational Attempt

/-- A row is canonical when the text of its event shows the stored time. -/
def RunEventRow.Canonical (row : RunEventRow) : Prop :=
  row.payload.occurredAt = toISOString (toDate row.createdAt)

section Sequences

theorem nextAfter_le {positions : List ℕ} {bound : ℕ}
    (below : ∀ position ∈ positions, position < bound) : Db.nextAfter positions ≤ bound := by
  induction positions with
  | nil => simp [Db.nextAfter]
  | cons head rest ih =>
      have first := below head List.mem_cons_self
      have later := ih fun position present => below position (List.mem_cons_of_mem _ present)
      simp only [Db.nextAfter, List.foldr_cons] at later ⊢
      omega

theorem mem_eventRows {db : Db} {runId : RunId} {row : RunEventRow} :
    row ∈ db.eventRows runId ↔ row ∈ db.runEvents ∧ row.runId = runId := by
  simp [Db.eventRows, List.mem_insertionSort, Table.mem_rows]

theorem eventRows_payload {db : Db} {runId : RunId} {row : RunEventRow}
    (present : row ∈ db.eventRows runId) :
    row.payload.runId = runId ∧ row.payload.sequence = row.sequence := by
  obtain ⟨stored, belongs⟩ := mem_eventRows.mp present
  obtain ⟨_, ⟨_, same, sequence, _⟩, _⟩ := db.runEvents.checked row stored
  exact ⟨same.trans belongs, sequence⟩

/-- The events of a stored stream carry their positions as sequence numbers. -/
theorem Stored.sequence {runId : RunId} {events : List RunEvent} (stored : Stored runId events)
    {event : RunEvent} (present : event ∈ events) : event.sequence < events.length := by
  induction events using List.reverseRecOn with
  | nil => simp at present
  | append_singleton rest last ih =>
      obtain ⟨earlier, room, shape, accepted⟩ := stored_append.mp stored
      rw [List.length_append, List.length_singleton]
      rcases List.mem_append.mp present with old | added
      · exact Nat.lt_succ_of_lt (ih earlier old)
      · rw [List.mem_singleton.mp added]
        simp only [StreamState.issues, StreamState.commonIssues, StreamState.add,
          List.append_eq_nil_iff, issueUnless_nil, replay_index] at accepted
        omega

theorem Stored.last_sequence {runId : RunId} {events : List RunEvent} {event : RunEvent}
    (stored : Stored runId (events ++ [event])) : event.sequence = events.length := by
  obtain ⟨_, _, _, accepted⟩ := stored_append.mp stored
  simp only [StreamState.issues, StreamState.commonIssues, StreamState.add,
    List.append_eq_nil_iff, issueUnless_nil, replay_index] at accepted
  exact accepted.1.1.1.2

/-- The next sequence number of a stored stream is its length. -/
theorem nextSequence_eq {db : Db} {runId : RunId} (stored : Stored runId (db.events runId)) :
    db.nextSequence runId = (db.events runId).length := by
  apply Nat.le_antisymm
  · refine nextAfter_le fun sequence present => ?_
    obtain ⟨row, isRow, rfl⟩ := List.mem_map.mp present
    have inStream : row ∈ db.eventRows runId := by
      simpa [mem_eventRows, Table.mem_rows] using isRow
    rw [← (eventRows_payload inStream).2]
    exact stored.sequence (List.mem_map_of_mem inStream)
  · rcases List.eq_nil_or_concat (db.events runId) with empty | ⟨rest, last, split⟩
    · simp [empty]
    · rw [List.concat_eq_append] at split
      rw [split] at stored ⊢
      have isLast : last ∈ db.events runId := by rw [split]; simp
      obtain ⟨row, inStream, rfl⟩ := List.mem_map.mp isLast
      have position := stored.last_sequence
      have below : row.sequence < db.nextSequence runId := by
        refine lt_nextAfter (List.mem_map_of_mem ?_)
        simpa [mem_eventRows, Table.mem_rows] using inStream
      rw [(eventRows_payload inStream).2] at position
      rw [List.length_append, List.length_singleton]
      omega

end Sequences

namespace Store

section Authorization

theorem eventFromRow_ok {row : RunEventRow} {record : EventRecord}
    (read : eventFromRow row row.payload = .ok record) : record.payload = row.payload := by
  simp only [eventFromRow, bind_ok, require_ok, pure_ok] at read
  obtain ⟨_, _, rfl⟩ := read
  rfl

/-- The rows that authorize form a stored stream of their payloads. -/
theorem authorizeRows_ok {runId : RunId} {stream : List RunEvent} {rows : List RunEventRow}
    {records : List EventRecord} (belongs : ∀ row ∈ rows, row.payload.runId = runId)
    (stored : Stored runId stream) (authorized : authorizeRows stream rows = .ok records) :
    records.map (·.payload) = rows.map (·.payload) ∧
      Stored runId (stream ++ rows.map (·.payload)) := by
  induction rows generalizing stream records with
  | nil =>
      simp only [authorizeRows, Except.ok.injEq] at authorized
      subst authorized
      simpa using stored
  | cons row rest ih =>
      simp only [authorizeRows, bind_ok, mapError_ok, present_ok, pure_ok] at authorized
      obtain ⟨longer, accepted, payload, last, record, read, records, later, rfl⟩ := authorized
      obtain ⟨rfl, _, stored'⟩ :=
        (authorizeRunEvent_ok (belongs row List.mem_cons_self) stored).mp accepted
      rw [List.getLast?_append, List.getLast?_singleton, Option.some_or, Option.some.injEq] at last
      subst last
      obtain ⟨payloads, whole⟩ := ih (fun other isIn => belongs other (List.mem_cons_of_mem _ isIn))
        stored' later
      rw [List.append_assoc] at whole
      exact ⟨by rw [List.map_cons, payloads, eventFromRow_ok read, List.map_cons], whole⟩

/-- The rows of a stored stream authorize when their times are canonical. -/
theorem authorizeRows_stored {runId : RunId} {stream : List RunEvent} {rows : List RunEventRow}
    (belongs : ∀ row ∈ rows, row.payload.runId = runId) (bound : ∀ row ∈ rows, row.DomainBinding)
    (canonical : ∀ row ∈ rows, row.Canonical)
    (stored : Stored runId (stream ++ rows.map (·.payload))) :
    ∃ records, authorizeRows stream rows = .ok records ∧
      records.map (·.payload) = rows.map (·.payload) := by
  induction rows generalizing stream with
  | nil => exact ⟨[], rfl, rfl⟩
  | cons row rest ih =>
      have regroup : stream ++ (row :: rest).map (·.payload) =
          (stream ++ [row.payload]) ++ rest.map (·.payload) := by simp
      rw [regroup] at stored
      obtain ⟨records, later, payloads⟩ := ih
        (fun other isIn => belongs other (List.mem_cons_of_mem _ isIn))
        (fun other isIn => bound other (List.mem_cons_of_mem _ isIn))
        (fun other isIn => canonical other (List.mem_cons_of_mem _ isIn)) stored
      have accepted := (authorizeRunEvent_ok (belongs row List.mem_cons_self)
        stored.of_append.of_append).mpr ⟨rfl, canonical row List.mem_cons_self, stored.of_append⟩
      obtain ⟨event, run, sequence, type, _, _, _, instant⟩ := bound row List.mem_cons_self
      have read : eventFromRow row row.payload = .ok
          ⟨row.id, row.runId, row.payload.sequence, row.payload.type, row.payload,
            toDate row.createdAt⟩ := by
        simp only [eventFromRow, bind_ok, require_ok, pure_ok]
        exact ⟨(), ⟨event, run, sequence, type, congrArg toDate instant⟩, trivial⟩
      refine ⟨⟨row.id, row.runId, row.payload.sequence, row.payload.type, row.payload,
        toDate row.createdAt⟩ :: records, ?_, by rw [List.map_cons, payloads, List.map_cons]⟩
      simp only [authorizeRows, bind_ok, mapError_ok, present_ok, pure_ok]
      exact ⟨_, accepted, row.payload, by simp, _, read, records, later, rfl⟩

/-- An authorized event is the proposed one, and it extends a stored stream. -/
theorem authorizeEvent_ok {rows : List RunEventRow} {proposed event : RunEvent} {now : ℕ}
    (belongs : ∀ row ∈ rows, row.payload.runId = proposed.runId)
    (authorized : authorizeEvent rows proposed now = .ok event) :
    event = proposed ∧ proposed.occurredAt = toISOString now ∧
      Stored proposed.runId (rows.map (·.payload) ++ [proposed]) := by
  simp only [authorizeEvent, authorizedEvents, bind_ok, mapError_ok, present_ok] at authorized
  obtain ⟨records, current, stream, accepted, last⟩ := authorized
  obtain ⟨payloads, stored⟩ := authorizeRows_ok belongs (Stored.nil _) current
  rw [payloads] at accepted
  obtain ⟨rfl, occurred, longer⟩ := (authorizeRunEvent_ok rfl stored).mp accepted
  rw [List.getLast?_append, List.getLast?_singleton, Option.some_or, Option.some.injEq] at last
  exact ⟨last.symm, occurred, longer⟩

/-- An event that extends a stored stream of canonical rows is authorized. -/
theorem authorizeEvent_stored {rows : List RunEventRow} {proposed : RunEvent} {now : ℕ}
    (belongs : ∀ row ∈ rows, row.payload.runId = proposed.runId)
    (bound : ∀ row ∈ rows, row.DomainBinding) (canonical : ∀ row ∈ rows, row.Canonical)
    (occurred : proposed.occurredAt = toISOString now)
    (stored : Stored proposed.runId (rows.map (·.payload) ++ [proposed])) :
    authorizeEvent rows proposed now = .ok proposed := by
  have earlier : Stored proposed.runId ([] ++ rows.map (·.payload)) := stored.of_append
  obtain ⟨records, current, payloads⟩ := authorizeRows_stored belongs bound canonical earlier
  have accepted := (authorizeRunEvent_ok rfl stored.of_append).mpr ⟨rfl, occurred, stored⟩
  simp only [authorizeEvent, authorizedEvents, bind_ok, mapError_ok, present_ok]
  exact ⟨records, current, _, by rw [payloads]; exact accepted, by simp⟩

end Authorization

section Streams

/-- An event that authorizes against the whole stream of its run extends it. -/
theorem authorizeEvent_events {db : Db} {proposed event : RunEvent} {now : ℕ}
    (authorized : authorizeEvent (db.eventRows proposed.runId) proposed now = .ok event) :
    event = proposed ∧ proposed.occurredAt = toISOString now ∧
      Stored proposed.runId (db.events proposed.runId ++ [proposed]) :=
  authorizeEvent_ok (fun _ present => (eventRows_payload present).1) authorized

/-- The record of an inserted event repeats its payload. -/
theorem eventFromRow_eventRow (event : RunEvent) :
    eventFromRow (eventRow event) event = .ok ⟨event.eventId, event.runId, event.sequence,
      event.type, event, event.occurredAt.time⟩ := by
  simp only [eventFromRow, bind_ok, require_ok, pure_ok]
  exact ⟨(), ⟨rfl, rfl, rfl, rfl, rfl⟩, rfl⟩

/-- The append of an event inserts its row. -/
theorem appendEvent_ok {db next : Db} {event : RunEvent} :
    appendEvent db event = .ok next ↔
      event.sequence = db.nextSequence event.runId ∧ db.run? event.runId ≠ none ∧
      ∃ runEvents, db.runEvents.insert (eventRow event) = .ok runEvents ∧
        next = { db with runEvents := runEvents } := by
  simp only [appendEvent, bind_ok, pure_ok, eventFromRow_eventRow, Except.ok.injEq]
  constructor
  · rintro ⟨_, inserted, _, rfl, rfl⟩
    exact insertRunEvent_ok.mp inserted
  · intro accepted
    exact ⟨next, insertRunEvent_ok.mpr accepted, _, rfl, rfl⟩

/-- A row with the next sequence number adds its payload to its stream alone. -/
theorem events_insert {db : Db} {runEvents : Table RunEventRow} {row : RunEventRow}
    (inserted : db.runEvents.insert row = .ok runEvents)
    (next : row.sequence = db.nextSequence row.runId) (runId : RunId) :
    Db.events { db with runEvents := runEvents } runId =
      db.events runId ++ if row.runId = runId then [row.payload] else [] := by
  simp only [Db.events, eventRows_insert (Table.insert_ok.mp inserted) next]
  split <;> simp

end Streams

end Store

end LineageGuard
