import LineageGuard.Db.Functions
import Mathlib.Tactic

/-
This file gives the rules of the queries and of the writes of single rows.
-/

namespace LineageGuard

open Relational Attempt

namespace Db

theorem run?_eq_some {db : Db} {id : RunId} {row : RunRow} :
    db.run? id = some row ↔ row ∈ db.runs ∧ row.id = id := by
  rw [run?, Table.find?_eq_some]
  · simp
  · intro left right isLeft isRight
    simp only [decide_eq_true_eq] at isLeft isRight
    exact Or.inl (isLeft.trans isRight.symm)

theorem run?_of_mem {db : Db} {row : RunRow} (present : row ∈ db.runs) :
    db.run? row.id = some row := run?_eq_some.mpr ⟨present, rfl⟩

theorem intent?_eq_some {db : Db} {id : IntentId} {row : IntentRow} :
    db.intent? id = some row ↔ row ∈ db.intents ∧ row.id = id := by
  rw [intent?, Table.find?_eq_some]
  · simp
  · intro left right isLeft isRight
    simp only [decide_eq_true_eq] at isLeft isRight
    exact Or.inl (isLeft.trans isRight.symm)

theorem attempt?_eq_some {db : Db} {id : AttemptId} {row : AttemptRow} :
    db.attempt? id = some row ↔ row ∈ db.attempts ∧ row.id = id := by
  rw [attempt?, Table.find?_eq_some]
  · simp
  · intro left right isLeft isRight
    simp only [decide_eq_true_eq] at isLeft isRight
    exact Or.inl (isLeft.trans isRight.symm)

theorem approval?_eq_some {db : Db} {id : ApprovalId} {row : ApprovalRow} :
    db.approval? id = some row ↔ row ∈ db.approvals ∧ row.id = id := by
  rw [approval?, Table.find?_eq_some]
  · simp
  · intro left right isLeft isRight
    simp only [decide_eq_true_eq] at isLeft isRight
    exact Or.inl (isLeft.trans isRight.symm)

theorem reservation?_eq_some {db : Db} {id : ReservationId} {row : ReservationRow} :
    db.reservation? id = some row ↔ row ∈ db.reservations ∧ row.id = id := by
  rw [reservation?, Table.find?_eq_some]
  · simp
  · intro left right isLeft isRight
    simp only [decide_eq_true_eq] at isLeft isRight
    exact Or.inl (isLeft.trans isRight.symm)

theorem receiptOf?_eq_some {db : Db} {id : IntentId} {row : ReceiptRow} :
    db.receiptOf? id = some row ↔ row ∈ db.receipts ∧ row.intentId = id := by
  rw [receiptOf?, Table.find?_eq_some]
  · simp
  · intro left right isLeft isRight
    simp only [decide_eq_true_eq] at isLeft isRight
    exact Or.inr (isLeft.trans isRight.symm)

theorem receiptOf?_eq_none {db : Db} {id : IntentId} :
    db.receiptOf? id = none ↔ ∀ row ∈ db.receipts, row.intentId ≠ id := by
  simp [receiptOf?, Table.find?_eq_none]

theorem reconciliationOf?_eq_some {db : Db} {id : AttemptId} {row : ReconciliationRow} :
    db.reconciliationOf? id = some row ↔ row ∈ db.reconciliations ∧ row.attemptId = id := by
  rw [reconciliationOf?, Table.find?_eq_some]
  · simp
  · intro left right isLeft isRight
    simp only [decide_eq_true_eq] at isLeft isRight
    exact Or.inr (isLeft.trans isRight.symm)

theorem reconciliationOf?_eq_none {db : Db} {id : AttemptId} :
    db.reconciliationOf? id = none ↔ ∀ row ∈ db.reconciliations, row.attemptId ≠ id := by
  simp [reconciliationOf?, Table.find?_eq_none]

theorem latestAttempt?_mem {db : Db} {intentId : IntentId} {row : AttemptRow}
    (latest : db.latestAttempt? intentId = some row) :
    row ∈ db.attempts ∧ row.intentId = intentId := by
  simpa [Table.mem_rows] using firstBy_mem latest

theorem latestValidation?_mem {db : Db} {runId : RunId} {row : ValidationReceiptRow}
    (latest : db.latestValidation? runId = some row) :
    row ∈ db.validationReceipts ∧ row.runId = runId := by
  simpa [Table.mem_rows] using firstBy_mem latest

theorem mem_effects {db : Db} {runId : RunId} {kind : EffectKind} {intent : IntentRow}
    {receipt : ReceiptRow} {validation : ValidationReceiptRow} :
    (intent, receipt, validation) ∈ db.effects runId kind ↔
      (intent ∈ db.intents ∧ intent.runId = runId ∧ intent.kind = kind) ∧
      (receipt ∈ db.receipts ∧ receipt.intentId = intent.id) ∧
      validation ∈ db.validationReceipts ∧ validation.id = intent.validationReceiptId := by
  simp only [effects, List.mem_flatMap, List.mem_map, List.mem_filter, decide_eq_true_eq,
    Table.mem_rows, Prod.mk.injEq]
  constructor
  · rintro ⟨_, isIntent, _, isReceipt, _, isValidation, rfl, rfl, rfl⟩
    exact ⟨isIntent, isReceipt, isValidation⟩
  · rintro ⟨isIntent, isReceipt, isValidation⟩
    exact ⟨intent, isIntent, receipt, isReceipt, validation, isValidation, rfl, rfl, rfl⟩

end Db

section Sorting

theorem orderedInsert_last (row last : RunEventRow) (sorted : List RunEventRow)
    (earlier : row.sequence ≤ last.sequence) :
    (sorted ++ [last]).orderedInsert (fun first second => first.sequence ≤ second.sequence) row =
      sorted.orderedInsert (fun first second => first.sequence ≤ second.sequence) row ++
        [last] := by
  induction sorted with
  | nil => simp [earlier]
  | cons head rest ih =>
      rw [List.cons_append, List.orderedInsert_cons, List.orderedInsert_cons]
      split
      · rfl
      · rw [ih, List.cons_append]

/-- A row that follows every other row is sorted to the end. -/
theorem insertionSort_last (rows : List RunEventRow) (last : RunEventRow)
    (earlier : ∀ row ∈ rows, row.sequence ≤ last.sequence) :
    (rows ++ [last]).insertionSort (fun first second => first.sequence ≤ second.sequence) =
      rows.insertionSort (fun first second => first.sequence ≤ second.sequence) ++ [last] := by
  induction rows with
  | nil => rfl
  | cons row rest ih =>
      rw [List.cons_append, List.insertionSort_cons, List.insertionSort_cons,
        ih fun other present => earlier other (List.mem_cons_of_mem _ present),
        orderedInsert_last _ _ _ (earlier row List.mem_cons_self)]

theorem lt_nextAfter {positions : List ℕ} {position : ℕ} (present : position ∈ positions) :
    position < Db.nextAfter positions := by
  induction positions with
  | nil => simp at present
  | cons head rest ih =>
      simp only [Db.nextAfter, List.foldr_cons]
      rcases List.mem_cons.mp present with rfl | later
      · omega
      · have := ih later
        simp only [Db.nextAfter] at this
        omega

end Sorting

section Events

/-- An event with the next sequence number joins the end of its stream. -/
theorem eventRows_insert {db : Db} {runEvents : Table RunEventRow} {row : RunEventRow}
    (appended : runEvents.rows = db.runEvents.rows ++ [row])
    (next : row.sequence = db.nextSequence row.runId) (runId : RunId) :
    Db.eventRows { db with runEvents := runEvents } runId =
      db.eventRows runId ++ if row.runId = runId then [row] else [] := by
  simp only [Db.eventRows, appended, List.filter_append]
  by_cases same : row.runId = runId
  · rw [if_pos same, List.filter_cons_of_pos (by simpa using same), List.filter_nil]
    refine insertionSort_last _ _ fun other present => ?_
    rw [next, same]
    exact Nat.le_of_lt (lt_nextAfter (List.mem_map_of_mem present))
  · rw [if_neg same, List.filter_cons_of_neg (by simpa using same), List.filter_nil,
      List.append_nil, List.append_nil]

/-- The insertion of an event appends it to the table and to its stream. -/
theorem insertRunEvent_ok {db next : Db} {row : RunEventRow} :
    insertRunEvent db row = .ok next ↔
      row.sequence = db.nextSequence row.runId ∧ db.run? row.runId ≠ none ∧
      ∃ runEvents, db.runEvents.insert row = .ok runEvents ∧
        next = { db with runEvents := runEvents } := by
  simp only [insertRunEvent, reference, bind_ok, require_ok, write_ok, pure_ok]
  constructor
  · rintro ⟨_, sequence, runEvents, inserted, _, known, rfl⟩
    exact ⟨sequence, known, runEvents, inserted, rfl⟩
  · rintro ⟨sequence, known, runEvents, inserted, rfl⟩
    exact ⟨(), sequence, runEvents, inserted, (), known, rfl⟩

end Events

section Updates

/-- The triggers accept the update of a run. -/
structure UpdateAllowed (db : Db) (now : ℕ) (columns : List RunColumn) (old new : RunRow) :
    Prop where
  frozen : (∃ column ∈ columns, column ∈ [RunColumn.status, .leaseId, .workerId,
    .leaseGeneration]) → db.ActiveInvocation old.id now → SameOwner old new
  completion : .status ∈ columns → enforceRunEffectCompletion db old new = .ok ()
  mode : new.executionMode = old.executionMode

/-- The update rewrites the row of the run that it selects. -/
def Rewritten (before after : Table RunRow) (id : RunId) (change : RunRow → RunRow) : Prop :=
  after.rows = before.rows.map fun row => if row.id = id then change row else row

theorem updateRun_some {db next : Db} {now : ℕ} {id : RunId} {columns : List RunColumn}
    {change : RunRow → RunRow} {old : RunRow} (found : db.run? id = some old) :
    updateRun db now id columns change = .ok next ↔
      UpdateAllowed db now columns old (change old) ∧
      ∃ runs, db.runs.update (fun row => row.id = id) change = .ok runs ∧
        next = { db with runs := runs } := by
  simp only [updateRun, found, bind_ok, whenever_ok, enforceActiveEffectInvocation, reject_ok,
    enforceExecutionModeImmutable, require_ok, write_ok, pure_ok, not_and, not_not]
  constructor
  · rintro ⟨_, frozen, _, completion, _, mode, runs, updated, rfl⟩
    exact ⟨⟨frozen, completion, mode⟩, runs, updated, rfl⟩
  · rintro ⟨⟨frozen, completion, mode⟩, runs, updated, rfl⟩
    exact ⟨(), frozen, (), completion, (), mode, runs, updated, rfl⟩

/-- A committed update has passed the triggers of its row. -/
theorem updateRun_ok {db next : Db} {now : ℕ} {id : RunId} {columns : List RunColumn}
    {change : RunRow → RunRow} (updated : updateRun db now id columns change = .ok next) :
    (∀ old, db.run? id = some old → UpdateAllowed db now columns old (change old)) ∧
      ∃ runs, Rewritten db.runs runs id change ∧ next = { db with runs := runs } := by
  cases found : db.run? id with
  | none =>
      simp only [updateRun, found, Except.ok.injEq] at updated
      subst updated
      refine ⟨by simp, db.runs, ?_, rfl⟩
      have same : ∀ row ∈ db.runs.rows, (if row.id = id then change row else row) = row := by
        intro row present
        have absent := Table.find?_eq_none.mp found row present
        rw [if_neg (by simpa using absent)]
      rw [Rewritten, List.map_congr_left same, List.map_id']
  | some old =>
      obtain ⟨allowed, runs, rewritten, rfl⟩ := (updateRun_some found).mp updated
      refine ⟨?_, runs, ?_, rfl⟩
      · rintro _ ⟨rfl⟩
        exact allowed
      · simpa [Rewritten] using Table.update_ok.mp rewritten

/-- An update that keeps identities changes the search by identity at one place. -/
theorem Rewritten.run? {db : Db} {runs : Table RunRow} {id : RunId} {change : RunRow → RunRow}
    (rewritten : Rewritten db.runs runs id change) (keeps : ∀ row, (change row).id = row.id)
    (target : RunId) :
    Db.run? { db with runs := runs } target =
      (db.run? target).map fun row => if row.id = id then change row else row := by
  have search := find?_map_if db.runs.rows (fun row => decide (row.id = id))
    (fun row => decide (row.id = target)) change (by simp [keeps])
  simp only [decide_eq_true_eq] at search
  have rows : runs.rows = _ := rewritten
  simpa only [Db.run?, Table.find?, rows] using search

theorem Rewritten.mem {before after : Table RunRow} {id : RunId} {change : RunRow → RunRow}
    (rewritten : Rewritten before after id change) {row : RunRow} :
    row ∈ after ↔ ∃ old ∈ before, row = if old.id = id then change old else old := by
  rw [Table.mem_rows, rewritten, List.mem_map]
  constructor
  · rintro ⟨old, present, rfl⟩
    exact ⟨old, present, rfl⟩
  · rintro ⟨old, present, rfl⟩
    exact ⟨old, present, rfl⟩

end Updates

end LineageGuard
