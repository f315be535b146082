import LineageGuard.Store.OwnersKept
import Mathlib.Tactic

/-
This file shows that the row of a run is the fold of its stored events.
-/

namespace LineageGuard

open Relational Attempt Store

section Fold

/-- The row of a run shows the state that the fold of its events reaches. -/
def Folds (run : RunRow) (state : StreamState) : Prop :=
  run.status = state.currentStatus ∧ run.leaseGeneration = state.highestLeaseGeneration ∧
    run.lease = state.activeLease.map fun lease =>
      ⟨lease.id, lease.workerId, lease.expiresAt.instant⟩

variable {env : Environment} {db : Db}

/-- The stored rows of every stream authorize again. -/
theorem History.authorized (history : History db) (runId : RunId) :
    ∃ records, authorizedEvents (db.eventRows runId) = .ok records ∧
      records.map (·.payload) = db.events runId :=
  authorizeRows_stored (fun _ present => (eventRows_payload present).1)
    (fun row present => (db.runEvents.checked row (mem_eventRows.mp present).1).2.1)
    (fun row present => history.canonical row (mem_eventRows.mp present).1)
    (history.streams runId)

/-- A snapshot fails only for a missing run or for a version that is not a safe integer. -/
theorem History.snapshot_error (history : History db) {runId : RunId} {error : StoreError}
    (failed : snapshot db runId = .error error) : error.isCorruptData = false := by
  obtain ⟨records, authorized, _⟩ := history.authorized runId
  unfold snapshot at failed
  rw [authorized] at failed
  cases found : db.run? runId with
  | none =>
      simp only [bind, Except.bind, found, present, Except.error.injEq] at failed
      rw [← failed]
      rfl
  | some row =>
      by_cases safe : row.version ≤ maxSafeInteger
      · simp [bind, Except.bind, found, present, runFromRow, require, safe, pure,
          Except.pure] at failed
      · simp only [bind, Except.bind, found, present, runFromRow, require, safe, if_false,
          Except.error.injEq] at failed
        rw [← failed]
        rfl

/-- The row of every run is the fold of its events, and the store reads its own events again. -/
theorem history_agrees (reached : Reachable env db) :
    (∀ run ∈ db.runs, Folds run (replay run.id (db.events run.id)) ∧
      (db.events run.id = [] ∨
        runEventStreamSchema (db.events run.id) = .ok (db.events run.id))) ∧
    ∀ runId, (∃ records, authorizedEvents (db.eventRows runId) = .ok records ∧
        records.map (·.payload) = db.events runId) ∧
      ∀ error, snapshot db runId = .error error → error.isCorruptData = false := by
  have history := reached.inv.history
  refine ⟨fun run present => ⟨?_, ?_⟩, fun runId => ⟨history.authorized runId, ?_⟩⟩
  · have shown := history.shown run present
    exact ⟨shown.status, shown.generation, shown.lease⟩
  · by_cases empty : db.events run.id = []
    · exact Or.inl empty
    · exact Or.inr ((history.streams run.id).schema empty)
  · exact fun error failed => history.snapshot_error failed

end Fold

section Sample

def sampleContext : ImpactContext where
  collectionOriginMode := .live
  impactContextFingerprint := ⟨1⟩
  document := ⟨1, 1⟩

/-- The sample authorities accept every signature and hash a document to its content. -/
def sampleEnvironment : Environment where
  script :=
    { candidate := fun candidate => ⟨candidate.document.content⟩
      runEventStream := fun events => ⟨events.length⟩
      signedReceipt := fun receipt => ⟨receipt.document.content⟩
      receiptId := fun receipt => ⟨receipt.document.content⟩
      approvalPayload := fun payload => ⟨payload.approvedAt.instant⟩
      approvalAssertion := fun _ payload => ⟨payload.approvedAt.instant⟩
      effectInput := fun input => ⟨input.content⟩
      document := fun document => ⟨document.content⟩
      receiptBinding := fun binding => binding.inputFingerprint
      authorityBinding := fun change _ _ _ _ => ⟨change.content⟩ }
  sql :=
    { candidate := fun candidate => ⟨candidate.document.content⟩
      runEventStream := fun events => ⟨events.length⟩
      signedReceipt := fun receipt => ⟨receipt.elim 0 fun found => found.document.content⟩
      approvalPayload := fun payload => ⟨payload.approvedAt.instant⟩
      intent := fun intent => ⟨intent.elim 0 fun found => found.input.content⟩ }
  mutationMode := .production
  validationBindingForRun := some fun _ => .ok ⟨⟨1, 1⟩, sampleContext, ⟨1, 1⟩, ⟨1, 1⟩⟩
  verifyHistoricalLive := some fun receipt _ => .ok receipt
  verifyApproval := some fun assertion _ => .ok assertion

/-- A run of the sample environment starts from the migrated database at time 0. -/
def sampleState (steps : List Step) : Db := Runs.run (after sampleEnvironment) (.migrated 0) steps

theorem sampleState_reachable (steps : List Step) :
    Reachable sampleEnvironment (sampleState steps) := ⟨0, steps, rfl⟩

def createStep : Step := ⟨[1000], .createRun ⟨1⟩ "request-1" ⟨1⟩ .live ⟨1, 1⟩ 0⟩

theorem history_agrees_created :
    (∀ run ∈ (sampleState [createStep]).runs,
      Folds run (replay run.id ((sampleState [createStep]).events run.id)) ∧
      ((sampleState [createStep]).events run.id = [] ∨
        runEventStreamSchema ((sampleState [createStep]).events run.id) =
          .ok ((sampleState [createStep]).events run.id))) ∧
    ∀ runId, (∃ records,
        authorizedEvents ((sampleState [createStep]).eventRows runId) = .ok records ∧
        records.map (·.payload) = (sampleState [createStep]).events runId) ∧
      ∀ error, snapshot (sampleState [createStep]) runId = .error error →
        error.isCorruptData = false :=
  history_agrees (sampleState_reachable [createStep])

/-- The schema rejects the empty stream of a run that no worker has claimed. -/
theorem created_stream_rejected :
    Reachable sampleEnvironment (sampleState [createStep]) ∧
    ((sampleState [createStep]).run? ⟨1⟩).isSome = true ∧
    runEventStreamSchema ((sampleState [createStep]).events ⟨1⟩) =
      .error (.zod [⟨.tooSmall, []⟩]) :=
  ⟨sampleState_reachable [createStep], by decide, by decide⟩

end Sample

end LineageGuard
