import LineageGuard.Store.OwnersKept
import Mathlib.Tactic

/-
This file shows what the operations leave alone for a run that nobody can change.
-/

namespace LineageGuard

open Relational Attempt Store

section Evidence

/-- The rows that decide whether a validation of the run verifies are the same. -/
structure SameEvidence (db next : Db) (runId : RunId) : Prop where
  run : next.run? runId = db.run? runId
  events : next.eventRows runId = db.eventRows runId
  context : next.latestContext? runId = db.latestContext? runId
  candidate : next.latestCandidate? runId = db.latestCandidate? runId
  receipts : ∀ id, next.validationReceipts.find? (fun row => row.id = id ∧ row.runId = runId) =
    db.validationReceipts.find? (fun row => row.id = id ∧ row.runId = runId)

variable {env : Environment} {db next : Db} {t : ℕ → ℕ} {op : Op} {runId : RunId}

theorem SameEvidence.verifyValidation (same : SameEvidence db next runId)
    (receipt : SignedLiveValidationReceipt) (requireLiveCollection : Bool) :
    Store.verifyValidation env next runId receipt requireLiveCollection =
      Store.verifyValidation env db runId receipt requireLiveCollection := by
  simp only [Store.verifyValidation, validationBinding, persistedContext, Store.latestCandidate,
    boundEvents, same.run, same.events, same.context, same.candidate]

theorem Rewritten.run?_other {runs : Table RunRow} {id : RunId} {change : RunRow → RunRow}
    (rewritten : Rewritten db.runs runs id change) (keeps : ∀ row, (change row).id = row.id)
    (other : id ≠ runId) : Db.run? { db with runs := runs } runId = db.run? runId := by
  rw [rewritten.run? keeps]
  cases found : db.run? runId with
  | none => rfl
  | some row =>
      rw [Option.map_some, if_neg]
      rw [(Db.run?_eq_some.mp found).2]
      exact fun same => other same.symm

theorem Store.Appended.eventRows_other {id : RunId} {now : ℕ} {added : List RunEvent}
    {runEvents : Table RunEventRow} (appended : Appended db id now added runEvents)
    (other : id ≠ runId) :
    Db.eventRows { db with runEvents := runEvents } runId = db.eventRows runId := by
  have grown : db.runEvents.Grown runEvents (fun row => row.runId = id) := by
    refine ⟨added.map eventRow, appended.rows, fun row present => ?_⟩
    obtain ⟨event, isEvent, rfl⟩ := List.mem_map.mp present
    exact appended.belongs isEvent
  rw [Db.eventRows, Db.eventRows, grown.filter]
  rintro row rfl
  simpa using other

/-- An operation on the run of its events and its row leaves the evidence of other runs alone. -/
theorem SameEvidence.of_other {id : RunId} {now : ℕ} {added : List RunEvent}
    {runEvents : Table RunEventRow} {runs : Table RunRow} {change : RunRow → RunRow}
    (appended : Appended db id now added runEvents) (rewritten : Rewritten db.runs runs id change)
    (keeps : ∀ row, (change row).id = row.id) (other : id ≠ runId) :
    SameEvidence db { db with runs := runs, runEvents := runEvents } runId :=
  ⟨rewritten.run?_other keeps other, appended.eventRows_other other, rfl, rfl, fun _ => rfl⟩

/-- An operation changes the evidence of a run only with its lease or while it is free or
validates. -/
theorem Commit.evidence (commit : Commit env db t op next) {run : RunRow}
    (found : db.run? runId = some run) :
    SameEvidence db next runId ∨ (∃ guard, GuardMatches run guard (t 0)) ∨
      (∃ reading, ¬ db.ActiveInvocation runId (t reading)) ∨ run.status = .validating := by
  have guarded : ∀ {id : RunId} {guard : LeaseGuard} {owner : RunRow},
      Fenced db (t 0) id guard owner → (id ≠ runId → SameEvidence db next runId) →
      SameEvidence db next runId ∨ (∃ guard, GuardMatches run guard (t 0)) ∨
        (∃ reading, ¬ db.ActiveInvocation runId (t reading)) ∨ run.status = .validating := by
    intro id guard owner fenced elsewhere
    by_cases same : id = runId
    · subst same
      obtain rfl := Option.some.inj (fenced.found.symm.trans found)
      exact Or.inr (Or.inl ⟨guard, fenced.guarded⟩)
    · exact Or.inl (elsewhere same)
  cases commit with
  | created fresh mode inserted =>
      refine Or.inl ⟨?_, rfl, rfl, rfl, fun _ => rfl⟩
      rw [Db.run?, Table.find?_insert inserted]
      rw [Db.run?] at found ⊢
      rw [found, Option.some_or]
  | claimed positive selected appended free rewritten =>
      next row _ _ _ _ _ =>
        by_cases same : row.id = runId
        · exact Or.inr (Or.inr (Or.inl ⟨2, same ▸ free⟩))
        · obtain ⟨isRun, events, _, _, _⟩ :=
            SameEvidence.of_other appended rewritten (fun _ => rfl) same
          exact Or.inl ⟨isRun, events, rfl, rfl, fun _ => rfl⟩
  | renewed positive fenced held appended rewritten =>
      exact guarded fenced (.of_other appended rewritten fun _ => rfl)
  | released fenced free appended rewritten =>
      exact guarded fenced (.of_other appended rewritten fun _ => rfl)
  | transitioned body fenced status listed prerequisites allowed appended rewritten =>
      exact guarded fenced (.of_other appended rewritten fun _ => rfl)
  | retried fenced free appended rewritten =>
      refine guarded fenced fun other => ?_
      obtain ⟨isRun, events, _, _, _⟩ :=
        SameEvidence.of_other appended rewritten (fun _ => rfl) other
      exact ⟨isRun, events, rfl, rfl, fun _ => rfl⟩
  | recorded isGuarded fenced bundles candidates rewritten =>
      refine guarded fenced fun other => ⟨rewritten.run?_other (fun _ => rfl) other, rfl, ?_, ?_,
        fun _ => rfl⟩
      · rw [Db.latestContext?, Db.latestContext?, bundles.filter]
        rintro row rfl
        simpa using fun same => absurd same other
      · rw [Db.latestCandidate?, Db.latestCandidate?, candidates.filter]
        rintro row rfl
        simpa using other
  | validated isFound mode validating belongs inserted rewritten =>
      next request issue row owner _ _ =>
        by_cases same : request.runId = runId
        · rw [← same, isFound, Option.some.injEq] at found
          exact Or.inr (Or.inr (Or.inr (found ▸ validating)))
        · refine Or.inl ⟨rewritten.run?_other (fun _ => rfl) same, rfl, rfl, rfl, fun id => ?_⟩
          have apart : ¬ (row.id = id ∧ row.runId = runId) := fun both =>
            same (belongs.symm.trans both.2)
          rw [Table.find?_insert inserted, if_neg (by simpa using apart), Option.or_none]
  | intended begins inserted rewritten =>
      refine guarded begins.fenced fun other => ?_
      rw [← begins.runId] at other
      exact ⟨rewritten.run?_other (fun _ => rfl) other, rfl, rfl, rfl, fun _ => rfl⟩
  | _ => exact Or.inl ⟨rfl, rfl, rfl, rfl, fun _ => rfl⟩

end Evidence

section Pending

variable {env : Environment} {db next : Db} {t : ℕ → ℕ} {op : Op}

/-- An open attempt stays open until its worker reports the receipt of its effect or a worker with
the lease of its run reconciles it. -/
theorem Commit.pending_kept (commit : Commit env db t op next) (outcomes : Outcomes db)
    {attempt : AttemptRow} (present : attempt ∈ db.attempts) (pending : Pending db attempt) :
    (∃ new ∈ next.attempts, new.id = attempt.id ∧ new.intentId = attempt.intentId ∧
      Pending next new ∧ (new.state = .readyToInvoke → attempt.state = .readyToInvoke)) ∨
    ∃ intent, db.intent? attempt.intentId = some intent ∧
      ((attempt.state = .readyToInvoke ∧ ∃ payload binding,
          assertEffectReceiptPayload env db intent payload = .ok binding) ∨
        ∃ guard run, Fenced db (t 0) intent.runId guard run) := by
  have kept : next.attempts = db.attempts → next.reconciliations = db.reconciliations →
      ∃ new ∈ next.attempts, new.id = attempt.id ∧ new.intentId = attempt.intentId ∧
        Pending next new ∧ (new.state = .readyToInvoke → attempt.state = .readyToInvoke) := by
    intro attempts reconciliations
    refine ⟨attempt, attempts ▸ present, rfl, rfl, ?_, id⟩
    simp only [Pending, Db.reconciliationOf?, reconciliations]
    exact pending
  have fenced : ∀ {input : ReconciliationInput} {reconciled : AttemptRow} {intent : IntentRow}
      {run : RunRow}, Reconciles db t input reconciled intent run → reconciled.id = attempt.id →
      ∃ intent, db.intent? attempt.intentId = some intent ∧
        ∃ guard run, Fenced db (t 0) intent.runId guard run := by
    intro input reconciled intent run reconciles same
    obtain rfl := attempt_unique reconciles.holds.present present same
    exact ⟨intent, reconciles.intended, input.guard, run, reconciles.belongs ▸ reconciles.fenced⟩
  cases commit with
  | consumed consumes updated inserted =>
      exact Or.inl ⟨attempt, (Table.mem_insert inserted attempt).mpr (Or.inl present), rfl, rfl,
        pending, id⟩
  | succeeded holds ready succeeds reported =>
      next moved receipt intent _ _ =>
        by_cases same : moved.id = attempt.id
        · obtain rfl := attempt_unique holds.present present same
          obtain ⟨binding, accepted⟩ := succeeds.accepted
          exact Or.inr ⟨intent, succeeds.intentId ▸ succeeds.receipt.found,
            Or.inl ⟨ready, receipt.payload, binding, accepted⟩⟩
        · refine Or.inl ⟨attempt, (Table.mem_update succeeds.updated attempt).mpr
            ⟨attempt, present, ?_⟩, rfl, rfl, pending, id⟩
          rw [if_neg (by simpa using fun equal => same equal.symm)]
  | ambiguous holds ready updated =>
      next moved _ _ =>
        by_cases same : moved.id = attempt.id
        · obtain rfl := attempt_unique holds.present present same
          refine Or.inl ⟨_, (Table.mem_update updated _).mpr ⟨moved, present, rfl⟩, ?_⟩
          rw [if_pos (by simp)]
          refine ⟨rfl, rfl, Or.inr ⟨rfl, Db.reconciliationOf?_eq_none.mpr ?_⟩, by simp⟩
          intro proof isProof proves
          have state := outcomes.proof_state present isProof proves
          rw [ready] at state
          cases outcome : proof.proofOutcome <;> simp [outcome, provedState] at state
        · refine Or.inl ⟨attempt, (Table.mem_update updated attempt).mpr
            ⟨attempt, present, ?_⟩, rfl, rfl, pending, id⟩
          rw [if_neg (by simpa using fun equal => same equal.symm)]
  | disproved reconciles outcome first inserted =>
      next reconciled _ _ _ =>
        by_cases same : reconciled.id = attempt.id
        · obtain ⟨intent, intended, guard, run, isFenced⟩ := fenced reconciles same
          exact Or.inr ⟨intent, intended, Or.inr ⟨guard, run, isFenced⟩⟩
        · refine Or.inl ⟨attempt, present, rfl, rfl, pending.imp id fun required => ?_, id⟩
          refine ⟨required.1, ?_⟩
          rw [Db.reconciliationOf?, Table.find?_insert inserted, if_neg (by simpa using same),
            Option.or_none]
          exact required.2
  | applied reconciles outcome first inserted succeeds reported =>
      next reconciled _ _ _ _ _ _ _ =>
        by_cases same : reconciled.id = attempt.id
        · obtain ⟨intent, intended, guard, run, isFenced⟩ := fenced reconciles same
          exact Or.inr ⟨intent, intended, Or.inr ⟨guard, run, isFenced⟩⟩
        · refine Or.inl ⟨attempt, (Table.mem_update succeeds.updated attempt).mpr
            ⟨attempt, present, ?_⟩, rfl, rfl, pending.imp id fun required => ?_, id⟩
          · rw [if_neg (by simpa using fun equal => same equal.symm)]
          · refine ⟨required.1, ?_⟩
            rw [Db.reconciliationOf?, Table.find?_insert inserted, if_neg (by simpa using same),
              Option.or_none]
            exact required.2
  | _ => exact Or.inl (kept rfl rfl)

end Pending

end LineageGuard
