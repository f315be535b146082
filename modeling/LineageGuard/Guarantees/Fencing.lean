import LineageGuard.Store.OwnersKept
import LineageGuard.Domain.Windows
import Mathlib.Tactic

/-
This file shows that leases fence the operations of the workers.
-/

namespace LineageGuard

open Relational Attempt Store

section Guards

variable {env : Environment} {db next : Db} {t : ℕ → ℕ} {op : Op}

/-- The guard matched the row at the commit, and the version of the row has risen. -/
structure GuardedCommit (db next : Db) (now : ℕ) (runId : RunId) (guard : LeaseGuard) : Prop where
  matched : ∃ old, db.run? runId = some old ∧ GuardMatches old guard now
  raised : ∃ old new, db.run? runId = some old ∧ next.run? runId = some new ∧
    new.version = old.version + 1

theorem GuardedCommit.of_rewritten {now : ℕ} {runId : RunId} {guard : LeaseGuard} {old : RunRow}
    {runs : Table RunRow} {change : RunRow → RunRow} (fenced : Fenced db now runId guard old)
    (rewritten : Rewritten db.runs runs runId change) (same : next.runs = runs)
    (keeps : ∀ row, (change row).id = row.id ∧ (change row).version = row.version + 1) :
    GuardedCommit db next now runId guard := by
  refine ⟨⟨old, fenced.found, fenced.guarded⟩, old, change old, fenced.found, ?_, (keeps old).2⟩
  have found := rewritten.run? (fun row => (keeps row).1) runId
  rw [fenced.found, Option.map_some, if_pos (Db.run?_eq_some.mp fenced.found).2] at found
  rw [Db.run?, same]
  exact found

/-- An operation that may repeat carries no guard that commits. -/
theorem Op.mayRepeat_guard {op : Op} (quiet : op.mayRepeat = true) : op.guard? = none := by
  cases op <;> first | rfl | cases quiet

/-- A guarded operation commits only under its guard. -/
theorem Commit.guarded (commit : Commit env db t op next) {runId : RunId} {guard : LeaseGuard}
    (isGuard : op.guard? = some (runId, guard)) : GuardedCommit db next (t 0) runId guard := by
  cases commit with
  | unchanged quiet =>
      rw [Op.mayRepeat_guard quiet] at isGuard
      cases isGuard
  | renewed positive fenced held appended rewritten =>
      cases isGuard
      exact .of_rewritten fenced rewritten rfl fun _ => ⟨rfl, rfl⟩
  | released fenced free appended rewritten =>
      cases isGuard
      exact .of_rewritten fenced rewritten rfl fun _ => ⟨rfl, rfl⟩
  | transitioned body fenced status listed prerequisites allowed appended rewritten =>
      cases isGuard
      exact .of_rewritten fenced rewritten rfl fun _ => ⟨rfl, rfl⟩
  | retried fenced free appended rewritten =>
      cases isGuard
      exact .of_rewritten fenced rewritten rfl fun _ => ⟨rfl, rfl⟩
  | recorded guarded fenced bundles candidates rewritten =>
      obtain ⟨rfl, rfl⟩ := Prod.mk.inj (Option.some.inj (guarded.symm.trans isGuard))
      exact .of_rewritten fenced rewritten rfl fun _ => ⟨rfl, rfl⟩
  | _ => cases isGuard

end Guards

section Fencing

variable {env : Environment} {db : Db}

/-- The step commits an operation under the guard. -/
def commitsUnder (env : Environment) (runId : RunId) (guard : LeaseGuard) (db : Db) (step : Step) :
    Bool :=
  decide (step.op.guard? = some (runId, guard) ∧ Commits env db step)

/-- A guard is stale once the version of its run has passed its fence. -/
def Stale (runId : RunId) (guard : LeaseGuard) (db : Db) : Prop :=
  ∃ run, db.run? runId = some run ∧ guard.fencingVersion < run.version

theorem commitsUnder_guarded {runId : RunId} {guard : LeaseGuard} (inv : Inv db) {step : Step}
    (isGuard : step.op.guard? = some (runId, guard)) (commits : Commits env db step) :
    GuardedCommit db (after env db step) (readings db step.delays 0) runId guard := by
  rcases after_cases env db step with ⟨next, done, state⟩ | ⟨failed, _⟩
  · obtain ⟨matched, raised⟩ := (exec_commit inv.history inv.outcomes done).guarded isGuard
    rw [state]
    exact ⟨matched, raised⟩
  · exact absurd commits failed

theorem Stale.kept {runId : RunId} {guard : LeaseGuard} (inv : Inv db) (stale : Stale runId guard db)
    (step : Step) : Stale runId guard (after env db step) := by
  obtain ⟨run, found, passed⟩ := stale
  obtain ⟨op, next, commit, state, _⟩ := after_commit env inv step
  obtain ⟨new, isNew, moves⟩ := commit.runsStep.forward found
  rw [state]
  refine ⟨new, isNew, ?_⟩
  rcases moves.version with rfl | raised
  · exact passed
  · omega

theorem stale_of_commits {runId : RunId} {guard : LeaseGuard} (inv : Inv db) {step : Step}
    (hit : commitsUnder env runId guard db step = true) :
    Stale runId guard (after env db step) := by
  obtain ⟨isGuard, commits⟩ := of_decide_eq_true hit
  obtain ⟨⟨old, found, matched⟩, same, new, isOld, isNew, raised⟩ :=
    commitsUnder_guarded inv isGuard commits
  obtain rfl := Option.some.inj (found.symm.trans isOld)
  refine ⟨new, isNew, ?_⟩
  rw [raised, ← matched.2.1]
  exact Nat.lt_succ_self _

theorem Stale.excludes {runId : RunId} {guard : LeaseGuard} (inv : Inv db)
    (stale : Stale runId guard db) (step : Step) : commitsUnder env runId guard db step = false := by
  by_contra hit
  obtain ⟨isGuard, commits⟩ := of_decide_eq_true (Bool.of_not_eq_false hit)
  obtain ⟨run, found, passed⟩ := stale
  obtain ⟨⟨old, isOld, matched⟩, _⟩ := commitsUnder_guarded inv isGuard commits
  obtain rfl := Option.some.inj (found.symm.trans isOld)
  rw [matched.2.1] at passed
  exact Nat.lt_irrefl _ passed

/-- In every run the leases of a stream never overlap, a guarded operation commits only under a guard
that matches its row, and no guard commits twice. -/
theorem lease_fencing (env : Environment) (clock : ℕ) (steps : List Step) :
    (∀ runId, (leaseWindows ((Runs.run (after env) (.migrated clock) steps).events
      runId)).Pairwise LeaseWindow.Before) ∧
    (∀ step runId guard, step.op.guard? = some (runId, guard) →
      Commits env (Runs.run (after env) (.migrated clock) steps) step →
      GuardedCommit (Runs.run (after env) (.migrated clock) steps)
        (after env (Runs.run (after env) (.migrated clock) steps) step)
        (readings (Runs.run (after env) (.migrated clock) steps) step.delays 0) runId guard) ∧
    ∀ runId guard, ((Runs.history (after env) (.migrated clock) steps).filter fun entry =>
      commitsUnder env runId guard entry.1 entry.2).length ≤ 1 := by
  have start := migrated_inv clock
  have inv := run_inv env start steps
  refine ⟨fun runId => (inv.history.streams runId).windows_before, ?_, ?_⟩
  · exact fun step runId guard isGuard commits => commitsUnder_guarded inv isGuard commits
  · intro runId guard
    have closes : ∀ state step, Inv state → commitsUnder env runId guard state step = true →
        Stale runId guard (after env state step) := fun state step inv hit =>
      stale_of_commits inv hit
    exact Runs.history_filter_le_one (fun state step inv => after_inv inv step)
      (fun state step inv stale => stale.kept inv step) closes
      (fun state step inv stale => stale.excludes inv step) start steps

end Fencing

end LineageGuard
