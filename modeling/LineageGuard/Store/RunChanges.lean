import LineageGuard.Store.Commits
import Mathlib.Tactic

/-
This file says how a committed operation changes the rows of the runs.
-/

namespace LineageGuard

open Relational Attempt Store

/-- The owner of a run stays, and its lease ends no earlier. -/
structure KeepsOwner (old new : RunRow) : Prop where
  status : new.status = old.status
  generation : new.leaseGeneration = old.leaseGeneration
  lease : ∀ lease, old.lease = some lease → ∃ later, new.lease = some later ∧
    later.leaseId = lease.leaseId ∧ later.workerId = lease.workerId ∧
    lease.expiresAt ≤ later.expiresAt

theorem KeepsOwner.refl (row : RunRow) : KeepsOwner row row :=
  ⟨rfl, rfl, fun lease held => ⟨lease, held, rfl, rfl, Nat.le_refl _⟩⟩

/-- This is what every operation does to the row of a run. -/
structure RowStep (db : Db) (t : ℕ → ℕ) (old new : RunRow) : Prop where
  id : new.id = old.id
  mode : new.executionMode = old.executionMode
  version : new = old ∨ new.version = old.version + 1
  status : new.status = old.status ∨ isAdjacentRunStatus old.status new.status = true
  owner : KeepsOwner old new ∨ ∃ reading, ¬ db.ActiveInvocation old.id (t reading)

theorem RowStep.refl (db : Db) (t : ℕ → ℕ) (row : RunRow) : RowStep db t row row :=
  ⟨rfl, rfl, Or.inl rfl, Or.inl rfl, Or.inl (.refl row)⟩

theorem RowStep.bumped (db : Db) (t : ℕ → ℕ) (updatedAt : ℕ) (row : RunRow) :
    RowStep db t row (row.bumped updatedAt) where
  id := rfl
  mode := rfl
  version := Or.inr rfl
  status := Or.inl rfl
  owner := Or.inl ⟨rfl, rfl, (KeepsOwner.refl row).lease⟩

theorem RowStep.renewed (db : Db) (t : ℕ → ℕ) {lease : RunLease} {now leaseMillis : ℕ}
    {row : RunRow} (held : row.lease = some lease) (positive : 0 < leaseMillis) :
    RowStep db t row
      (RunRow.renewed (max now (toDate lease.expiresAt) + leaseMillis) now row) where
  id := rfl
  mode := rfl
  version := Or.inr rfl
  status := Or.inl rfl
  owner := by
    refine Or.inl ⟨rfl, rfl, fun other isOther => ?_⟩
    obtain rfl := Option.some.inj (held.symm.trans isOther)
    refine ⟨⟨lease.leaseId, lease.workerId,
      toTimestamp (max now (toDate lease.expiresAt) + leaseMillis)⟩, ?_, rfl, rfl, ?_⟩
    · simp [RunRow.renewed, held]
    · apply Nat.le_of_lt
      rw [lt_toTimestamp]
      omega

theorem RowStep.claimed {db : Db} {t : ℕ → ℕ} {reading : ℕ} {row : RunRow} {workerId : String}
    {leaseId : LeaseId} {generation expiresAt now : ℕ}
    (free : ¬ db.ActiveInvocation row.id (t reading)) :
    RowStep db t row (RunRow.claimed workerId leaseId generation expiresAt now row) :=
  ⟨rfl, rfl, Or.inr rfl, Or.inl rfl, Or.inr ⟨reading, free⟩⟩

theorem RowStep.released {db : Db} {t : ℕ → ℕ} {reading : ℕ} {row : RunRow} {now : ℕ}
    (free : ¬ db.ActiveInvocation row.id (t reading)) :
    RowStep db t row (RunRow.released now row) :=
  ⟨rfl, rfl, Or.inr rfl, Or.inl rfl, Or.inr ⟨reading, free⟩⟩

theorem RowStep.retried {db : Db} {t : ℕ → ℕ} {reading : ℕ} {row : RunRow}
    {retryAt occurredAt : ℕ} (free : ¬ db.ActiveInvocation row.id (t reading)) :
    RowStep db t row (RunRow.retried retryAt occurredAt row) :=
  ⟨rfl, rfl, Or.inr rfl, Or.inl rfl, Or.inr ⟨reading, free⟩⟩

theorem RowStep.transitioned {db : Db} {t : ℕ → ℕ} {reading : ℕ} {row : RunRow}
    {target : RunStatus} {occurredAt : ℕ}
    (adjacent : isAdjacentRunStatus row.status target = true)
    (allowed : UpdateAllowed db (t reading) transitionColumns row
      (RunRow.transitioned target occurredAt row)) :
    RowStep db t row (RunRow.transitioned target occurredAt row) where
  id := rfl
  mode := rfl
  version := Or.inr rfl
  status := Or.inr adjacent
  owner := by
    by_cases active : db.ActiveInvocation row.id (t reading)
    · obtain ⟨status, leaseId, _, generation⟩ :=
        allowed.frozen ⟨.status, by simp [transitionColumns], by simp⟩ active
      refine Or.inl ⟨status, generation, fun lease held => ?_⟩
      simp only [RunRow.transitioned, held] at leaseId ⊢
      split at leaseId
      · simp at leaseId
      · next open' =>
          rw [if_neg open']
          exact ⟨lease, rfl, rfl, rfl, Nat.le_refl _⟩
    · exact Or.inr ⟨reading, active⟩

/-- A committed operation inserts a new run or rewrites at most one run. -/
inductive RunsStep (db : Db) (t : ℕ → ℕ) (runs : Table RunRow) : Prop
  | same (kept : runs = db.runs)
  | inserted (row : RunRow) (fresh : Fresh row t) (added : db.runs.insert row = .ok runs)
  | rewritten (row : RunRow) (change : RunRow → RunRow) (found : db.run? row.id = some row)
      (step : RowStep db t row (change row))
      (changed : Rewritten db.runs runs row.id change)

/-- The event of a stored stream has passed the checks of its shape. -/
theorem Stored.adjacent {runId : RunId} {events : List RunEvent} {event : RunEvent}
    {source target : RunStatus} {detail : Option String} (stored : Stored runId events)
    (present : event ∈ events) (body : event.body = .statusChanged source target detail) :
    isAdjacentRunStatus source target = true := by
  have shape := stored.shaped event present
  simp only [runEventIssues, eventBodyIssues, body, List.append_eq_nil_iff,
    issueUnless_nil] at shape
  exact shape.2.2

theorem Commit.runsStep {env : Environment} {db next : Db} {t : ℕ → ℕ} {op : Op}
    (commit : Commit env db t op next) : RunsStep db t next.runs := by
  have rewrite : ∀ {runId : RunId} {row : RunRow} {runs : Table RunRow} {change : RunRow → RunRow},
      db.run? runId = some row → RowStep db t row (change row) →
      Rewritten db.runs runs runId change → RunsStep db t runs := by
    intro runId row runs change found step changed
    obtain rfl := (Db.run?_eq_some.mp found).2
    exact .rewritten row change found step changed
  cases commit with
  | unchanged quiet => exact .same rfl
  | created fresh mode inserted => exact .inserted _ fresh inserted
  | claimed positive selected appended free rewritten =>
      have found := Db.run?_of_mem (List.mem_of_mem_filter (firstBy_mem selected))
      exact rewrite found (.claimed free) rewritten
  | renewed positive fenced held appended rewritten =>
      exact rewrite fenced.found (.renewed _ _ held positive) rewritten
  | released fenced free appended rewritten =>
      rw [← (Db.run?_eq_some.mp fenced.found).2] at free
      exact rewrite fenced.found (.released free) rewritten
  | transitioned body fenced status listed prerequisites allowed appended rewritten =>
      have adjacent := appended.stored.adjacent (List.mem_append_right _ List.mem_cons_self) body
      rw [← status] at adjacent
      exact rewrite fenced.found (.transitioned adjacent allowed) rewritten
  | retried fenced free appended rewritten =>
      rw [← (Db.run?_eq_some.mp fenced.found).2] at free
      exact rewrite fenced.found (.retried free) rewritten
  | recorded guarded fenced bundles candidates rewritten =>
      exact rewrite fenced.found (.bumped _ _ _ _) rewritten
  | validated found mode validating belongs inserted rewritten =>
      exact rewrite found (.bumped _ _ _ _) rewritten
  | intended begins inserted rewritten =>
      rw [begins.runId] at rewritten
      exact rewrite begins.fenced.found (.bumped _ _ _ _) rewritten
  | approved | reserved | consumed | cancelled | succeeded | ambiguous | disproved | applied =>
      exact .same rfl

/-- An inserted run has a new identity. -/
theorem run?_insert_none {db : Db} {runs : Table RunRow} {row : RunRow}
    (added : db.runs.insert row = .ok runs) : db.run? row.id = none := by
  have unique := (Table.insert_fresh added).2
  refine Table.find?_eq_none.mpr fun other isOther => ?_
  have apart := unique other isOther
  simp only [Schema.conflict, not_or] at apart
  simpa using apart.1

namespace RunsStep

variable {db : Db} {t : ℕ → ℕ} {runs : Table RunRow}

/-- Every run is still there after a step. -/
theorem forward (step : RunsStep db t runs) {id : RunId} {old : RunRow}
    (found : db.run? id = some old) :
    ∃ new, Db.run? { db with runs := runs } id = some new ∧ RowStep db t old new := by
  cases step with
  | same kept =>
      subst kept
      exact ⟨old, found, .refl db t old⟩
  | inserted row fresh added =>
      refine ⟨old, ?_, .refl db t old⟩
      rw [Db.run?, Table.find?_insert added]
      rw [Db.run?] at found
      rw [found, Option.some_or]
  | rewritten row change isRow step changed =>
      by_cases same : row.id = id
      · subst same
        obtain rfl := Option.some.inj (isRow.symm.trans found)
        refine ⟨change row, ?_, step⟩
        have selected : Db.run? { db with runs := runs } row.id = some (change row) := by
          refine Db.run?_eq_some.mpr ⟨changed.mem.mpr ⟨row, (Db.run?_eq_some.mp isRow).1, ?_⟩,
            step.id⟩
          rw [if_pos rfl]
        exact selected
      · refine ⟨old, ?_, .refl db t old⟩
        obtain ⟨present, rfl⟩ := Db.run?_eq_some.mp found
        refine Db.run?_eq_some.mpr ⟨changed.mem.mpr ⟨old, present, ?_⟩, rfl⟩
        rw [if_neg (fun equal => same equal.symm)]

/-- Every run after a step was there before it, unless the step has created it. -/
theorem backward (step : RunsStep db t runs) {new : RunRow} (present : new ∈ runs) :
    (∃ old ∈ db.runs, RowStep db t old new) ∨ (Fresh new t ∧ db.run? new.id = none) := by
  cases step with
  | same kept =>
      subst kept
      exact Or.inl ⟨new, present, .refl db t new⟩
  | inserted row fresh added =>
      rcases (Table.mem_insert added new).mp present with old | rfl
      · exact Or.inl ⟨new, old, .refl db t new⟩
      · exact Or.inr ⟨fresh, run?_insert_none added⟩
  | rewritten row change isRow step changed =>
      obtain ⟨old, isOld, rfl⟩ := changed.mem.mp present
      by_cases same : old.id = row.id
      · have equal : old = row := Table.eq_of_conflict isOld (Db.run?_eq_some.mp isRow).1
          (Or.inl same)
        subst equal
        rw [if_pos rfl]
        exact Or.inl ⟨old, isOld, step⟩
      · rw [if_neg same]
        exact Or.inl ⟨old, isOld, .refl db t old⟩

end RunsStep

end LineageGuard
