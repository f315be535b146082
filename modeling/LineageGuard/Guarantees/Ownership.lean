import LineageGuard.Guarantees.Outcome
import Mathlib.Tactic

/-
This file shows that a run keeps its owner while one of its effects is in flight.
-/

namespace LineageGuard

open Relational Attempt Store

section Flight

variable {env : Environment} {db next : Db} {t : ℕ → ℕ} {op : Op}

/-- A reservation is in flight until it is cancelled, it expires or its attempt is resolved. -/
def InFlight (db : Db) (reservation : ReservationRow) : Prop :=
  (reservation.state = .reserved ∧ db.clock < reservation.invokeBy) ∨
    ∃ attempt ∈ db.attempts, reservation.state.attemptId = some attempt.id ∧ Pending db attempt

instance (db : Db) (reservation : ReservationRow) : Decidable (InFlight db reservation) :=
  inferInstanceAs (Decidable (_ ∨ _))

/-- The trigger blocks every change of owner while a reservation is in flight. -/
theorem InFlight.blocks {reservation : ReservationRow} (flying : InFlight db reservation)
    (inv : Inv db) (present : reservation ∈ db.reservations) : Blocks db reservation := by
  rcases flying with waiting | ⟨attempt, isAttempt, names, pending⟩
  · exact Or.inl waiting
  · obtain ⟨found, isFound, _, invokes, isOpen⟩ := inv.outcomes.unresolved isAttempt pending
    have shared : SamePresent reservation.state.attemptId found.state.attemptId := by
      rw [names, invokes.state]
      exact ⟨rfl, by simp⟩
    have same : reservation = found :=
      Table.eq_of_conflict present isFound (Or.inr (Or.inr (Or.inl shared)))
    rw [same]
    exact Or.inr isOpen

/-- A reservation that blocks at the end of a run has blocked throughout the run. -/
theorem blocks_throughout (inv : Inv db) (steps : List Step) {old later : ReservationRow}
    (present : old ∈ db.reservations)
    (isLater : later ∈ (Runs.run (after env) db steps).reservations) (same : later.id = old.id)
    (blocks : Blocks (Runs.run (after env) db steps) later) : Blocks db old := by
  induction steps generalizing db old with
  | nil =>
      rw [← reservation_unique isLater present same]
      exact blocks
  | cons step rest ih =>
      obtain ⟨op, next, commit, state, _⟩ := after_commit env inv step
      obtain ⟨middle, isMiddle, moves⟩ := commit.reservation_forward present
      have stays : middle ∈ (after env db step).reservations := by
        rw [state]
        exact isMiddle
      have named : later.id = middle.id := by
        rw [moves.authority]
        exact same
      have blocked := ih (after_inv inv step) stays isLater named blocks
      rw [state] at blocked
      exact commit.blocked_before (readings_ticks db step.delays) moves blocked

/-- Two rows of a run that one reservation owns have the same owner. -/
theorem Owned.sameOwner {first second : RunRow} {held later : RunLease}
    {reservation kept : ReservationRow} (owned : Owned first held reservation)
    (stays : Owned second later kept) (persists : Persists reservation kept) :
    SameOwner first second := by
  have authority := persists.authority
  refine ⟨?_, ?_, ?_, ?_⟩
  · rw [stays.status, owned.status, authority]
  · rw [stays.held, owned.held, Option.map_some, Option.map_some, stays.leaseId, owned.leaseId,
      authority]
  · rw [stays.held, owned.held, Option.map_some, Option.map_some, stays.workerId, owned.workerId,
      authority]
  · rw [stays.generation, owned.generation, authority]

end Flight

section Records

variable {env : Environment} {db next : Db} {t : ℕ → ℕ} {op : Op}

/-- The step moves the attempt or adds its proof. -/
def RecordsOutcome (db next : Db) (attempt : AttemptRow) : Prop :=
  (∃ later ∈ next.attempts, later.id = attempt.id ∧ later.state ≠ attempt.state) ∨
    ∃ proof ∈ next.reconciliations, proof.attemptId = attempt.id ∧ proof ∉ db.reconciliations

/-- The owner of the run is the worker that the attempt and its reservation name. -/
def OwnedBy (db : Db) (attempt : AttemptRow) : Prop :=
  ∃ reservation ∈ db.reservations, reservation.state.attemptId = some attempt.id ∧
    ∃ run lease, db.run? reservation.runId = some run ∧ Owned run lease reservation ∧
      lease.workerId = attempt.workerId

/-- No outcome is recorded where the attempts only grow and the proofs stay. -/
theorem not_recordsOutcome {attempt : AttemptRow} (present : attempt ∈ next.attempts)
    (proofs : next.reconciliations = db.reconciliations) : ¬ RecordsOutcome db next attempt := by
  rintro (⟨later, isLater, same, changed⟩ | ⟨proof, isProof, _, fresh⟩)
  · obtain rfl := attempt_unique isLater present same
    exact changed rfl
  · rw [proofs] at isProof
    exact fresh isProof

theorem attempt_moved {attempts : Table AttemptRow} {named attempt : AttemptRow}
    {state : EffectAttemptState} {updatedAt : ℕ}
    (updated : db.attempts.update (fun found => found.id = named.id) (fun found =>
      { found with state := state, updatedAt := updatedAt }) = .ok attempts)
    (isNamed : named ∈ db.attempts) (present : attempt ∈ db.attempts) :
    attempt = named ∨ attempt ∈ attempts := by
  by_cases same : attempt.id = named.id
  · exact Or.inl (attempt_unique present isNamed same)
  · refine Or.inr ((Table.mem_update updated attempt).mpr ⟨attempt, present, ?_⟩)
    rw [if_neg (by simpa using same)]

/-- An outcome is recorded only for an open attempt, and it changes no run and no reservation. -/
theorem Commit.records (commit : Commit env db t op next) {attempt : AttemptRow}
    (present : attempt ∈ db.attempts) (records : RecordsOutcome db next attempt) :
    Pending db attempt ∧ next.runs = db.runs ∧ next.reservations = db.reservations := by
  cases commit with
  | succeeded holds ready succeeds =>
      rcases attempt_moved succeeds.updated succeeds.present present with rfl | stays
      · exact ⟨Or.inl ready, rfl, rfl⟩
      · exact absurd records (not_recordsOutcome stays rfl)
  | ambiguous holds ready updated =>
      rcases attempt_moved updated holds.present present with rfl | stays
      · exact ⟨Or.inl ready, rfl, rfl⟩
      · exact absurd records (not_recordsOutcome stays rfl)
  | disproved reconciles outcome first inserted =>
      rcases records with ⟨later, isLater, same, changed⟩ | ⟨proof, isProof, names, fresh⟩
      · obtain rfl := attempt_unique isLater present same
        exact absurd rfl changed
      · rcases (Table.mem_insert inserted proof).mp isProof with old | rfl
        · exact absurd old fresh
        · obtain rfl := attempt_unique reconciles.holds.present present names
          exact ⟨Or.inr ⟨reconciles.required, first⟩, rfl, rfl⟩
  | applied reconciles outcome first inserted succeeds =>
      rcases attempt_moved succeeds.updated succeeds.present present with rfl | stays
      · exact ⟨Or.inr ⟨reconciles.required, first⟩, rfl, rfl⟩
      · rcases records with ⟨later, isLater, same, changed⟩ | ⟨proof, isProof, names, fresh⟩
        · have equal : later = attempt := Table.eq_of_conflict isLater stays (Or.inl same)
          rw [equal] at changed
          exact absurd rfl changed
        · rcases (Table.mem_insert inserted proof).mp isProof with old | rfl
          · exact absurd old fresh
          · obtain rfl := attempt_unique succeeds.present present names
            exact ⟨Or.inr ⟨reconciles.required, first⟩, rfl, rfl⟩
  | consumed consumes updated inserted =>
      exact absurd records
        (not_recordsOutcome ((Table.mem_insert inserted attempt).mpr (Or.inl present)) rfl)
  | _ => exact absurd records (not_recordsOutcome present rfl)

theorem Inv.ownedBy (inv : Inv db) {attempt : AttemptRow} (present : attempt ∈ db.attempts)
    (pending : Pending db attempt) : OwnedBy db attempt := by
  obtain ⟨reservation, isIn, _, invokes, run, lease, found, owned⟩ :=
    inv.pending_owner present pending
  refine ⟨reservation, isIn, ?_, run, lease, found, owned, ?_⟩
  · rw [invokes.state]
    rfl
  · rw [owned.workerId, invokes.workerId]

end Records

section Ownership

variable {env : Environment} {db : Db}

/-- While an effect of a run is in flight the run keeps its status, its lease, its worker and its
generation, and the worker of an attempt still owns the run when its outcome is recorded. -/
theorem ownership_frozen (reached : Reachable env db) :
    (∀ reservation ∈ db.reservations, InFlight db reservation → ∀ steps rest,
      ∀ later ∈ (Runs.run (after env) db (steps ++ rest)).reservations,
        later.id = reservation.id → InFlight (Runs.run (after env) db (steps ++ rest)) later →
        ∃ first second, db.run? reservation.runId = some first ∧
          (Runs.run (after env) db steps).run? reservation.runId = some second ∧
          SameOwner first second) ∧
    ∀ attempt ∈ db.attempts, ∀ step, RecordsOutcome db (after env db step) attempt →
      OwnedBy db attempt ∧ OwnedBy (after env db step) attempt := by
  have inv := reached.inv
  constructor
  · intro reservation present flying steps rest later isLater same lands
    have middle := run_inv env inv steps
    obtain ⟨kept, isKept, persists⟩ := run_reservation env inv steps present
    obtain ⟨first, held, isFirst, owned, _⟩ :=
      inv.owners reservation present (flying.blocks inv present)
    have finish := lands.blocks (run_inv env inv (steps ++ rest)) isLater
    rw [Runs.run_append] at isLater finish
    have named : later.id = kept.id := same.trans persists.columns.1.symm
    obtain ⟨second, lease, isSecond, stays, _⟩ :=
      middle.owners kept isKept (blocks_throughout middle rest isKept isLater named finish)
    refine ⟨first, second, isFirst, ?_, owned.sameOwner stays persists⟩
    rw [persists.authority] at isSecond
    exact isSecond
  · intro attempt present step records
    obtain ⟨op, next, commit, state, _⟩ := after_commit env inv step
    rw [state] at records ⊢
    obtain ⟨pending, runs, reservations⟩ := commit.records present records
    have owned := inv.ownedBy present pending
    refine ⟨owned, ?_⟩
    simp only [OwnedBy, Db.run?, runs, reservations] at owned ⊢
    exact owned

/-- The consumption of the sample reservation keeps the owner of its run. -/
theorem ownership_frozen_consumed :
    ∃ reservation ∈ (sampleState reservedSteps).reservations,
      InFlight (sampleState reservedSteps) reservation ∧
      ∃ later ∈ (Runs.run (after sampleEnvironment) (sampleState reservedSteps)
          [consumeStep]).reservations,
        later.id = reservation.id ∧ later.state ≠ reservation.state ∧
        InFlight (Runs.run (after sampleEnvironment) (sampleState reservedSteps) [consumeStep])
          later ∧
        ∃ first second, (sampleState reservedSteps).run? reservation.runId = some first ∧
          (Runs.run (after sampleEnvironment) (sampleState reservedSteps) [consumeStep]).run?
            reservation.runId = some second ∧
          SameOwner first second := by
  have start : ∃ reservation ∈ (sampleState reservedSteps).reservations,
      reservation.id = ⟨1⟩ ∧ reservation.state = .reserved ∧
        InFlight (sampleState reservedSteps) reservation := by
    decide +kernel
  have finish : ∃ later ∈ (Runs.run (after sampleEnvironment) (sampleState reservedSteps)
      [consumeStep]).reservations, later.id = ⟨1⟩ ∧ later.state ≠ .reserved ∧
        InFlight (Runs.run (after sampleEnvironment) (sampleState reservedSteps) [consumeStep])
          later := by
    decide +kernel
  obtain ⟨reservation, present, id, reserved, flying⟩ := start
  obtain ⟨later, isLater, same, moved, lands⟩ := finish
  refine ⟨reservation, present, flying, later, isLater, same.trans id.symm, reserved ▸ moved,
    lands, ?_⟩
  have frozen := (ownership_frozen (sampleState_reachable reservedSteps)).1 reservation present
    flying [consumeStep] []
  rw [List.append_nil] at frozen
  exact frozen later isLater (same.trans id.symm) lands

end Ownership

end LineageGuard
