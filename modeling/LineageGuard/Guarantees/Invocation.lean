import LineageGuard.Store.OwnersKept
import LineageGuard.Guarantees.History
import Mathlib.Tactic

/-
This file shows that an effect intent is invoked at most once.
-/

namespace LineageGuard

open Relational Attempt Store

variable {env : Environment} {db : Db}

/-- The step consumes a reservation of the intent. -/
def consumesIntent (env : Environment) (intentId : IntentId) (db : Db) (step : Step) : Bool :=
  match step.op with
  | .effectConsumeCurrent args _ _ => decide (Commits env db step ∧
      (args.id.bind db.reservation?).map (·.intentId) = some intentId)
  | _ => false

/-- An intent is spent once one of its reservations is consumed. -/
def Spent (intentId : IntentId) (db : Db) : Prop :=
  ∃ reservation ∈ db.reservations, reservation.intentId = intentId ∧
    reservation.state.attemptId ≠ none

/-- No move changes the authority that a reservation carries. -/
theorem ReservationStep.authority {t : ℕ → ℕ} {attempts : Table AttemptRow}
    {old new : ReservationRow} (step : ReservationStep t attempts old new) :
    new = { old with state := new.state } := by
  cases step <;> rfl

/-- Every reservation persists in every step. -/
theorem after_reservation (env : Environment) (inv : Inv db) (step : Step) {old : ReservationRow}
    (present : old ∈ db.reservations) :
    ∃ new ∈ (after env db step).reservations, ∃ attempts,
      ReservationStep (readings db step.delays) attempts old new := by
  obtain ⟨op, next, commit, state, _⟩ := after_commit env inv step
  obtain ⟨new, isNew, moves⟩ := commit.reservation_forward present
  rw [state]
  exact ⟨new, isNew, _, moves⟩

theorem spent_kept {intentId : IntentId} (inv : Inv db) (spent : Spent intentId db) (step : Step) :
    Spent intentId (after env db step) := by
  obtain ⟨reservation, present, same, consumed⟩ := spent
  obtain ⟨new, isNew, _, moves⟩ := after_reservation env inv step present
  obtain rfl := moves.of_consumed fun reserved => consumed (by rw [reserved]; rfl)
  exact ⟨new, isNew, same, consumed⟩

/-- A step that consumes a reservation of the intent has the rows of a consumption. -/
theorem consumesIntent_commit {intentId : IntentId} (inv : Inv db) {step : Step}
    (hit : consumesIntent env intentId db step = true) :
    ∃ args reservation runId approvalId attemptId attemptFence,
      step.op = .effectConsumeCurrent args attemptId attemptFence ∧
      Consumes env.sql db (readings db step.delays) args reservation runId approvalId intentId ∧
      { reservation with
        state := .consumed attemptId attemptFence (readings db step.delays 3) } ∈
          (after env db step).reservations := by
  unfold consumesIntent at hit
  split at hit
  case h_1 args attemptId attemptFence isOp =>
    simp only [decide_eq_true_eq] at hit
    obtain ⟨commits, isIntent⟩ := hit
    rcases after_cases env db step with ⟨next, done, state⟩ | ⟨failed, _⟩
    · rw [isOp] at done
      have commit := exec_commit inv.history inv.outcomes done
      cases commit with
      | unchanged quiet => cases quiet
      | recorded guarded => cases guarded
      | consumed consumes updated inserted =>
          rw [consumes.found, Option.map_some, Option.some.injEq, consumes.intent] at isIntent
          subst isIntent
          refine ⟨args, _, _, _, attemptId, attemptFence, isOp, consumes, ?_⟩
          rw [state]
          refine (Table.mem_update updated _).mpr ⟨_, consumes.present, ?_⟩
          rw [if_pos (by simp)]
    · exact absurd commits failed
  case h_2 => cases hit

theorem spent_of_consumes {intentId : IntentId} (inv : Inv db) {step : Step}
    (hit : consumesIntent env intentId db step = true) : Spent intentId (after env db step) := by
  obtain ⟨_, reservation, _, _, _, _, _, consumes, present⟩ := consumesIntent_commit inv hit
  exact ⟨_, present, consumes.intent, by simp [ReservationState.attemptId]⟩

/-- Two active reservations of one intent are the same reservation. -/
theorem active_unique {first second : ReservationRow} (isFirst : first ∈ db.reservations)
    (isSecond : second ∈ db.reservations) (firstActive : first.state.active = true)
    (secondActive : second.state.active = true) (same : first.intentId = second.intentId) :
    first = second :=
  Table.eq_of_conflict isFirst isSecond
    (Or.inr (Or.inr (Or.inr (Or.inr ⟨firstActive, secondActive, same⟩))))

theorem consumesIntent_spent {intentId : IntentId} (inv : Inv db) (spent : Spent intentId db)
    (step : Step) : consumesIntent env intentId db step = false := by
  by_contra hit
  rw [Bool.not_eq_false] at hit
  obtain ⟨_, reservation, _, _, _, _, _, consumes, _⟩ := consumesIntent_commit inv hit
  obtain ⟨consumed, isConsumed, same, names⟩ := spent
  have consumedActive : consumed.state.active = true := by
    cases state : consumed.state with
    | reserved => rfl
    | consumed attemptId attemptFence consumedAt => rfl
    | cancelledPreSend => exact absurd (by rw [state]; rfl) names
  have equal := active_unique isConsumed consumes.present consumedActive
    (by rw [consumes.reserved]; rfl) (same.trans consumes.intent.symm)
  rw [equal, consumes.reserved] at names
  exact names rfl

/-- The later row of a reservation keeps its authority and its attempt fence. -/
structure Persists (old new : ReservationRow) : Prop where
  authority : new = { old with state := new.state }
  fence : ∀ fence ∈ old.state.attemptFence, new.state.attemptFence = some fence

theorem Persists.refl (row : ReservationRow) : Persists row row := ⟨rfl, fun _ isFence => isFence⟩

theorem Persists.trans {old middle new : ReservationRow} (first : Persists old middle)
    (second : Persists middle new) : Persists old new where
  authority := by
    have authority := second.authority
    rw [first.authority] at authority
    exact authority
  fence := fun fence isFence => second.fence fence (first.fence fence isFence)

theorem Persists.columns {old new : ReservationRow} (persists : Persists old new) :
    new.id = old.id ∧ new.intentId = old.intentId ∧ new.tokenHash = old.tokenHash := by
  rw [persists.authority]
  exact ⟨rfl, rfl, rfl⟩

theorem ReservationStep.persists {t : ℕ → ℕ} {attempts : Table AttemptRow}
    {old new : ReservationRow} (step : ReservationStep t attempts old new) : Persists old new := by
  refine ⟨step.authority, fun fence isFence => ?_⟩
  have consumed : old.state ≠ .reserved := by
    intro reserved
    rw [reserved] at isFence
    cases isFence
  rw [step.of_consumed consumed]
  exact isFence

/-- Every reservation persists in every run. -/
theorem run_reservation (env : Environment) (inv : Inv db) (steps : List Step)
    {old : ReservationRow} (present : old ∈ db.reservations) :
    ∃ new ∈ (Runs.run (after env) db steps).reservations, Persists old new := by
  induction steps generalizing db old with
  | nil => exact ⟨old, present, .refl old⟩
  | cons step rest ih =>
      obtain ⟨middle, isMiddle, _, moves⟩ := after_reservation env inv step present
      obtain ⟨new, isNew, persists⟩ := ih (after_inv inv step) isMiddle
      exact ⟨new, isNew, moves.persists.trans persists⟩

/-- Every attempt persists in every run. -/
theorem run_attempt (env : Environment) (inv : Inv db) (steps : List Step) {old : AttemptRow}
    (present : old ∈ db.attempts) :
    ∃ new ∈ (Runs.run (after env) db steps).attempts,
      new = { old with state := new.state, updatedAt := new.updatedAt } := by
  induction steps generalizing db old with
  | nil => exact ⟨old, present, rfl⟩
  | cons step rest ih =>
      obtain ⟨op, next, commit, state, _⟩ := after_commit env inv step
      obtain ⟨middle, isMiddle, moves⟩ := commit.attempt_forward present
      have stays : middle ∈ (after env db step).attempts := by
        rw [state]
        exact isMiddle
      obtain ⟨new, isNew, identity⟩ := ih (after_inv inv step) stays
      rw [moves.identity] at identity
      exact ⟨new, isNew, identity⟩

/-- Two different reservations never share an identity, a token or an attempt fence. -/
theorem fences_distinct {first second : ReservationRow} (isFirst : first ∈ db.reservations)
    (isSecond : second ∈ db.reservations) (different : first ≠ second) :
    first.id ≠ second.id ∧ first.tokenHash ≠ second.tokenHash ∧
      ∀ fence ∈ first.state.attemptFence, second.state.attemptFence ≠ some fence := by
  refine ⟨fun same => ?_, fun same => ?_, fun fence isFence same => ?_⟩
  · exact different (Table.eq_of_conflict isFirst isSecond (Or.inl same))
  · exact different (Table.eq_of_conflict isFirst isSecond (Or.inr (Or.inl same)))
  · refine different (Table.eq_of_conflict isFirst isSecond
      (Or.inr (Or.inr (Or.inr (Or.inl ⟨?_, ?_⟩)))))
    · rw [same]
      exact isFence
    · rw [isFence]
      simp

/-- In every run an intent has at most one consumption, at most one attempt and at most one active
reservation, and its reservations keep distinct fences. -/
theorem invocation_at_most_once (env : Environment) (clock : ℕ) (intentId : IntentId)
    (earlier later : List Step) :
    ((Runs.history (after env) (.migrated clock) (earlier ++ later)).filter fun entry =>
        consumesIntent env intentId entry.1 entry.2).length ≤ 1 ∧
    (∀ first ∈ (Runs.run (after env) (.migrated clock) earlier).attempts,
      ∀ second ∈ (Runs.run (after env) (.migrated clock) (earlier ++ later)).attempts,
        first.intentId = intentId → second.intentId = intentId → first.id = second.id) ∧
    (∀ first ∈ (Runs.run (after env) (.migrated clock) earlier).reservations,
      ∀ second ∈ (Runs.run (after env) (.migrated clock) earlier).reservations,
        first.intentId = intentId → second.intentId = intentId →
        first.state.active = true → second.state.active = true → first = second) ∧
    (∀ first ∈ (Runs.run (after env) (.migrated clock) earlier).reservations,
      ∀ second ∈ (Runs.run (after env) (.migrated clock) (earlier ++ later)).reservations,
        first.id ≠ second.id → first.tokenHash ≠ second.tokenHash ∧
          ∀ fence ∈ first.state.attemptFence, second.state.attemptFence ≠ some fence) := by
  have start := migrated_inv clock
  have middle := run_inv env start earlier
  have finish := run_inv env start (earlier ++ later)
  refine ⟨?_, ?_, ?_, ?_⟩
  · have closes : ∀ state step, Inv state → consumesIntent env intentId state step = true →
        Spent intentId (after env state step) := fun state step inv hit => spent_of_consumes inv hit
    exact Runs.history_filter_le_one (fun state step inv => after_inv inv step)
      (fun state step inv spent => spent_kept inv spent step) closes
      (fun state step inv spent => consumesIntent_spent inv spent step) start (earlier ++ later)
  · intro first isFirst second isSecond firstIntent secondIntent
    obtain ⟨kept, isKept, identity⟩ := run_attempt env middle later isFirst
    rw [← Runs.run_append] at isKept
    have same : kept.intentId = second.intentId := by
      rw [identity]
      exact firstIntent.trans secondIntent.symm
    rw [← finish.outcomes.attempt_unique isKept isSecond same, identity]
  · intro first isFirst second isSecond firstIntent secondIntent firstActive secondActive
    exact active_unique isFirst isSecond firstActive secondActive
      (firstIntent.trans secondIntent.symm)
  · intro first isFirst second isSecond different
    obtain ⟨kept, isKept, persists⟩ := run_reservation env middle later isFirst
    rw [← Runs.run_append] at isKept
    obtain ⟨id, _, tokenHash⟩ := persists.columns
    obtain ⟨_, token, fences⟩ := fences_distinct isKept isSecond fun equal =>
      different (by rw [← id, equal])
    rw [tokenHash] at token
    exact ⟨token, fun fence isFence => fences fence (persists.fence fence isFence)⟩

end LineageGuard
