import LineageGuard.Store.BindingsKept
import Mathlib.Tactic

/-
This file shows that every operation keeps the outcomes of the effects in agreement.
-/

namespace LineageGuard

open Relational Attempt Store

section Attempts

/-- These are the moves of an attempt and the rows that each move leaves behind. -/
inductive AttemptStep (db next : Db) (t : ℕ → ℕ) (old : AttemptRow) : AttemptRow → Prop
  | same : AttemptStep db next t old old
  | received (reading : ℕ) (ready : old.state = .readyToInvoke)
      (receipt : next.receiptOf? old.intentId ≠ none) :
      AttemptStep db next t old { old with state := .succeeded, updatedAt := t reading }
  | required (reading : ℕ) (ready : old.state = .readyToInvoke) :
      AttemptStep db next t old
        { old with state := .reconciliationRequired, updatedAt := t reading }
  | applied (reading : ℕ) (required : old.state = .reconciliationRequired)
      (unproved : db.reconciliationOf? old.id = none)
      (receipt : next.receiptOf? old.intentId ≠ none)
      (proof : ∃ proof ∈ next.reconciliations,
        proof.attemptId = old.id ∧ proof.proofOutcome = .applied) :
      AttemptStep db next t old { old with state := .succeeded, updatedAt := t reading }

/-- No move changes the identity of an attempt. -/
theorem AttemptStep.identity {db next : Db} {t : ℕ → ℕ} {old new : AttemptRow}
    (step : AttemptStep db next t old new) :
    new = { old with state := new.state, updatedAt := new.updatedAt } := by
  cases step <;> rfl

theorem AttemptStep.of_succeeded {db next : Db} {t : ℕ → ℕ} {old new : AttemptRow}
    (step : AttemptStep db next t old new) (succeeded : old.state = .succeeded) : new = old := by
  cases step with
  | same => rfl
  | received _ ready => simp [succeeded] at ready
  | required _ ready => simp [succeeded] at ready
  | applied _ required => simp [succeeded] at required

theorem receiptOf?_of_mem {db : Db} {receipt : ReceiptRow} (present : receipt ∈ db.receipts) :
    db.receiptOf? receipt.intentId ≠ none := by
  rw [Db.receiptOf?_eq_some.mpr ⟨present, rfl⟩]
  simp

theorem attempt_unique {db : Db} {first second : AttemptRow} (isFirst : first ∈ db.attempts)
    (isSecond : second ∈ db.attempts) (same : first.id = second.id) : first = second :=
  Table.eq_of_conflict isFirst isSecond (Or.inl same)

variable {env : Environment} {db next : Db} {t : ℕ → ℕ} {op : Op}

theorem Store.Succeeds.receipt_present {attempt : AttemptRow} {receipt : ReceiptRow}
    {intent : IntentRow} {updatedAt : ℕ} {receipts : Table ReceiptRow}
    {attempts : Table AttemptRow}
    (succeeds : Succeeds env db attempt receipt intent updatedAt receipts attempts)
    (same : next.receipts = receipts) : next.receiptOf? attempt.intentId ≠ none := by
  rw [← succeeds.intentId]
  apply receiptOf?_of_mem
  rw [same]
  exact (Table.mem_insert succeeds.inserted receipt).mpr (Or.inr rfl)

/-- A consumption moves its reservation and creates the attempt for it. -/
theorem consumed_invokes {args : EffectArguments} {attemptId : AttemptId}
    {attemptFence : AttemptFence} {reservation : ReservationRow} {runId : RunId}
    {approvalId : ApprovalId} {intentId : IntentId} {finish : ℕ}
    (ticks : Ticks t db.clock finish)
    (consumes : Consumes env.sql db t args reservation runId approvalId intentId) :
    Invokes { reservation with state := .consumed attemptId attemptFence (t 3) }
      (consumedAttempt t reservation intentId (db.nextAttempt intentId) attemptId attemptFence)
      (t 3) where
  id := rfl
  intentId := consumes.intent
  state := rfl
  workerId := rfl
  invokeBy := rfl
  consumed := ticks.ordered (by omega)

/-- Every attempt after a step is a moved old attempt or comes from a consumption. -/
theorem Commit.attempt_origin {finish : ℕ} (commit : Commit env db t op next)
    (ticks : Ticks t db.clock finish) {new : AttemptRow} (present : new ∈ next.attempts) :
    (∃ old ∈ db.attempts, AttemptStep db next t old new) ∨
      ∃ reservation ∈ next.reservations, Invokes reservation new (t 3) ∧
        new.state = .readyToInvoke ∧ new.updatedAt = t 5 := by
  cases commit with
  | consumed consumes updated inserted =>
      rcases (Table.mem_insert inserted new).mp present with old | rfl
      · exact Or.inl ⟨new, old, .same⟩
      · refine Or.inr ⟨_, (Table.mem_update updated _).mpr ⟨_, consumes.present, rfl⟩, ?_, rfl,
          rfl⟩
        rw [if_pos (by simp)]
        exact consumed_invokes ticks consumes
  | succeeded holds ready succeeds =>
      obtain ⟨old, isOld, rfl⟩ := (Table.mem_update succeeds.updated new).mp present
      refine Or.inl ⟨old, isOld, ?_⟩
      split
      · next same =>
          obtain rfl := attempt_unique isOld succeeds.present (by simpa using same)
          exact .received 1 ready (succeeds.receipt_present rfl)
      · exact .same
  | ambiguous holds ready updated =>
      obtain ⟨old, isOld, rfl⟩ := (Table.mem_update updated new).mp present
      refine Or.inl ⟨old, isOld, ?_⟩
      split
      · next same =>
          obtain rfl := attempt_unique isOld holds.present (by simpa using same)
          exact .required 2 ready
      · exact .same
  | applied reconciles outcome first inserted succeeds =>
      obtain ⟨old, isOld, rfl⟩ := (Table.mem_update succeeds.updated new).mp present
      refine Or.inl ⟨old, isOld, ?_⟩
      split
      · next same =>
          obtain rfl := attempt_unique isOld succeeds.present (by simpa using same)
          exact .applied 2 reconciles.required first (succeeds.receipt_present rfl)
            ⟨_, (Table.mem_insert inserted _).mpr (Or.inr rfl), rfl, rfl⟩
      · exact .same
  | _ => exact Or.inl ⟨new, present, .same⟩

/-- Every attempt is still there after a step. -/
theorem Commit.attempt_forward (commit : Commit env db t op next) {old : AttemptRow}
    (present : old ∈ db.attempts) : ∃ new ∈ next.attempts, AttemptStep db next t old new := by
  cases commit with
  | consumed consumes updated inserted =>
      exact ⟨old, (Table.mem_insert inserted old).mpr (Or.inl present), .same⟩
  | succeeded holds ready succeeds =>
      refine ⟨_, (Table.mem_update succeeds.updated _).mpr ⟨old, present, rfl⟩, ?_⟩
      split
      · next same =>
          obtain rfl := attempt_unique present succeeds.present (by simpa using same)
          exact .received 1 ready (succeeds.receipt_present rfl)
      · exact .same
  | ambiguous holds ready updated =>
      refine ⟨_, (Table.mem_update updated _).mpr ⟨old, present, rfl⟩, ?_⟩
      split
      · next same =>
          obtain rfl := attempt_unique present holds.present (by simpa using same)
          exact .required 2 ready
      · exact .same
  | applied reconciles outcome first inserted succeeds =>
      refine ⟨_, (Table.mem_update succeeds.updated _).mpr ⟨old, present, rfl⟩, ?_⟩
      split
      · next same =>
          obtain rfl := attempt_unique present succeeds.present (by simpa using same)
          exact .applied 2 reconciles.required first (succeeds.receipt_present rfl)
            ⟨_, (Table.mem_insert inserted _).mpr (Or.inr rfl), rfl, rfl⟩
      · exact .same
  | _ => exact ⟨old, present, .same⟩

/-- A proof after a step was there before it, or it proves the state of its attempt. -/
theorem Commit.proof_origin (commit : Commit env db t op next) {proof : ReconciliationRow}
    (present : proof ∈ next.reconciliations) :
    proof ∈ db.reconciliations ∨ ∃ attempt ∈ next.attempts,
      attempt.id = proof.attemptId ∧ attempt.state = provedState proof.proofOutcome := by
  cases commit with
  | disproved reconciles outcome first inserted =>
      rcases (Table.mem_insert inserted proof).mp present with old | rfl
      · exact Or.inl old
      · exact Or.inr ⟨_, reconciles.holds.present, rfl, reconciles.required⟩
  | applied reconciles outcome first inserted succeeds =>
      rcases (Table.mem_insert inserted proof).mp present with old | rfl
      · exact Or.inl old
      · refine Or.inr ⟨_, (Table.mem_update succeeds.updated _).mpr ⟨_, succeeds.present, rfl⟩, ?_⟩
        rw [if_pos (by simp)]
        exact ⟨rfl, rfl⟩
  | _ => exact Or.inl present

end Attempts

section Outcomes

variable {env : Environment} {db next : Db} {t : ℕ → ℕ} {op : Op} {finish : ℕ}

/-- The reservation of an attempt stays as it is. -/
theorem Outcomes.invoked_kept (outcomes : Outcomes db) (commit : Commit env db t op next)
    {old new : AttemptRow} (isOld : old ∈ db.attempts) (step : AttemptStep db next t old new) :
    ∃ reservation ∈ next.reservations, ∃ consumedAt, Invokes reservation new consumedAt := by
  obtain ⟨reservation, isReservation, consumedAt, invokes⟩ := outcomes.invoked old isOld
  obtain ⟨kept, isKept, move⟩ := commit.reservation_forward isReservation
  obtain rfl := move.of_consumed (by rw [invokes.state]; simp)
  obtain ⟨id, intentId, state, workerId, invokeBy, consumed⟩ := invokes
  rw [step.identity]
  exact ⟨kept, isKept, consumedAt, id, intentId, state, workerId, invokeBy, consumed⟩

theorem Outcomes.attempted_kept (outcomes : Outcomes db) (commit : Commit env db t op next)
    {reservation : ReservationRow} (present : reservation ∈ next.reservations) {id : AttemptId}
    (names : reservation.state.attemptId = some id) :
    ∃ attempt ∈ next.attempts, attempt.id = id ∧ attempt.reservationId = reservation.id := by
  rcases commit.reservation_origin present with ⟨old, isOld, move⟩ | ⟨_, _, _, _, _, reserves⟩
  · cases move with
    | same =>
        obtain ⟨attempt, isAttempt, same, belongs⟩ := outcomes.attempted _ isOld id names
        obtain ⟨new, isNew, step⟩ := commit.attempt_forward isAttempt
        refine ⟨new, isNew, ?_, ?_⟩
        · rw [step.identity]
          exact same
        · rw [step.identity]
          exact belongs
    | consumed reserved live attemptId attemptFence created =>
        obtain rfl := Option.some.inj names
        exact created
    | cancelled reserved => cases names
  · rw [reserves.reserved] at names
    cases names

theorem Outcomes.received_kept (outcomes : Outcomes db) (commit : Commit env db t op next)
    {receipt : ReceiptRow} (present : receipt ∈ next.receipts) :
    ∃ attempt ∈ next.attempts, attempt.intentId = receipt.intentId ∧
      attempt.state = .succeeded := by
  rcases commit.receipt_origin present with old | ⟨attempt, _, _, _, _, succeeds, same, _⟩
  · obtain ⟨attempt, isAttempt, intentId, state⟩ := outcomes.received receipt old
    obtain ⟨new, isNew, step⟩ := commit.attempt_forward isAttempt
    obtain rfl := step.of_succeeded state
    exact ⟨new, isNew, intentId, state⟩
  · rw [same]
    refine ⟨_, (Table.mem_update succeeds.updated _).mpr ⟨attempt, succeeds.present, rfl⟩, ?_⟩
    rw [if_pos (by simp)]
    exact ⟨succeeds.intentId.symm, rfl⟩

theorem Commit.receiptOf?_kept (commit : Commit env db t op next) {intentId : IntentId}
    (received : db.receiptOf? intentId ≠ none) : next.receiptOf? intentId ≠ none := by
  obtain ⟨receipt, found⟩ := Option.ne_none_iff_exists'.mp received
  obtain ⟨present, rfl⟩ := Db.receiptOf?_eq_some.mp found
  exact receiptOf?_of_mem (commit.receipts_grow present)

theorem Outcomes.proved_kept (outcomes : Outcomes db) (commit : Commit env db t op next)
    {proof : ReconciliationRow} (present : proof ∈ next.reconciliations) :
    ∃ attempt ∈ next.attempts, attempt.id = proof.attemptId ∧
      attempt.state = provedState proof.proofOutcome := by
  rcases commit.proof_origin present with old | new
  · obtain ⟨attempt, isAttempt, same, state⟩ := outcomes.proved proof old
    obtain ⟨moved, isMoved, step⟩ := commit.attempt_forward isAttempt
    cases step with
    | same => exact ⟨attempt, isMoved, same, state⟩
    | received _ ready =>
        rw [ready] at state
        cases outcome : proof.proofOutcome <;> simp [outcome, provedState] at state
    | required _ ready =>
        rw [ready] at state
        cases outcome : proof.proofOutcome <;> simp [outcome, provedState] at state
    | applied _ _ unproved =>
        exact absurd same.symm (Db.reconciliationOf?_eq_none.mp unproved proof old)
  · exact new

theorem AttemptStep.stamped {old new : AttemptRow} (step : AttemptStep db next t old new)
    (ticks : Ticks t db.clock finish) (before : old.updatedAt ≤ db.clock) :
    new.updatedAt ≤ finish := by
  have started := Nat.le_trans (ticks.later 0) (ticks.bounded 0)
  cases step with
  | same => exact Nat.le_trans before started
  | received reading => exact ticks.bounded reading
  | required reading => exact ticks.bounded reading
  | applied reading => exact ticks.bounded reading

/-- Every operation keeps the outcomes in agreement. -/
theorem Commit.outcomes_kept (commit : Commit env db t op next) (ticks : Ticks t db.clock finish)
    (outcomes : Outcomes db) : Outcomes { next with clock := finish } where
  invoked := by
    intro attempt present
    rcases commit.attempt_origin ticks present with ⟨old, isOld, step⟩ | ⟨reservation, isIn,
      invokes, _⟩
    · exact outcomes.invoked_kept commit isOld step
    · exact ⟨reservation, isIn, _, invokes⟩
  attempted := fun _ present _ names => outcomes.attempted_kept commit present names
  stamped := by
    intro attempt present
    rcases commit.attempt_origin ticks present with ⟨old, isOld, step⟩ | ⟨_, _, _, _, stamp⟩
    · exact step.stamped ticks (outcomes.stamped old isOld)
    · rw [stamp]
      exact ticks.bounded 5
  received := fun _ present => outcomes.received_kept commit present
  succeeded := by
    intro attempt present state
    rcases commit.attempt_origin ticks present with ⟨old, isOld, step⟩ | ⟨_, _, _, ready, _⟩
    · cases step with
      | same => exact commit.receiptOf?_kept (outcomes.succeeded _ isOld state)
      | received _ _ receipt => exact receipt
      | required => cases state
      | applied _ _ _ receipt => exact receipt
    · rw [ready] at state
      cases state
  proved := fun _ present => outcomes.proved_kept commit present

end Outcomes

end LineageGuard
