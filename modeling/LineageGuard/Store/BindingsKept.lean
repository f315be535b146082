import LineageGuard.Store.RunChanges
import Mathlib.Tactic

/-
This file shows that every operation keeps the bindings between the rows of the effects.
-/

namespace LineageGuard

open Relational Attempt Store

section Growth

variable {env : Environment} {db next : Db} {t : ℕ → ℕ} {op : Op}

/-- Intents are never changed and never deleted. -/
theorem Commit.intents_grow (commit : Commit env db t op next) {intent : IntentRow}
    (present : intent ∈ db.intents) : intent ∈ next.intents := by
  cases commit with
  | intended begins inserted rewritten =>
      exact (Table.mem_insert inserted intent).mpr (Or.inl present)
  | _ => exact present

theorem Commit.intent? (commit : Commit env db t op next) {id : IntentId} {intent : IntentRow}
    (found : db.intent? id = some intent) : next.intent? id = some intent := by
  obtain ⟨present, same⟩ := Db.intent?_eq_some.mp found
  exact Db.intent?_eq_some.mpr ⟨commit.intents_grow present, same⟩

/-- Approvals are never changed and never deleted. -/
theorem Commit.approvals_grow (commit : Commit env db t op next) {approval : ApprovalRow}
    (present : approval ∈ db.approvals) : approval ∈ next.approvals := by
  cases commit with
  | approved fenced mode belongs inserted =>
      exact (Table.mem_insert inserted approval).mpr (Or.inl present)
  | _ => exact present

/-- Receipts are never changed and never deleted. -/
theorem Commit.receipts_grow (commit : Commit env db t op next) {receipt : ReceiptRow}
    (present : receipt ∈ db.receipts) : receipt ∈ next.receipts := by
  cases commit with
  | succeeded holds ready succeeds =>
      exact (Table.mem_insert succeeds.inserted receipt).mpr (Or.inl present)
  | applied reconciles outcome first inserted succeeds =>
      exact (Table.mem_insert succeeds.inserted receipt).mpr (Or.inl present)
  | _ => exact present

/-- Proofs are never changed and never deleted. -/
theorem Commit.reconciliations_grow (commit : Commit env db t op next) {proof : ReconciliationRow}
    (present : proof ∈ db.reconciliations) : proof ∈ next.reconciliations := by
  cases commit with
  | disproved reconciles outcome first inserted =>
      exact (Table.mem_insert inserted proof).mpr (Or.inl present)
  | applied reconciles outcome first inserted succeeds =>
      exact (Table.mem_insert inserted proof).mpr (Or.inl present)
  | _ => exact present

/-- A run that does not validate keeps its latest validation receipt. -/
theorem Commit.latestValidation? (commit : Commit env db t op next) {runId : RunId} {run : RunRow}
    (found : db.run? runId = some run) (settled : run.status ≠ .validating) :
    next.latestValidation? runId = db.latestValidation? runId := by
  cases commit with
  | validated isRun mode validating belongs inserted rewritten =>
      rw [Db.latestValidation?, Db.latestValidation?, Table.insert_filter inserted]
      rw [belongs, decide_eq_false_iff_not]
      rintro rfl
      rw [isRun, Option.some.injEq] at found
      subst found
      exact settled validating
  | _ => rfl

end Growth

section Reservations

/-- A reservation only moves away from its first state. -/
inductive ReservationStep (t : ℕ → ℕ) (attempts : Table AttemptRow) (old : ReservationRow) :
    ReservationRow → Prop
  | same : ReservationStep t attempts old old
  | consumed (reserved : old.state = .reserved) (live : t 1 < old.invokeBy)
      (attemptId : AttemptId) (attemptFence : AttemptFence)
      (created : ∃ attempt ∈ attempts, attempt.id = attemptId ∧ attempt.reservationId = old.id) :
      ReservationStep t attempts old { old with state := .consumed attemptId attemptFence (t 3) }
  | cancelled (reserved : old.state = .reserved) :
      ReservationStep t attempts old { old with state := .cancelledPreSend }

/-- A consumed reservation stays as it is. -/
theorem ReservationStep.of_consumed {t : ℕ → ℕ} {attempts : Table AttemptRow}
    {old new : ReservationRow} (step : ReservationStep t attempts old new)
    (consumed : old.state ≠ .reserved) : new = old := by
  cases step with
  | same => rfl
  | consumed reserved => exact absurd reserved consumed
  | cancelled reserved => exact absurd reserved consumed

theorem Consumes.present {sql : SqlHashing} {db : Db} {t : ℕ → ℕ} {args : EffectArguments}
    {reservation : ReservationRow} {runId : RunId} {approvalId : ApprovalId} {intentId : IntentId}
    (consumes : Consumes sql db t args reservation runId approvalId intentId) :
    reservation ∈ db.reservations := by
  obtain ⟨id, _, found⟩ := Option.bind_eq_some_iff.mp consumes.found
  exact (Db.reservation?_eq_some.mp found).1

theorem Consumes.intent {sql : SqlHashing} {db : Db} {t : ℕ → ℕ} {args : EffectArguments}
    {reservation : ReservationRow} {runId : RunId} {approvalId : ApprovalId} {intentId : IntentId}
    (consumes : Consumes sql db t args reservation runId approvalId intentId) :
    reservation.intentId = intentId := by
  rcases consumes.bound.intentId with missing | same
  · rw [consumes.hasIntent] at missing
    cases missing
  · exact Option.some.inj (same.symm.trans consumes.hasIntent)

theorem Consumes.run {sql : SqlHashing} {db : Db} {t : ℕ → ℕ} {args : EffectArguments}
    {reservation : ReservationRow} {runId : RunId} {approvalId : ApprovalId} {intentId : IntentId}
    (consumes : Consumes sql db t args reservation runId approvalId intentId) :
    reservation.runId = runId := by
  rcases consumes.bound.runId with missing | same
  · rw [consumes.hasRun] at missing
    cases missing
  · exact Option.some.inj (same.symm.trans consumes.hasRun)

theorem Consumes.live {sql : SqlHashing} {db : Db} {t : ℕ → ℕ} {args : EffectArguments}
    {reservation : ReservationRow} {runId : RunId} {approvalId : ApprovalId} {intentId : IntentId}
    (consumes : Consumes sql db t args reservation runId approvalId intentId) :
    t 1 < reservation.invokeBy := by
  obtain ⟨_, _, _, _, current⟩ := consumes.current
  exact current.timely

/-- The row that an update by identity selects is the given row. -/
theorem reservation_unique {db : Db} {first second : ReservationRow}
    (isFirst : first ∈ db.reservations) (isSecond : second ∈ db.reservations)
    (same : first.id = second.id) : first = second :=
  Table.eq_of_conflict isFirst isSecond (Or.inl same)

/-- Every reservation after a step comes from an old one or from a new authority. -/
theorem Commit.reservation_origin {env : Environment} {db next : Db} {t : ℕ → ℕ} {op : Op}
    (commit : Commit env db t op next) {new : ReservationRow} (present : new ∈ next.reservations) :
    (∃ old ∈ db.reservations, ReservationStep t next.attempts old new) ∨
      ∃ run lease intent validation approval,
        Reserves db t new run lease intent validation approval := by
  cases commit with
  | reserved reserves inserted =>
      rcases (Table.mem_insert inserted new).mp present with old | rfl
      · exact Or.inl ⟨new, old, .same⟩
      · exact Or.inr ⟨_, _, _, _, _, reserves⟩
  | consumed consumes updated inserted =>
      obtain ⟨old, isOld, rfl⟩ := (Table.mem_update updated new).mp present
      refine Or.inl ⟨old, isOld, ?_⟩
      split
      · next same =>
          obtain rfl := reservation_unique isOld consumes.present (by simpa using same)
          exact .consumed consumes.reserved consumes.live _ _
            ⟨_, (Table.mem_insert inserted _).mpr (Or.inr rfl), rfl, rfl⟩
      · exact .same
  | cancelled found isReserved bound updated =>
      obtain ⟨id, _, found⟩ := Option.bind_eq_some_iff.mp found
      obtain ⟨old, isOld, rfl⟩ := (Table.mem_update updated new).mp present
      refine Or.inl ⟨old, isOld, ?_⟩
      split
      · next same =>
          obtain rfl := reservation_unique isOld (Db.reservation?_eq_some.mp found).1
            (by simpa using same)
          exact .cancelled isReserved
      · exact .same
  | _ => exact Or.inl ⟨new, present, .same⟩

/-- Every reservation is still there after a step. -/
theorem Commit.reservation_forward {env : Environment} {db next : Db} {t : ℕ → ℕ} {op : Op}
    (commit : Commit env db t op next) {old : ReservationRow} (present : old ∈ db.reservations) :
    ∃ new ∈ next.reservations, ReservationStep t next.attempts old new := by
  cases commit with
  | reserved reserves inserted =>
      exact ⟨old, (Table.mem_insert inserted old).mpr (Or.inl present), .same⟩
  | consumed consumes updated inserted =>
      refine ⟨_, (Table.mem_update updated _).mpr ⟨old, present, rfl⟩, ?_⟩
      split
      · next same =>
          obtain rfl := reservation_unique present consumes.present (by simpa using same)
          exact .consumed consumes.reserved consumes.live _ _
            ⟨_, (Table.mem_insert inserted _).mpr (Or.inr rfl), rfl, rfl⟩
      · exact .same
  | cancelled found isReserved bound updated =>
      obtain ⟨id, _, found⟩ := Option.bind_eq_some_iff.mp found
      refine ⟨_, (Table.mem_update updated _).mpr ⟨old, present, rfl⟩, ?_⟩
      split
      · next same =>
          obtain rfl := reservation_unique present (Db.reservation?_eq_some.mp found).1
            (by simpa using same)
          exact .cancelled isReserved
      · exact .same
  | _ => exact ⟨old, present, .same⟩

/-- The bindings of a reservation do not depend on its state. -/
theorem Authorized.step {db next : Db} {t : ℕ → ℕ} {attempts : Table AttemptRow}
    {old new : ReservationRow} {intent : IntentRow} {approval : ApprovalRow}
    (authorized : Authorized db old intent approval) (step : ReservationStep t attempts old new)
    (intended : next.intent? old.intentId = some intent)
    (approved : approval ∈ next.approvals) : Authorized next new intent approval := by
  obtain ⟨_, intends, receiptId, _, permits, allowed⟩ := authorized
  obtain ⟨runId, key, kind, target, fingerprint⟩ := intends
  obtain ⟨id, permitsRun, permitsKind, permitsTarget, permitsInput, receipt, within⟩ := permits
  cases step <;>
    exact ⟨intended, ⟨runId, key, kind, target, fingerprint⟩, receiptId, approved,
      ⟨id, permitsRun, permitsKind, permitsTarget, permitsInput, receipt, within⟩, allowed⟩

end Reservations

section Bindings

variable {env : Environment} {db next : Db} {t : ℕ → ℕ} {op : Op}

/-- A run that has passed its validation stays past it. -/
theorem pastValidation_next {old new : RunStatus} (settled : old ∈ pastValidation)
    (step : new = old ∨ isAdjacentRunStatus old new = true) : new ∈ pastValidation := by
  rcases step with rfl | adjacent
  · exact settled
  · revert adjacent settled
    cases old <;> cases new <;> decide

theorem pastValidation_effectState (kind : EffectKind) : effectState kind ∈ pastValidation := by
  cases kind <;> decide

theorem pastValidation_validating {status : RunStatus} (settled : status ∈ pastValidation) :
    status ≠ .validating := by
  rintro rfl
  exact absurd settled (by decide)

theorem Binds.kept {intent : IntentRow} {run : RunRow} {validation : ValidationReceiptRow}
    (binds : Binds db intent run validation) (commit : Commit env db t op next) :
    ∃ run validation, Binds next intent run validation := by
  obtain ⟨new, found, step⟩ := commit.runsStep.forward binds.found
  refine ⟨new, validation, found, step.mode.trans binds.mode,
    pastValidation_next binds.settled step.status, ?_, binds.receiptId, binds.candidate,
    binds.artifacts⟩
  rw [commit.latestValidation? binds.found (pastValidation_validating binds.settled)]
  exact binds.latest

theorem Store.Begins.binds {input : EffectInput} {row : IntentRow} {run : RunRow}
    {validation : ValidationReceiptRow} (begins : Begins db t input row run validation) :
    Binds db row run validation where
  found := begins.runId ▸ begins.fenced.found
  mode := begins.mode
  settled := begins.allowed ▸ pastValidation_effectState row.kind
  latest := begins.latest
  receiptId := begins.receiptId
  candidate := begins.candidate
  artifacts := begins.artifacts

/-- An intent after a step was there before it, or it binds the rows before it. -/
theorem Commit.intent_origin (commit : Commit env db t op next) {intent : IntentRow}
    (present : intent ∈ next.intents) :
    intent ∈ db.intents ∨ ∃ input run validation, Begins db t input intent run validation := by
  cases commit with
  | intended begins inserted rewritten =>
      rcases (Table.mem_insert inserted intent).mp present with old | rfl
      · exact Or.inl old
      · exact Or.inr ⟨_, _, _, begins⟩
  | _ => exact Or.inl present

theorem Commit.approval_origin (commit : Commit env db t op next) {approval : ApprovalRow}
    (present : approval ∈ next.approvals) :
    approval ∈ db.approvals ∨
      ∃ run, db.run? approval.runId = some run ∧ run.executionMode = .live := by
  cases commit with
  | approved fenced mode belongs inserted =>
      rcases (Table.mem_insert inserted approval).mp present with old | rfl
      · exact Or.inl old
      · exact Or.inr ⟨_, belongs ▸ fenced.found, mode⟩
  | _ => exact Or.inl present

theorem Commit.receipt_origin (commit : Commit env db t op next) {receipt : ReceiptRow}
    (present : receipt ∈ next.receipts) :
    receipt ∈ db.receipts ∨ ∃ attempt intent updatedAt receipts attempts,
      Succeeds env db attempt receipt intent updatedAt receipts attempts ∧ next.attempts = attempts ∧
      (attempt.state = .readyToInvoke ∨ (attempt.state = .reconciliationRequired ∧
        db.reconciliationOf? attempt.id = none)) := by
  cases commit with
  | succeeded holds ready succeeds =>
      rcases (Table.mem_insert succeeds.inserted receipt).mp present with old | rfl
      · exact Or.inl old
      · exact Or.inr ⟨_, _, _, _, _, succeeds, rfl, Or.inl ready⟩
  | applied reconciles outcome first inserted succeeds =>
      rcases (Table.mem_insert succeeds.inserted receipt).mp present with old | rfl
      · exact Or.inl old
      · exact Or.inr ⟨_, _, _, _, _, succeeds, rfl, Or.inr ⟨reconciles.required, first⟩⟩
  | _ => exact Or.inl present

theorem Receipts.kept {receipt : ReceiptRow} {intent : IntentRow}
    (receipts : Receipts db receipt intent) (commit : Commit env db t op next) :
    Receipts next receipt intent :=
  ⟨commit.intent? receipts.found, receipts.binding, receipts.columns⟩

theorem Reserves.authorized {row : ReservationRow} {run : RunRow} {lease : RunLease}
    {intent : IntentRow} {validation : ValidationReceiptRow} {approval : ApprovalRow}
    (bindings : Bindings db)
    (reserves : Reserves db t row run lease intent validation approval) :
    Authorized db row intent approval where
  found := reserves.intended
  intends := reserves.intends
  receiptId := by
    obtain ⟨_, latest, binds⟩ := bindings.intents intent (Db.intent?_eq_some.mp reserves.intended).1
    have same := binds.latest
    rw [reserves.intends.runId, reserves.latest, Option.some.injEq] at same
    rw [binds.receiptId, ← same, reserves.receiptId]
  approved := reserves.approved
  permits := reserves.permits
  allowed := reserves.owned.status ▸ reserves.allowed

/-- Every operation keeps the bindings. -/
theorem Commit.bindings_kept (commit : Commit env db t op next) (bindings : Bindings db) :
    Bindings next where
  intents := by
    intro intent present
    rcases commit.intent_origin present with old | ⟨_, _, _, begins⟩
    · obtain ⟨_, _, binds⟩ := bindings.intents intent old
      exact binds.kept commit
    · exact begins.binds.kept commit
  targets := by
    intro intent present
    rcases commit.intent_origin present with old | ⟨_, _, _, begins⟩
    · exact bindings.targets intent old
    · exact begins.target
  approvals := by
    intro approval present
    obtain ⟨run, found, mode⟩ : ∃ run, db.run? approval.runId = some run ∧
        run.executionMode = .live := by
      rcases commit.approval_origin present with old | new
      · exact bindings.approvals approval old
      · exact new
    obtain ⟨new, isNew, step⟩ := commit.runsStep.forward found
    exact ⟨new, isNew, step.mode.trans mode⟩
  reservations := by
    intro row present
    rcases commit.reservation_origin present with ⟨old, isOld, step⟩ | ⟨_, _, _, _, _, reserves⟩
    · obtain ⟨intent, approval, authorized⟩ := bindings.reservations old isOld
      exact ⟨intent, approval, authorized.step step (commit.intent? authorized.found)
        (commit.approvals_grow authorized.approved)⟩
    · have authorized := reserves.authorized bindings
      have stays : ReservationStep t next.attempts row row := .same
      exact ⟨_, _, authorized.step stays (commit.intent? authorized.found)
        (commit.approvals_grow authorized.approved)⟩
  receipts := by
    intro receipt present
    rcases commit.receipt_origin present with old | ⟨_, intent, _, _, _, succeeds, _, _⟩
    · obtain ⟨intent, receipts⟩ := bindings.receipts receipt old
      exact ⟨intent, receipts.kept commit⟩
    · exact ⟨intent, succeeds.receipt.kept commit⟩

end Bindings

end LineageGuard
