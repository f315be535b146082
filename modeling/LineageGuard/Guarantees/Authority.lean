import LineageGuard.Guarantees.Invocation
import Mathlib.Tactic

/-
This file shows that every attempt has the authority of an approval that was current.
-/

namespace LineageGuard

open Relational Attempt Store

variable {env : Environment} {db : Db}

/-- The approval is one for exactly the effect of the intent. -/
structure ApprovedFor (approval : ApprovalRow) (intent : IntentRow) : Prop where
  runId : approval.runId = intent.runId
  kind : approval.kind = intent.kind
  target : approval.target = intent.target
  inputFingerprint : approval.inputFingerprint = intent.inputFingerprint
  receiptId : approval.validationReceiptId = intent.validationReceiptId

/-- The attempt has its times from the consumption of its reservation. -/
structure ConsumedUnder (attempt : AttemptRow) (reservation : ReservationRow) (run : RunRow)
    (lease : RunLease) (intent : IntentRow) (approval : ApprovalRow) : Prop where
  approvalLive : attempt.claimedAt < approval.expiresAt
  leaseLive : attempt.claimedAt < lease.expiresAt
  held : run.lease = some lease
  mode : run.executionMode = .live
  allowed : run.status = effectState intent.kind
  workerId : lease.workerId = attempt.workerId
  invokeBy : attempt.claimExpiresAt = reservation.invokeBy
  withinLease : reservation.invokeBy ≤ lease.expiresAt
  withinApproval : reservation.invokeBy ≤ approval.expiresAt

/-- The step has created the attempt by consuming its reservation with current authority. -/
def Authorizes (db : Db) (step : Step) (attempt : AttemptRow) : Prop :=
  (∃ args, step.op = .effectConsumeCurrent args attempt.id attempt.fencingToken) ∧
  attempt.claimedAt = readings db step.delays 4 ∧
  ∃ reservation ∈ db.reservations, reservation.id = attempt.reservationId ∧
    reservation.state = .reserved ∧
    ∃ intent, db.intent? attempt.intentId = some intent ∧
    ∃ approval ∈ db.approvals, ApprovedFor approval intent ∧
    ∃ run lease, db.run? intent.runId = some run ∧
      ConsumedUnder attempt reservation run lease intent approval

theorem Authorized.approvedFor {reservation : ReservationRow} {intent : IntentRow}
    {approval : ApprovalRow} (authorized : Authorized db reservation intent approval) :
    ApprovedFor approval intent where
  runId := authorized.permits.runId.trans authorized.intends.runId.symm
  kind := authorized.permits.kind.trans authorized.intends.kind.symm
  target := authorized.permits.target.trans authorized.intends.target.symm
  inputFingerprint :=
    authorized.permits.inputFingerprint.trans authorized.intends.inputFingerprint.symm
  receiptId := authorized.permits.receiptId.trans authorized.receiptId.symm

/-- A consumption has the authority of the rows that the reservation names. -/
theorem Consumes.authority {t : ℕ → ℕ} {finish : ℕ} {args : EffectArguments}
    {reservation : ReservationRow} {runId : RunId} {approvalId : ApprovalId} {intentId : IntentId}
    {attempt : AttemptRow} (inv : Inv db) (ticks : Ticks t db.clock finish)
    (consumes : Consumes env.sql db t args reservation runId approvalId intentId)
    (invokeBy : attempt.claimExpiresAt = reservation.invokeBy)
    (timely : attempt.claimedAt < attempt.claimExpiresAt)
    (workerId : attempt.workerId = reservation.workerId) :
    ∃ intent, db.intent? intentId = some intent ∧
      ∃ approval ∈ db.approvals, ApprovedFor approval intent ∧
      ∃ run lease, db.run? intent.runId = some run ∧
        ConsumedUnder attempt reservation run lease intent approval := by
  have present := consumes.present
  obtain ⟨intent, approval, authorized⟩ := inv.bindings.reservations reservation present
  have waiting : Db.Waiting reservation db.clock :=
    ⟨consumes.reserved, Nat.lt_of_le_of_lt (ticks.later 1) consumes.live⟩
  obtain ⟨run, lease, found, owned, withinLease⟩ :=
    inv.owners reservation present (Or.inl waiting)
  obtain ⟨named, _, _, _, current⟩ := consumes.current
  have isNamed := current.found
  rw [← consumes.run, found, Option.some.injEq] at isNamed
  have mode := current.mode
  rw [← isNamed] at mode
  have within := authorized.permits.withinApproval
  rw [invokeBy] at timely
  refine ⟨intent, consumes.intent ▸ authorized.found, approval, authorized.approved,
    authorized.approvedFor, run, lease, authorized.intends.runId ▸ found, ?_⟩
  exact
    { approvalLive := Nat.lt_of_lt_of_le timely within
      leaseLive := Nat.lt_of_lt_of_le timely withinLease
      held := owned.held
      mode := mode
      allowed := owned.status.trans (authorized.allowed.trans (by rw [authorized.intends.kind]))
      workerId := owned.workerId.trans workerId.symm
      invokeBy := invokeBy
      withinLease := withinLease
      withinApproval := within }

/-- A step that brings a new attempt authorizes it. -/
theorem attempt_authorized (env : Environment) (inv : Inv db) (step : Step) {attempt : AttemptRow}
    (present : attempt ∈ (after env db step).attempts)
    (fresh : ∀ old ∈ db.attempts, old.id ≠ attempt.id) : Authorizes db step attempt := by
  obtain ⟨op, next, commit, state, isOp⟩ := after_commit env inv step
  have ticks := readings_ticks db step.delays
  rw [state] at present
  cases commit with
  | consumed consumes updated inserted =>
      rcases (Table.mem_insert inserted attempt).mp present with old | rfl
      · exact absurd rfl (fresh attempt old)
      · have timely := (Table.insert_fresh inserted).1.2.2.2.2
        obtain ⟨intent, isIntent, approval, isApproval, approved, run, lease, found, under⟩ :=
          consumes.authority inv ticks rfl timely rfl
        refine ⟨?_, rfl, _, consumes.present, rfl, consumes.reserved, intent, isIntent, approval,
          isApproval, approved, run, lease, found, under⟩
        rcases isOp with same | same
        · exact ⟨_, same.symm⟩
        · exact absurd rfl (fresh _ (same ▸ present))
  | succeeded holds ready succeeds =>
      obtain ⟨old, isOld, rfl⟩ := (Table.mem_update succeeds.updated attempt).mp present
      exact absurd (by split <;> rfl) (fresh old isOld)
  | ambiguous holds ready updated =>
      obtain ⟨old, isOld, rfl⟩ := (Table.mem_update updated attempt).mp present
      exact absurd (by split <;> rfl) (fresh old isOld)
  | applied reconciles outcome first inserted succeeds =>
      obtain ⟨old, isOld, rfl⟩ := (Table.mem_update succeeds.updated attempt).mp present
      exact absurd (by split <;> rfl) (fresh old isOld)
  | _ => exact absurd rfl (fresh attempt present)

/-- The rows of the effects of a run exist only for a live run. -/
structure OnlyLive (db : Db) (run : RunRow) : Prop where
  approvals : ∀ approval ∈ db.approvals, approval.runId = run.id → run.executionMode = .live
  intents : ∀ intent ∈ db.intents, intent.runId = run.id → run.executionMode = .live
  reservations : ∀ reservation ∈ db.reservations, reservation.runId = run.id →
    run.executionMode = .live
  attempts : ∀ attempt ∈ db.attempts, ∀ intent, db.intent? attempt.intentId = some intent →
    intent.runId = run.id → run.executionMode = .live

theorem Bindings.intent_live (bindings : Bindings db) {run : RunRow} (present : run ∈ db.runs)
    {intent : IntentRow} (isIntent : intent ∈ db.intents) (belongs : intent.runId = run.id) :
    run.executionMode = .live := by
  obtain ⟨owner, _, binds⟩ := bindings.intents intent isIntent
  have found := binds.found
  rw [belongs, Db.run?_of_mem present, Option.some.injEq] at found
  rw [found]
  exact binds.mode

theorem Bindings.onlyLive (bindings : Bindings db) {run : RunRow} (present : run ∈ db.runs) :
    OnlyLive db run where
  approvals := by
    intro approval isApproval belongs
    obtain ⟨owner, found, mode⟩ := bindings.approvals approval isApproval
    rw [belongs, Db.run?_of_mem present, Option.some.injEq] at found
    rw [found]
    exact mode
  intents := fun intent isIntent belongs => bindings.intent_live present isIntent belongs
  reservations := by
    intro reservation isReservation belongs
    obtain ⟨intent, _, authorized⟩ := bindings.reservations reservation isReservation
    exact bindings.intent_live present (Db.intent?_eq_some.mp authorized.found).1
      (authorized.intends.runId.trans belongs)
  attempts := fun attempt _ intent found belongs =>
    bindings.intent_live present (Db.intent?_eq_some.mp found).1 belongs

/-- The database has an attempt with the identity. -/
def Attempted (id : AttemptId) (db : Db) : Prop := ∃ attempt ∈ db.attempts, attempt.id = id

/-- The authority of an attempt does not depend on its outcome. -/
theorem Authorizes.later {step : Step} {created attempt : AttemptRow}
    (authorizes : Authorizes db step created)
    (identity : attempt = { created with state := attempt.state, updatedAt := attempt.updatedAt }) :
    Authorizes db step attempt := by
  obtain ⟨isOp, claimed, reservation, isReservation, names, reserved, intent, isIntent, approval,
    isApproval, approved, run, lease, found, under⟩ := authorizes
  rw [identity]
  exact ⟨isOp, claimed, reservation, isReservation, names, reserved, intent, isIntent, approval,
    isApproval, approved, run, lease, found,
    ⟨under.approvalLive, under.leaseLive, under.held, under.mode, under.allowed, under.workerId,
      under.invokeBy, under.withinLease, under.withinApproval⟩⟩

/-- In every run each attempt was created by a step that had the authority of a current approval,
and only live runs have approvals, intents, reservations or attempts. -/
theorem attempts_authorized (env : Environment) (clock : ℕ) (steps : List Step) :
    (∀ attempt ∈ (Runs.run (after env) (.migrated clock) steps).attempts,
      ∃ before step rest, steps = before ++ step :: rest ∧
        Authorizes (Runs.run (after env) (.migrated clock) before) step attempt) ∧
    ∀ run ∈ (Runs.run (after env) (.migrated clock) steps).runs,
      OnlyLive (Runs.run (after env) (.migrated clock) steps) run := by
  have start := migrated_inv clock
  refine ⟨?_, fun run present => (run_inv env start steps).bindings.onlyLive present⟩
  intro attempt present
  have initial : ¬ Attempted attempt.id (.migrated clock) := by
    rintro ⟨row, isRow, _⟩
    cases isRow
  have final : Attempted attempt.id (Runs.run (after env) (.migrated clock) steps) :=
    ⟨attempt, present, rfl⟩
  obtain ⟨before, step, rest, rfl, outside, created, isCreated, named⟩ :=
    Runs.run_entry initial final
  have inv := run_inv env start before
  have fresh : ∀ old ∈ (Runs.run (after env) (.migrated clock) before).attempts,
      old.id ≠ created.id := fun old isOld same => outside ⟨old, isOld, same.trans named⟩
  have authorizes := attempt_authorized env inv step isCreated fresh
  obtain ⟨later, isLater, identity⟩ := run_attempt env (after_inv inv step) rest isCreated
  rw [Runs.run_append, Runs.run_cons] at present
  have same : later.id = attempt.id := by
    rw [identity]
    exact named
  obtain rfl := attempt_unique isLater present same
  exact ⟨before, step, rest, rfl, authorizes.later identity⟩

end LineageGuard
