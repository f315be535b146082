import LineageGuard.Store.OutcomesKept
import LineageGuard.Store.HistoryKept
import Mathlib.Tactic

/-
This file shows that an effect in flight keeps its owner and that completed runs stay complete, and
it gathers the invariants of every reachable state.
-/

namespace LineageGuard

open Relational Attempt Store

section Owners

variable {env : Environment} {db next : Db} {t : ℕ → ℕ} {op : Op} {finish : ℕ}

/-- A reservation that blocks at a later time has blocked before. -/
theorem Db.Waiting.before {reservation : ReservationRow} {now later : ℕ}
    (waiting : Db.Waiting reservation later) (ordered : now ≤ later) :
    Db.Waiting reservation now := ⟨waiting.1, Nat.lt_of_le_of_lt ordered waiting.2⟩

/-- Outcomes are never removed, so an open effect was open before. -/
theorem Commit.unresolved_before (commit : Commit env db t op next) {reservation : ReservationRow}
    (isOpen : Db.Unresolved next reservation) : db.Unresolved reservation := by
  obtain ⟨attemptId, names, unreceived, unproved⟩ := isOpen
  exact ⟨attemptId, names, fun receipt present => unreceived receipt (commit.receipts_grow present),
    fun proof present => unproved proof (commit.reconciliations_grow present)⟩

theorem Blocks.active {reservation : ReservationRow} {now : ℕ}
    (present : reservation ∈ db.reservations)
    (blocks : Db.Waiting reservation now ∨ db.Unresolved reservation) :
    db.ActiveInvocation reservation.runId now := ⟨reservation, present, rfl, blocks⟩

/-- An owner that stays is still the owner that the reservation names. -/
theorem Owned.kept {old new : RunRow} {lease : RunLease} {reservation : ReservationRow}
    (owned : Owned old lease reservation) (keeps : KeepsOwner old new) :
    ∃ later, Owned new later reservation ∧ lease.expiresAt ≤ later.expiresAt := by
  obtain ⟨later, held, leaseId, workerId, expires⟩ := keeps.lease lease owned.held
  exact ⟨later, ⟨held, keeps.status.trans owned.status, leaseId.trans owned.leaseId,
    workerId.trans owned.workerId, keeps.generation.trans owned.generation⟩, expires⟩

/-- The owner columns of a reservation do not depend on its state. -/
theorem ReservationStep.owned {attempts : Table AttemptRow} {old new : ReservationRow}
    (step : ReservationStep t attempts old new) {run : RunRow} {lease : RunLease}
    (owned : Owned run lease old) :
    Owned run lease new ∧ new.runId = old.runId ∧ new.invokeBy = old.invokeBy := by
  obtain ⟨held, status, leaseId, workerId, generation⟩ := owned
  cases step <;> exact ⟨⟨held, status, leaseId, workerId, generation⟩, rfl, rfl⟩

/-- No operation changes runs and reservations together. -/
theorem Commit.runs_or_reservations (commit : Commit env db t op next) :
    next.runs = db.runs ∨ next.reservations = db.reservations := by
  cases commit <;> first | exact Or.inl rfl | exact Or.inr rfl

/-- A changed reservation that blocks after a step has blocked before it. -/
theorem Commit.blocked_before (commit : Commit env db t op next) (ticks : Ticks t db.clock finish)
    {old new : ReservationRow} (step : ReservationStep t next.attempts old new)
    (blocks : Db.Waiting new finish ∨ Db.Unresolved next new) : Blocks db old := by
  cases step with
  | same =>
      rcases blocks with waiting | isOpen
      · exact Or.inl (waiting.before (Nat.le_trans (ticks.later 0) (ticks.bounded 0)))
      · exact Or.inr (commit.unresolved_before isOpen)
  | consumed reserved live => exact Or.inl ⟨reserved, Nat.lt_of_le_of_lt (ticks.later 1) live⟩
  | cancelled reserved =>
      rcases blocks with ⟨state, _⟩ | ⟨_, names, _⟩
      · cases state
      · cases names

/-- A run under a reservation that blocks after a step keeps its owner in the step. -/
theorem Commit.keeps_owner (commit : Commit env db t op next) (ticks : Ticks t db.clock finish)
    {reservation : ReservationRow} (present : reservation ∈ db.reservations)
    (blocks : Db.Waiting reservation finish ∨ Db.Unresolved next reservation) {old new : RunRow}
    (same : old.id = reservation.runId) (step : RowStep db t old new) : KeepsOwner old new := by
  rcases step.owner with keeps | ⟨reading, free⟩
  · exact keeps
  · refine absurd ?_ free
    rw [same]
    refine Blocks.active present ?_
    rcases blocks with waiting | isOpen
    · exact Or.inl (waiting.before (ticks.bounded reading))
    · exact Or.inr (commit.unresolved_before isOpen)

theorem Reserves.owner {row : ReservationRow} {run : RunRow} {lease : RunLease}
    {intent : IntentRow} {validation : ValidationReceiptRow} {approval : ApprovalRow}
    (reserves : Reserves db t row run lease intent validation approval) :
    db.run? row.runId = some run ∧ Owned run lease row ∧ row.invokeBy ≤ lease.expiresAt :=
  ⟨reserves.found, reserves.owned, reserves.withinLease⟩

/-- Every operation keeps the owners. -/
theorem Commit.owners_kept (commit : Commit env db t op next) (ticks : Ticks t db.clock finish)
    (owners : Owners db) : Owners { next with clock := finish } := by
  intro new present blocks
  rcases commit.runs_or_reservations with sameRuns | sameReservations
  · have runs : ∀ id, Db.run? { next with clock := finish } id = db.run? id := by
      intro id
      simp only [Db.run?, sameRuns]
    rw [runs]
    rcases commit.reservation_origin present with ⟨old, isOld, step⟩ |
      ⟨run, lease, _, _, _, reserves⟩
    · obtain ⟨run, lease, found, owned, within⟩ :=
        owners old isOld (commit.blocked_before ticks step blocks)
      obtain ⟨isOwned, sameRun, sameTime⟩ := step.owned owned
      rw [sameRun, sameTime]
      exact ⟨run, lease, found, isOwned, within⟩
    · exact ⟨run, lease, reserves.owner⟩
  · have isOld : new ∈ db.reservations := sameReservations ▸ present
    obtain ⟨run, lease, found, owned, within⟩ :=
      owners new isOld (commit.blocked_before ticks .same blocks)
    obtain ⟨later, isLater, step⟩ := commit.runsStep.forward found
    have keeps := commit.keeps_owner ticks isOld blocks (Db.run?_eq_some.mp found).2 step
    obtain ⟨renewed, stillOwned, expires⟩ := owned.kept keeps
    exact ⟨later, renewed, isLater, stillOwned, Nat.le_trans within expires⟩

end Owners

section Flight

variable {db : Db}

/-- An attempt is open while no outcome has settled it. -/
def Pending (db : Db) (attempt : AttemptRow) : Prop :=
  attempt.state = .readyToInvoke ∨
    (attempt.state = .reconciliationRequired ∧ db.reconciliationOf? attempt.id = none)

instance (db : Db) (attempt : AttemptRow) : Decidable (Pending db attempt) :=
  inferInstanceAs (Decidable (_ ∨ _))

/-- The reservation of an open attempt is unresolved. -/
theorem Outcomes.unresolved (outcomes : Outcomes db) {attempt : AttemptRow}
    (present : attempt ∈ db.attempts) (pending : Pending db attempt) :
    ∃ reservation ∈ db.reservations, ∃ consumedAt, Invokes reservation attempt consumedAt ∧
      db.Unresolved reservation := by
  obtain ⟨reservation, isIn, consumedAt, invokes⟩ := outcomes.invoked attempt present
  refine ⟨reservation, isIn, consumedAt, invokes, attempt.id, by rw [invokes.state]; rfl, ?_, ?_⟩
  · have open' : attempt.state ≠ .succeeded := by
      rcases pending with ready | ⟨required, _⟩
      · simp [ready]
      · simp [required]
    intro receipt isReceipt same
    exact Db.receiptOf?_eq_none.mp (outcomes.receipt_none present open') receipt isReceipt
      (same.trans invokes.intentId)
  · rintro proof isProof ⟨same, outcome⟩
    rcases pending with ready | ⟨_, unproved⟩
    · have state := outcomes.proof_state present isProof same
      rw [ready, outcome] at state
      cases state
    · exact Db.reconciliationOf?_eq_none.mp unproved proof isProof same

/-- The run of an open attempt still has the owner of the consumption. -/
theorem Inv.pending_owner (inv : Inv db) {attempt : AttemptRow} (present : attempt ∈ db.attempts)
    (pending : Pending db attempt) :
    ∃ reservation ∈ db.reservations, ∃ consumedAt, Invokes reservation attempt consumedAt ∧
      ∃ run lease, db.run? reservation.runId = some run ∧ Owned run lease reservation := by
  obtain ⟨reservation, isIn, consumedAt, invokes, isOpen⟩ :=
    inv.outcomes.unresolved present pending
  obtain ⟨run, lease, found, owned, _⟩ := inv.owners reservation isIn (Or.inr isOpen)
  exact ⟨reservation, isIn, consumedAt, invokes, run, lease, found, owned⟩

end Flight

section Completions

variable {env : Environment} {db next : Db} {t : ℕ → ℕ} {op : Op} {finish : ℕ}

/-- A receipt of an old intent belongs to that intent. -/
theorem Bindings.intent_of (bindings : Bindings db) {receipt : ReceiptRow}
    (present : receipt ∈ db.receipts) : ∃ intent ∈ db.intents, intent.id = receipt.intentId := by
  obtain ⟨intent, receipts⟩ := bindings.receipts receipt present
  exact ⟨intent, Db.intent?_eq_some.mp receipts.found⟩

theorem intent_unique {first second : IntentRow} (isFirst : first ∈ db.intents)
    (isSecond : second ∈ db.intents) (same : first.id = second.id) : first = second :=
  Table.eq_of_conflict isFirst isSecond (Or.inl same)

/-- A receipt arrives only while its run has the status of its kind. -/
theorem Inv.receipt_status (inv : Inv db) {attempt : AttemptRow} {receipt : ReceiptRow}
    {intent : IntentRow} {updatedAt : ℕ} {receipts : Table ReceiptRow}
    {attempts : Table AttemptRow}
    (succeeds : Succeeds env db attempt receipt intent updatedAt receipts attempts)
    (pending : Pending db attempt) :
    ∃ run, db.run? intent.runId = some run ∧ run.status = effectState intent.kind := by
  obtain ⟨reservation, isIn, _, invokes, run, lease, found, owned⟩ :=
    inv.pending_owner succeeds.present pending
  obtain ⟨named, approval, authorized⟩ := inv.bindings.reservations reservation isIn
  have isIntent := succeeds.receipt.found
  rw [succeeds.intentId, ← invokes.intentId, authorized.found, Option.some.injEq] at isIntent
  subst isIntent
  rw [authorized.intends.runId, authorized.intends.kind, ← authorized.allowed]
  exact ⟨run, found, owned.status⟩

/-- The receipts of one kind do not change outside of the status of their kind. -/
theorem Commit.effectReceipt_kept (commit : Commit env db t op next) (inv : Inv db)
    {run : RunRow} (found : db.run? run.id = some run) {kind : EffectKind}
    (other : run.status ≠ effectState kind) (receipt : ReceiptRow) :
    EffectReceipt next run.id kind receipt ↔ EffectReceipt db run.id kind receipt := by
  constructor
  · rintro ⟨present, intent, isIntent, names, belongs, isKind⟩
    rcases commit.receipt_origin present with old | ⟨attempt, bound, _, _, _, succeeds, _, pending⟩
    · obtain ⟨known, isKnown, same⟩ := inv.bindings.intent_of old
      obtain rfl := intent_unique (commit.intents_grow isKnown) isIntent (same.trans names.symm)
      exact ⟨old, known, isKnown, names, belongs, isKind⟩
    · obtain ⟨isBound, boundId⟩ := Db.intent?_eq_some.mp succeeds.receipt.found
      obtain rfl := intent_unique (commit.intents_grow isBound) isIntent (boundId.trans names.symm)
      obtain ⟨owner, isOwner, status⟩ := inv.receipt_status succeeds pending
      rw [belongs, found, Option.some.injEq] at isOwner
      subst isOwner
      rw [isKind] at status
      exact absurd status other
  · rintro ⟨present, intent, isIntent, names, belongs, isKind⟩
    exact ⟨commit.receipts_grow present, intent, commit.intents_grow isIntent, names, belongs,
      isKind⟩

theorem OneEffect.kept {run : RunRow} {kind : EffectKind} (one : OneEffect db run.id kind)
    (commit : Commit env db t op next) (inv : Inv db) (found : db.run? run.id = some run)
    (other : run.status ≠ effectState kind) : OneEffect next run.id kind := by
  obtain ⟨receipt, unique⟩ := one
  exact ⟨receipt, fun candidate =>
    (commit.effectReceipt_kept inv found other candidate).trans (unique candidate)⟩

/-- Every receipt of a run counts as a bound effect. -/
theorem mem_boundEffects (bindings : Bindings db) {runId : RunId} {kind : EffectKind}
    (receipt : ReceiptRow) :
    EffectReceipt db runId kind receipt ↔
      receipt ∈ (boundEffects db runId kind).map (·.2.1) := by
  simp only [List.mem_map, boundEffects, List.mem_filter, decide_eq_true_eq]
  constructor
  · rintro ⟨present, intent, isIntent, names, belongs, isKind⟩
    obtain ⟨run, validation, binds⟩ := bindings.intents intent isIntent
    have latest := binds.latest
    rw [belongs] at latest
    refine ⟨(intent, receipt, validation), ⟨Db.mem_effects.mpr ⟨⟨isIntent, belongs, isKind⟩,
      ⟨present, names.symm⟩, (Db.latestValidation?_mem latest).1, binds.receiptId.symm⟩, ?_,
      binds.candidate, binds.artifacts⟩, rfl⟩
    rw [latest, Option.map_some]
  · rintro ⟨⟨intent, found, validation⟩, ⟨effect, _⟩, rfl⟩
    obtain ⟨⟨isIntent, belongs, isKind⟩, ⟨present, names⟩, _⟩ := Db.mem_effects.mp effect
    exact ⟨present, intent, isIntent, names.symm, belongs, isKind⟩

theorem oneEffect_of_length (bindings : Bindings db) {runId : RunId} {kind : EffectKind}
    (one : (boundEffects db runId kind).length = 1) : OneEffect db runId kind := by
  obtain ⟨effect, only⟩ := List.length_eq_one_iff.mp one
  refine ⟨effect.2.1, fun receipt => ?_⟩
  rw [mem_boundEffects bindings, only]
  simp

/-- The trigger accepts a completed status only with its receipts. -/
theorem enforceRunEffectCompletion_ok (bindings : Bindings db) {old new : RunRow}
    (accepted : enforceRunEffectCompletion db old new = .ok ())
    (changed : new.status ≠ old.status)
    (enters : new.status ∈ [.reviewArtifactCreated, .completed]) :
    new.executionMode = .live ∧ OneEffect db new.id .githubReview ∧
      (new.status = .completed → OneEffect db new.id .datahubWriteback) := by
  have checked := whenever_ok.mp accepted ⟨enters, changed⟩
  simp only [bind_ok, require_ok, whenever_ok] at checked
  obtain ⟨_, mode, _, github, completed⟩ := checked
  refine ⟨mode, oneEffect_of_length bindings github, fun isCompleted => ?_⟩
  obtain ⟨_, datahub, _⟩ := completed isCompleted
  exact oneEffect_of_length bindings datahub

/-- Outside a transition the status of a run stays, and a transition passes its triggers. -/
theorem Commit.status_change (commit : Commit env db t op next) {new : RunRow}
    (isNew : new ∈ next.runs) (entered : new.status ≠ .created) :
    ∃ old ∈ db.runs, new.id = old.id ∧ new.executionMode = old.executionMode ∧
      (new.status = old.status ∨ (isAdjacentRunStatus old.status new.status = true ∧
        enforceRunEffectCompletion db old new = .ok () ∧
        next.receipts = db.receipts ∧ next.intents = db.intents)) := by
  cases commit with
  | transitioned body fenced status listed prerequisites allowed appended rewritten =>
      obtain ⟨old, isOld, rfl⟩ := rewritten.mem.mp isNew
      refine ⟨old, isOld, ?_⟩
      split
      · next same =>
          obtain rfl := Option.some.inj ((same ▸ Db.run?_of_mem isOld).symm.trans fenced.found)
          have adjacent := appended.stored.adjacent
            (List.mem_append_right _ List.mem_cons_self) body
          rw [← status] at adjacent
          exact ⟨rfl, rfl, Or.inr ⟨adjacent, allowed.completion (by simp [transitionColumns]),
            rfl, rfl⟩⟩
      · exact ⟨rfl, rfl, Or.inl rfl⟩
  | created fresh mode inserted =>
      rcases (Table.mem_insert inserted new).mp isNew with old | rfl
      · exact ⟨new, old, rfl, rfl, Or.inl rfl⟩
      · exact absurd fresh.status entered
  | claimed positive selected appended free rewritten
  | renewed positive fenced held appended rewritten
  | released fenced free appended rewritten
  | retried fenced free appended rewritten
  | recorded guarded fenced bundles candidates rewritten
  | validated found mode validating belongs inserted rewritten
  | intended begins inserted rewritten =>
      obtain ⟨old, isOld, rfl⟩ := rewritten.mem.mp isNew
      exact ⟨old, isOld, by split <;> rfl, by split <;> rfl, Or.inl (by split <;> rfl)⟩
  | unchanged | approved | reserved | consumed | cancelled | succeeded | ambiguous | disproved
  | applied => exact ⟨new, isNew, rfl, rfl, Or.inl rfl⟩

/-- A run enters a reviewed status from a status that has its receipts or through the trigger. -/
theorem reviewed_entry {old new : RunStatus} (enters : new ∈ reviewed)
    (adjacent : isAdjacentRunStatus old new = true) :
    new ≠ old ∧ (new ∈ [.reviewArtifactCreated, .completed] ∨
      (old = .reviewArtifactCreated ∧ new = .writebackPending)) := by
  revert adjacent enters
  cases old <;> cases new <;> decide

theorem reviewed_effectState {status : RunStatus} (isReviewed : status ∈ reviewed) :
    status ≠ effectState .githubReview := by
  rintro rfl
  exact absurd isReviewed (by decide)

/-- The receipts of a run stay complete while the run keeps its status or moves on. -/
theorem Completions.kept_run (inv : Inv db) (commit : Commit env db t op next) {old new : RunRow}
    (isOld : old ∈ db.runs) (same : new.id = old.id) (mode : new.executionMode = old.executionMode)
    (isReviewed : old.status ∈ reviewed)
    (keeps : new.status = .completed → old.status = .completed) :
    new.executionMode = .live ∧ OneEffect next new.id .githubReview ∧
      (new.status = .completed → OneEffect next new.id .datahubWriteback) := by
  obtain ⟨live, github, datahub⟩ := inv.completions old isOld isReviewed
  have found := Db.run?_of_mem isOld
  rw [same]
  refine ⟨mode.trans live, github.kept commit inv found (reviewed_effectState isReviewed),
    fun completed => ?_⟩
  have isCompleted := keeps completed
  exact (datahub isCompleted).kept commit inv found (by rw [isCompleted]; decide)

/-- Every operation keeps the completions. -/
theorem Commit.completions_kept (commit : Commit env db t op next) (inv : Inv db) :
    Completions next := by
  intro new isNew isReviewed
  have entered : new.status ≠ .created := by
    intro created
    rw [created] at isReviewed
    exact absurd isReviewed (by decide)
  obtain ⟨old, isOld, same, mode, step⟩ := commit.status_change isNew entered
  rcases step with status | ⟨adjacent, accepted, receipts, intents⟩
  · exact Completions.kept_run inv commit isOld same mode (status ▸ isReviewed)
      (fun completed => status ▸ completed)
  · obtain ⟨changed, enters | ⟨before, after⟩⟩ := reviewed_entry isReviewed adjacent
    · obtain ⟨live, github, datahub⟩ :=
        enforceRunEffectCompletion_ok inv.bindings accepted changed enters
      have effects : ∀ kind, OneEffect next new.id kind = OneEffect db new.id kind := by
        intro kind
        simp only [OneEffect, EffectReceipt, receipts, intents]
      simp only [effects]
      exact ⟨live, github, datahub⟩
    · exact Completions.kept_run inv commit isOld same mode (by rw [before]; decide)
        (fun completed => by rw [after] at completed; cases completed)

end Completions

section Reachable

variable {env : Environment} {db : Db}

/-- The migrated database satisfies the invariants. -/
theorem migrated_inv (clock : ℕ) : Inv (.migrated clock) where
  history := by
    refine ⟨fun runId => Stored.nil runId, ?_, ?_, ?_, ?_⟩ <;>
      · intro row present
        cases present
  bindings := by
    refine ⟨?_, ?_, ?_, ?_, ?_⟩ <;>
      · intro row present
        cases present
  outcomes := by
    refine ⟨?_, ?_, ?_, ?_, ?_, ?_⟩ <;>
      · intro row present
        cases present
  owners := by
    intro row present
    cases present
  completions := by
    intro row present
    cases present

/-- A committed operation keeps the invariants while the clock moves on. -/
theorem Commit.inv_kept {next : Db} {t : ℕ → ℕ} {op : Op} {finish : ℕ}
    (commit : Commit env db t op next) (ticks : Ticks t db.clock finish) (inv : Inv db) :
    Inv { next with clock := finish } where
  history := commit.historyStep.kept_history commit.runsStep ticks inv.history
  bindings := by
    obtain ⟨intents, targets, approvals, reservations, receipts⟩ :=
      commit.bindings_kept inv.bindings
    refine ⟨?_, targets, approvals, ?_, ?_⟩
    · intro intent present
      obtain ⟨run, validation, found, mode, settled, latest, receiptId, candidate, artifacts⟩ :=
        intents intent present
      exact ⟨run, validation, found, mode, settled, latest, receiptId, candidate, artifacts⟩
    · intro row present
      obtain ⟨intent, approval, found, intends, receiptId, approved, permits, allowed⟩ :=
        reservations row present
      exact ⟨intent, approval, found, intends, receiptId, approved, permits, allowed⟩
    · intro row present
      obtain ⟨intent, found, binding, columns⟩ := receipts row present
      exact ⟨intent, found, binding, columns⟩
  outcomes := commit.outcomes_kept ticks inv.outcomes
  owners := commit.owners_kept ticks inv.owners
  completions := commit.completions_kept inv

/-- A step that fails only moves the clock. -/
theorem after_cases (env : Environment) (db : Db) (step : Step) :
    (∃ next, exec env db (readings db step.delays) step.op = .ok next ∧
        after env db step = { next with clock := db.clock + step.delays.sum }) ∨
      (¬ Commits env db step ∧ after env db step = { db with clock := db.clock + step.delays.sum }) := by
  unfold after Commits
  cases exec env db (readings db step.delays) step.op with
  | ok next => exact Or.inl ⟨next, rfl, rfl⟩
  | error failure => exact Or.inr ⟨by simp [Except.isOk, Except.toBool], rfl⟩

/-- Every step is a commit, possibly one that changes nothing. -/
theorem after_commit (env : Environment) (inv : Inv db) (step : Step) :
    ∃ op next, Commit env db (readings db step.delays) op next ∧
      after env db step = { next with clock := db.clock + step.delays.sum } ∧
      (op = step.op ∨ next = db) := by
  rcases after_cases env db step with ⟨next, done, state⟩ | ⟨_, state⟩
  · exact ⟨step.op, next, exec_commit inv.history inv.outcomes done, state, Or.inl rfl⟩
  · exact ⟨.claimDue [] "" 0 ⟨⟨0⟩, ⟨0⟩, ⟨0⟩⟩, db, .unchanged rfl, state, Or.inr rfl⟩

theorem after_inv (inv : Inv db) (step : Step) : Inv (after env db step) := by
  obtain ⟨op, next, commit, state, _⟩ := after_commit env inv step
  rw [state]
  exact commit.inv_kept (readings_ticks db step.delays) inv

/-- Every run keeps the invariants. -/
theorem run_inv (env : Environment) (inv : Inv db) (steps : List Step) :
    Inv (Runs.run (after env) db steps) := by
  have keeps : ∀ state step, Inv state → Inv (after env state step) :=
    fun state step inv => after_inv inv step
  exact Runs.run_keeps keeps inv steps

/-- Every reachable state satisfies the invariants. -/
theorem Reachable.inv (reached : Reachable env db) : Inv db := by
  obtain ⟨clock, reached⟩ := reached
  exact reached.invariant (migrated_inv clock) fun state step inv => after_inv inv step

theorem Reachable.after (reached : Reachable env db) (step : Step) :
    Reachable env (after env db step) := by
  obtain ⟨clock, reached⟩ := reached
  exact ⟨clock, reached.next step⟩

end Reachable

end LineageGuard
