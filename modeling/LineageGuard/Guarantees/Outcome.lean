import LineageGuard.Guarantees.Invocation
import Mathlib.Tactic

/-
This file shows that the outcome of an effect follows its state machine.
-/

namespace LineageGuard

open Relational Attempt Store

section Repeats

variable {env : Environment} {db next : Db} {t : ℕ → ℕ}

/-- Every attempt has the intent that its reservation names. -/
theorem Inv.attempt_intent (inv : Inv db) {attempt : AttemptRow} (present : attempt ∈ db.attempts) :
    ∃ intent reservation, db.intent? attempt.intentId = some intent ∧
      db.reservation? attempt.reservationId = some reservation ∧
      reservation.state.attemptId = some attempt.id ∧ reservation.intentId = intent.id := by
  obtain ⟨reservation, isIn, _, invokes⟩ := inv.outcomes.invoked attempt present
  obtain ⟨intent, _, authorized⟩ := inv.bindings.reservations reservation isIn
  have found := authorized.found
  rw [invokes.intentId] at found
  refine ⟨intent, reservation, found, Db.reservation?_eq_some.mpr ⟨isIn, invokes.id⟩, ?_, ?_⟩
  · rw [invokes.state]
    rfl
  · rw [invokes.intentId]
    exact (Db.intent?_eq_some.mp found).2.symm

/-- A repeated success returns the stored receipt exactly when its payload is the stored one and the
store still accepts it. -/
theorem recordEffectSuccess_repeat (inv : Inv db) {attempt : AttemptRow}
    (present : attempt ∈ db.attempts) (succeeded : attempt.state = .succeeded)
    {receipt : ReceiptRow} (isReceipt : receipt ∈ db.receipts)
    (belongs : receipt.intentId = attempt.intentId) {intent : IntentRow}
    (intended : db.intent? attempt.intentId = some intent) {input : AttemptFenceInput}
    (named : input.attemptId = attempt.id) {payload : EffectReceiptPayload} {id : ReceiptId}
    {stored : ReceiptRow} :
    recordEffectSuccess env db t input payload id = .ok (next, stored) ↔
      canonical payload.document 1048576 = .ok () ∧
      attempt.workerId = input.workerId ∧ attempt.fencingToken = input.fencingToken ∧
      (∃ binding, assertEffectReceiptPayload env db intent payload = .ok binding) ∧
      receipt.payload = payload ∧ next = db ∧ stored = receipt := by
  have found : db.attempt? input.attemptId = some attempt :=
    Db.attempt?_eq_some.mpr ⟨present, named.symm⟩
  have held : db.receiptOf? attempt.intentId = some receipt :=
    Db.receiptOf?_eq_some.mpr ⟨isReceipt, belongs⟩
  obtain ⟨same, reservation, isIntent, isReservation, names, reserved⟩ := inv.attempt_intent present
  obtain rfl := Option.some.inj (intended.symm.trans isIntent)
  have authority : ∃ reservation ∈ db.reservation? attempt.reservationId,
      reservation.state.attemptId = some attempt.id ∧ reservation.intentId = intent.id :=
    ⟨reservation, isReservation, names, reserved⟩
  simp only [recordEffectSuccess, found, intended, bind_ok, present_ok, require_ok,
    Option.some.injEq, exists_eq_left', storeReceipt, receiptRowOf, held, succeeded, if_true,
    pure_ok, Prod.mk.injEq, Except.ok.injEq]
  constructor
  · rintro ⟨_, short, _, _, _, ⟨worker, fence⟩, _, _, binding, accepted, _, payloads, rfl, rfl⟩
    exact ⟨short, worker, fence, ⟨binding, accepted⟩, payloads, rfl, rfl⟩
  · rintro ⟨short, worker, fence, ⟨binding, accepted⟩, payloads, rfl, rfl⟩
    exact ⟨(), short, (), authority, (), ⟨worker, fence⟩, (), by simp, binding, accepted, (),
      payloads, rfl, rfl⟩

end Repeats

section Machine

variable {env : Environment} {db next : Db} {t : ℕ → ℕ} {op : Op}

/-- Only a positive proof ends the wait of an attempt for its reconciliation. -/
inductive OutcomeEdge (proofs : Table ReconciliationRow) (id : AttemptId) :
    EffectAttemptState → EffectAttemptState → Prop
  | same (state : EffectAttemptState) : OutcomeEdge proofs id state state
  | succeeded : OutcomeEdge proofs id .readyToInvoke .succeeded
  | required : OutcomeEdge proofs id .readyToInvoke .reconciliationRequired
  | applied (proof : ∃ proof ∈ proofs, proof.attemptId = id ∧ proof.proofOutcome = .applied) :
      OutcomeEdge proofs id .reconciliationRequired .succeeded

theorem AttemptStep.edge {old new : AttemptRow} (step : AttemptStep db next t old new) :
    OutcomeEdge next.reconciliations old.id old.state new.state := by
  cases step with
  | same => exact .same _
  | received _ ready =>
      rw [ready]
      exact .succeeded
  | required _ ready =>
      rw [ready]
      exact .required
  | applied _ required _ _ proof =>
      rw [required]
      exact .applied proof

/-- These operations settle the outcome of an attempt. -/
def Op.isOutcome : Op → Bool
  | .recordEffectSuccess .. | .recordEffectAmbiguous .. | .reconcileEffectAttempt .. => true
  | _ => false

/-- The operation reports the payload as the receipt of the attempt. -/
def Op.Reports (attemptId : AttemptId) (payload : EffectReceiptPayload) : Op → Prop
  | .recordEffectSuccess input given _ => input.attemptId = attemptId ∧ given = payload
  | .reconcileEffectAttempt input _ _ => input.attempt.attemptId = attemptId ∧
      input.proofOutcome = .applied ∧ input.receipt = some payload
  | _ => False

/-- Only the clock and the rows of the outcomes differ. -/
def OutcomesOnly (db next : Db) : Prop :=
  next = { db with
    clock := next.clock, attempts := next.attempts, receipts := next.receipts
    failures := next.failures, reconciliations := next.reconciliations }

theorem OutcomesOnly.refl (db : Db) : OutcomesOnly db db := rfl

theorem OutcomesOnly.trans {middle : Db} (first : OutcomesOnly db middle)
    (second : OutcomesOnly middle next) : OutcomesOnly db next := by
  unfold OutcomesOnly at first second ⊢
  rw [first] at second
  exact second

/-- The check of a receipt reads no row of an outcome. -/
theorem OutcomesOnly.accepted (only : OutcomesOnly db next) (intent : IntentRow)
    (payload : EffectReceiptPayload) :
    assertEffectReceiptPayload env next intent payload =
      assertEffectReceiptPayload env db intent payload := by
  rw [only]
  rfl

theorem Commit.outcomesOnly (commit : Commit env db t op next) (isOutcome : op.isOutcome = true) :
    OutcomesOnly db next := by
  cases commit with
  | recorded guarded =>
      cases op with
      | recordEffectSuccess => cases guarded
      | recordEffectAmbiguous => cases guarded
      | reconcileEffectAttempt => cases guarded
      | _ => cases isOutcome
  | unchanged | succeeded | ambiguous | disproved | applied => rfl
  | _ => cases isOutcome

theorem after_outcomesOnly (env : Environment) (inv : Inv db) {step : Step}
    (isOutcome : step.op.isOutcome = true) : OutcomesOnly db (after env db step) := by
  obtain ⟨op, next, commit, state, rfl | rfl⟩ := after_commit env inv step
  · rw [state]
    exact (commit.outcomesOnly isOutcome).trans rfl
  · rw [state]
    rfl

/-- The receipt of an attempt is stored and the store still accepts it. -/
structure Settled (env : Environment) (db : Db) (attempt : AttemptRow) (intent : IntentRow)
    (receipt : ReceiptRow) : Prop where
  present : attempt ∈ db.attempts
  succeeded : attempt.state = .succeeded
  stored : receipt ∈ db.receipts
  belongs : receipt.intentId = attempt.intentId
  intended : db.intent? attempt.intentId = some intent
  short : canonical receipt.payload.document 1048576 = .ok ()
  accepted : ∃ binding, assertEffectReceiptPayload env db intent receipt.payload = .ok binding

/-- A settled attempt answers every repeat of its success with the stored receipt. -/
theorem Settled.repeats {attempt : AttemptRow} {intent : IntentRow} {receipt : ReceiptRow}
    (settled : Settled env db attempt intent receipt) (inv : Inv db) (t : ℕ → ℕ) (id : ReceiptId) :
    recordEffectSuccess env db t ⟨attempt.id, attempt.workerId, attempt.fencingToken⟩
      receipt.payload id = .ok (db, receipt) :=
  (recordEffectSuccess_repeat inv settled.present settled.succeeded settled.stored settled.belongs
    settled.intended rfl).mpr ⟨settled.short, rfl, rfl, settled.accepted, rfl, rfl, rfl⟩

/-- The later calls that settle outcomes leave a settled attempt settled. -/
theorem Settled.after {attempt : AttemptRow} {intent : IntentRow} {receipt : ReceiptRow}
    (settled : Settled env db attempt intent receipt) (inv : Inv db) {step : Step}
    (isOutcome : step.op.isOutcome = true) :
    Settled env (after env db step) attempt intent receipt := by
  have only := after_outcomesOnly env inv isOutcome
  obtain ⟨op, next, commit, state, _⟩ := after_commit env inv step
  obtain ⟨kept, isKept, move⟩ := commit.attempt_forward settled.present
  obtain rfl := move.of_succeeded settled.succeeded
  obtain ⟨binding, accepted⟩ := settled.accepted
  refine ⟨?_, settled.succeeded, ?_, settled.belongs, ?_, settled.short, binding, ?_⟩
  · rw [state]
    exact isKept
  · rw [state]
    exact commit.receipts_grow settled.stored
  · rw [state]
    exact commit.intent? settled.intended
  · rw [only.accepted]
    exact accepted

theorem Settled.run {attempt : AttemptRow} {intent : IntentRow} {receipt : ReceiptRow}
    (settled : Settled env db attempt intent receipt) (inv : Inv db) {steps : List Step}
    (outcomes : ∀ step ∈ steps, step.op.isOutcome = true) :
    Settled env (Runs.run (LineageGuard.after env) db steps) attempt intent receipt := by
  induction steps generalizing db with
  | nil => exact settled
  | cons step rest ih =>
      exact ih (settled.after inv (outcomes step List.mem_cons_self)) (after_inv inv step)
        fun later present => outcomes later (List.mem_cons_of_mem _ present)

/-- An attempt that succeeds is settled by the receipt that it stores. -/
theorem Store.Succeeds.settled {attempt : AttemptRow} {receipt : ReceiptRow} {intent : IntentRow}
    {updatedAt : ℕ} {receipts : Table ReceiptRow} {attempts : Table AttemptRow}
    (succeeds : Succeeds env db attempt receipt intent updatedAt receipts attempts)
    (only : OutcomesOnly db next) (sameAttempts : next.attempts = attempts)
    (sameReceipts : next.receipts = receipts) :
    Settled env next { attempt with state := .succeeded, updatedAt := updatedAt } intent receipt := by
  obtain ⟨binding, accepted⟩ := succeeds.accepted
  refine ⟨?_, rfl, ?_, succeeds.intentId, ?_, succeeds.short, binding, ?_⟩
  · rw [sameAttempts]
    refine (Table.mem_update succeeds.updated _).mpr ⟨attempt, succeeds.present, ?_⟩
    rw [if_pos (by simp)]
  · rw [sameReceipts]
    exact (Table.mem_insert succeeds.inserted receipt).mpr (Or.inr rfl)
  · have found := succeeds.receipt.found
    rw [succeeds.intentId] at found
    rw [only]
    exact found
  · rw [only.accepted]
    exact accepted

/-- A committed report settles its attempt with the payload that it reports. -/
theorem Op.Reports.settled (inv : Inv db) {attempt : AttemptRow} (present : attempt ∈ db.attempts)
    {payload : EffectReceiptPayload} {step : Step} (reports : step.op.Reports attempt.id payload)
    (commits : Commits env db step) :
    ∃ later intent receipt, Settled env (after env db step) later intent receipt ∧
      later = { attempt with state := later.state, updatedAt := later.updatedAt } ∧
      receipt.payload = payload := by
  obtain ⟨next, done, state⟩ | ⟨failed, _⟩ := after_cases env db step
  case inr => exact absurd commits failed
  obtain ⟨delays, op⟩ := step
  cases op with
  | recordEffectSuccess input given id =>
      obtain ⟨same, rfl⟩ := reports
      simp only [exec, map_fst_ok] at done
      obtain ⟨receipt, done⟩ := done
      obtain ⟨found, holds, ⟨succeeded, rfl, held, payloads⟩ | ⟨_, payloads, intent, receipts,
        attempts, succeeds, rfl⟩⟩ := recordEffectSuccess_ok inv.outcomes done
      · obtain rfl := attempt_unique holds.present present
          ((Db.attempt?_eq_some.mp holds.found).2.trans same)
        obtain ⟨isReceipt, belongs⟩ := Db.receiptOf?_eq_some.mp held
        obtain ⟨intent, _, intended, _⟩ := inv.attempt_intent present
        obtain ⟨short, _, _, accepted, _⟩ := (recordEffectSuccess_repeat inv present succeeded
          isReceipt belongs intended same).mp done
        subst payloads
        rw [state]
        exact ⟨found, intent, receipt,
          ⟨present, succeeded, isReceipt, belongs, intended, short, accepted⟩, rfl, rfl⟩
      · obtain rfl := attempt_unique holds.present present
          ((Db.attempt?_eq_some.mp holds.found).2.trans same)
        rw [state]
        exact ⟨_, intent, receipt, succeeds.settled rfl rfl rfl, rfl, payloads⟩
  | reconcileEffectAttempt input id receiptId =>
      obtain ⟨same, outcome, reported⟩ := reports
      simp only [exec, map_fst_ok] at done
      obtain ⟨changed, done⟩ := done
      obtain ⟨found, intent, run, reconciles, ⟨negative, _⟩ | ⟨_, reconciliations, _,
        ⟨negative, _⟩ | ⟨_, receipt, bound, receipts, attempts, given, succeeds, rfl⟩⟩⟩ :=
        reconcileEffectAttempt_ok inv.outcomes done
      · rw [outcome] at negative
        cases negative
      · rw [outcome] at negative
        cases negative
      · obtain rfl := attempt_unique reconciles.holds.present present
          ((Db.attempt?_eq_some.mp reconciles.holds.found).2.trans same)
        rw [state]
        exact ⟨_, bound, receipt, succeeds.settled rfl rfl rfl, rfl,
          Option.some.inj (given.symm.trans reported)⟩
  | _ => cases reports

/-- Every proof persists in every run. -/
theorem run_reconciliation (env : Environment) (inv : Inv db) (steps : List Step)
    {proof : ReconciliationRow} (present : proof ∈ db.reconciliations) :
    proof ∈ (Runs.run (after env) db steps).reconciliations := by
  induction steps generalizing db with
  | nil => exact present
  | cons step rest ih =>
      obtain ⟨op, next, commit, state, _⟩ := after_commit env inv step
      refine ih (after_inv inv step) ?_
      rw [state]
      exact commit.reconciliations_grow present

/-- A disproved effect has no receipt. -/
theorem Inv.disproved (inv : Inv db) {proof : ReconciliationRow}
    (isProof : proof ∈ db.reconciliations) (outcome : proof.proofOutcome = .notApplied)
    {attempt : AttemptRow} (present : attempt ∈ db.attempts) (same : proof.attemptId = attempt.id) :
    ∀ receipt ∈ db.receipts, receipt.intentId ≠ attempt.intentId := by
  have state := inv.outcomes.proof_state present isProof same
  rw [outcome] at state
  exact Db.receiptOf?_eq_none.mp
    (inv.outcomes.receipt_none present (by rw [state]; decide))

/-- These are the properties of the outcome of one attempt. -/
structure OutcomeMachine (env : Environment) (db : Db) (attempt : AttemptRow) : Prop where
  moves : ∀ step, ∃ later ∈ (after env db step).attempts, later.id = attempt.id ∧
    OutcomeEdge (after env db step).reconciliations attempt.id attempt.state later.state
  receipt : (∃ receipt ∈ db.receipts, receipt.intentId = attempt.intentId) ↔
    attempt.state = .succeeded
  disproved : ∀ proof ∈ db.reconciliations, proof.attemptId = attempt.id →
    proof.proofOutcome = .notApplied → ∀ steps,
      ∀ receipt ∈ (Runs.run (after env) db steps).receipts, receipt.intentId ≠ attempt.intentId
  proof : ∀ steps, ∀ first ∈ db.reconciliations,
    ∀ second ∈ (Runs.run (after env) db steps).reconciliations,
      first.attemptId = attempt.id → second.attemptId = attempt.id → first = second
  repeats : ∀ step payload, step.op.Reports attempt.id payload → Commits env db step →
    ∃ receipt, receipt.intentId = attempt.intentId ∧ receipt.payload = payload ∧
      ∀ outcomes : List Step, (∀ outcome ∈ outcomes, outcome.op.isOutcome = true) → ∀ t id,
        receipt ∈ (Runs.run (after env) db (step :: outcomes)).receipts ∧
        recordEffectSuccess env (Runs.run (after env) db (step :: outcomes)) t
          ⟨attempt.id, attempt.workerId, attempt.fencingToken⟩ payload id =
            .ok (Runs.run (after env) db (step :: outcomes), receipt)
  conflicts : attempt.state = .succeeded → ∀ receipt ∈ db.receipts,
    receipt.intentId = attempt.intentId → ∀ input payload id delays,
      input.attemptId = attempt.id → payload ≠ receipt.payload →
        ¬ Commits env db ⟨delays, .recordEffectSuccess input payload id⟩ ∧
        after env db ⟨delays, .recordEffectSuccess input payload id⟩ =
          { db with clock := db.clock + delays.sum }

theorem Inv.outcomeMachine (env : Environment) (inv : Inv db) {attempt : AttemptRow}
    (present : attempt ∈ db.attempts) : OutcomeMachine env db attempt where
  moves := by
    intro step
    obtain ⟨op, next, commit, state, _⟩ := after_commit env inv step
    obtain ⟨later, isLater, move⟩ := commit.attempt_forward present
    rw [state]
    exact ⟨later, isLater, by rw [move.identity], move.edge⟩
  receipt := by
    constructor
    · rintro ⟨receipt, isReceipt, belongs⟩
      obtain ⟨found, isFound, same, state⟩ := inv.outcomes.received receipt isReceipt
      rw [← inv.outcomes.attempt_unique isFound present (same.trans belongs)]
      exact state
    · intro succeeded
      obtain ⟨receipt, held⟩ :=
        Option.ne_none_iff_exists'.mp (inv.outcomes.succeeded attempt present succeeded)
      exact ⟨receipt, Db.receiptOf?_eq_some.mp held⟩
  disproved := by
    intro proof isProof same outcome steps receipt isReceipt
    obtain ⟨later, isLater, identity⟩ := run_attempt env inv steps present
    have named : proof.attemptId = later.id := by
      rw [identity]
      exact same
    have absent := (run_inv env inv steps).disproved (run_reconciliation env inv steps isProof)
      outcome isLater named receipt isReceipt
    rw [identity] at absent
    exact absent
  proof := by
    intro steps first isFirst second isSecond firstIs secondIs
    exact Table.eq_of_conflict (run_reconciliation env inv steps isFirst) isSecond
      (Or.inr (firstIs.trans secondIs.symm))
  repeats := by
    intro step payload reports commits
    obtain ⟨later, intent, receipt, settled, same, rfl⟩ := reports.settled inv present commits
    have belongs := settled.belongs
    rw [same] at belongs
    refine ⟨receipt, belongs, rfl, fun outcomes areOutcomes t id => ?_⟩
    have next : Inv (after env db step) := after_inv inv step
    have stays := settled.run next areOutcomes
    refine ⟨stays.stored, ?_⟩
    have answer := stays.repeats (run_inv env next outcomes) t id
    rw [same] at answer
    exact answer
  conflicts := by
    intro succeeded receipt isReceipt belongs input payload id delays named different
    rcases after_cases env db ⟨delays, .recordEffectSuccess input payload id⟩ with
      ⟨next, done, _⟩ | ⟨failed, state⟩
    · simp only [exec, map_fst_ok] at done
      obtain ⟨stored, done⟩ := done
      obtain ⟨intent, _, intended, _⟩ := inv.attempt_intent present
      obtain ⟨_, _, _, _, payloads, _⟩ := (recordEffectSuccess_repeat inv present succeeded
        isReceipt belongs intended named).mp done
      exact absurd payloads.symm different
    · exact ⟨failed, state⟩

/-- Every attempt of a reachable state starts ready and follows the state machine of its outcome. -/
theorem outcome_machine (reached : Reachable env db) :
    (∀ attempt ∈ db.attempts, OutcomeMachine env db attempt) ∧
    ∀ step, ∀ new ∈ (after env db step).attempts,
      (∀ old ∈ db.attempts, old.id ≠ new.id) → new.state = .readyToInvoke := by
  have inv := reached.inv
  refine ⟨fun attempt present => inv.outcomeMachine env present, ?_⟩
  intro step new isNew fresh
  obtain ⟨op, next, commit, state, _⟩ := after_commit env inv step
  rw [state] at isNew
  rcases commit.attempt_origin (readings_ticks db step.delays) isNew with ⟨old, isOld, move⟩ |
    ⟨_, _, _, ready, _⟩
  · refine absurd ?_ (fresh old isOld)
    rw [move.identity]
  · exact ready

end Machine

section Sample

/-- Every step of the sample run takes one millisecond. -/
def sampleStep (op : Op) : Step := ⟨[1000], op⟩

def claimStep (workerId : String) (leaseId : LeaseId) : Step :=
  sampleStep (.claimDue [] workerId 60000 ⟨⟨0⟩, ⟨1⟩, leaseId⟩)

def transitionStep (sequence version : ℕ) (source target : RunStatus) : Step :=
  sampleStep (.transition ⟨0, 300⟩
    { eventId := ⟨100 + sequence⟩, runId := ⟨1⟩, sequence, occurredAt := toISOString 0
      leaseId := ⟨1⟩, workerId := "worker-1", generation := 1
      body := .statusChanged source target none } version)

def sampleGuard (version : ℕ) : LeaseGuard := ⟨⟨1⟩, "worker-1", 1, version⟩

def sampleReceipt : SignedLiveValidationReceipt where
  protectedHeaders := ⟨⟨1⟩, ⟨1⟩, "worker-1", 1, ⟨2⟩, ⟨9⟩, .ed25519⟩
  payload := ⟨⟨5⟩, toISOString 0⟩
  document := ⟨3, 1⟩

/-- The sample run reaches its validation. -/
def validatedSteps : List Step :=
  [createStep, claimStep "worker-1" ⟨1⟩,
    transitionStep 1 1 .created .changeParsed,
    transitionStep 2 2 .changeParsed .baselineAssessed,
    transitionStep 3 3 .baselineAssessed .contextCollecting,
    transitionStep 4 4 .contextCollecting .contextCollected,
    transitionStep 5 5 .contextCollected .riskDecided,
    transitionStep 6 6 .riskDecided .migrationPlanned,
    transitionStep 7 7 .migrationPlanned .patchGenerated,
    transitionStep 8 8 .patchGenerated .validating,
    sampleStep (.appendImpactCollectionResult ⟨1⟩ (sampleGuard 9) (.collected sampleContext) ⟨1⟩),
    sampleStep (.appendMigrationCandidate ⟨1⟩ (sampleGuard 10) ⟨⟨1⟩, ⟨2, 1⟩⟩ ⟨1⟩),
    sampleStep (.issueAndStoreValidationReceipt
      ⟨⟨1⟩, ⟨1⟩, ⟨9⟩, ⟨2⟩, ⟨1⟩, ⟨1⟩, "worker-1", 1⟩ fun _ _ => sampleReceipt),
    transitionStep 9 12 .validating .validated]

def sampleRequest : ApprovalRequest := ⟨⟨1⟩, .githubReview, "repository-1", ⟨7⟩⟩

def sampleAssertion : EffectApprovalAssertion where
  protectedHeaders := ⟨2, "LINEAGEGUARD_EFFECT_APPROVAL", .ed25519, "issuer", "key", "nonce"⟩
  payload := canonicalApprovalPayload sampleRequest ⟨3⟩ ⟨3⟩ 0 "approver-1" 10 1000000
  signedPayloadFingerprint := ⟨10000⟩
  signature := "aaaaaaaaaaaaaaaaaaaaaaaaaaaaaaaa"

def reserveArguments : ReserveArguments where
  id := some ⟨1⟩
  runId := some ⟨1⟩
  intentId := some ⟨1⟩
  idempotencyKey := some "key-1"
  kind := some .githubReview
  target := some "repository-1"
  inputFingerprint := some ⟨7⟩
  validationReceiptId := some ⟨3⟩
  validationReceiptFingerprint := some ⟨3⟩
  approvalId := some ⟨1⟩
  approvalFingerprint := some ⟨10000⟩
  eventPrefixFingerprint := some ⟨10⟩
  leaseId := some ⟨1⟩
  workerId := some "worker-1"
  generation := some 1
  expectedVersion := some 14
  tokenHash := some ⟨8⟩
  invokeBy := some 50000000

def effectArguments : EffectArguments where
  id := some ⟨1⟩
  tokenHash := some ⟨8⟩
  runId := some ⟨1⟩
  intentId := some ⟨1⟩
  idempotencyKey := some "key-1"
  kind := some .githubReview
  target := some "repository-1"
  canonicalEffectFingerprint := some ⟨7⟩
  validationReceiptId := some ⟨3⟩
  validationReceiptFingerprint := some ⟨3⟩
  approvalId := some ⟨1⟩
  approvalFingerprint := some ⟨10000⟩
  intentFingerprint := some ⟨7⟩

/-- The validated run reserves the invocation of its review. -/
def reservedSteps : List Step := validatedSteps ++
  [sampleStep (.recordEffectApproval
      ⟨sampleRequest, sampleGuard 13, "approver-1", 10, 1000000, sampleAssertion⟩ ⟨1⟩),
    sampleStep (.beginEffect ⟨sampleRequest, sampleGuard 13, "key-1", ⟨7, 1⟩⟩ ⟨1⟩),
    sampleStep (.effectReserveCurrent reserveArguments)]

def consumeStep : Step := sampleStep (.effectConsumeCurrent effectArguments ⟨1⟩ ⟨1⟩)

def consumedSteps : List Step := reservedSteps ++ [consumeStep]

def effectReceipt : EffectReceiptPayload where
  binding := some ⟨⟨1⟩, ⟨1⟩, .githubReview, "repository-1", ⟨7⟩, ⟨3⟩, ⟨2⟩, ⟨5⟩⟩
  document := ⟨11, 1⟩

def succeededSteps : List Step :=
  consumedSteps ++ [sampleStep (.recordEffectSuccess ⟨⟨1⟩, "worker-1", ⟨1⟩⟩ effectReceipt ⟨1⟩)]

theorem outcome_machine_succeeded : ∃ attempt ∈ (sampleState succeededSteps).attempts,
    attempt.state = .succeeded ∧
      OutcomeMachine sampleEnvironment (sampleState succeededSteps) attempt := by
  have present : ∃ attempt ∈ (sampleState succeededSteps).attempts, attempt.state = .succeeded := by
    decide +kernel
  obtain ⟨attempt, isAttempt, state⟩ := present
  exact ⟨attempt, isAttempt, state,
    (outcome_machine (sampleState_reachable succeededSteps)).1 attempt isAttempt⟩

end Sample

end LineageGuard
