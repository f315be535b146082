import LineageGuard.Guarantees.Outcome
import LineageGuard.Store.Evidence
import Mathlib.Tactic

/-
This file says when an effect that no outcome has settled can still be resolved after the lease of
its run has expired.
-/

namespace LineageGuard

open Relational Attempt Store

section Success

variable {env : Environment} {db : Db} {t : ℕ → ℕ}

/-- The stored validation of an intent still verifies, with the fingerprints of the intent. -/
def Verifiable (env : Environment) (db : Db) (intent : IntentRow) : Prop :=
  ∃ row validation,
    db.validationReceipts.find? (fun row =>
      row.id = intent.validationReceiptId ∧ row.runId = intent.runId) = some row ∧
    verifyValidation env db intent.runId row.payload false = .ok validation ∧
    intent.candidateFingerprint = validation.protectedHeaders.candidateFingerprint ∧
    intent.artifactSetFingerprint = validation.payload.artifactSetFingerprint

theorem SameEvidence.verifiable {next : Db} {intent : IntentRow}
    (same : SameEvidence db next intent.runId) :
    Verifiable env next intent ↔ Verifiable env db intent := by
  simp only [Verifiable, same.receipts, same.verifyValidation]

/-- An accepted receipt shows that the validation of its intent verifies. -/
theorem verifiable_of_accepted {intent : IntentRow} {payload : EffectReceiptPayload}
    {binding : ReceiptBindingPayload}
    (accepted : assertEffectReceiptPayload env db intent payload = .ok binding) :
    Verifiable env db intent := by
  simp only [assertEffectReceiptPayload, bind_ok, present_ok, require_ok] at accepted
  obtain ⟨_, _, row, found, validation, verified, _, _, _, ⟨_, candidate, artifacts⟩, _⟩ := accepted
  exact ⟨row, validation, found, verified, candidate, artifacts⟩

/-- This receipt repeats its intent. -/
def exactReceipt (intent : IntentRow) : EffectReceiptPayload where
  binding := some (intentBinding intent)
  document := ⟨0, 2⟩

theorem Verifiable.accepted {intent : IntentRow} (verifiable : Verifiable env db intent)
    (target : 1 ≤ utf16Length intent.target ∧ utf16Length intent.target ≤ 500) :
    assertEffectReceiptPayload env db intent (exactReceipt intent) =
      .ok (intentBinding intent) := by
  obtain ⟨row, validation, found, verified, candidate, artifacts⟩ := verifiable
  have named : row.id = intent.validationReceiptId := by
    have selected := List.find?_some found
    simp only [decide_eq_true_eq] at selected
    exact selected.1
  have expected : expectedBinding intent row.id validation = intentBinding intent := by
    simp only [expectedBinding, intentBinding, named, candidate, artifacts]
  have read : receiptBinding (exactReceipt intent) = .ok (intentBinding intent) := by
    simp only [receiptBinding, exactReceipt, bind_ok, present_ok, require_ok, pure_ok]
    exact ⟨_, rfl, (), target, rfl⟩
  simp only [assertEffectReceiptPayload, bind_ok, present_ok, require_ok, pure_ok]
  refine ⟨_, read, row, found, validation, verified, (), ?_, (), ?_, rfl⟩
  · rw [expected]
  · rw [expected]
    exact ⟨rfl, rfl, rfl⟩

/-- Some receipt identity is not in use. -/
theorem exists_fresh_receipt (db : Db) : ∃ id : ReceiptId, ∀ row ∈ db.receipts, row.id ≠ id := by
  refine ⟨⟨(db.receipts.rows.map (·.id.suffix)).sum + 1⟩, fun row present same => ?_⟩
  have below : row.id.suffix ≤ (db.receipts.rows.map (·.id.suffix)).sum :=
    List.le_sum_of_mem (List.mem_map_of_mem present)
  rw [same] at below
  exact absurd below (Nat.not_succ_le_self _)

/-- The attempts accept a new state of one of them. -/
theorem updateAttempt_moved (db : Db) {now : ℕ} {attempt : AttemptRow} {state : EffectAttemptState}
    {updatedAt : ℕ} (present : attempt ∈ db.attempts)
    (allowed : enforceEffectAttemptTransition db now attempt state updatedAt = .ok ()) :
    ∃ next, updateAttempt db now attempt.id state updatedAt = .ok next := by
  have safe : ∃ attempts, db.attempts.update (fun row => row.id = attempt.id)
      (fun row => { row with state := state, updatedAt := updatedAt }) = .ok attempts := by
    refine Table.update_of_safe (fun row isRow _ => db.attempts.checked row isRow) ?_
    intro left _ right _
    simp only [Schema.conflict]
    split <;> split <;> exact id
  obtain ⟨attempts, updated⟩ := safe
  exact ⟨_, (updateAttempt_ok (Db.attempt?_eq_some.mpr ⟨present, rfl⟩)).mpr
    ⟨allowed, attempts, updated, rfl⟩⟩

/-- The triggers accept the receipt that repeats the intent of a waiting attempt. -/
theorem Inv.insertReceipt_accepted (inv : Inv db) {attempt : AttemptRow}
    (present : attempt ∈ db.attempts) (ready : attempt.state = .readyToInvoke)
    {intent : IntentRow} (intended : db.intent? attempt.intentId = some intent) {id : ReceiptId}
    (fresh : ∀ row ∈ db.receipts, row.id ≠ id) :
    ∃ receipts, db.receipts.insert (receiptRowOf id attempt.intentId (exactReceipt intent)
        (intentBinding intent)) = .ok receipts ∧
      insertReceipt db (receiptRowOf id attempt.intentId (exactReceipt intent)
        (intentBinding intent)) = .ok { db with receipts := receipts } := by
  obtain ⟨isIntent, named⟩ := Db.intent?_eq_some.mp intended
  obtain ⟨reservation, isIn, consumedAt, invokes⟩ := inv.outcomes.invoked attempt present
  obtain ⟨run, validation, binds⟩ := inv.bindings.intents intent isIntent
  have absent := inv.outcomes.receipt_none present (by simp [ready])
  have unused : ∀ old ∈ db.receipts, ¬ Schema.conflict old (receiptRowOf id attempt.intentId
      (exactReceipt intent) (intentBinding intent)) := by
    rintro old isOld (same | same)
    · exact fresh old isOld same
    · exact Db.receiptOf?_eq_none.mp absent old isOld same
  obtain ⟨receipts, inserted, _⟩ := Table.insert_of_fresh trivial unused
  refine ⟨receipts, inserted, ?_⟩
  have outcome : enforceEffectOutcomeAuthority db .receipts attempt.intentId = .ok () := by
    refine require_ok.mpr ⟨attempt, inv.outcomes.latestAttempt present, ⟨reservation, ?_, ?_, ?_⟩,
      Or.inl ready⟩
    · exact Db.reservation?_eq_some.mpr ⟨isIn, invokes.id⟩
    · rw [invokes.state]
      rfl
    · rw [invokes.state]
      rfl
  have binding : enforceEffectReceiptPayloadBinding db (receiptRowOf id attempt.intentId
      (exactReceipt intent) (intentBinding intent)) = .ok () :=
    require_ok.mpr ⟨intent, intended, rfl, rfl, rfl, rfl, validation, binds.latest,
      binds.receiptId.symm, binds.candidate, binds.artifacts⟩
  have empty : db.receiptOf? (receiptRowOf id attempt.intentId (exactReceipt intent)
      (intentBinding intent)).intentId = none := absent
  simp only [insertReceipt, bind_ok]
  refine ⟨(), outcome, (), binding, ?_⟩
  rw [empty]
  simp only [bind_ok, write_ok, pure_ok]
  exact ⟨receipts, inserted, rfl⟩

/-- The worker of a waiting attempt can report a receipt that repeats a verifiable intent. -/
theorem Inv.success_accepted (inv : Inv db) {attempt : AttemptRow} (present : attempt ∈ db.attempts)
    (ready : attempt.state = .readyToInvoke) {intent : IntentRow}
    (intended : db.intent? attempt.intentId = some intent) (verifiable : Verifiable env db intent)
    {id : ReceiptId} (fresh : ∀ row ∈ db.receipts, row.id ≠ id) (later : db.clock ≤ t 1) :
    ∃ next receipt, recordEffectSuccess env db t
      ⟨attempt.id, attempt.workerId, attempt.fencingToken⟩ (exactReceipt intent) id =
        .ok (next, receipt) := by
  obtain ⟨isIntent, named⟩ := Db.intent?_eq_some.mp intended
  obtain ⟨reservation, isIn, consumedAt, invokes⟩ := inv.outcomes.invoked attempt present
  obtain ⟨receipts, inserted, received⟩ := inv.insertReceipt_accepted present ready intended fresh
  have absent := inv.outcomes.receipt_none present (by simp [ready])
  have names : reservation.state.attemptId = some attempt.id := by rw [invokes.state]; rfl
  have persisted : Db.receiptOf? { db with receipts := receipts } attempt.intentId =
      some (receiptRowOf id attempt.intentId (exactReceipt intent) (intentBinding intent)) :=
    Db.receiptOf?_eq_some.mpr ⟨(Table.mem_insert inserted _).mpr (Or.inr rfl), rfl⟩
  have moves : enforceEffectAttemptTransition { db with receipts := receipts } (t 0) attempt
      .succeeded (t 1) = .ok () := by
    simp only [enforceEffectAttemptTransition, bind_ok, require_ok]
    refine ⟨(), Nat.le_trans (inv.outcomes.stamped attempt present) later,
      Or.inr ⟨by simp [ready], trivial, _, (Table.mem_insert inserted _).mpr (Or.inr rfl), rfl⟩⟩
  obtain ⟨next, moved⟩ := updateAttempt_moved { db with receipts := receipts } present moves
  refine ⟨next, receiptRowOf id attempt.intentId (exactReceipt intent) (intentBinding intent), ?_⟩
  have short : canonical (exactReceipt intent).document 1048576 = .ok () :=
    require_ok.mpr (by simp [exactReceipt])
  have stored : storeReceipt db (receiptRowOf id attempt.intentId (exactReceipt intent)
      (intentBinding intent)) = .ok { db with receipts := receipts } := by
    have empty : db.receiptOf? (receiptRowOf id attempt.intentId (exactReceipt intent)
        (intentBinding intent)).intentId = none := absent
    simp only [storeReceipt, empty]
    exact received
  simp only [recordEffectSuccess, bind_ok, require_ok, present_ok]
  refine ⟨(), short, attempt, Db.attempt?_eq_some.mpr ⟨present, rfl⟩, intent, intended, (),
    ⟨reservation, Db.reservation?_eq_some.mpr ⟨isIn, invokes.id⟩, names,
      invokes.intentId.trans named.symm⟩, (), ⟨rfl, rfl⟩, (), by simp [ready], _,
    verifiable.accepted (inv.bindings.targets intent isIntent), _, stored, _, persisted, (), rfl,
    ?_⟩
  rw [if_neg (by simp [ready])]
  simp only [bind_ok, pure_ok]
  exact ⟨next, moved, rfl⟩

end Success

section Stranded

variable {env : Environment} {db : Db}

/-- The lease of the run has expired while an attempt is open whose worker cannot report a
receipt. -/
structure Stranded (env : Environment) (db : Db) (id : AttemptId) (intent : IntentRow)
    (run : RunRow) : Prop where
  intended : intent ∈ db.intents
  found : db.run? intent.runId = some run
  expired : ∀ lease ∈ run.lease, lease.expiresAt ≤ db.clock
  open' : ∃ attempt ∈ db.attempts, attempt.id = id ∧ attempt.intentId = intent.id ∧
    Pending db attempt ∧ (attempt.state = .readyToInvoke → ¬ Verifiable env db intent)

/-- The run of an open attempt is frozen in the status of its effect. -/
theorem Inv.pending_frozen (inv : Inv db) {attempt : AttemptRow} (present : attempt ∈ db.attempts)
    (pending : Pending db attempt) {intent : IntentRow} (intended : intent ∈ db.intents)
    (names : attempt.intentId = intent.id) {run : RunRow}
    (found : db.run? intent.runId = some run) :
    (∀ now, db.ActiveInvocation intent.runId now) ∧ run.status ≠ .validating := by
  obtain ⟨reservation, isIn, _, invokes, isOpen⟩ := inv.outcomes.unresolved present pending
  obtain ⟨bound, approval, authorized⟩ := inv.bindings.reservations reservation isIn
  obtain ⟨isBound, same⟩ := Db.intent?_eq_some.mp authorized.found
  obtain rfl := intent_unique isBound intended (same.trans (invokes.intentId.trans names))
  have belongs : reservation.runId = bound.runId := authorized.intends.runId.symm
  refine ⟨fun now => ⟨reservation, isIn, belongs, Or.inr isOpen⟩, ?_⟩
  obtain ⟨owner, lease, isOwner, owned, _⟩ := inv.owners reservation isIn (Or.inr isOpen)
  rw [belongs, found, Option.some.injEq] at isOwner
  subst isOwner
  rw [owned.status, authorized.allowed]
  exact pastValidation_validating (pastValidation_effectState _)

/-- An expired lease matches no guard. -/
theorem Store.GuardMatches.unexpired {run : RunRow} {guard : LeaseGuard} {start now : ℕ}
    (guarded : GuardMatches run guard now) (later : start ≤ now)
    (expired : ∀ lease ∈ run.lease, lease.expiresAt ≤ start) : False := by
  obtain ⟨lease, held, _, _, live⟩ := guarded.lease
  exact absurd live (Nat.not_lt.mpr (Nat.le_trans (expired lease held) later))

/-- No step helps a stranded effect. -/
theorem Stranded.step {id : AttemptId} {intent : IntentRow} {run : RunRow}
    (stranded : Stranded env db id intent run) (inv : Inv db) (step : Step) :
    Stranded env (after env db step) id intent run := by
  obtain ⟨op, next, commit, state, _⟩ := after_commit env inv step
  obtain ⟨intended, found, expired, attempt, present, rfl, names, pending, unverifiable⟩ := stranded
  have ticks := readings_ticks db step.delays
  obtain ⟨frozen, settled⟩ := inv.pending_frozen present pending intended names found
  have same : SameEvidence db next intent.runId := by
    rcases commit.evidence found with same | ⟨guard, guarded⟩ | ⟨reading, free⟩ | validating
    · exact same
    · exact (guarded.unexpired (ticks.later 0) expired).elim
    · exact absurd (frozen _) free
    · exact absurd validating settled
  rw [state]
  refine ⟨commit.intents_grow intended, same.run.trans found, fun lease held => ?_, ?_⟩
  · exact Nat.le_trans (expired lease held) (Nat.le_add_right _ _)
  · rcases commit.pending_kept inv.outcomes present pending with
      ⟨new, isNew, identity, sameIntent, stays, ready⟩ | ⟨bound, isBound, resolves⟩
    · refine ⟨new, isNew, identity, sameIntent.trans names, stays, fun isReady verifiable => ?_⟩
      exact unverifiable (ready isReady) (same.verifiable.mp verifiable)
    · obtain ⟨isIn, boundId⟩ := Db.intent?_eq_some.mp isBound
      obtain rfl := intent_unique isIn intended (boundId.trans names)
      rcases resolves with ⟨ready, _, _, accepted⟩ | ⟨guard, owner, fenced⟩
      · exact absurd (verifiable_of_accepted accepted) (unverifiable ready)
      · obtain rfl := Option.some.inj (fenced.found.symm.trans found)
        exact (fenced.guarded.unexpired (ticks.later 0) expired).elim

/-- No run of the store helps a stranded effect. -/
theorem Stranded.run {id : AttemptId} {intent : IntentRow} {run : RunRow}
    (stranded : Stranded env db id intent run) (inv : Inv db) (steps : List Step) :
    Stranded env (Runs.run (after env) db steps) id intent run := by
  have keeps : ∀ state step, Inv state ∧ Stranded env state id intent run →
      Inv (after env state step) ∧ Stranded env (after env state step) id intent run :=
    fun state step both => ⟨after_inv both.1 step, both.2.step both.1 step⟩
  exact (Runs.run_keeps keeps ⟨inv, stranded⟩ steps).2

end Stranded

section Resolution

variable {env : Environment} {db : Db}

/-- A consumed effect of the run is open and the lease of the run has expired. -/
structure Stalled (db : Db) (run : RunRow) (lease : RunLease) (reservation : ReservationRow)
    (attempt : AttemptRow) : Prop where
  isRun : run ∈ db.runs
  held : run.lease = some lease
  expired : lease.expiresAt ≤ db.clock
  reserved : reservation ∈ db.reservations
  owner : reservation.runId = run.id
  consumed : reservation.state.attemptId = some attempt.id
  present : attempt ∈ db.attempts
  pending : Pending db attempt

instance (db : Db) (run : RunRow) (lease : RunLease) (reservation : ReservationRow)
    (attempt : AttemptRow) : Decidable (Stalled db run lease reservation attempt) :=
  decidable_of_iff (run ∈ db.runs.rows ∧ run.lease = some lease ∧ lease.expiresAt ≤ db.clock ∧
      reservation ∈ db.reservations.rows ∧ reservation.runId = run.id ∧
      reservation.state.attemptId = some attempt.id ∧ attempt ∈ db.attempts.rows ∧
      Pending db attempt)
    ⟨fun ⟨isRun, held, expired, reserved, owner, consumed, present, pending⟩ =>
      ⟨isRun, held, expired, reserved, owner, consumed, present, pending⟩,
      fun ⟨isRun, held, expired, reserved, owner, consumed, present, pending⟩ =>
      ⟨isRun, held, expired, reserved, owner, consumed, present, pending⟩⟩

/-- An outcome has settled the attempt, and its reservation no longer freezes the run. -/
def Resolved (db : Db) (reservation : ReservationRow) (attempt : AttemptRow) : Prop :=
  ¬ db.Unresolved reservation ∧ ∃ later ∈ db.attempts, later.id = attempt.id ∧ ¬ Pending db later

theorem Stranded.unresolved {intent : IntentRow} {run : RunRow} {reservation : ReservationRow}
    {attempt : AttemptRow} (stranded : Stranded env db attempt.id intent run) :
    ¬ Resolved db reservation attempt := by
  rintro ⟨_, later, isLater, same, settled⟩
  obtain ⟨open', isOpen, id, _, pending, _⟩ := stranded.open'
  obtain rfl := attempt_unique isOpen isLater (id.trans same.symm)
  exact settled pending

/-- The reservation of a stalled effect names the attempt and its intent. -/
theorem Stalled.invokes {run : RunRow} {lease : RunLease} {reservation : ReservationRow}
    {attempt : AttemptRow} (stalled : Stalled db run lease reservation attempt) (inv : Inv db) :
    ∃ consumedAt intent, Invokes reservation attempt consumedAt ∧
      db.intent? attempt.intentId = some intent ∧ db.run? intent.runId = some run := by
  obtain ⟨named, isNamed, consumedAt, invokes⟩ := inv.outcomes.invoked attempt stalled.present
  have same : SamePresent named.state.attemptId reservation.state.attemptId := by
    rw [invokes.state, stalled.consumed]
    exact ⟨rfl, by simp [ReservationState.attemptId]⟩
  obtain rfl : named = reservation := Table.eq_of_conflict isNamed stalled.reserved
    (Or.inr (Or.inr (Or.inl same)))
  obtain ⟨intent, approval, authorized⟩ := inv.bindings.reservations named isNamed
  refine ⟨consumedAt, intent, invokes, ?_, ?_⟩
  · rw [← invokes.intentId]
    exact authorized.found
  · rw [authorized.intends.runId, stalled.owner]
    exact Db.run?_of_mem stalled.isRun

/-- The outcome that the worker of a waiting attempt reports resolves the effect. -/
theorem Stalled.resolved {run : RunRow} {lease : RunLease} {reservation : ReservationRow}
    {attempt : AttemptRow} (stalled : Stalled db run lease reservation attempt) (inv : Inv db)
    (ready : attempt.state = .readyToInvoke) {intent : IntentRow}
    (intended : db.intent? attempt.intentId = some intent) (verifiable : Verifiable env db intent) :
    ∃ step, Resolved (after env db step) reservation attempt := by
  obtain ⟨consumedAt, _, invokes, _, _⟩ := stalled.invokes inv
  obtain ⟨id, fresh⟩ := exists_fresh_receipt db
  have later : db.clock ≤ readings db [] 1 := (readings_ticks db []).later 1
  obtain ⟨next, receipt, done⟩ :=
    inv.success_accepted stalled.present ready intended verifiable fresh later
  refine ⟨⟨[], .recordEffectSuccess ⟨attempt.id, attempt.workerId, attempt.fencingToken⟩
    (exactReceipt intent) id⟩, ?_⟩
  have committed : exec env db (readings db []) (.recordEffectSuccess
      ⟨attempt.id, attempt.workerId, attempt.fencingToken⟩ (exactReceipt intent) id) =
      .ok next := by
    simp only [exec, map_fst_ok]
    exact ⟨receipt, done⟩
  simp only [after, committed]
  obtain ⟨moved, holds, ⟨succeeded, _⟩ | ⟨_, _, bound, receipts, attempts, succeeds, rfl⟩⟩ :=
    recordEffectSuccess_ok inv.outcomes done
  · obtain rfl := attempt_unique holds.present stalled.present
      (Db.attempt?_eq_some.mp holds.found).2
    rw [ready] at succeeded
    cases succeeded
  · obtain rfl := attempt_unique holds.present stalled.present
      (Db.attempt?_eq_some.mp holds.found).2
    constructor
    · rintro ⟨_, _, unreceived, _⟩
      exact unreceived receipt ((Table.mem_insert succeeds.inserted receipt).mpr (Or.inr rfl))
        (succeeds.intentId.trans invokes.intentId.symm)
    · refine ⟨_, (Table.mem_update succeeds.updated _).mpr ⟨moved, stalled.present, rfl⟩, ?_⟩
      rw [if_pos (by simp)]
      refine ⟨rfl, ?_⟩
      rintro (state | ⟨state, _⟩) <;> cases state

/-- A stalled effect is stranded unless its worker can report a receipt. -/
theorem Stalled.stranded {run : RunRow} {lease : RunLease} {reservation : ReservationRow}
    {attempt : AttemptRow} (stalled : Stalled db run lease reservation attempt) (inv : Inv db)
    (hopeless : attempt.state = .readyToInvoke → ∀ intent,
      db.intent? attempt.intentId = some intent → ¬ Verifiable env db intent) :
    ∃ intent, Stranded env db attempt.id intent run := by
  obtain ⟨_, intent, _, intended, found⟩ := stalled.invokes inv
  obtain ⟨isIntent, names⟩ := Db.intent?_eq_some.mp intended
  refine ⟨intent, isIntent, found, fun other isHeld => ?_, attempt, stalled.present, rfl,
    names.symm, stalled.pending, fun ready => hopeless ready intent intended⟩
  obtain rfl := Option.some.inj (stalled.held.symm.trans isHeld)
  exact stalled.expired

/-- An open effect of a run with an expired lease can be resolved exactly when its attempt still
waits for its outcome and its validation still verifies. -/
theorem stalled_effect_resolvable (reached : Reachable env db) {run : RunRow} {lease : RunLease}
    {reservation : ReservationRow} {attempt : AttemptRow}
    (stalled : Stalled db run lease reservation attempt) :
    (∃ steps, Resolved (Runs.run (after env) db steps) reservation attempt) ↔
      attempt.state = .readyToInvoke ∧
        ∃ intent, db.intent? attempt.intentId = some intent ∧ Verifiable env db intent := by
  have inv := reached.inv
  constructor
  · rintro ⟨steps, resolved⟩
    by_contra hopeless
    obtain ⟨intent, stranded⟩ := stalled.stranded inv fun ready intent intended verifiable =>
      hopeless ⟨ready, intent, intended, verifiable⟩
    exact (stranded.run inv steps).unresolved resolved
  · rintro ⟨ready, intent, intended, verifiable⟩
    obtain ⟨step, resolved⟩ := stalled.resolved inv ready intended verifiable
    exact ⟨[step], resolved⟩

end Resolution

section Sample

/-- Another worker asks for the sample run after its lease has expired. -/
def lateClaimStep : Step := ⟨[60000000], .claimDue [] "worker-2" 60000 ⟨⟨201⟩, ⟨202⟩, ⟨2⟩⟩⟩

def ambiguousStep : Step := sampleStep (.recordEffectAmbiguous ⟨⟨1⟩, "worker-1", ⟨1⟩⟩ ⟨12, 1⟩ ⟨1⟩)

/-- No steps resolve the ambiguous effect of the sample run after its lease has expired. -/
theorem ambiguous_effect_stranded :
    Reachable sampleEnvironment (sampleState (consumedSteps ++ [ambiguousStep, lateClaimStep])) ∧
    ∃ run lease reservation attempt,
      Stalled (sampleState (consumedSteps ++ [ambiguousStep, lateClaimStep])) run lease reservation
        attempt ∧
      ¬ ∃ steps, Resolved (Runs.run (after sampleEnvironment)
        (sampleState (consumedSteps ++ [ambiguousStep, lateClaimStep])) steps) reservation
        attempt := by
  have reached := sampleState_reachable (consumedSteps ++ [ambiguousStep, lateClaimStep])
  have start : ∃ run ∈ (sampleState (consumedSteps ++ [ambiguousStep, lateClaimStep])).runs,
      ∃ lease ∈ run.lease,
      ∃ reservation ∈ (sampleState (consumedSteps ++ [ambiguousStep, lateClaimStep])).reservations,
      ∃ attempt ∈ (sampleState (consumedSteps ++ [ambiguousStep, lateClaimStep])).attempts,
        Stalled (sampleState (consumedSteps ++ [ambiguousStep, lateClaimStep])) run lease
          reservation attempt ∧ attempt.state = .reconciliationRequired := by
    decide +kernel
  obtain ⟨run, _, lease, _, reservation, _, attempt, _, stalled, required⟩ := start
  refine ⟨reached, run, lease, reservation, attempt, stalled, ?_⟩
  rintro ⟨steps, resolved⟩
  have hopeless : attempt.state = .readyToInvoke → ∀ intent,
      (sampleState (consumedSteps ++ [ambiguousStep, lateClaimStep])).intent? attempt.intentId =
        some intent → ¬ Verifiable sampleEnvironment
          (sampleState (consumedSteps ++ [ambiguousStep, lateClaimStep])) intent := by
    intro ready
    rw [required] at ready
    cases ready
  obtain ⟨intent, stranded⟩ := stalled.stranded reached.inv hopeless
  exact (stranded.run reached.inv steps).unresolved resolved

/-- The waiting effect of the sample run can still be resolved. -/
theorem stalled_effect_resolvable_waiting :
    ∃ run lease reservation attempt,
      Stalled (sampleState (consumedSteps ++ [lateClaimStep])) run lease reservation attempt ∧
      ∃ steps, Resolved (Runs.run (after sampleEnvironment)
        (sampleState (consumedSteps ++ [lateClaimStep])) steps) reservation attempt := by
  have reached := sampleState_reachable (consumedSteps ++ [lateClaimStep])
  have start : ∃ run ∈ (sampleState (consumedSteps ++ [lateClaimStep])).runs,
      ∃ lease ∈ run.lease,
      ∃ reservation ∈ (sampleState (consumedSteps ++ [lateClaimStep])).reservations,
      ∃ attempt ∈ (sampleState (consumedSteps ++ [lateClaimStep])).attempts,
      ∃ intent ∈ (sampleState (consumedSteps ++ [lateClaimStep])).intent? attempt.intentId,
      ∃ row ∈ (sampleState (consumedSteps ++ [lateClaimStep])).validationReceipts.find? (fun row =>
          row.id = intent.validationReceiptId ∧ row.runId = intent.runId),
        Stalled (sampleState (consumedSteps ++ [lateClaimStep])) run lease reservation attempt ∧
        attempt.state = .readyToInvoke ∧
        (verifyValidation sampleEnvironment (sampleState (consumedSteps ++ [lateClaimStep]))
          intent.runId row.payload false).toOption = some sampleReceipt ∧
        intent.candidateFingerprint = sampleReceipt.protectedHeaders.candidateFingerprint ∧
        intent.artifactSetFingerprint = sampleReceipt.payload.artifactSetFingerprint := by
    decide +kernel
  obtain ⟨run, _, lease, _, reservation, _, attempt, _, intent, intended, row, found, stalled,
    ready, verified, candidate, artifacts⟩ := start
  refine ⟨run, lease, reservation, attempt, stalled,
    (stalled_effect_resolvable reached stalled).mpr ⟨ready, intent, intended, row, sampleReceipt,
      found, ?_, candidate, artifacts⟩⟩
  generalize verifyValidation sampleEnvironment (sampleState (consumedSteps ++ [lateClaimStep]))
    intent.runId row.payload false = result at verified ⊢
  cases result with
  | error failure => cases verified
  | ok validation =>
      obtain rfl := Option.some.inj verified
      rfl

end Sample

end LineageGuard
