import LineageGuard.Store.Effects
import LineageGuard.Store.Invariants
import LineageGuard.Store.RunSteps
import Mathlib.Tactic

/-
This file says what the operations on the effects of a run commit.
-/

namespace LineageGuard

open Relational Attempt

section Statements

/-- An attempt that a consumed reservation names. -/
def Backed (db : Db) (attempt : AttemptRow) : Prop :=
  ∃ reservation, db.reservation? attempt.reservationId = some reservation ∧
    reservation.state.attemptId = some attempt.id ∧
    reservation.state.attemptFence = some attempt.fencingToken

/-- The triggers of a receipt have accepted its row. -/
structure ReceiptAllowed (db : Db) (row : ReceiptRow) (attempt : AttemptRow)
    (intent : IntentRow) : Prop where
  latest : db.latestAttempt? row.intentId = some attempt
  backed : Backed db attempt
  pending : attempt.state = .readyToInvoke ∨ (attempt.state = .reconciliationRequired ∧
    (db.reconciliationOf? attempt.id).map (·.proofOutcome) ≠ some .notApplied)
  receipt : Receipts db row intent
  current : ∃ validation, db.latestValidation? intent.runId = some validation ∧
    validation.id = intent.validationReceiptId ∧
    intent.candidateFingerprint = validation.payload.protectedHeaders.candidateFingerprint ∧
    intent.artifactSetFingerprint = validation.payload.payload.artifactSetFingerprint

theorem enforceEffectOutcomeAuthority_ok {db : Db} {table : OutcomeTable} {intentId : IntentId}
    (accepted : enforceEffectOutcomeAuthority db table intentId = .ok ()) :
    ∃ attempt, db.latestAttempt? intentId = some attempt ∧ Backed db attempt ∧
      (attempt.state = .readyToInvoke ∨
        (table = .receipts ∧ attempt.state = .reconciliationRequired ∧
          (db.reconciliationOf? attempt.id).map (·.proofOutcome) ≠ some .notApplied)) := by
  simp only [enforceEffectOutcomeAuthority, require_ok, Option.mem_def] at accepted
  obtain ⟨attempt, latest, ⟨reservation, found, authority⟩, state⟩ := accepted
  exact ⟨attempt, latest, ⟨reservation, found, authority⟩, state⟩

/-- A receipt that commits has passed its triggers, and it is new unless its intent has one. -/
theorem insertReceipt_ok {db next : Db} {row : ReceiptRow}
    (inserted : insertReceipt db row = .ok next) :
    ∃ attempt intent, ReceiptAllowed db row attempt intent ∧
      ((db.receiptOf? row.intentId ≠ none ∧ next = db) ∨
        ∃ receipts, db.receipts.insert row = .ok receipts ∧
          next = { db with receipts := receipts }) := by
  simp only [insertReceipt, enforceEffectReceiptPayloadBinding, bind_ok, require_ok,
    Option.mem_def] at inserted
  obtain ⟨_, outcome, _, ⟨intent, found, binding, receiptId, candidate, artifacts, validation,
    latest, current⟩, inserted⟩ := inserted
  obtain ⟨attempt, isLatest, backed, state⟩ := enforceEffectOutcomeAuthority_ok outcome
  refine ⟨attempt, intent, ⟨isLatest, backed, ?_, ⟨found, binding, ?_⟩, validation, latest,
    current⟩, ?_⟩
  · simpa using state
  · rw [receiptColumns, receiptId, candidate, artifacts]
  · split at inserted
    · next old isOld =>
        simp only [pure_ok] at inserted
        exact Or.inl ⟨by simp [isOld], inserted.symm⟩
    · simp only [bind_ok, write_ok, pure_ok] at inserted
      obtain ⟨receipts, isInserted, rfl⟩ := inserted
      exact Or.inr ⟨receipts, isInserted, rfl⟩

theorem updateAttempt_ok {db next : Db} {now : ℕ} {old : AttemptRow} {state : EffectAttemptState}
    {updatedAt : ℕ} (found : db.attempt? old.id = some old) :
    updateAttempt db now old.id state updatedAt = .ok next ↔
      enforceEffectAttemptTransition db now old state updatedAt = .ok () ∧
      ∃ attempts, db.attempts.update (fun row => row.id = old.id)
          (fun row => { row with state := state, updatedAt := updatedAt }) = .ok attempts ∧
        next = { db with attempts := attempts } := by
  simp only [updateAttempt, found, bind_ok, write_ok, pure_ok]
  constructor
  · rintro ⟨_, accepted, attempts, updated, rfl⟩
    exact ⟨accepted, attempts, updated, rfl⟩
  · rintro ⟨accepted, attempts, updated, rfl⟩
    exact ⟨(), accepted, attempts, updated, rfl⟩

/-- A committed update of an attempt that exists has rewritten it. -/
theorem updateAttempt_some {db next : Db} {now : ℕ} {old : AttemptRow} {state : EffectAttemptState}
    {updatedAt : ℕ} (done : updateAttempt db now old.id state updatedAt = .ok next)
    (present : old ∈ db.attempts) :
    ∃ attempts, db.attempts.update (fun row => row.id = old.id)
        (fun row => { row with state := state, updatedAt := updatedAt }) = .ok attempts ∧
      next = { db with attempts := attempts } :=
  ((updateAttempt_ok (Db.attempt?_eq_some.mpr ⟨present, rfl⟩)).mp done).2

theorem insertFailure_ok {db next : Db} {row : FailureRow}
    (inserted : insertFailure db row = .ok next) :
    ∃ failures, next = { db with failures := failures } := by
  simp only [insertFailure, bind_ok, write_ok, pure_ok] at inserted
  obtain ⟨_, _, failures, _, rfl⟩ := inserted
  exact ⟨failures, rfl⟩

theorem insertReconciliation_ok {db next : Db} {row : ReconciliationRow}
    (inserted : insertReconciliation db row = .ok next) :
    (db.reconciliationOf? row.attemptId ≠ none ∧ next = db) ∨
      (db.reconciliationOf? row.attemptId = none ∧
        ∃ reconciliations, db.reconciliations.insert row = .ok reconciliations ∧
          next = { db with reconciliations := reconciliations }) := by
  simp only [insertReconciliation, bind_ok] at inserted
  obtain ⟨_, _, inserted⟩ := inserted
  split at inserted
  · next old isOld =>
      simp only [pure_ok] at inserted
      exact Or.inl ⟨by simp [isOld], inserted.symm⟩
  · next absent =>
      simp only [bind_ok, write_ok, pure_ok] at inserted
      obtain ⟨reconciliations, isInserted, rfl⟩ := inserted
      exact Or.inr ⟨absent, reconciliations, isInserted, rfl⟩

end Statements

namespace Store

section Authority

/-- A new intent binds the current rows of its run. -/
structure Begins (db : Db) (t : ℕ → ℕ) (input : EffectInput) (row : IntentRow) (run : RunRow)
    (validation : ValidationReceiptRow) : Prop where
  fenced : Fenced db (t 0) input.request.runId input.guard run
  mode : run.executionMode = .live
  allowed : run.status = effectState row.kind
  runId : row.runId = input.request.runId
  target : 1 ≤ utf16Length row.target ∧ utf16Length row.target ≤ 500
  latest : db.latestValidation? row.runId = some validation
  receiptId : row.validationReceiptId = validation.id
  candidate : row.candidateFingerprint = validation.payload.protectedHeaders.candidateFingerprint
  artifacts : row.artifactSetFingerprint = validation.payload.payload.artifactSetFingerprint

theorem effectInsertIntent_ok {db next : Db} {t : ℕ → ℕ} {row : IntentRow} {guard : LeaseGuard}
    (inserted : effectInsertIntent db t row guard = .ok next) :
    (∃ validation, db.latestValidation? row.runId = some validation ∧
      row.validationReceiptId = validation.id ∧
      row.candidateFingerprint = validation.payload.protectedHeaders.candidateFingerprint ∧
      row.artifactSetFingerprint = validation.payload.payload.artifactSetFingerprint) ∧
    ∃ intents runs, db.intents.insert row = .ok intents ∧
      Rewritten db.runs runs row.runId (RunRow.bumped (t 1)) ∧
      next = { db with runs := runs, intents := intents } := by
  simp only [effectInsertIntent, insertIntent, enforceEffectIntentAuthority, bind_ok, require_ok,
    write_ok, pure_ok, Option.mem_def] at inserted
  obtain ⟨_, _, stored, ⟨_, ⟨_, _, validation, latest, binds⟩, intents, isInserted, _, _, rfl⟩,
    updated⟩ := inserted
  obtain ⟨_, runs, rewritten, rfl⟩ := updateRun_ok updated
  exact ⟨⟨validation, latest, binds⟩, intents, runs, isInserted, rewritten, rfl⟩

/-- An effect that begins returns its old intent or inserts a new one. -/
theorem beginEffect_ok {env : Environment} {db next : Db} {t : ℕ → ℕ} {input : EffectInput}
    {id : IntentId} {begun : BegunEffect}
    (done : beginEffect env db t input id = .ok (next, begun)) :
    next = db ∨ ∃ row run validation intents runs, Begins db t input row run validation ∧
      db.intents.insert row = .ok intents ∧
      Rewritten db.runs runs row.runId (RunRow.bumped (t 4)) ∧
      next = { db with runs := runs, intents := intents } := by
  simp only [beginEffect, bind_ok, require_ok, lockRunForLease_ok] at done
  obtain ⟨_, target, _, _, _, _, run, fenced, _, allowed, _, mode, validation, _, _, _, done⟩ :=
    done
  split at done
  · simp only [bind_ok, require_ok, pure_ok, Prod.mk.injEq] at done
    obtain ⟨_, _, rfl, _⟩ := done
    exact Or.inl rfl
  · simp only [bind_ok, pure_ok, Prod.mk.injEq] at done
    obtain ⟨stored, inserted, rfl, _⟩ := done
    obtain ⟨⟨latest, isLatest, receiptId, candidate, artifacts⟩, intents, runs, isInserted,
      rewritten, rfl⟩ := effectInsertIntent_ok inserted
    exact Or.inr ⟨_, run, latest, intents, runs,
      ⟨fenced, mode, allowed, rfl, target, isLatest, receiptId, candidate, artifacts⟩, isInserted,
      rewritten, rfl⟩

/-- An approval that is recorded returns its old row or inserts a new one. -/
theorem recordEffectApproval_ok {env : Environment} {db next : Db} {t : ℕ → ℕ}
    {input : EffectApprovalInput} {id : ApprovalId} {approval : ApprovalRow}
    (done : recordEffectApproval env db t input id = .ok (next, approval)) :
    next = db ∨ ∃ row run approvals, Fenced db (t 0) input.request.runId input.guard run ∧
      run.executionMode = .live ∧ row.runId = input.request.runId ∧
      db.approvals.insert row = .ok approvals ∧ next = { db with approvals := approvals } := by
  simp only [recordEffectApproval, bind_ok, require_ok, lockRunForLease_ok, present_ok,
    mapError_ok, approvalInsertEffectApproval, insertApproval] at done
  obtain ⟨_, _, _, _, run, fenced, _, _, _, mode, _, _, _, _, _, _, _, _, _, _, _, _,
    ⟨stored, inserted⟩, ⟨_, _, _, _, isInserted⟩, done⟩ := done
  simp only [pure_ok, Prod.mk.injEq] at done
  obtain ⟨_, _, _, _, _, _, rfl, _⟩ := done
  split at isInserted
  · simp only [pure_ok, Prod.mk.injEq] at isInserted
    exact Or.inl isInserted.1.symm
  · simp only [bind_ok, write_ok, pure_ok, Prod.mk.injEq] at isInserted
    obtain ⟨approvals, added, _, _, rfl, _⟩ := isInserted
    exact Or.inr ⟨_, run, approvals, fenced, mode, rfl, added, rfl⟩

/-- A validation receipt is stored only for a live run that validates. -/
theorem issueAndStoreValidationReceipt_ok {env : Environment} {db next : Db} {t : ℕ → ℕ}
    {request : ValidationReceiptIssueRequest}
    {issue : ValidationAuthorityBinding → IsoDateTime → SignedLiveValidationReceipt}
    {receipt : SignedLiveValidationReceipt}
    (done : issueAndStoreValidationReceipt env db t request issue = .ok (next, receipt)) :
    ∃ row run validationReceipts runs, db.run? request.runId = some run ∧
      run.executionMode = .live ∧ run.status = .validating ∧ row.runId = request.runId ∧
      db.validationReceipts.insert row = .ok validationReceipts ∧
      Rewritten db.runs runs request.runId (RunRow.bumped (t 2)) ∧
      next = { db with runs := runs, validationReceipts := validationReceipts } := by
  simp only [issueAndStoreValidationReceipt, bind_ok, require_ok, pure_ok, Prod.mk.injEq,
    signerInsertValidationReceipt, insertValidationReceipt, write_ok, Option.mem_def] at done
  obtain ⟨_, _, _, _, payload, _, _, _, _, _, stored, ⟨_, ⟨run, found, mode, validating, _⟩, _, _,
    _, ⟨receipts, inserted, _, _, rfl⟩, updated⟩, rfl, _⟩ := done
  obtain ⟨_, runs, rewritten, rfl⟩ := updateRun_ok updated
  exact ⟨_, run, receipts, runs, found, mode, validating, rfl, inserted, rewritten, rfl⟩

end Authority

section Outcomes

/-- The attempt succeeds together with the receipt of its intent. -/
structure Succeeds (env : Environment) (db : Db) (attempt : AttemptRow) (row : ReceiptRow)
    (intent : IntentRow) (updatedAt : ℕ) (receipts : Table ReceiptRow)
    (attempts : Table AttemptRow) : Prop where
  present : attempt ∈ db.attempts
  short : canonical row.payload.document 1048576 = .ok ()
  accepted : ∃ binding, assertEffectReceiptPayload env db intent row.payload = .ok binding
  receipt : Receipts db row intent
  intentId : row.intentId = attempt.intentId
  inserted : db.receipts.insert row = .ok receipts
  updated : db.attempts.update (fun found => found.id = attempt.id) (fun found =>
    { found with state := .succeeded, updatedAt := updatedAt }) = .ok attempts

/-- The caller of an outcome holds the fence of the attempt. -/
structure Holds (db : Db) (input : AttemptFenceInput) (attempt : AttemptRow) : Prop where
  found : db.attempt? input.attemptId = some attempt
  workerId : attempt.workerId = input.workerId
  fence : attempt.fencingToken = input.fencingToken

theorem Holds.present {db : Db} {input : AttemptFenceInput} {attempt : AttemptRow}
    (holds : Holds db input attempt) : attempt ∈ db.attempts :=
  (Db.attempt?_eq_some.mp holds.found).1

/-- A success either repeats a stored receipt or moves a waiting attempt. -/
theorem recordEffectSuccess_ok {env : Environment} {db next : Db} {t : ℕ → ℕ}
    {input : AttemptFenceInput} {payload : EffectReceiptPayload} {id : ReceiptId}
    {receipt : ReceiptRow} (outcomes : Outcomes db)
    (done : recordEffectSuccess env db t input payload id = .ok (next, receipt)) :
    ∃ attempt, Holds db input attempt ∧
      ((attempt.state = .succeeded ∧ next = db ∧ db.receiptOf? attempt.intentId = some receipt ∧
          receipt.payload = payload) ∨
        (attempt.state = .readyToInvoke ∧ receipt.payload = payload ∧ ∃ intent receipts attempts,
          Succeeds env db attempt receipt intent (t 1) receipts attempts ∧
          next = { db with receipts := receipts, attempts := attempts })) := by
  simp only [recordEffectSuccess, bind_ok, require_ok, present_ok] at done
  obtain ⟨_, short, attempt, found, intent, isIntent, _, _, _, ⟨worker, fence⟩, _, state, binding,
    accepted, received, isReceived, persisted, isPersisted, _, same, done⟩ := done
  have holds : Holds db input attempt := ⟨found, worker, fence⟩
  refine ⟨attempt, holds, ?_⟩
  simp only [List.mem_cons, List.not_mem_nil, or_false] at state
  rcases state with succeeded | ready
  · rw [if_pos succeeded] at done
    simp only [pure_ok, Prod.mk.injEq] at done
    obtain ⟨rfl, rfl⟩ := done
    obtain ⟨old, isOld⟩ :=
      Option.ne_none_iff_exists'.mp (outcomes.succeeded attempt holds.present succeeded)
    simp only [storeReceipt, receiptRowOf, isOld, Except.ok.injEq] at isReceived
    subst isReceived
    exact Or.inl ⟨succeeded, rfl, isPersisted, same⟩
  · rw [if_neg (by simp [ready])] at done
    simp only [bind_ok, pure_ok, Prod.mk.injEq] at done
    obtain ⟨stored, isStored, rfl, rfl⟩ := done
    have absent := outcomes.receipt_none holds.present (by simp [ready])
    simp only [storeReceipt, receiptRowOf, absent] at isReceived
    obtain ⟨_, boundIntent, allowed, ⟨some, _⟩ | ⟨receipts, inserted, rfl⟩⟩ :=
      insertReceipt_ok isReceived
    · exact absurd absent some
    · obtain ⟨attempts, updated, rfl⟩ := updateAttempt_some isStored holds.present
      have fresh : db.receipts.find? (fun row => row.intentId = attempt.intentId) = none := absent
      have isNew : persisted = receiptRowOf id attempt.intentId payload binding := by
        have search : receipts.find? (fun row => row.intentId = attempt.intentId) = _ :=
          Table.find?_insert inserted
        rw [fresh, Option.none_or, if_pos (by simp)] at search
        exact Option.some.inj (isPersisted.symm.trans search)
      subst isNew
      obtain rfl := Option.some.inj (isIntent.symm.trans allowed.receipt.found)
      exact Or.inr ⟨ready, rfl, intent, receipts, attempts,
        ⟨holds.present, short, ⟨binding, accepted⟩, allowed.receipt, rfl, inserted, updated⟩, rfl⟩

/-- An ambiguous outcome moves a waiting attempt to its reconciliation. -/
theorem recordEffectAmbiguous_ok {db next : Db} {t : ℕ → ℕ} {input : AttemptFenceInput}
    {payload : Jsonb} {id : FailureId} {changed : AttemptRow}
    (done : recordEffectAmbiguous db t input payload id = .ok (next, changed)) :
    ∃ attempt failures attempts, Holds db input attempt ∧ attempt.state = .readyToInvoke ∧
      db.attempts.update (fun found => found.id = attempt.id) (fun found =>
        { found with state := .reconciliationRequired, updatedAt := t 2 }) = .ok attempts ∧
      next = { db with failures := failures, attempts := attempts } := by
  simp only [recordEffectAmbiguous, bind_ok, require_ok, present_ok, pure_ok,
    Prod.mk.injEq] at done
  obtain ⟨_, _, attempt, found, _, ⟨worker, fence, ready⟩, _, _, failed, isFailed, stored, isStored,
    _, _, rfl, _⟩ := done
  have holds : Holds db input attempt := ⟨found, worker, fence⟩
  obtain ⟨failures, rfl⟩ := insertFailure_ok isFailed
  obtain ⟨attempts, updated, rfl⟩ := updateAttempt_some isStored holds.present
  exact ⟨attempt, failures, attempts, holds, ready, updated, rfl⟩

/-- A reconciliation needs the lease of the run and the fence of the attempt. -/
structure Reconciles (db : Db) (t : ℕ → ℕ) (input : ReconciliationInput) (attempt : AttemptRow)
    (intent : IntentRow) (run : RunRow) : Prop where
  holds : Holds db input.attempt attempt
  required : attempt.state = .reconciliationRequired
  intended : db.intent? attempt.intentId = some intent
  belongs : intent.runId = input.runId
  fenced : Fenced db (t 0) input.runId input.guard run

theorem reconcileEffectAttempt_ok {env : Environment} {db next : Db} {t : ℕ → ℕ}
    {input : ReconciliationInput} {id : ReconciliationId} {receiptId : ReceiptId}
    {changed : AttemptRow} (outcomes : Outcomes db)
    (done : reconcileEffectAttempt env db t input id receiptId = .ok (next, changed)) :
    ∃ attempt intent run, Reconciles db t input attempt intent run ∧
      ((input.proofOutcome = .notApplied ∧ next = db) ∨
        (db.reconciliationOf? attempt.id = none ∧ ∃ reconciliations,
          db.reconciliations.insert ⟨id, attempt.id, input.proofOutcome, input.proof⟩ =
            .ok reconciliations ∧
          ((input.proofOutcome = .notApplied ∧
              next = { db with reconciliations := reconciliations }) ∨
            (input.proofOutcome = .applied ∧ ∃ receipt bound receipts attempts,
              input.receipt = some receipt.payload ∧
              Succeeds env db attempt receipt bound (t 2) receipts attempts ∧
              next = { db with
                receipts := receipts, attempts := attempts,
                reconciliations := reconciliations })))) := by
  simp only [reconcileEffectAttempt, bind_ok, require_ok, present_ok, lockRunForLease_ok] at done
  obtain ⟨_, _, attempt, found, _, required, intent, intended, _, belongs, run, fenced, _,
    ⟨worker, fence⟩, _, _, proved, isProved, saved, isSaved, _, ⟨outcome, _⟩, done⟩ := done
  have holds : Holds db input.attempt attempt := ⟨found, worker, fence⟩
  refine ⟨attempt, intent, run, ⟨holds, required, intended, belongs, fenced⟩, ?_⟩
  cases proof : input.proofOutcome with
  | notApplied =>
      simp only [applyProof, proof, Except.ok.injEq, Prod.mk.injEq] at done
      obtain ⟨rfl, _⟩ := done
      obtain ⟨_, rfl⟩ | ⟨absent, reconciliations, inserted, rfl⟩ := insertReconciliation_ok isProved
      · exact Or.inl ⟨rfl, rfl⟩
      · rw [proof] at inserted
        exact Or.inr ⟨absent, reconciliations, inserted, Or.inl ⟨rfl, rfl⟩⟩
  | applied =>
      simp only [applyProof, proof, bind_ok, present_ok, pure_ok, Prod.mk.injEq] at done
      obtain ⟨payload, reported, _, short, binding, accepted, received, isReceived, stored, isStored, _, _,
        rfl, _⟩ := done
      obtain ⟨_, rfl⟩ | ⟨absent, reconciliations, inserted, rfl⟩ := insertReconciliation_ok isProved
      · obtain ⟨isProof, same⟩ := Db.reconciliationOf?_eq_some.mp isSaved
        have state := outcomes.proof_state holds.present isProof same
        rw [outcome, proof, required] at state
        cases state
      · rw [proof] at inserted
        have empty := outcomes.receipt_none holds.present (by simp [required])
        obtain ⟨_, bound, allowed, ⟨some, _⟩ | ⟨receipts, isInserted, rfl⟩⟩ :=
          insertReceipt_ok isReceived
        · exact absurd empty some
        · obtain ⟨attempts, updated, rfl⟩ := updateAttempt_some isStored holds.present
          obtain ⟨boundFound, boundBinding, columns⟩ := allowed.receipt
          obtain rfl := Option.some.inj (intended.symm.trans boundFound)
          have verified : assertEffectReceiptPayload env db intent payload = .ok binding := accepted
          exact Or.inr ⟨absent, reconciliations, inserted, Or.inr ⟨rfl, _, intent, receipts,
            attempts, reported, ⟨holds.present, short, ⟨binding, verified⟩,
              ⟨boundFound, boundBinding, columns⟩, rfl, isInserted, updated⟩, rfl⟩⟩

end Outcomes

end Store

end LineageGuard
