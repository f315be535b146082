import LineageGuard.Store.EffectSteps
import LineageGuard.Store.System
import Mathlib.Tactic

/-
This file says once what each operation of the store can commit.
-/

namespace LineageGuard

open Relational Attempt Store

/-- These operations change a run only under the guard that they carry. -/
def Op.guard? : Op → Option (RunId × LeaseGuard)
  | .renewLease runId guard _ _ => some (runId, guard)
  | .releaseLease runId guard _ => some (runId, guard)
  | .transition _ event expectedVersion => some (event.runId, eventGuard event expectedVersion)
  | .scheduleRetry _ seenVersion event _ _ => some (event.runId, eventGuard event seenVersion)
  | .appendEvidenceBundle runId guard _ _ => some (runId, guard)
  | .appendImpactCollectionResult runId guard _ _ => some (runId, guard)
  | .appendMigrationCandidate runId guard _ _ => some (runId, guard)
  | .saveDecision runId guard _ _ _ => some (runId, guard)
  | _ => none

/-- These operations may return without a change. -/
def Op.mayRepeat : Op → Bool
  | .createRun .. | .claimDue .. | .effectVerifyCurrent .. | .recordEffectApproval ..
  | .beginEffect .. | .recordEffectSuccess .. | .reconcileEffectAttempt .. => true
  | _ => false

/-- A new run starts without a lease and without events. -/
structure Fresh (row : RunRow) (t : ℕ → ℕ) : Prop where
  status : row.status = .created
  version : row.version = 0
  lease : row.lease = none
  generation : row.leaseGeneration = 0
  createdAt : row.createdAt = t 0
  updatedAt : row.updatedAt = t 1

/-- A consumption starts from the reserved row and from the current rows of its run. -/
structure Consumes (sql : SqlHashing) (db : Db) (t : ℕ → ℕ) (args : EffectArguments)
    (reservation : ReservationRow) (runId : RunId) (approvalId : ApprovalId)
    (intentId : IntentId) : Prop where
  found : args.id.bind db.reservation? = some reservation
  reserved : reservation.state = .reserved
  bound : Bound reservation args
  hasRun : args.runId = some runId
  hasApproval : args.approvalId = some approvalId
  hasIntent : args.intentId = some intentId
  current : IsCurrent sql db t reservation runId approvalId

/-- Each constructor is one way in which an operation commits. -/
inductive Commit (env : Environment) (db : Db) (t : ℕ → ℕ) : Op → Db → Prop
  | unchanged {op : Op} (quiet : op.mayRepeat = true) : Commit env db t op db
  | created {id requestKey inputFingerprint executionMode payload nextAttemptAt row runs}
      (fresh : Fresh row t) (mode : row.executionMode = executionMode)
      (inserted : db.runs.insert row = .ok runs) :
      Commit env db t (.createRun id requestKey inputFingerprint executionMode payload
        nextAttemptAt) { db with runs := runs }
  | claimed {locked workerId leaseMillis ids row first second runEvents runLeases runs}
      (positive : 0 < leaseMillis)
      (selected : firstBy claimsBefore (dueRuns db (t 0) locked) = some row)
      (appended : Appended db row.id (toDate (t 1)) (claimEvents row workerId ids first second
        (toDate (t 1)) (toDate (t 1) + leaseMillis)) runEvents)
      (free : ¬ db.ActiveInvocation row.id (t 2))
      (rewritten : Rewritten db.runs runs row.id (RunRow.claimed workerId ids.leaseId
        (row.leaseGeneration + 1) (toDate (t 1) + leaseMillis) (toDate (t 1)))) :
      Commit env db t (.claimDue locked workerId leaseMillis ids)
        { db with runs := runs, runEvents := runEvents, runLeases := runLeases }
  | renewed {runId guard leaseMillis eventId run lease sequence runEvents runs}
      (positive : 0 < leaseMillis) (fenced : Fenced db (t 0) runId guard run)
      (held : run.lease = some lease)
      (appended : Appended db runId (toDate (t 1)) [renewedEvent runId guard eventId sequence
        (toDate (t 1)) (toDate lease.expiresAt)
        (max (toDate (t 1)) (toDate lease.expiresAt) + leaseMillis)] runEvents)
      (rewritten : Rewritten db.runs runs runId (RunRow.renewed
        (max (toDate (t 1)) (toDate lease.expiresAt) + leaseMillis) (toDate (t 1)))) :
      Commit env db t (.renewLease runId guard leaseMillis eventId)
        { db with runs := runs, runEvents := runEvents }
  | released {runId guard eventId run sequence runEvents runs}
      (fenced : Fenced db (t 0) runId guard run) (free : ¬ db.ActiveInvocation runId (t 2))
      (appended : Appended db runId (toDate (t 1))
        [releasedEvent runId guard eventId sequence (toDate (t 1))] runEvents)
      (rewritten : Rewritten db.runs runs runId (RunRow.released (toDate (t 1)))) :
      Commit env db t (.releaseLease runId guard eventId)
        { db with runs := runs, runEvents := runEvents }
  | transitioned {read event expectedVersion source target detail run runEvents runs}
      (body : event.body = .statusChanged source target detail)
      (fenced : Fenced db (t 0) event.runId (eventGuard event expectedVersion) run)
      (status : run.status = source) (listed : SqlTransition source target)
      (prerequisites : transitionPrerequisites env db (t 1) event.runId target = .ok ())
      (allowed : UpdateAllowed db (t 3) transitionColumns run
        (RunRow.transitioned target (toTimestamp (earlierNow t read)) run))
      (appended : Appended db event.runId (earlierNow t read)
        [RunEvent.at event (earlierNow t read)] runEvents)
      (rewritten : Rewritten db.runs runs event.runId
        (RunRow.transitioned target (toTimestamp (earlierNow t read)))) :
      Commit env db t (.transition read event expectedVersion)
        { db with runs := runs, runEvents := runEvents }
  | retried {read seenVersion event retryId releasedEventId operation attempt delay reason run
        sequence runEvents retryAttempts runs}
      (fenced : Fenced db (t 0) event.runId (eventGuard event seenVersion) run)
      (free : ¬ db.ActiveInvocation event.runId (t 1))
      (appended : Appended db event.runId (earlierNow t read)
        [retriedEvent event operation attempt delay reason (earlierNow t read),
          releasedEvent event.runId (eventGuard event seenVersion) releasedEventId sequence
            (earlierNow t read)] runEvents)
      (rewritten : Rewritten db.runs runs event.runId (RunRow.retried
        (toTimestamp (earlierNow t read + delay)) (toTimestamp (earlierNow t read)))) :
      Commit env db t (.scheduleRetry read seenVersion event retryId releasedEventId)
        { db with runs := runs, runEvents := runEvents, retryAttempts := retryAttempts }
  | recorded {op runId guard run updatedAt runs runBundles runDecisions migrationCandidates}
      (guarded : op.guard? = some (runId, guard)) (fenced : Fenced db (t 0) runId guard run)
      (bundles : db.runBundles.Grown runBundles (fun row => row.runId = runId))
      (candidates : db.migrationCandidates.Grown migrationCandidates (fun row =>
        row.runId = runId))
      (rewritten : Rewritten db.runs runs runId (RunRow.bumped updatedAt)) :
      Commit env db t op { db with
        runs := runs, runBundles := runBundles, runDecisions := runDecisions
        migrationCandidates := migrationCandidates }
  | validated {request issue row run validationReceipts runs}
      (found : db.run? request.runId = some run) (mode : run.executionMode = .live)
      (validating : run.status = .validating) (belongs : row.runId = request.runId)
      (inserted : db.validationReceipts.insert row = .ok validationReceipts)
      (rewritten : Rewritten db.runs runs request.runId (RunRow.bumped (t 2))) :
      Commit env db t (.issueAndStoreValidationReceipt request issue)
        { db with runs := runs, validationReceipts := validationReceipts }
  | approved {input id row run approvals}
      (fenced : Fenced db (t 0) input.request.runId input.guard run)
      (mode : run.executionMode = .live) (belongs : row.runId = input.request.runId)
      (inserted : db.approvals.insert row = .ok approvals) :
      Commit env db t (.recordEffectApproval input id) { db with approvals := approvals }
  | intended {input id row run validation intents runs}
      (begins : Begins db t input row run validation)
      (inserted : db.intents.insert row = .ok intents)
      (rewritten : Rewritten db.runs runs row.runId (RunRow.bumped (t 4))) :
      Commit env db t (.beginEffect input id) { db with runs := runs, intents := intents }
  | reserved {args row run lease intent validation approval reservations}
      (reserves : Reserves db t row run lease intent validation approval)
      (inserted : db.reservations.insert row = .ok reservations) :
      Commit env db t (.effectReserveCurrent args) { db with reservations := reservations }
  | consumed {args attemptId attemptFence reservation runId approvalId intentId reservations
        attempts}
      (consumes : Consumes env.sql db t args reservation runId approvalId intentId)
      (updated : db.reservations.update (fun row => row.id = reservation.id) (fun row =>
        { row with state := .consumed attemptId attemptFence (t 3) }) = .ok reservations)
      (inserted : db.attempts.insert (consumedAttempt t reservation intentId
        (db.nextAttempt intentId) attemptId attemptFence) = .ok attempts) :
      Commit env db t (.effectConsumeCurrent args attemptId attemptFence)
        { db with reservations := reservations, attempts := attempts }
  | cancelled {args reservation reservations}
      (found : args.id.bind db.reservation? = some reservation)
      (isReserved : reservation.state = .reserved) (bound : Bound reservation args)
      (updated : db.reservations.update (fun row => row.id = reservation.id) (fun row =>
        { row with state := .cancelledPreSend }) = .ok reservations) :
      Commit env db t (.effectCancelReservationBeforeSend args)
        { db with reservations := reservations }
  | succeeded {input payload id attempt receipt intent receipts attempts}
      (holds : Store.Holds db input attempt) (ready : attempt.state = .readyToInvoke)
      (succeeds : Succeeds env db attempt receipt intent (t 1) receipts attempts)
      (reported : receipt.payload = payload) :
      Commit env db t (.recordEffectSuccess input payload id)
        { db with receipts := receipts, attempts := attempts }
  | ambiguous {input payload id attempt failures attempts}
      (holds : Store.Holds db input attempt) (ready : attempt.state = .readyToInvoke)
      (updated : db.attempts.update (fun found => found.id = attempt.id) (fun found =>
        { found with state := .reconciliationRequired, updatedAt := t 2 }) = .ok attempts) :
      Commit env db t (.recordEffectAmbiguous input payload id)
        { db with failures := failures, attempts := attempts }
  | disproved {input id receiptId attempt intent run reconciliations}
      (reconciles : Reconciles db t input attempt intent run)
      (outcome : input.proofOutcome = .notApplied) (first : db.reconciliationOf? attempt.id = none)
      (inserted : db.reconciliations.insert ⟨id, attempt.id, .notApplied, input.proof⟩ =
        .ok reconciliations) :
      Commit env db t (.reconcileEffectAttempt input id receiptId)
        { db with reconciliations := reconciliations }
  | applied {input id receiptId attempt intent run receipt bound receipts attempts
        reconciliations}
      (reconciles : Reconciles db t input attempt intent run)
      (outcome : input.proofOutcome = .applied) (first : db.reconciliationOf? attempt.id = none)
      (inserted : db.reconciliations.insert ⟨id, attempt.id, .applied, input.proof⟩ =
        .ok reconciliations)
      (succeeds : Succeeds env db attempt receipt bound (t 2) receipts attempts)
      (reported : input.receipt = some receipt.payload) :
      Commit env db t (.reconcileEffectAttempt input id receiptId)
        { db with receipts := receipts, attempts := attempts, reconciliations := reconciliations }

theorem map_ok {A B : Type} {computed : Except StoreError A} {change : A → B} {result : B} :
    computed.map change = .ok result ↔ ∃ value, computed = .ok value ∧ change value = result := by
  cases computed <;> simp [Except.map]

theorem map_fst_ok {A : Type} {computed : Except StoreError (Db × A)} {next : Db} :
    computed.map Prod.fst = .ok next ↔ ∃ value, computed = .ok (next, value) := by
  rw [map_ok]
  constructor
  · rintro ⟨⟨_, value⟩, done, rfl⟩
    exact ⟨value, done⟩
  · rintro ⟨value, done⟩
    exact ⟨_, done, rfl⟩

section Operations

variable {env : Environment} {db next : Db} {t : ℕ → ℕ}

theorem createRun_commit {id : RunId} {requestKey : String} {inputFingerprint : Fingerprint}
    {executionMode : ExecutionMode} {payload : Jsonb} {nextAttemptAt : ℕ} {record : RunRow}
    (done : createRun db t id requestKey inputFingerprint executionMode payload nextAttemptAt =
      .ok (next, record)) :
    Commit env db t (.createRun id requestKey inputFingerprint executionMode payload
      nextAttemptAt) next := by
  simp only [createRun, bind_ok] at done
  obtain ⟨_, _, done⟩ := done
  split at done
  · simp only [bind_ok, pure_ok, Prod.mk.injEq] at done
    obtain ⟨_, _, _, _, rfl, _⟩ := done
    exact .unchanged rfl
  · simp only [bind_ok, write_ok, pure_ok, Prod.mk.injEq] at done
    obtain ⟨runs, inserted, _, _, rfl, _⟩ := done
    exact .created ⟨rfl, rfl, rfl, rfl, rfl, rfl⟩ rfl inserted

theorem claimDue_commit {locked : List RunId} {workerId : String} {leaseMillis : ℕ}
    {ids : ClaimIds} {record : Option RunRow}
    (done : claimDue db t locked workerId leaseMillis ids = .ok (next, record)) :
    Commit env db t (.claimDue locked workerId leaseMillis ids) next := by
  simp only [claimDue, bind_ok, require_ok] at done
  obtain ⟨_, _, _, ⟨positive, _⟩, done⟩ := done
  split at done
  · simp only [pure_ok, Prod.mk.injEq] at done
    obtain ⟨rfl, _⟩ := done
    exact .unchanged rfl
  · next row selected =>
      simp only [bind_ok, pure_ok, Prod.mk.injEq] at done
      obtain ⟨⟨_, _⟩, claimed, rfl, _⟩ := done
      have present := firstBy_mem selected
      have found : db.run? row.id = some row :=
        Db.run?_of_mem (List.mem_of_mem_filter present)
      obtain ⟨first, second, runEvents, runLeases, runs, appended, free, rewritten, rfl⟩ :=
        claimRun_ok found claimed
      exact .claimed positive selected appended free rewritten

theorem consume_commit {args : EffectArguments} {attemptId : AttemptId}
    {attemptFence : AttemptFence} {result : ConsumedEffect}
    (done : effectConsumeCurrent env.sql db t args attemptId attemptFence = .ok (next, result)) :
    Commit env db t (.effectConsumeCurrent args attemptId attemptFence) next := by
  obtain ⟨reservation, runId, approvalId, intentId, consumed, found, reserved, bound, _, hasRun,
    hasApproval, hasIntent, current, _, updated, inserted, _⟩ := effectConsumeCurrent_ok.mp done
  obtain ⟨reservations, isUpdated, rfl⟩ := updateReservation_ok.mp updated
  obtain ⟨_, _, _, attempts, isInserted, rfl⟩ := insertAttempt_ok.mp inserted
  exact .consumed ⟨found, reserved, bound, hasRun, hasApproval, hasIntent, current⟩ isUpdated
    isInserted

theorem reserve_commit {args : ReserveArguments} {row : ReservationRow}
    (done : effectReserveCurrent env.sql db t args = .ok (next, row)) :
    Commit env db t (.effectReserveCurrent args) next := by
  obtain ⟨⟨run, lease, intent, validation, approval, reserves⟩, inserted⟩ :=
    effectReserveCurrent_ok done
  simp only [insertReservation, bind_ok, write_ok, pure_ok] at inserted
  obtain ⟨reservations, isInserted, _, _, _, _, _, _, _, _, rfl⟩ := inserted
  exact .reserved reserves isInserted

theorem reconcile_commit {input : ReconciliationInput} {id : ReconciliationId}
    {receiptId : ReceiptId} {changed : AttemptRow} (outcomes : Outcomes db)
    (done : reconcileEffectAttempt env db t input id receiptId = .ok (next, changed)) :
    Commit env db t (.reconcileEffectAttempt input id receiptId) next := by
  obtain ⟨attempt, intent, run, reconciles, ⟨_, rfl⟩ | ⟨first, reconciliations, inserted, step⟩⟩ :=
    reconcileEffectAttempt_ok outcomes done
  · exact .unchanged rfl
  · obtain ⟨outcome, rfl⟩ | ⟨outcome, receipt, bound, receipts, attempts, reported, succeeds,
      rfl⟩ := step
    · rw [outcome] at inserted
      exact .disproved reconciles outcome first inserted
    · rw [outcome] at inserted
      exact .applied reconciles outcome first inserted succeeds reported

end Operations

/-- An operation that returns has committed in one of the listed ways. -/
theorem exec_commit {env : Environment} {db next : Db} {t : ℕ → ℕ} {op : Op}
    (history : History db) (outcomes : Outcomes db) (done : exec env db t op = .ok next) :
    Commit env db t op next := by
  cases op <;> simp only [exec, map_fst_ok] at done
  case createRun =>
    obtain ⟨_, done⟩ := done
    exact createRun_commit done
  case claimDue =>
    obtain ⟨_, done⟩ := done
    exact claimDue_commit done
  case renewLease =>
    obtain ⟨_, done⟩ := done
    obtain ⟨positive, run, lease, sequence, runEvents, runs, fenced, held, appended, rewritten,
      rfl⟩ := renewLease_ok done
    exact .renewed positive fenced held appended rewritten
  case releaseLease =>
    obtain ⟨_, done⟩ := done
    obtain ⟨run, sequence, runEvents, runs, fenced, free, appended, rewritten, rfl⟩ :=
      releaseLease_ok done
    exact .released fenced free appended rewritten
  case transition =>
    obtain ⟨_, done⟩ := done
    obtain ⟨source, target, detail, run, runEvents, runs, body, fenced, status, listed,
      prerequisites, allowed, appended, rewritten, rfl⟩ := transition_ok (history.streams _) done
    exact .transitioned body fenced status listed prerequisites allowed appended rewritten
  case scheduleRetry =>
    obtain ⟨_, done⟩ := done
    obtain ⟨operation, attempt, given, delay, reason, run, sequence, runEvents, retryAttempts, runs,
      body, policy, fenced, listed, free, entered, appended, rewritten, rfl⟩ :=
      scheduleRetry_ok (history.streams _) done
    exact .retried fenced free appended rewritten
  case appendEvidenceBundle =>
    obtain ⟨_, done⟩ := done
    obtain ⟨run, runBundles, runs, fenced, bundles, rewritten, rfl⟩ := appendEvidenceBundle_ok done
    exact .recorded rfl fenced bundles (.refl _ _) rewritten
  case appendImpactCollectionResult =>
    obtain ⟨_, done⟩ := done
    obtain ⟨run, runBundles, runs, fenced, bundles, rewritten, rfl⟩ :=
      appendImpactCollectionResult_ok done
    exact .recorded rfl fenced bundles (.refl _ _) rewritten
  case appendMigrationCandidate =>
    obtain ⟨_, done⟩ := done
    obtain ⟨run, table, runs, fenced, candidates, rewritten, rfl⟩ :=
      appendMigrationCandidate_ok done
    exact .recorded rfl fenced (.refl _ _) candidates rewritten
  case saveDecision =>
    obtain ⟨_, done⟩ := done
    obtain ⟨run, decisions, runs, fenced, rewritten, rfl⟩ := saveDecision_ok done
    exact .recorded rfl fenced (.refl _ _) (.refl _ _) rewritten
  case issueAndStoreValidationReceipt =>
    obtain ⟨_, done⟩ := done
    obtain ⟨row, run, receipts, runs, found, mode, validating, belongs, inserted, rewritten, rfl⟩ :=
      issueAndStoreValidationReceipt_ok done
    exact .validated found mode validating belongs inserted rewritten
  case recordEffectApproval =>
    obtain ⟨_, done⟩ := done
    obtain rfl | ⟨row, run, approvals, fenced, mode, belongs, inserted, rfl⟩ :=
      recordEffectApproval_ok done
    · exact .unchanged rfl
    · exact .approved fenced mode belongs inserted
  case beginEffect =>
    obtain ⟨_, done⟩ := done
    obtain rfl | ⟨row, run, validation, intents, runs, begins, inserted, rewritten, rfl⟩ :=
      beginEffect_ok done
    · exact .unchanged rfl
    · exact .intended begins inserted rewritten
  case effectReserveCurrent =>
    obtain ⟨_, done⟩ := done
    exact reserve_commit done
  case effectVerifyCurrent =>
    obtain ⟨_, _, rfl⟩ := map_ok.mp done
    exact .unchanged rfl
  case effectConsumeCurrent =>
    obtain ⟨_, done⟩ := done
    exact consume_commit done
  case effectCancelReservationBeforeSend =>
    obtain ⟨reservation, found, isReserved, bound, cancelled⟩ :=
      effectCancelReservationBeforeSend_ok.mp done
    obtain ⟨reservations, updated, rfl⟩ := updateReservation_ok.mp cancelled
    exact .cancelled found isReserved bound updated
  case recordEffectSuccess =>
    obtain ⟨_, done⟩ := done
    obtain ⟨attempt, holds, ⟨_, rfl, _⟩ | ⟨ready, reported, intent, receipts, attempts, succeeds,
      rfl⟩⟩ := recordEffectSuccess_ok outcomes done
    · exact .unchanged rfl
    · exact .succeeded holds ready succeeds reported
  case recordEffectAmbiguous =>
    obtain ⟨_, done⟩ := done
    obtain ⟨attempt, failures, attempts, holds, ready, updated, rfl⟩ :=
      recordEffectAmbiguous_ok done
    exact .ambiguous holds ready updated
  case reconcileEffectAttempt =>
    obtain ⟨_, done⟩ := done
    exact reconcile_commit outcomes done

end LineageGuard
