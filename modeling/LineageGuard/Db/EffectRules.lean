import LineageGuard.Db.Rules
import Mathlib.Tactic

/-
This file says what the database functions of an effect accept.
-/

namespace LineageGuard

open Relational Attempt SqlLogic

/-- An inequality guard passes an argument that is missing or that equals the stored value. -/
def Passes {A : Type} (argument : Option A) (stored : A) : Prop :=
  argument = none ∨ argument = some stored

instance {A : Type} [DecidableEq A] (argument : Option A) (stored : A) :
    Decidable (Passes argument stored) := inferInstanceAs (Decidable (_ ∨ _))

/-- The arguments pass every comparison with the reservation. -/
structure Bound (reservation : ReservationRow) (args : EffectArguments) : Prop where
  tokenHash : Passes args.tokenHash reservation.tokenHash
  runId : Passes args.runId reservation.runId
  intentId : Passes args.intentId reservation.intentId
  idempotencyKey : Passes args.idempotencyKey reservation.idempotencyKey
  kind : Passes args.kind reservation.kind
  target : Passes args.target reservation.target
  canonicalEffectFingerprint :
    Passes args.canonicalEffectFingerprint reservation.inputFingerprint
  validationReceiptId : Passes args.validationReceiptId reservation.validationReceiptId
  validationReceiptFingerprint :
    Passes args.validationReceiptFingerprint reservation.validationReceiptFingerprint
  approvalId : Passes args.approvalId reservation.approvalId
  approvalFingerprint : Passes args.approvalFingerprint reservation.approvalFingerprint
  intentFingerprint : Passes args.intentFingerprint reservation.intentFingerprint

theorem bindingGuards_pass {reservation : ReservationRow} {args : EffectArguments} :
    ¬ Holds (anyOf (bindingGuards reservation args)) ↔ Bound reservation args := by
  simp only [bindingGuards, anyOf_cons_holds, anyOf_nil_holds, not_or, not_notEqual_some_holds,
    not_false_eq_true, and_true]
  constructor
  · rintro ⟨tokenHash, runId, intentId, key, kind, target, fingerprint, receiptId,
      receiptFingerprint, approvalId, approvalFingerprint, intentFingerprint⟩
    exact ⟨tokenHash, runId, intentId, key, kind, target, fingerprint, receiptId,
      receiptFingerprint, approvalId, approvalFingerprint, intentFingerprint⟩
  · rintro ⟨tokenHash, runId, intentId, key, kind, target, fingerprint, receiptId,
      receiptFingerprint, approvalId, approvalFingerprint, intentFingerprint⟩
    exact ⟨tokenHash, runId, intentId, key, kind, target, fingerprint, receiptId,
      receiptFingerprint, approvalId, approvalFingerprint, intentFingerprint⟩

instance (reservation : ReservationRow) (args : EffectArguments) :
    Decidable (Bound reservation args) :=
  decidable_of_iff _ bindingGuards_pass

/-- The run and the lease are those that the reservation names. -/
structure Owned (run : RunRow) (lease : RunLease) (reservation : ReservationRow) : Prop where
  held : run.lease = some lease
  status : run.status = reservation.runStatus
  leaseId : lease.leaseId = reservation.leaseId
  workerId : lease.workerId = reservation.workerId
  generation : run.leaseGeneration = reservation.generation

/-- The approval is one that still authorizes the reservation. -/
structure Approves (approval : ApprovalRow) (reservation : ReservationRow) : Prop where
  fingerprint : approval.approvalFingerprint = reservation.approvalFingerprint
  receiptId : approval.validationReceiptId = reservation.validationReceiptId
  receiptFingerprint :
    approval.validationReceiptFingerprint = reservation.validationReceiptFingerprint
  schemaVersion : approval.approvalAssertion.protectedHeaders.schemaVersion = 2
  payload : approval.approvalAssertion.payload = approval.payload

/-- The rows of the run still agree with the reservation. -/
structure Current (sql : SqlHashing) (db : Db) (t : ℕ → ℕ) (reservation : ReservationRow)
    (runId : RunId) (approvalId : ApprovalId) (run : RunRow) (lease : RunLease)
    (validation : ValidationReceiptRow) (approval : ApprovalRow) : Prop where
  found : db.run? runId = some run
  owned : Owned run lease reservation
  mode : run.executionMode = .live
  version : run.version = reservation.runVersion
  leaseLive : t 0 < lease.expiresAt
  timely : t 1 < reservation.invokeBy
  eventPrefix : currentRunEventPrefixFingerprint sql db (some runId) =
    reservation.eventPrefixFingerprint
  latest : db.latestValidation? runId = some validation
  receiptId : validation.id = reservation.validationReceiptId
  receiptFingerprint :
    reservation.validationReceiptFingerprint = sql.signedReceipt (some validation.payload)
  approved : db.approval? approvalId = some approval
  approves : Approves approval reservation
  approvalLive : t 2 < approval.expiresAt

/-- A reservation is current for the run and the approval that a call names. -/
def IsCurrent (sql : SqlHashing) (db : Db) (t : ℕ → ℕ) (reservation : ReservationRow)
    (runId : RunId) (approvalId : ApprovalId) : Prop :=
  ∃ run lease validation approval,
    Current sql db t reservation runId approvalId run lease validation approval

/-- The comparisons pass only when every row that they read exists. -/
theorem staleGuards_rows {sql : SqlHashing} {db : Db} {t : ℕ → ℕ} {reservation : ReservationRow}
    {args : EffectArguments} (passed : ¬ Holds (anyOf (staleGuards sql db t reservation args))) :
    ∃ runId approvalId run lease validation approval, args.runId = some runId ∧
      args.approvalId = some approvalId ∧ db.run? runId = some run ∧ run.lease = some lease ∧
      db.latestValidation? runId = some validation ∧ db.approval? approvalId = some approval := by
  simp only [staleGuards, anyOf_cons_holds, not_or, isDistinct_holds, isNull_holds, not_not,
    Option.map_eq_some_iff, Option.bind_eq_some_iff] at passed
  obtain ⟨_, _, _, ⟨lease, ⟨run, ⟨runId, hasRun, found⟩, held⟩, _⟩, _, _, _, _, _,
    ⟨validation, ⟨_, again, latest⟩, _⟩, _, approved, _⟩ := passed
  obtain rfl := Option.some.inj (again.symm.trans hasRun)
  obtain ⟨approval, isApproved⟩ := Option.ne_none_iff_exists'.mp approved
  obtain ⟨approvalId, hasApproval, present⟩ := Option.bind_eq_some_iff.mp isApproved
  exact ⟨_, approvalId, run, lease, validation, approval, hasRun, hasApproval, found, held, latest,
    present⟩

/-- The comparisons with the current rows never pass a missing run or a missing approval. -/
theorem staleGuards_pass {sql : SqlHashing} {db : Db} {t : ℕ → ℕ} {reservation : ReservationRow}
    {args : EffectArguments} :
    ¬ Holds (anyOf (staleGuards sql db t reservation args)) ↔
      ∃ runId approvalId, args.runId = some runId ∧ args.approvalId = some approvalId ∧
        IsCurrent sql db t reservation runId approvalId := by
  constructor
  · intro passed
    obtain ⟨runId, approvalId, run, lease, validation, approval, hasRun, hasApproval, found, held,
      latest, present⟩ := staleGuards_rows passed
    simp only [staleGuards, hasRun, hasApproval, found, held, latest, present, Option.bind_some,
      Option.map_some, anyOf_cons_holds, anyOf_nil_holds, not_or, not_notEqual_values,
      not_lessEqual_values, isDistinct_holds, isNull_holds, ne_eq, not_not, Option.some.injEq,
      reduceCtorEq, not_false_eq_true, and_true, true_and] at passed
    obtain ⟨mode, version, status, leaseId, workerId, generation, leaseLive, timely, eventPrefix,
      receiptId, receiptFingerprint, approvalFingerprint, approvalReceipt,
      approvalReceiptFingerprint, schemaVersion, payload, approvalLive⟩ := passed
    exact ⟨runId, approvalId, hasRun, hasApproval, run, lease, validation, approval, found,
      ⟨held, status, leaseId, workerId, generation⟩, mode, version, leaseLive, timely,
      eventPrefix, latest, receiptId, receiptFingerprint, present,
      ⟨approvalFingerprint, approvalReceipt, approvalReceiptFingerprint, schemaVersion,
        payload⟩, approvalLive⟩
  · rintro ⟨runId, approvalId, hasRun, hasApproval, run, lease, validation, approval, current⟩
    obtain ⟨found, ⟨held, status, leaseId, workerId, generation⟩, mode, version, leaseLive,
      timely, eventPrefix, latest, receiptId, receiptFingerprint, present,
      ⟨approvalFingerprint, approvalReceipt, approvalReceiptFingerprint, schemaVersion,
        payload⟩, approvalLive⟩ := current
    simp [staleGuards, hasRun, hasApproval, found, held, latest, present, mode, version, status,
      leaseId, workerId, generation, leaseLive, timely, eventPrefix, receiptId,
      receiptFingerprint, approvalFingerprint, approvalReceipt, approvalReceiptFingerprint,
      schemaVersion, payload, approvalLive]

/-- The intent guard passes when the fingerprint is missing or still that of the intent. -/
theorem intentGuard_pass {sql : SqlHashing} {db : Db} {args : EffectArguments} :
    ¬ Holds (intentGuard sql db args) ↔
      Passes args.intentFingerprint (sql.intent (args.intentId.bind db.intent?)) :=
  not_notEqual_some_holds _ _

theorem effectVerifyCurrent_ok {sql : SqlHashing} {db : Db} {t : ℕ → ℕ} {args : EffectArguments}
    {reservation : ReservationRow} :
    effectVerifyCurrent sql db t args = .ok reservation ↔
      args.id.bind db.reservation? = some reservation ∧ Bound reservation args ∧
      Passes args.intentFingerprint (sql.intent (args.intentId.bind db.intent?)) ∧
      (reservation.state = .reserved → ∃ runId approvalId, args.runId = some runId ∧
        args.approvalId = some approvalId ∧ IsCurrent sql db t reservation runId approvalId) := by
  simp only [effectVerifyCurrent, bind_ok, present_ok, reject_ok, pure_ok, anyOf_append_holds,
    not_or, bindingGuards_pass, anyOf_cons_holds, anyOf_nil_holds, not_false_eq_true, and_true,
    intentGuard_pass, not_and, staleGuards_pass]
  constructor
  · rintro ⟨_, found, _, ⟨bound, intent⟩, _, current, rfl⟩
    exact ⟨found, bound, intent, current⟩
  · rintro ⟨found, bound, intent, current⟩
    exact ⟨_, found, (), ⟨bound, intent⟩, (), current, rfl⟩

theorem updateReservation_ok {db next : Db} {id : ReservationId} {state : ReservationState} :
    updateReservation db id state = .ok next ↔
      ∃ reservations, db.reservations.update (fun row => row.id = id)
          (fun row => { row with state := state }) = .ok reservations ∧
        next = { db with reservations := reservations } := by
  simp only [updateReservation, bind_ok, write_ok, pure_ok]
  constructor
  · rintro ⟨reservations, updated, rfl⟩
    exact ⟨reservations, updated, rfl⟩
  · rintro ⟨reservations, updated, rfl⟩
    exact ⟨reservations, updated, rfl⟩

theorem effectCancelReservationBeforeSend_ok {db next : Db} {args : EffectArguments} :
    effectCancelReservationBeforeSend db args = .ok next ↔
      ∃ reservation, args.id.bind db.reservation? = some reservation ∧
        reservation.state = .reserved ∧ Bound reservation args ∧
        updateReservation db reservation.id .cancelledPreSend = .ok next := by
  simp only [effectCancelReservationBeforeSend, bind_ok, present_ok, reject_ok, ne_eq, not_not,
    bindingGuards_pass]
  constructor
  · rintro ⟨reservation, found, _, reserved, _, bound, updated⟩
    exact ⟨reservation, found, reserved, bound, updated⟩
  · rintro ⟨reservation, found, reserved, bound, updated⟩
    exact ⟨reservation, found, (), reserved, (), bound, updated⟩

/-- This is the attempt that the consumption of a reservation creates. -/
def consumedAttempt (t : ℕ → ℕ) (reservation : ReservationRow) (intentId : IntentId)
    (attempt : ℕ) (attemptId : AttemptId) (attemptFence : AttemptFence) : AttemptRow where
  id := attemptId
  intentId := intentId
  attempt := attempt
  workerId := reservation.workerId
  fencingToken := attemptFence
  state := .readyToInvoke
  claimedAt := t 4
  claimExpiresAt := reservation.invokeBy
  updatedAt := t 5
  reservationId := reservation.id

theorem effectConsumeCurrent_ok {sql : SqlHashing} {db next : Db} {t : ℕ → ℕ}
    {args : EffectArguments} {attemptId : AttemptId} {attemptFence : AttemptFence}
    {result : ConsumedEffect} :
    effectConsumeCurrent sql db t args attemptId attemptFence = .ok (next, result) ↔
      ∃ reservation runId approvalId intentId consumed,
        args.id.bind db.reservation? = some reservation ∧ reservation.state = .reserved ∧
        Bound reservation args ∧
        Passes args.intentFingerprint (sql.intent (args.intentId.bind db.intent?)) ∧
        args.runId = some runId ∧ args.approvalId = some approvalId ∧
        args.intentId = some intentId ∧ IsCurrent sql db t reservation runId approvalId ∧
        db.nextAttempt intentId ≤ 3 ∧
        updateReservation db reservation.id (.consumed attemptId attemptFence (t 3)) =
          .ok consumed ∧
        insertAttempt consumed (consumedAttempt t reservation intentId (db.nextAttempt intentId)
          attemptId attemptFence) = .ok next ∧
        result = ⟨reservation.id, args.canonicalEffectFingerprint, reservation.invokeBy,
          attemptId, attemptFence⟩ := by
  simp only [effectConsumeCurrent, bind_ok, present_ok, reject_ok, ne_eq, not_not, pure_ok,
    anyOf_append_holds, not_or, bindingGuards_pass, anyOf_cons_holds, intentGuard_pass,
    staleGuards_pass, require_ok, notNull, Prod.mk.injEq]
  constructor
  · rintro ⟨reservation, found, _, reserved, _, ⟨bound, intent, runId, approvalId, hasRun,
      hasApproval, current⟩, _, room, consumed, updated, intentId, hasIntent, stored, inserted,
      rfl, rfl⟩
    rw [hasIntent] at room inserted
    exact ⟨reservation, runId, approvalId, intentId, consumed, found, reserved, bound, intent,
      hasRun, hasApproval, hasIntent, current, room, updated, inserted, rfl⟩
  · rintro ⟨reservation, runId, approvalId, intentId, consumed, found, reserved, bound, intent,
      hasRun, hasApproval, hasIntent, current, room, updated, inserted, rfl⟩
    refine ⟨reservation, found, (), reserved, (), ⟨bound, intent, runId, approvalId, hasRun,
      hasApproval, current⟩, (), ?_, consumed, updated, intentId, hasIntent, next, ?_, rfl, rfl⟩
    · rw [hasIntent]
      exact room
    · rw [hasIntent]
      exact inserted

theorem insertAttempt_ok {db next : Db} {row : AttemptRow} :
    insertAttempt db row = .ok next ↔ row.state = .readyToInvoke ∧
      (∃ reservation, db.reservation? row.reservationId = some reservation ∧
        reservation.intentId = row.intentId ∧ reservation.state.attemptId = some row.id ∧
        reservation.state.attemptFence = some row.fencingToken) ∧
      db.intent? row.intentId ≠ none ∧
      ∃ attempts, db.attempts.insert row = .ok attempts ∧
        next = { db with attempts := attempts } := by
  simp only [insertAttempt, enforceEffectAttemptAuthority, reference, bind_ok, require_ok,
    write_ok, pure_ok, Option.mem_def]
  constructor
  · rintro ⟨_, ⟨ready, authority⟩, attempts, added, _, known, rfl⟩
    exact ⟨ready, authority, known, attempts, added, rfl⟩
  · rintro ⟨ready, authority, known, attempts, added, rfl⟩
    exact ⟨(), ⟨ready, authority⟩, attempts, added, (), known, rfl⟩

theorem cancelled_conflict {left right : ReservationRow}
    (clash : Schema.conflict { left with state := .cancelledPreSend } right) :
    left.id = right.id ∨ left.tokenHash = right.tokenHash := by
  rcases clash with id | token | ⟨_, names⟩ | ⟨_, names⟩ | ⟨active, _⟩
  · exact Or.inl id
  · exact Or.inr token
  · exact absurd rfl names
  · exact absurd rfl names
  · cases active

/-- A cancellation is never rejected by a constraint. -/
theorem updateReservation_cancelled (db : Db) (id : ReservationId) :
    ∃ next, updateReservation db id .cancelledPreSend = .ok next := by
  have safe : ∃ reservations, db.reservations.update (fun row => row.id = id) (fun row =>
      { row with state := .cancelledPreSend }) = .ok reservations := by
    refine Table.update_of_safe (fun row present _ => db.reservations.checked row present) ?_
    intro left _ right _ clash
    have shared : left.id = right.id ∨ left.tokenHash = right.tokenHash ∨
        Schema.conflict left right := by
      split at clash <;> split at clash
      · exact (cancelled_conflict clash).imp_right Or.inl
      · exact (cancelled_conflict clash).imp_right Or.inl
      · exact (cancelled_conflict (Schema.symmetric _ _ clash)).imp Eq.symm
          fun token => Or.inl token.symm
      · exact Or.inr (Or.inr clash)
    rcases shared with id | token | clash
    · exact Or.inl id
    · exact Or.inr (Or.inl token)
    · exact clash
  obtain ⟨reservations, updated⟩ := safe
  exact ⟨_, updateReservation_ok.mpr ⟨reservations, updated, rfl⟩⟩

/-- The drawn identifiers belong to no reservation and to no attempt. -/
structure Unused (db : Db) (attemptId : AttemptId) (attemptFence : AttemptFence) : Prop where
  reservations : ∀ row ∈ db.reservations, row.state.attemptId ≠ some attemptId ∧
    row.state.attemptFence ≠ some attemptFence
  attempts : ∀ row ∈ db.attempts, row.id ≠ attemptId ∧ row.fencingToken ≠ attemptFence

theorem consumed_conflict {left right : ReservationRow} (reserved : left.state = .reserved)
    {attemptId : AttemptId} {attemptFence : AttemptFence} {consumedAt : ℕ}
    (unusedId : right.state.attemptId ≠ some attemptId)
    (unusedFence : right.state.attemptFence ≠ some attemptFence)
    (clash : Schema.conflict
      { left with state := .consumed attemptId attemptFence consumedAt } right) :
    Schema.conflict left right := by
  rcases clash with id | token | ⟨same, _⟩ | ⟨same, _⟩ | ⟨_, active, intent⟩
  · exact Or.inl id
  · exact Or.inr (Or.inl token)
  · exact absurd same.symm unusedId
  · exact absurd same.symm unusedFence
  · refine Or.inr (Or.inr (Or.inr (Or.inr ⟨?_, active, intent⟩)))
    rw [reserved]
    rfl

/-- A consumption with unused identifiers is never rejected by a constraint. -/
theorem updateReservation_consumed {db : Db} {reservation : ReservationRow}
    (present : reservation ∈ db.reservations) (reserved : reservation.state = .reserved)
    {attemptId : AttemptId} {attemptFence : AttemptFence} (unused : Unused db attemptId attemptFence)
    (consumedAt : ℕ) :
    ∃ next, updateReservation db reservation.id (.consumed attemptId attemptFence consumedAt) =
      .ok next := by
  have same : ∀ row ∈ db.reservations, row.id = reservation.id → row = reservation :=
    fun row isRow equal => Table.eq_of_conflict isRow present (Or.inl equal)
  have safe : ∃ reservations, db.reservations.update (fun row => row.id = reservation.id)
      (fun row => { row with state := .consumed attemptId attemptFence consumedAt }) =
        .ok reservations := by
    refine Table.update_of_safe (fun row isRow _ => db.reservations.checked row isRow) ?_
    intro left isLeft right isRight clash
    obtain ⟨leftId, leftFence⟩ := unused.reservations left isLeft
    obtain ⟨rightId, rightFence⟩ := unused.reservations right isRight
    simp only [decide_eq_true_eq] at clash
    split at clash
    · next isNamed =>
        obtain rfl := same left isLeft isNamed
        split at clash
        · next isSame => exact Or.inl isSame.symm
        · exact consumed_conflict reserved rightId rightFence clash
    · split at clash
      · next isNamed =>
          obtain rfl := same right isRight isNamed
          exact Schema.symmetric _ _
            (consumed_conflict reserved leftId leftFence (Schema.symmetric _ _ clash))
      · exact clash
  obtain ⟨reservations, updated⟩ := safe
  exact ⟨_, updateReservation_ok.mpr ⟨reservations, updated, rfl⟩⟩

/-- The intent is the one that a reservation names. -/
structure Intends (intent : IntentRow) (row : ReservationRow) : Prop where
  runId : intent.runId = row.runId
  idempotencyKey : intent.idempotencyKey = row.idempotencyKey
  kind : intent.kind = row.kind
  target : intent.target = row.target
  inputFingerprint : intent.inputFingerprint = row.inputFingerprint

/-- The approval is the one that a reservation names. -/
structure Permits (approval : ApprovalRow) (row : ReservationRow) : Prop where
  id : approval.id = row.approvalId
  runId : approval.runId = row.runId
  kind : approval.kind = row.kind
  target : approval.target = row.target
  inputFingerprint : approval.inputFingerprint = row.inputFingerprint
  receiptId : approval.validationReceiptId = row.validationReceiptId
  withinApproval : row.invokeBy ≤ approval.expiresAt

/-- A new reservation agrees with the current rows of its run. -/
structure Reserves (db : Db) (t : ℕ → ℕ) (row : ReservationRow) (run : RunRow)
    (lease : RunLease) (intent : IntentRow) (validation : ValidationReceiptRow)
    (approval : ApprovalRow) : Prop where
  found : db.run? row.runId = some run
  mode : run.executionMode = .live
  allowed : run.status = effectState row.kind
  owned : Owned run lease row
  leaseLive : t 0 < lease.expiresAt
  withinLease : row.invokeBy ≤ lease.expiresAt
  intended : db.intent? row.intentId = some intent
  intends : Intends intent row
  latest : db.latestValidation? row.runId = some validation
  receiptId : validation.id = row.validationReceiptId
  approved : approval ∈ db.approvals
  permits : Permits approval row
  timely : t 2 < row.invokeBy
  reserved : row.state = .reserved

theorem statusOfKind_some (kind : EffectKind) : statusOfKind (some kind) = effectState kind := by
  cases kind <;> rfl

theorem reservedApproval?_mem {db : Db} {args : ReserveArguments} {approval : ApprovalRow}
    (found : reservedApproval? db args = some approval) :
    approval ∈ db.approvals ∧ some approval.id = args.approvalId ∧
      some approval.runId = args.runId ∧ some approval.kind = args.kind ∧
      some approval.target = args.target ∧ some approval.inputFingerprint = args.inputFingerprint := by
  refine ⟨List.mem_of_find?_eq_some found, ?_⟩
  simpa using List.find?_some found

/-- A reservation commits only with the authority that its columns record. -/
theorem effectReserveCurrent_ok {sql : SqlHashing} {db next : Db} {t : ℕ → ℕ}
    {args : ReserveArguments} {row : ReservationRow}
    (reserved : effectReserveCurrent sql db t args = .ok (next, row)) :
    (∃ run lease intent validation approval,
      Reserves db t row run lease intent validation approval) ∧
      insertReservation db row = .ok next := by
  simp only [effectReserveCurrent, bind_ok, reject_ok, notNull, present_ok, pure_ok,
    Prod.mk.injEq] at reserved
  obtain ⟨_, passed, id, hasId, runId, hasRunId, intentId, hasIntentId, key, hasKey, kind, hasKind,
    target, hasTarget, fingerprint, hasFingerprint, receiptId, hasReceiptId, receiptFingerprint,
    hasReceiptFingerprint, approvalId, hasApprovalId, approvalFingerprint, hasApprovalFingerprint,
    eventPrefix, hasEventPrefix, leaseId, hasLeaseId, workerId, hasWorkerId, generation,
    hasGeneration, version, hasVersion, tokenHash, hasTokenHash, invokeBy, hasInvokeBy, status,
    hasStatus, stored, inserted, rfl, rfl⟩ := reserved
  obtain ⟨run, found, rfl⟩ := Option.map_eq_some_iff.mp hasStatus
  simp only [reserveGuards, hasRunId, hasIntentId, hasKey, hasKind, hasTarget, hasFingerprint,
    hasReceiptId, hasReceiptFingerprint, hasApprovalFingerprint, hasEventPrefix, hasLeaseId,
    hasWorkerId, hasGeneration, hasVersion, hasInvokeBy, found, Option.bind_some, Option.map_some,
    anyOf_cons_holds, anyOf_nil_holds, not_or, not_notEqual_values, not_lessEqual_values,
    isDistinct_holds, isNull_holds, ne_eq, not_not, Option.some.injEq, reduceCtorEq,
    not_false_eq_true, and_true, true_and, statusOfKind_some, Option.map_eq_some_iff] at passed
  obtain ⟨mode, _, allowed, ⟨lease, held, leaseIs⟩, worker, generationIs, leaseLive, withinLease,
    _, intended, intentRun, intentKey, intentKind, intentTarget, intentFingerprint,
    ⟨validation, latest, receiptIs⟩, _, approved, _, approvalReceipt, _, _, _, _, withinApproval,
    timely⟩ := passed
  obtain ⟨intent, hasIntent⟩ := Option.ne_none_iff_exists'.mp intended
  obtain ⟨approval, hasApproval⟩ := Option.ne_none_iff_exists'.mp approved
  obtain ⟨present, approvalIs, approvalRun, approvalKind, approvalTarget, approvalInput⟩ :=
    reservedApproval?_mem hasApproval
  simp only [hasIntent, Option.map_some, not_notEqual_values] at intentRun intentKey intentKind
  simp only [hasIntent, Option.map_some, not_notEqual_values] at intentTarget intentFingerprint
  simp only [hasApproval, Option.map_some, not_notEqual_values] at approvalReceipt
  simp only [hasApproval, Option.map_some, not_greater_values] at withinApproval
  simp only [held, Option.some.injEq, exists_eq_left', Option.map_some, not_greater_values,
    not_lessEqual_values] at leaseIs worker leaseLive withinLease
  rw [hasApprovalId, Option.some.injEq] at approvalIs
  rw [hasRunId, Option.some.injEq] at approvalRun
  rw [hasKind, Option.some.injEq] at approvalKind
  rw [hasTarget, Option.some.injEq] at approvalTarget
  rw [hasFingerprint, Option.some.injEq] at approvalInput
  exact ⟨⟨run, lease, intent, validation, approval,
    { found := found, mode := mode, allowed := allowed
      owned := ⟨held, rfl, leaseIs, worker, generationIs⟩
      leaseLive := leaseLive, withinLease := withinLease, intended := hasIntent
      intends := ⟨intentRun, intentKey, intentKind, intentTarget, intentFingerprint⟩
      latest := latest, receiptId := receiptIs, approved := present
      permits := ⟨approvalIs, approvalRun, approvalKind, approvalTarget, approvalInput,
        approvalReceipt, withinApproval⟩
      timely := timely, reserved := rfl }⟩, inserted⟩

end LineageGuard
