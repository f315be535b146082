import LineageGuard.Guarantees.Outcome
import Mathlib.Tactic

/-
This file shows when the database functions of an effect check the whole capability of a call.
-/

namespace LineageGuard

open Relational Attempt Store

section Consumption

variable {env : Environment} {db : Db} {t : ℕ → ℕ}

/-- The worker of a held lease has a short name. -/
theorem History.lease_worker (history : History db) {run : RunRow} (present : run ∈ db.runs)
    {lease : RunLease} (held : run.lease = some lease) :
    1 ≤ lease.workerId.length ∧ lease.workerId.length ≤ 160 := by
  refine ⟨((db.runs.checked run present).2.2.2 lease held).1, ?_⟩
  have shown := (history.shown run present).lease
  rw [held] at shown
  obtain ⟨active, isActive, same⟩ := Option.map_eq_some_iff.mp shown.symm
  obtain ⟨event, isEvent, _, worker, _⟩ := replay_owner run.id (db.events run.id) isActive
  have shape := (history.streams run.id).shaped event isEvent
  simp only [runEventIssues, eventBaseIssues, textIssues, List.append_eq_nil_iff,
    issueUnless_nil] at shape
  have short : utf16Length event.workerId ≤ 160 := shape.1.1.1.2.2
  rw [← worker] at short
  rw [← same]
  exact Nat.le_trans (length_le_utf16Length active.workerId) short

/-- An intent with a reserved reservation has no attempt yet. -/
theorem Outcomes.unattempted (outcomes : Outcomes db) {reservation : ReservationRow}
    (present : reservation ∈ db.reservations) (reserved : reservation.state = .reserved) :
    ∀ attempt ∈ db.attempts, attempt.intentId ≠ reservation.intentId := by
  intro attempt isAttempt same
  obtain ⟨named, isNamed, _, invokes⟩ := outcomes.invoked attempt isAttempt
  have equal := active_unique isNamed present (by rw [invokes.state]; rfl) (by rw [reserved]; rfl)
    (invokes.intentId.trans same)
  have state := invokes.state
  rw [equal, reserved] at state
  cases state

theorem nextAttempt_first {intentId : IntentId}
    (unattempted : ∀ attempt ∈ db.attempts, attempt.intentId ≠ intentId) :
    db.nextAttempt intentId = 1 := by
  have none : db.attempts.rows.filter (fun row => row.intentId = intentId) = [] := by
    rw [List.filter_eq_nil_iff]
    intro attempt present
    simpa using unattempted attempt present
  rw [Db.nextAttempt, none]
  rfl

/-- The rows and the readings allow the consumption of the reservation. -/
structure Consumable (sql : SqlHashing) (db : Db) (t : ℕ → ℕ) (args : EffectArguments)
    (reservation : ReservationRow) (runId : RunId) (approvalId : ApprovalId) (intentId : IntentId) :
    Prop where
  consumes : Consumes sql db t args reservation runId approvalId intentId
  intent : Passes args.intentFingerprint (sql.intent (args.intentId.bind db.intent?))
  timely : t 4 < reservation.invokeBy

/-- A consumption with unused identifiers succeeds. -/
theorem Consumable.succeeds (inv : Inv db) {args : EffectArguments} {reservation : ReservationRow}
    {runId : RunId} {approvalId : ApprovalId} {intentId : IntentId}
    (consumable : Consumable env.sql db t args reservation runId approvalId intentId)
    {attemptId : AttemptId} {attemptFence : AttemptFence}
    (unused : Unused db attemptId attemptFence) :
    ∃ result, effectConsumeCurrent env.sql db t args attemptId attemptFence = .ok result := by
  obtain ⟨consumes, intent, timely⟩ := consumable
  have present := consumes.present
  have isIntent := consumes.intent
  have unattempted := inv.outcomes.unattempted present consumes.reserved
  rw [isIntent] at unattempted
  have first := nextAttempt_first unattempted
  obtain ⟨consumed, updated⟩ := updateReservation_consumed present consumes.reserved unused (t 3)
  obtain ⟨reservations, rewritten, rfl⟩ := updateReservation_ok.mp updated
  obtain ⟨run, lease, _, _, current⟩ := consumes.current
  obtain ⟨isRun, _⟩ := Db.run?_eq_some.mp current.found
  have worker := inv.history.lease_worker isRun current.owned.held
  rw [current.owned.workerId] at worker
  have checked : Schema.check
      (consumedAttempt t reservation intentId (db.nextAttempt intentId) attemptId attemptFence) := by
    rw [first]
    exact ⟨Nat.le_refl 1, by simp [consumedAttempt], worker.1, worker.2, timely⟩
  have fresh : ∀ old ∈ db.attempts, ¬ Schema.conflict old
      (consumedAttempt t reservation intentId (db.nextAttempt intentId) attemptId attemptFence) := by
    rintro old isOld (id | fence | pair)
    · exact (unused.attempts old isOld).1 id
    · exact (unused.attempts old isOld).2 fence
    · exact unattempted old isOld (congrArg Prod.fst pair)
  obtain ⟨attempts, inserted, _⟩ := Table.insert_of_fresh checked fresh
  have moved : Db.reservation? { db with reservations := reservations } reservation.id =
      some { reservation with state := .consumed attemptId attemptFence (t 3) } := by
    refine Db.reservation?_eq_some.mpr ⟨(Table.mem_update rewritten _).mpr
      ⟨reservation, present, ?_⟩, rfl⟩
    rw [if_pos (by simp)]
  obtain ⟨named, _, authorized⟩ := inv.bindings.reservations reservation present
  have known : db.intent? intentId ≠ none := by
    rw [← isIntent, authorized.found]
    simp
  exact ⟨_, effectConsumeCurrent_ok.mpr ⟨reservation, runId, approvalId, intentId, _,
    consumes.found, consumes.reserved, consumes.bound, intent, consumes.hasRun,
    consumes.hasApproval, consumes.hasIntent, ⟨run, lease, _, _, current⟩,
    by rw [first]; decide, updated,
    insertAttempt_ok.mpr ⟨rfl, ⟨_, moved, isIntent, rfl, rfl⟩, known, attempts, inserted, rfl⟩,
    rfl⟩⟩

/-- A consumption succeeds only with unused identifiers. -/
theorem Consumable.of_succeeds {args : EffectArguments} {attemptId : AttemptId}
    {attemptFence : AttemptFence} {next : Db} {result : ConsumedEffect}
    (done : effectConsumeCurrent env.sql db t args attemptId attemptFence = .ok (next, result)) :
    Unused db attemptId attemptFence ∧ ∃ reservation runId approvalId intentId,
      Consumable env.sql db t args reservation runId approvalId intentId := by
  obtain ⟨reservation, runId, approvalId, intentId, consumed, found, reserved, bound, intent,
    hasRun, hasApproval, hasIntent, current, _, updated, inserted, _⟩ :=
    effectConsumeCurrent_ok.mp done
  have consumes : Consumes env.sql db t args reservation runId approvalId intentId :=
    ⟨found, reserved, bound, hasRun, hasApproval, hasIntent, current⟩
  obtain ⟨reservations, rewritten, rfl⟩ := updateReservation_ok.mp updated
  obtain ⟨_, _, _, attempts, added, _⟩ := insertAttempt_ok.mp inserted
  obtain ⟨checked, fresh⟩ := Table.insert_fresh added
  have moved : { reservation with state := .consumed attemptId attemptFence (t 3) } ∈
      reservations := by
    refine (Table.mem_update rewritten _).mpr ⟨reservation, consumes.present, ?_⟩
    rw [if_pos (by simp)]
  refine ⟨⟨fun row present => ?_, fun row present => ?_⟩, reservation, runId, approvalId, intentId,
    consumes, intent, checked.2.2.2.2⟩
  · by_cases same : row.id = reservation.id
    · obtain rfl := reservation_unique present consumes.present same
      rw [reserved]
      exact ⟨nofun, nofun⟩
    · have kept : row ∈ reservations := by
        refine (Table.mem_update rewritten _).mpr ⟨row, present, ?_⟩
        rw [if_neg (by simpa using same)]
      constructor
      · intro shared
        have clash : SamePresent row.state.attemptId (some attemptId) := ⟨shared, by simp [shared]⟩
        rw [Table.eq_of_conflict kept moved (Or.inr (Or.inr (Or.inl clash)))] at same
        exact same rfl
      · intro shared
        have clash : SamePresent row.state.attemptFence (some attemptFence) :=
          ⟨shared, by simp [shared]⟩
        rw [Table.eq_of_conflict kept moved (Or.inr (Or.inr (Or.inr (Or.inl clash))))] at same
        exact same rfl
  · exact ⟨fun same => fresh row present (Or.inl same),
      fun same => fresh row present (Or.inr (Or.inl same))⟩

end Consumption

section Capability

variable {env : Environment} {db : Db}

/-- No argument of the call is missing. -/
def EffectArguments.Complete (args : EffectArguments) : Prop :=
  args.id ≠ none ∧ args.tokenHash ≠ none ∧ args.runId ≠ none ∧ args.intentId ≠ none ∧
  args.idempotencyKey ≠ none ∧ args.kind ≠ none ∧ args.target ≠ none ∧
  args.canonicalEffectFingerprint ≠ none ∧ args.validationReceiptId ≠ none ∧
  args.validationReceiptFingerprint ≠ none ∧ args.approvalId ≠ none ∧
  args.approvalFingerprint ≠ none ∧ args.intentFingerprint ≠ none

instance (args : EffectArguments) : Decidable args.Complete := inferInstanceAs (Decidable (_ ∧ _))

/-- Every argument equals the value of the reservation that it is compared with. -/
structure Equals (reservation : ReservationRow) (args : EffectArguments) : Prop where
  id : args.id = some reservation.id
  tokenHash : args.tokenHash = some reservation.tokenHash
  runId : args.runId = some reservation.runId
  intentId : args.intentId = some reservation.intentId
  idempotencyKey : args.idempotencyKey = some reservation.idempotencyKey
  kind : args.kind = some reservation.kind
  target : args.target = some reservation.target
  canonicalEffectFingerprint : args.canonicalEffectFingerprint = some reservation.inputFingerprint
  validationReceiptId : args.validationReceiptId = some reservation.validationReceiptId
  validationReceiptFingerprint :
    args.validationReceiptFingerprint = some reservation.validationReceiptFingerprint
  approvalId : args.approvalId = some reservation.approvalId
  approvalFingerprint : args.approvalFingerprint = some reservation.approvalFingerprint
  intentFingerprint : args.intentFingerprint = some reservation.intentFingerprint

/-- The call names a reservation that all its arguments equal. -/
def Matches (db : Db) (args : EffectArguments) : Prop :=
  ∃ reservation, args.id.bind db.reservation? = some reservation ∧ Equals reservation args

/-- The fingerprint of the call is the one of the stored intent. -/
def Recomputed (sql : SqlHashing) (db : Db) (args : EffectArguments) : Prop :=
  args.intentFingerprint = some (sql.intent (args.intentId.bind db.intent?))

theorem Passes.value {A : Type} {argument : Option A} {stored : A} (passes : Passes argument stored)
    (given : argument ≠ none) : argument = some stored := passes.resolve_left given

theorem Equals.complete {reservation : ReservationRow} {args : EffectArguments}
    (equals : Equals reservation args) : args.Complete := by
  simp [EffectArguments.Complete, equals.id, equals.tokenHash, equals.runId, equals.intentId,
    equals.idempotencyKey, equals.kind, equals.target, equals.canonicalEffectFingerprint,
    equals.validationReceiptId, equals.validationReceiptFingerprint, equals.approvalId,
    equals.approvalFingerprint, equals.intentFingerprint]

theorem Matches.complete {args : EffectArguments} (matched : Matches db args) : args.Complete := by
  obtain ⟨_, _, equals⟩ := matched
  exact equals.complete

/-- Complete arguments that pass every comparison equal the reservation. -/
theorem Bound.matches {args : EffectArguments} {reservation : ReservationRow}
    (bound : Bound reservation args) (found : args.id.bind db.reservation? = some reservation)
    (complete : args.Complete) : Matches db args := by
  obtain ⟨_, token, run, intent, key, kind, target, fingerprint, receiptId, receiptFingerprint,
    approvalId, approvalFingerprint, intentFingerprint⟩ := complete
  obtain ⟨id, isId, named⟩ := Option.bind_eq_some_iff.mp found
  have same := (Db.reservation?_eq_some.mp named).2
  exact ⟨reservation, found,
    { id := by rw [isId, same]
      tokenHash := bound.tokenHash.value token
      runId := bound.runId.value run
      intentId := bound.intentId.value intent
      idempotencyKey := bound.idempotencyKey.value key
      kind := bound.kind.value kind
      target := bound.target.value target
      canonicalEffectFingerprint := bound.canonicalEffectFingerprint.value fingerprint
      validationReceiptId := bound.validationReceiptId.value receiptId
      validationReceiptFingerprint := bound.validationReceiptFingerprint.value receiptFingerprint
      approvalId := bound.approvalId.value approvalId
      approvalFingerprint := bound.approvalFingerprint.value approvalFingerprint
      intentFingerprint := bound.intentFingerprint.value intentFingerprint }⟩

/-- The call succeeds only with the capability, and otherwise it raises and changes no table. -/
def Checked (env : Environment) (db : Db) (step : Step) (capability : Prop) : Prop :=
  capability ∨ (¬ Commits env db step ∧
    after env db step = { db with clock := db.clock + step.delays.sum })

theorem checked_iff {step : Step} {capability : Prop} :
    Checked env db step capability ↔ (Commits env db step → capability) := by
  constructor
  · rintro (matched | ⟨failed, _⟩) commits
    · exact matched
    · exact absurd commits failed
  · intro only
    by_cases commits : Commits env db step
    · exact Or.inl (only commits)
    · rcases after_cases env db step with ⟨next, done, _⟩ | raised
      · exact absurd (by rw [Commits, done]; rfl) commits
      · exact Or.inr raised

theorem commits_iff {step : Step} :
    Commits env db step ↔ ∃ next, exec env db (readings db step.delays) step.op = .ok next := by
  rw [Commits]
  cases exec env db (readings db step.delays) step.op <;> simp [Except.isOk, Except.toBool]

/-- A call whose success needs the comparisons is checked when it is complete or when it fails. -/
theorem checked_of_bound {step : Step} {args : EffectArguments} {capability condition : Prop}
    (commits : Commits env db step ↔ condition) (complete : capability → args.Complete)
    (holds : condition → args.Complete → capability) :
    Checked env db step capability ↔ args.Complete ∨ ¬ condition := by
  rw [checked_iff, commits]
  constructor
  · intro only
    by_cases allowed : condition
    · exact Or.inl (complete (only allowed))
    · exact Or.inr allowed
  · rintro (isComplete | refused) allowed
    · exact holds allowed isComplete
    · exact absurd allowed refused

/-- The comparisons of a verification pass. -/
def Verifies (sql : SqlHashing) (db : Db) (t : ℕ → ℕ) (args : EffectArguments) : Prop :=
  ∃ reservation, args.id.bind db.reservation? = some reservation ∧ Bound reservation args ∧
    Passes args.intentFingerprint (sql.intent (args.intentId.bind db.intent?)) ∧
    (reservation.state = .reserved → ∃ runId approvalId, args.runId = some runId ∧
      args.approvalId = some approvalId ∧ IsCurrent sql db t reservation runId approvalId)

/-- The comparisons of a cancellation pass. -/
def Cancels (db : Db) (args : EffectArguments) : Prop :=
  ∃ reservation, args.id.bind db.reservation? = some reservation ∧
    reservation.state = .reserved ∧ Bound reservation args

/-- The comparisons of a consumption pass, and its rows can be written. -/
def MayConsume (sql : SqlHashing) (db : Db) (t : ℕ → ℕ) (args : EffectArguments)
    (attemptId : AttemptId) (attemptFence : AttemptFence) : Prop :=
  Unused db attemptId attemptFence ∧ ∃ reservation runId approvalId intentId,
    Consumable sql db t args reservation runId approvalId intentId

theorem commits_verify {args : EffectArguments} {delays : List ℕ} :
    Commits env db ⟨delays, .effectVerifyCurrent args⟩ ↔
      Verifies env.sql db (readings db delays) args := by
  simp only [commits_iff, exec, map_ok]
  constructor
  · rintro ⟨_, reservation, verified, _⟩
    exact ⟨reservation, effectVerifyCurrent_ok.mp verified⟩
  · rintro ⟨reservation, verified⟩
    exact ⟨db, reservation, effectVerifyCurrent_ok.mpr verified, rfl⟩

theorem commits_consume (inv : Inv db) {args : EffectArguments} {attemptId : AttemptId}
    {attemptFence : AttemptFence} {delays : List ℕ} :
    Commits env db ⟨delays, .effectConsumeCurrent args attemptId attemptFence⟩ ↔
      MayConsume env.sql db (readings db delays) args attemptId attemptFence := by
  simp only [commits_iff, exec, map_fst_ok]
  constructor
  · rintro ⟨next, result, done⟩
    exact Consumable.of_succeeds done
  · rintro ⟨unused, reservation, runId, approvalId, intentId, consumable⟩
    obtain ⟨⟨next, result⟩, done⟩ := consumable.succeeds inv unused
    exact ⟨next, result, done⟩

theorem commits_cancel {args : EffectArguments} {delays : List ℕ} :
    Commits env db ⟨delays, .effectCancelReservationBeforeSend args⟩ ↔ Cancels db args := by
  simp only [commits_iff, exec, effectCancelReservationBeforeSend_ok]
  constructor
  · rintro ⟨next, reservation, found, reserved, bound, _⟩
    exact ⟨reservation, found, reserved, bound⟩
  · rintro ⟨reservation, found, reserved, bound⟩
    obtain ⟨next, updated⟩ := updateReservation_cancelled db reservation.id
    exact ⟨next, reservation, found, reserved, bound, updated⟩

/-- Each of the three functions checks the whole capability of a call exactly when no argument is
missing or when its comparisons refuse the call. -/
theorem capability_checked (reached : Reachable env db) (args : EffectArguments)
    (attemptId : AttemptId) (attemptFence : AttemptFence) (delays : List ℕ) :
    (Checked env db ⟨delays, .effectVerifyCurrent args⟩
        (Matches db args ∧ Recomputed env.sql db args) ↔
      args.Complete ∨ ¬ Verifies env.sql db (readings db delays) args) ∧
    (Checked env db ⟨delays, .effectConsumeCurrent args attemptId attemptFence⟩
        (Matches db args ∧ Recomputed env.sql db args) ↔
      args.Complete ∨
        ¬ MayConsume env.sql db (readings db delays) args attemptId attemptFence) ∧
    (Checked env db ⟨delays, .effectCancelReservationBeforeSend args⟩ (Matches db args) ↔
      args.Complete ∨ ¬ Cancels db args) := by
  refine ⟨?_, ?_, ?_⟩
  · refine checked_of_bound commits_verify (fun capability => capability.1.complete) ?_
    rintro ⟨reservation, found, bound, intent, _⟩ complete
    exact ⟨bound.matches found complete, intent.value complete.2.2.2.2.2.2.2.2.2.2.2.2⟩
  · refine checked_of_bound (commits_consume reached.inv)
      (fun capability => capability.1.complete) ?_
    rintro ⟨_, reservation, _, _, _, consumable⟩ complete
    exact ⟨consumable.consumes.bound.matches consumable.consumes.found complete,
      consumable.intent.value complete.2.2.2.2.2.2.2.2.2.2.2.2⟩
  · refine checked_of_bound commits_cancel Matches.complete ?_
    rintro ⟨reservation, found, _, bound⟩ complete
    exact bound.matches found complete

end Capability

section Sample

/-- The call leaves out every argument that only an inequality compares. -/
def missingArguments : EffectArguments :=
  { effectArguments with
    tokenHash := none
    idempotencyKey := none
    kind := none
    target := none
    canonicalEffectFingerprint := none
    validationReceiptId := none
    validationReceiptFingerprint := none
    approvalFingerprint := none
    intentFingerprint := none }

/-- All three functions accept a call without its token hash. -/
theorem missing_arguments_accepted :
    Reachable sampleEnvironment (sampleState reservedSteps) ∧
    ¬ Checked sampleEnvironment (sampleState reservedSteps)
      (sampleStep (.effectVerifyCurrent missingArguments))
      (Matches (sampleState reservedSteps) missingArguments) ∧
    ¬ Checked sampleEnvironment (sampleState reservedSteps)
      (sampleStep (.effectConsumeCurrent missingArguments ⟨1⟩ ⟨1⟩))
      (Matches (sampleState reservedSteps) missingArguments) ∧
    ¬ Checked sampleEnvironment (sampleState reservedSteps)
      (sampleStep (.effectCancelReservationBeforeSend missingArguments))
      (Matches (sampleState reservedSteps) missingArguments) := by
  have differs : ¬ Matches (sampleState reservedSteps) missingArguments := fun matched =>
    absurd matched.complete (by decide)
  refine ⟨sampleState_reachable reservedSteps, ?_, ?_, ?_⟩
  · exact fun checked => differs (checked_iff.mp checked (by decide +kernel))
  · exact fun checked => differs (checked_iff.mp checked (by decide +kernel))
  · exact fun checked => differs (checked_iff.mp checked (by decide +kernel))

theorem capability_checked_reserved :
    (Checked sampleEnvironment (sampleState reservedSteps)
        ⟨[1000], .effectVerifyCurrent effectArguments⟩
        (Matches (sampleState reservedSteps) effectArguments ∧
          Recomputed sampleEnvironment.sql (sampleState reservedSteps) effectArguments)) ∧
    (Checked sampleEnvironment (sampleState reservedSteps)
        ⟨[1000], .effectConsumeCurrent effectArguments ⟨1⟩ ⟨1⟩⟩
        (Matches (sampleState reservedSteps) effectArguments ∧
          Recomputed sampleEnvironment.sql (sampleState reservedSteps) effectArguments)) ∧
    Checked sampleEnvironment (sampleState reservedSteps)
      ⟨[1000], .effectCancelReservationBeforeSend effectArguments⟩
      (Matches (sampleState reservedSteps) effectArguments) := by
  have complete : effectArguments.Complete := by decide
  obtain ⟨verify, consume, cancel⟩ := capability_checked (sampleState_reachable reservedSteps)
    effectArguments ⟨1⟩ ⟨1⟩ [1000]
  exact ⟨verify.mpr (Or.inl complete), consume.mpr (Or.inl complete),
    cancel.mpr (Or.inl complete)⟩

end Sample

end LineageGuard
