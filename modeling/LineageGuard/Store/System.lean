import LineageGuard.Library.Runs
import LineageGuard.Store.Effects
import Mathlib.Tactic

/-
This file gives the runs of the store: workers call its operations one after another.
-/

namespace LineageGuard

open Store

/-- An operation carries its arguments and the random identifiers that it draws. -/
inductive Op
  | createRun (id : RunId) (requestKey : String) (inputFingerprint : Fingerprint)
      (executionMode : ExecutionMode) (payload : Jsonb) (nextAttemptAt : ℕ)
  | claimDue (locked : List RunId) (workerId : String) (leaseMillis : ℕ) (ids : ClaimIds)
  | renewLease (runId : RunId) (guard : LeaseGuard) (leaseMillis : ℕ) (eventId : EventId)
  | releaseLease (runId : RunId) (guard : LeaseGuard) (eventId : EventId)
  | transition (read : EarlierRead) (event : RunEvent) (expectedVersion : ℕ)
  | scheduleRetry (read : EarlierRead) (seenVersion : ℕ) (event : RunEvent) (retryId : RetryId)
      (releasedEventId : EventId)
  | appendEvidenceBundle (runId : RunId) (guard : LeaseGuard) (payload : Jsonb) (id : BundleId)
  | appendImpactCollectionResult (runId : RunId) (guard : LeaseGuard)
      (payload : ImpactCollectionResult) (id : BundleId)
  | appendMigrationCandidate (runId : RunId) (guard : LeaseGuard) (payload : MigrationCandidate)
      (id : MigrationId)
  | saveDecision (runId : RunId) (guard : LeaseGuard) (scope : DecisionScope) (payload : Jsonb)
      (id : DecisionId)
  | issueAndStoreValidationReceipt (request : ValidationReceiptIssueRequest)
      (issue : ValidationAuthorityBinding → IsoDateTime → SignedLiveValidationReceipt)
  | recordEffectApproval (input : EffectApprovalInput) (id : ApprovalId)
  | beginEffect (input : EffectInput) (id : IntentId)
  | effectReserveCurrent (args : ReserveArguments)
  | effectVerifyCurrent (args : EffectArguments)
  | effectConsumeCurrent (args : EffectArguments) (attemptId : AttemptId)
      (attemptFence : AttemptFence)
  | effectCancelReservationBeforeSend (args : EffectArguments)
  | recordEffectSuccess (input : AttemptFenceInput) (payload : EffectReceiptPayload)
      (id : ReceiptId)
  | recordEffectAmbiguous (input : AttemptFenceInput) (payload : Jsonb) (id : FailureId)
  | reconcileEffectAttempt (input : ReconciliationInput) (id : ReconciliationId)
      (receiptId : ReceiptId)

/-- The argument `t` gives the readings of the database clock in their order. -/
def exec (env : Environment) (db : Db) (t : ℕ → ℕ) : Op → Except StoreError Db
  | .createRun id requestKey inputFingerprint executionMode payload nextAttemptAt =>
      (createRun db t id requestKey inputFingerprint executionMode payload nextAttemptAt).map
        Prod.fst
  | .claimDue locked workerId leaseMillis ids =>
      (claimDue db t locked workerId leaseMillis ids).map Prod.fst
  | .renewLease runId guard leaseMillis eventId =>
      (renewLease db t runId guard leaseMillis eventId).map Prod.fst
  | .releaseLease runId guard eventId => (releaseLease db t runId guard eventId).map Prod.fst
  | .transition read event expectedVersion =>
      (transition env db t read event expectedVersion).map Prod.fst
  | .scheduleRetry read seenVersion event retryId releasedEventId =>
      (scheduleRetry db t read seenVersion event retryId releasedEventId).map Prod.fst
  | .appendEvidenceBundle runId guard payload id =>
      (appendEvidenceBundle db t runId guard payload id).map Prod.fst
  | .appendImpactCollectionResult runId guard payload id =>
      (appendImpactCollectionResult db t runId guard payload id).map Prod.fst
  | .appendMigrationCandidate runId guard payload id =>
      (appendMigrationCandidate db t runId guard payload id).map Prod.fst
  | .saveDecision runId guard scope payload id =>
      (saveDecision db t runId guard scope payload id).map Prod.fst
  | .issueAndStoreValidationReceipt request issue =>
      (issueAndStoreValidationReceipt env db t request issue).map Prod.fst
  | .recordEffectApproval input id => (recordEffectApproval env db t input id).map Prod.fst
  | .beginEffect input id => (beginEffect env db t input id).map Prod.fst
  | .effectReserveCurrent args => (effectReserveCurrent env.sql db t args).map Prod.fst
  | .effectVerifyCurrent args => (effectVerifyCurrent env.sql db t args).map fun _ => db
  | .effectConsumeCurrent args attemptId attemptFence =>
      (effectConsumeCurrent env.sql db t args attemptId attemptFence).map Prod.fst
  | .effectCancelReservationBeforeSend args => effectCancelReservationBeforeSend db args
  | .recordEffectSuccess input payload id =>
      (recordEffectSuccess env db t input payload id).map Prod.fst
  | .recordEffectAmbiguous input payload id =>
      (recordEffectAmbiguous db t input payload id).map Prod.fst
  | .reconcileEffectAttempt input id receiptId =>
      (reconcileEffectAttempt env db t input id receiptId).map Prod.fst

/-- A step advances the clock before each of its readings. -/
structure Step where
  delays : List ℕ
  op : Op

def readings (db : Db) (delays : List ℕ) (reading : ℕ) : ℕ :=
  db.clock + (delays.take (reading + 1)).sum

/-- A committed step changes the tables, and every step moves the clock. -/
def after (env : Environment) (db : Db) (step : Step) : Db :=
  match exec env db (readings db step.delays) step.op with
  | .ok committed => { committed with clock := db.clock + step.delays.sum }
  | .error _ => { db with clock := db.clock + step.delays.sum }

/-- A step commits when its operation returns. -/
def Commits (env : Environment) (db : Db) (step : Step) : Prop :=
  (exec env db (readings db step.delays) step.op).isOk = true

instance (env : Environment) (db : Db) (step : Step) : Decidable (Commits env db step) :=
  inferInstanceAs (Decidable (_ = _))

/-- A reachable state follows from the migrated database at some time. -/
def Reachable (env : Environment) (db : Db) : Prop :=
  ∃ clock, Runs.Reachable (after env) (.migrated clock) db

/-- The readings of a step never go back and never pass its end. -/
structure Ticks (t : ℕ → ℕ) (start finish : ℕ) : Prop where
  ordered : Monotone t
  later : ∀ reading, start ≤ t reading
  bounded : ∀ reading, t reading ≤ finish

theorem readings_ticks (db : Db) (delays : List ℕ) :
    Ticks (readings db delays) db.clock (db.clock + delays.sum) where
  ordered := by
    intro first second ordered
    have shorter : (delays.take (first + 1)).sum ≤ (delays.take (second + 1)).sum :=
      ((List.take_prefix_take_left (by omega : first + 1 ≤ second + 1)).sublist).sum_le_sum
        (by simp)
    simp only [readings]
    omega
  later := by
    intro reading
    simp only [readings]
    omega
  bounded := by
    intro reading
    have shorter : (delays.take (reading + 1)).sum ≤ delays.sum :=
      (List.take_sublist _ _).sum_le_sum (by simp)
    simp only [readings]
    omega

end LineageGuard
