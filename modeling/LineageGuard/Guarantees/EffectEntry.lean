import LineageGuard.Guarantees.Outcome
import Mathlib.Tactic

/-
This file says which worker may begin an effect after its run was validated.
-/

namespace LineageGuard

open Relational Attempt Store

section Entry

variable {env : Environment} {db : Db} {t : ℕ → ℕ}

/-- The latest validation receipt of the run is one that the store accepts. -/
def AcceptedLatest (env : Environment) (db : Db) (runId : RunId)
    (verified : SignedLiveValidationReceipt) : Prop :=
  ∃ row, db.latestValidation? runId = some row ∧
    verifyValidation env db runId row.payload false = .ok verified ∧
    env.script.receiptId verified = row.id

/-- These are the checks of the lease and of the validation that every effect begins with. -/
def EntryAccepted (env : Environment) (db : Db) (t : ℕ → ℕ) (runId : RunId) (guard : LeaseGuard) :
    Prop :=
  (∃ run, lockRunForLease db (t 0) runId guard = .ok run) ∧
    ∃ validation, assertAcceptedValidation env db (t 1) runId true false = .ok validation

/-- Every effect that begins has passed the checks. -/
theorem beginEffect_entry {input : EffectInput} {id : IntentId} {result : Db × BegunEffect}
    (done : beginEffect env db t input id = .ok result) :
    EntryAccepted env db t input.request.runId input.guard := by
  simp only [beginEffect, bind_ok] at done
  obtain ⟨_, _, _, _, _, _, run, locked, _, _, _, _, validation, accepted, _⟩ := done
  exact ⟨⟨run, locked⟩, validation, accepted⟩

theorem assertAcceptedValidation_ok {now : ℕ} {runId : RunId} {original live : Bool}
    {verified : SignedLiveValidationReceipt} :
    assertAcceptedValidation env db now runId original live = .ok verified ↔
      ∃ row, db.latestValidation? runId = some row ∧
        verifyValidation env db runId row.payload live = .ok verified ∧
        env.script.receiptId verified = row.id ∧
        ∃ run ∈ db.run? runId, (∃ lease ∈ run.lease, now < lease.expiresAt) ∧
          (original = true → OriginalLease run verified.protectedHeaders) := by
  simp only [assertAcceptedValidation, bind_ok, present_ok, require_ok, exists_const, pure_ok]
  constructor
  · rintro ⟨row, latest, found, isFound, named, current, rfl⟩
    exact ⟨row, latest, isFound, named, current⟩
  · rintro ⟨row, latest, isFound, named, current⟩
    exact ⟨row, latest, verified, isFound, named, current, rfl⟩

theorem guardMatches_earlier {row : RunRow} {guard : LeaseGuard} {now later : ℕ}
    (matched : GuardMatches row guard later) (ordered : now ≤ later) :
    GuardMatches row guard now := by
  obtain ⟨generation, version, lease, held, leaseId, workerId, live⟩ := matched
  exact ⟨generation, version, lease, held, leaseId, workerId, Nat.lt_of_le_of_lt ordered live⟩

/-- The checks compare the lease of the run with the lease of the validation. -/
theorem EntryAccepted.original {runId : RunId} {guard : LeaseGuard} {run : RunRow}
    (entered : EntryAccepted env db t runId guard) (found : db.run? runId = some run)
    {verified : SignedLiveValidationReceipt} (accepted : AcceptedLatest env db runId verified) :
    OriginalLease run verified.protectedHeaders := by
  obtain ⟨row, latest, isVerified, named⟩ := accepted
  obtain ⟨_, validation, passed⟩ := entered
  obtain ⟨other, isOther, isValidation, _, current, isRun, _, original⟩ :=
    assertAcceptedValidation_ok.mp passed
  obtain rfl := Option.some.inj (latest.symm.trans isOther)
  obtain rfl := Except.ok.inj (isVerified.symm.trans isValidation)
  obtain rfl := Option.some.inj (found.symm.trans isRun)
  exact original rfl

/-- The holder of the current lease of a run with an accepted validation may begin an effect exactly
when the validation was signed under that lease. -/
theorem effect_entry_accepted (delays : List ℕ) {runId : RunId} {guard : LeaseGuard} {run : RunRow}
    (fenced : Fenced db (readings db delays 1) runId guard run)
    {verified : SignedLiveValidationReceipt} (accepted : AcceptedLatest env db runId verified) :
    EntryAccepted env db (readings db delays) runId guard ↔
      OriginalLease run verified.protectedHeaders := by
  constructor
  · exact fun entered => entered.original fenced.found accepted
  · intro original
    have ordered : readings db delays 0 ≤ readings db delays 1 :=
      (readings_ticks db delays).ordered (Nat.zero_le 1)
    obtain ⟨row, latest, isVerified, named⟩ := accepted
    obtain ⟨_, _, lease, held, _, _, live⟩ := fenced.guarded
    exact ⟨⟨run, lockRunForLease_ok.mpr ⟨fenced.found, fenced.safe,
      guardMatches_earlier fenced.guarded ordered⟩⟩, verified, assertAcceptedValidation_ok.mpr ⟨row, latest,
      isVerified, named, run, fenced.found, ⟨lease, held, live⟩, fun _ => original⟩⟩

end Entry

section Sample

/-- The worker of the validation gives its lease back for a retry of the review. -/
def retryStep : Step :=
  sampleStep (.scheduleRetry ⟨0, 300⟩ 13
    { eventId := ⟨300⟩, runId := ⟨1⟩, sequence := 10, occurredAt := toISOString 0
      leaseId := ⟨1⟩, workerId := "worker-1", generation := 1
      body := .retryScheduled .githubWrite 1 (toISOString 0) "timeout" } ⟨1⟩ ⟨301⟩)

/-- Another worker claims the run when its retry is due. -/
def handedSteps : List Step := validatedSteps ++
  [retryStep, ⟨[2000000], .claimDue [] "worker-2" 60000 ⟨⟨400⟩, ⟨401⟩, ⟨2⟩⟩⟩]

def handedGuard : LeaseGuard := ⟨⟨2⟩, "worker-2", 2, 15⟩

/-- The worker that takes the run over holds its lease and may not begin the review. -/
theorem handed_worker_refused :
    Reachable sampleEnvironment (sampleState handedSteps) ∧
    (∃ run, run.status = effectState .githubReview ∧
      Fenced (sampleState handedSteps) (readings (sampleState handedSteps) [1000] 1) ⟨1⟩
        handedGuard run) ∧
    AcceptedLatest sampleEnvironment (sampleState handedSteps) ⟨1⟩ sampleReceipt ∧
    ¬ EntryAccepted sampleEnvironment (sampleState handedSteps)
      (readings (sampleState handedSteps) [1000]) ⟨1⟩ handedGuard := by
  have holds : ∃ run ∈ (sampleState handedSteps).run? ⟨1⟩,
      run.status = effectState .githubReview ∧ run.version ≤ maxSafeInteger ∧
      GuardMatches run handedGuard (readings (sampleState handedSteps) [1000] 1) ∧
      ¬ OriginalLease run sampleReceipt.protectedHeaders := by decide +kernel
  have latest : ∃ row ∈ (sampleState handedSteps).latestValidation? ⟨1⟩,
      verifyValidation sampleEnvironment (sampleState handedSteps) ⟨1⟩ row.payload false =
        .ok sampleReceipt ∧ sampleEnvironment.script.receiptId sampleReceipt = row.id := by
    decide +kernel
  obtain ⟨run, found, status, safe, guarded, handed⟩ := holds
  have fenced : Fenced (sampleState handedSteps) (readings (sampleState handedSteps) [1000] 1) ⟨1⟩
      handedGuard run := ⟨found, safe, guarded⟩
  refine ⟨sampleState_reachable handedSteps, ⟨run, status, fenced⟩, latest, fun entered => ?_⟩
  exact handed (entered.original found latest)

theorem effect_entry_accepted_validated :
    EntryAccepted sampleEnvironment (sampleState validatedSteps)
      (readings (sampleState validatedSteps) [1000]) ⟨1⟩ (sampleGuard 13) := by
  have holds : ∃ run ∈ (sampleState validatedSteps).run? ⟨1⟩, run.version ≤ maxSafeInteger ∧
      GuardMatches run (sampleGuard 13) (readings (sampleState validatedSteps) [1000] 1) ∧
      OriginalLease run sampleReceipt.protectedHeaders := by decide +kernel
  have latest : ∃ row ∈ (sampleState validatedSteps).latestValidation? ⟨1⟩,
      verifyValidation sampleEnvironment (sampleState validatedSteps) ⟨1⟩ row.payload false =
        .ok sampleReceipt ∧ sampleEnvironment.script.receiptId sampleReceipt = row.id := by
    decide +kernel
  obtain ⟨run, found, safe, guarded, original⟩ := holds
  exact (effect_entry_accepted [1000] ⟨found, safe, guarded⟩ latest).mpr original

end Sample

end LineageGuard
