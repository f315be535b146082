import LineageGuard.Guarantees.Outcome
import Mathlib.Tactic

/-
This file shows that a completed run has the receipts of its two effects.
-/

namespace LineageGuard

open Relational Attempt Store

section Completion

variable {env : Environment} {db : Db}

/-- The receipt repeats the binding of the validation, in its columns and in its payload. -/
structure BoundTo (receipt : ReceiptRow) (validation : ValidationReceiptRow) : Prop where
  columns : receiptColumns receipt = (validation.id,
    validation.payload.protectedHeaders.candidateFingerprint,
    validation.payload.payload.artifactSetFingerprint)
  payload : ∃ binding, receipt.payload.binding = some binding ∧
    binding.validationReceiptId = validation.id ∧
    binding.candidateFingerprint = validation.payload.protectedHeaders.candidateFingerprint ∧
    binding.artifactSetFingerprint = validation.payload.payload.artifactSetFingerprint

/-- The receipt is the only one of its kind, its attempt has succeeded and it binds the validation. -/
structure OnlyReceipt (db : Db) (runId : RunId) (kind : EffectKind)
    (validation : ValidationReceiptRow) (receipt : ReceiptRow) : Prop where
  only : ∀ other, EffectReceipt db runId kind other ↔ other = receipt
  attempt : ∃ attempt ∈ db.attempts, attempt.intentId = receipt.intentId ∧
    attempt.state = .succeeded
  bound : BoundTo receipt validation

/-- A receipt binds the latest validation of its run. -/
theorem Inv.boundTo (inv : Inv db) {runId : RunId} {kind : EffectKind} {receipt : ReceiptRow}
    (effect : EffectReceipt db runId kind receipt) :
    ∃ validation, db.latestValidation? runId = some validation ∧ BoundTo receipt validation := by
  obtain ⟨present, intent, isIntent, names, belongs, _⟩ := effect
  obtain ⟨run, validation, binds⟩ := inv.bindings.intents intent isIntent
  obtain ⟨found, receipts⟩ := inv.bindings.receipts receipt present
  obtain ⟨isFound, same⟩ := Db.intent?_eq_some.mp receipts.found
  obtain rfl := intent_unique isFound isIntent (same.trans names.symm)
  have columns := receipts.columns
  rw [binds.receiptId, binds.candidate, binds.artifacts] at columns
  exact ⟨validation, belongs ▸ binds.latest, columns, _, receipts.binding, binds.receiptId,
    binds.candidate, binds.artifacts⟩

theorem OneEffect.onlyReceipt {runId : RunId} {kind : EffectKind} (one : OneEffect db runId kind)
    (inv : Inv db) : ∃ validation receipt, db.latestValidation? runId = some validation ∧
      OnlyReceipt db runId kind validation receipt := by
  obtain ⟨receipt, only⟩ := one
  have effect : EffectReceipt db runId kind receipt := (only receipt).mpr rfl
  obtain ⟨validation, latest, bound⟩ := inv.boundTo effect
  exact ⟨validation, receipt, latest, only, inv.outcomes.received receipt effect.1, bound⟩

/-- A completed run is live and has exactly one receipt of each kind, both for its latest
validation, and every reviewed run has exactly one receipt of its review with that binding. -/
theorem completion_sound (reached : Reachable env db) :
    ∀ run ∈ db.runs,
      (run.status = .completed → run.executionMode = .live ∧
        ∃ validation github datahub, db.latestValidation? run.id = some validation ∧
          OnlyReceipt db run.id .githubReview validation github ∧
          OnlyReceipt db run.id .datahubWriteback validation datahub) ∧
      (run.status ∈ reviewed → run.executionMode = .live ∧
        ∃ validation github, db.latestValidation? run.id = some validation ∧
          OnlyReceipt db run.id .githubReview validation github) := by
  have inv := reached.inv
  intro run present
  have receipts := inv.completions run present
  constructor
  · intro completed
    obtain ⟨live, github, datahub⟩ := receipts (by rw [completed]; decide)
    obtain ⟨validation, review, latest, isReview⟩ := github.onlyReceipt inv
    obtain ⟨other, writeback, again, isWriteback⟩ := (datahub completed).onlyReceipt inv
    obtain rfl := Option.some.inj (latest.symm.trans again)
    exact ⟨live, validation, review, writeback, latest, isReview, isWriteback⟩
  · intro isReviewed
    obtain ⟨live, github, _⟩ := receipts isReviewed
    exact ⟨live, github.onlyReceipt inv⟩

end Completion

section Sample

def writebackRequest : ApprovalRequest := ⟨⟨1⟩, .datahubWriteback, "dataset-1", ⟨7⟩⟩

def writebackAssertion : EffectApprovalAssertion :=
  { sampleAssertion with
    payload := canonicalApprovalPayload writebackRequest ⟨3⟩ ⟨3⟩ 0 "approver-1" 11 1000000
    signedPayloadFingerprint := ⟨11000⟩ }

def writebackReserve : ReserveArguments :=
  { reserveArguments with
    id := some ⟨2⟩
    intentId := some ⟨2⟩
    idempotencyKey := some "key-2"
    kind := some .datahubWriteback
    target := some "dataset-1"
    approvalId := some ⟨2⟩
    approvalFingerprint := some ⟨11000⟩
    eventPrefixFingerprint := some ⟨12⟩
    expectedVersion := some 17
    tokenHash := some ⟨9⟩ }

def writebackArguments : EffectArguments :=
  { effectArguments with
    id := some ⟨2⟩
    tokenHash := some ⟨9⟩
    intentId := some ⟨2⟩
    idempotencyKey := some "key-2"
    kind := some .datahubWriteback
    target := some "dataset-1"
    approvalId := some ⟨2⟩
    approvalFingerprint := some ⟨11000⟩ }

def writebackReceipt : EffectReceiptPayload where
  binding := some ⟨⟨2⟩, ⟨1⟩, .datahubWriteback, "dataset-1", ⟨7⟩, ⟨3⟩, ⟨2⟩, ⟨5⟩⟩
  document := ⟨12, 1⟩

/-- The reviewed run writes its result back and completes. -/
def completedSteps : List Step := succeededSteps ++
  [transitionStep 10 14 .validated .reviewArtifactCreated,
    transitionStep 11 15 .reviewArtifactCreated .writebackPending,
    sampleStep (.recordEffectApproval
      ⟨writebackRequest, sampleGuard 16, "approver-1", 11, 1000000, writebackAssertion⟩ ⟨2⟩),
    sampleStep (.beginEffect ⟨writebackRequest, sampleGuard 16, "key-2", ⟨7, 1⟩⟩ ⟨2⟩),
    sampleStep (.effectReserveCurrent writebackReserve),
    sampleStep (.effectConsumeCurrent writebackArguments ⟨2⟩ ⟨2⟩),
    sampleStep (.recordEffectSuccess ⟨⟨2⟩, "worker-1", ⟨2⟩⟩ writebackReceipt ⟨2⟩),
    transitionStep 12 17 .writebackPending .completed]

theorem completion_sound_completed : ∃ run ∈ (sampleState completedSteps).runs,
    run.status = .completed ∧ ∃ validation github datahub,
      (sampleState completedSteps).latestValidation? run.id = some validation ∧
      OnlyReceipt (sampleState completedSteps) run.id .githubReview validation github ∧
      OnlyReceipt (sampleState completedSteps) run.id .datahubWriteback validation datahub := by
  have finished : ∃ run ∈ (sampleState completedSteps).runs, run.status = .completed := by
    decide +kernel
  obtain ⟨run, present, completed⟩ := finished
  exact ⟨run, present, completed,
    ((completion_sound (sampleState_reachable completedSteps) run present).1 completed).2⟩

end Sample

end LineageGuard
