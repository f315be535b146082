import LineageGuard.Store.Transitions
import Mathlib.Tactic

/-
This file translates the approval, the intent and the outcome of an effect.
-/

namespace LineageGuard

open Relational Attempt

namespace Store

variable (env : Environment)

/-- These are the columns that an approval must have for an effect. -/
structure ApprovalRequest where
  runId : RunId
  kind : EffectKind
  target : String
  inputFingerprint : Fingerprint

def canonicalApprovalPayload (request : ApprovalRequest)
    (validationReceiptId : ValidationReceiptId) (validationReceiptFingerprint : Fingerprint)
    (validationCompletedAt : ℕ) (approvedBy : String) (approvedAt expiresAt : ℕ) :
    ApprovalPayload where
  runId := request.runId
  effectKind := validationEffectKind request.kind
  target := request.target
  inputFingerprint := request.inputFingerprint
  validationReceiptId := validationReceiptId
  validationReceiptFingerprint := validationReceiptFingerprint
  validationCompletedAt := toISOString validationCompletedAt
  approvedBy := approvedBy
  approvedAt := toISOString approvedAt
  expiresAt := toISOString expiresAt

/-- The approval query takes the newest row that has not expired. -/
def currentApproval? (db : Db) (request : ApprovalRequest) (now : ℕ) : Option ApprovalRow :=
  firstBy (fun first second => second.createdAt < first.createdAt ∨
      (second.createdAt = first.createdAt ∧ second.id.suffix < first.id.suffix))
    (db.approvals.rows.filter fun row => row.runId = request.runId ∧ row.kind = request.kind ∧
      row.target = request.target ∧ row.inputFingerprint = request.inputFingerprint ∧
      toTimestamp now < row.expiresAt)

def signatureAlphabet (char : Char) : Bool :=
  char.isAlphanum || char == '_' || char == '-'

/-- An assertion is authentic when it signs the expected payload. -/
def AuthenticAssertion (assertion : EffectApprovalAssertion) (payload : ApprovalPayload) : Prop :=
  assertion.protectedHeaders.schemaVersion = 2 ∧
  assertion.protectedHeaders.purpose = "LINEAGEGUARD_EFFECT_APPROVAL" ∧
  assertion.protectedHeaders.algorithm = .ed25519 ∧
  assertion.protectedHeaders.issuer ≠ "" ∧ assertion.protectedHeaders.keyId ≠ "" ∧
  assertion.protectedHeaders.nonce ≠ "" ∧
  assertion.signedPayloadFingerprint =
    env.script.approvalAssertion assertion.protectedHeaders assertion.payload ∧
  env.script.approvalPayload assertion.payload = env.script.approvalPayload payload ∧
  assertion.signature.toList.all signatureAlphabet = true ∧
  32 ≤ assertion.signature.length ∧ assertion.signature.length ≤ 512

instance (assertion : EffectApprovalAssertion) (payload : ApprovalPayload) :
    Decidable (AuthenticAssertion env assertion payload) := inferInstanceAs (Decidable (_ ∧ _))

def requireCurrentApproval (db : Db) (request : ApprovalRequest) (now : ℕ) :
    Except StoreError ApprovalRow := do
  let row ← present (currentApproval? db request now)
    (.stateConflict "effect requires an exact unexpired approval")
  require (now < toDate row.expiresAt)
    (.stateConflict "effect requires an exact unexpired approval")
  let payload := canonicalApprovalPayload ⟨row.runId, row.kind, row.target, row.inputFingerprint⟩
    row.validationReceiptId row.validationReceiptFingerprint (toDate row.validationCompletedAt)
    row.approvedBy (toDate row.approvedAt) (toDate row.expiresAt)
  require (env.script.approvalPayload row.payload = env.script.approvalPayload payload)
    (.corruptData "stored effect approval payload is invalid")
  require (row.approvalFingerprint = env.script.approvalPayload payload)
    (.corruptData "stored effect approval fingerprint is invalid")
  let verify ← present env.verifyApproval
    (.stateConflict "approval signature authority is not configured")
  let assertion ← (verify row.approvalAssertion payload).mapError StoreError.external
  require (AuthenticAssertion env assertion payload)
    (.corruptData "stored effect approval assertion is invalid")
  pure row

structure EffectApprovalInput where
  request : ApprovalRequest
  guard : LeaseGuard
  approvedBy : String
  approvedAt : ℕ
  expiresAt : ℕ
  assertion : EffectApprovalAssertion

def maxApprovalDuration : ℕ := 3600000

def recordEffectApproval (db : Db) (t : ℕ → ℕ) (input : EffectApprovalInput) (id : ApprovalId) :
    Except StoreError (Db × ApprovalRow) := do
  let request := input.request
  require (1 ≤ utf16Length request.target ∧ utf16Length request.target ≤ 500)
    (.type "effect target must be 1-500 characters")
  require (1 ≤ utf16Length input.approvedBy ∧ utf16Length input.approvedBy ≤ 240)
    (.type "invalid approval identity")
  let run ← lockRunForLease db (t 0) request.runId input.guard
  require (run.status = effectState request.kind)
    (.stateConflict "approval is not allowed from the current status")
  require (run.executionMode = .live)
    (.stateConflict "verified replay cannot authorize approval or effects")
  let now := toDate (t 1)
  require (input.approvedAt ≤ now ∧ now < input.expiresAt ∧
      input.expiresAt - now ≤ maxApprovalDuration ∧ input.approvedAt < input.expiresAt)
    (.stateConflict "approval must be current and expire within one hour")
  let validation ← assertAcceptedValidation env db (t 2) request.runId false true
  let completedAt := validation.payload.completedAt.time
  require (completedAt ≤ input.approvedAt)
    (.stateConflict "approval cannot predate the bound validation")
  let receiptId := env.script.receiptId validation
  let receiptFingerprint := env.script.signedReceipt validation
  let payload := canonicalApprovalPayload request receiptId receiptFingerprint completedAt
    input.approvedBy input.approvedAt input.expiresAt
  let approvalFingerprint := env.script.approvalPayload payload
  let verify ← present env.verifyApproval
    (.stateConflict "approval signature authority is not configured")
  let assertion ← (verify input.assertion payload).mapError StoreError.external
  require (AuthenticAssertion env assertion payload)
    (.stateConflict "approval assertion is not canonical or authenticated")
  let (stored, inserted) ← approvalInsertEffectApproval env.sql db (fun reading => t (reading + 3))
    { id, runId := request.runId, kind := request.kind, target := request.target
      inputFingerprint := request.inputFingerprint, validationReceiptId := receiptId
      validationReceiptFingerprint := receiptFingerprint
      validationCompletedAt := toTimestamp completedAt, approvedBy := input.approvedBy
      approvedAt := toTimestamp input.approvedAt, expiresAt := toTimestamp input.expiresAt
      payload, approvalFingerprint, approvalAssertion := assertion, createdAt := t 3 }
    input.guard
  let row ← present (inserted.or (stored.approvals.find? fun found =>
      found.approvalFingerprint = approvalFingerprint))
    (.stateConflict "effect approval was not stored")
  let current ← requireCurrentApproval env stored request now
  require (current.id = row.id ∧ current.approvalFingerprint = approvalFingerprint)
    (.idempotencyConflict "approval binding conflicts with persisted approval")
  pure (stored, row)

structure EffectInput where
  request : ApprovalRequest
  guard : LeaseGuard
  idempotencyKey : String
  payload : Jsonb

structure BegunEffect where
  intent : IntentRow
  receipt : Option ReceiptRow
  created : Bool
  version : ℕ

/-- A repeated intent must repeat its run, its input and its validation. -/
def SameIntent (row : IntentRow) (input : EffectInput) (validationReceiptId : ValidationReceiptId)
    (validation : SignedLiveValidationReceipt) : Prop :=
  row.runId = input.request.runId ∧ row.inputFingerprint = input.request.inputFingerprint ∧
  row.validationReceiptId = validationReceiptId ∧
  row.candidateFingerprint = validation.protectedHeaders.candidateFingerprint ∧
  row.artifactSetFingerprint = validation.payload.artifactSetFingerprint ∧
  env.script.document row.input = env.script.document input.payload

instance (row : IntentRow) (input : EffectInput) (validationReceiptId : ValidationReceiptId)
    (validation : SignedLiveValidationReceipt) :
    Decidable (SameIntent env row input validationReceiptId validation) :=
  inferInstanceAs (Decidable (_ ∧ _))

def beginEffect (db : Db) (t : ℕ → ℕ) (input : EffectInput) (id : IntentId) :
    Except StoreError (Db × BegunEffect) := do
  let request := input.request
  require (1 ≤ utf16Length request.target ∧ utf16Length request.target ≤ 500)
    (.type "effect target must be 1-500 characters")
  canonical input.payload 1048576
  require (request.inputFingerprint = env.script.effectInput input.payload)
    (.stateConflict "effect input fingerprint does not match canonical payload")
  let run ← lockRunForLease db (t 0) request.runId input.guard
  require (run.status = effectState request.kind)
    (.stateConflict "effect is not allowed from the current status")
  require (run.executionMode = .live)
    (.stateConflict "verified replay cannot authorize approval or effects")
  let validation ← assertAcceptedValidation env db (t 1) request.runId true false
  let receiptId := env.script.receiptId validation
  whenever (env.mutationMode = .production) do
    let _ ← requireCurrentApproval env db request (toDate (t 2))
    pure ()
  match db.intents.find? fun row => row.kind = request.kind ∧ row.target = request.target ∧
      row.idempotencyKey = input.idempotencyKey with
  | some row =>
      require (SameIntent env row input receiptId validation)
        (.idempotencyConflict "effect key was reused with different input or run")
      pure (db, ⟨row, db.receiptOf? row.id, false, input.guard.fencingVersion⟩)
  | none =>
      let row : IntentRow :=
        { id, runId := request.runId, kind := request.kind, target := request.target
          idempotencyKey := input.idempotencyKey, inputFingerprint := request.inputFingerprint
          input := input.payload, validationReceiptId := receiptId
          candidateFingerprint := validation.protectedHeaders.candidateFingerprint
          artifactSetFingerprint := validation.payload.artifactSetFingerprint }
      let stored ← effectInsertIntent db (fun reading => t (reading + 3)) row input.guard
      pure (stored, ⟨row, stored.receiptOf? row.id, true, input.guard.fencingVersion + 1⟩)

/-- This is the part of an outcome that names the attempt and its fence. -/
structure AttemptFenceInput where
  attemptId : AttemptId
  workerId : String
  fencingToken : AttemptFence

def receiptRowOf (id : ReceiptId) (intentId : IntentId) (payload : EffectReceiptPayload)
    (binding : ReceiptBindingPayload) : ReceiptRow where
  id := id
  intentId := intentId
  payload := payload
  validationReceiptId := binding.validationReceiptId
  candidateFingerprint := binding.candidateFingerprint
  artifactSetFingerprint := binding.artifactSetFingerprint

/-- The store writes a receipt only when the intent has none. -/
def storeReceipt (db : Db) (row : ReceiptRow) : Except StoreError Db :=
  match db.receiptOf? row.intentId with
  | some _ => .ok db
  | none => insertReceipt db row

def recordEffectSuccess (db : Db) (t : ℕ → ℕ) (input : AttemptFenceInput)
    (payload : EffectReceiptPayload) (id : ReceiptId) : Except StoreError (Db × ReceiptRow) := do
  canonical payload.document 1048576
  let attempt ← present (db.attempt? input.attemptId) (.notFound "effect attempt not found")
  let intent ← present (db.intent? attempt.intentId)
    (.corruptData "effect attempt references a missing intent")
  require (∃ reservation ∈ db.reservation? attempt.reservationId,
      reservation.state.attemptId = some attempt.id ∧ reservation.intentId = intent.id)
    (.stateConflict "effect success lacks consumed reservation authority")
  require (attempt.workerId = input.workerId ∧ attempt.fencingToken = input.fencingToken)
    (.leaseConflict "effect attempt fence is stale")
  require (attempt.state ∈ [.succeeded, .readyToInvoke])
    (.leaseConflict "effect attempt is not eligible for success")
  let binding ← assertEffectReceiptPayload env db intent payload
  let received ← storeReceipt db (receiptRowOf id attempt.intentId payload binding)
  let persisted ← present (received.receiptOf? attempt.intentId)
    (.stateConflict "effect receipt was not persisted")
  require (persisted.payload = payload)
    (.idempotencyConflict "success receipt conflicts with persisted receipt")
  if attempt.state = .succeeded then pure (received, persisted)
  else do
    let stored ← updateAttempt received (t 0) attempt.id .succeeded (t 1)
    pure (stored, persisted)

def recordEffectAmbiguous (db : Db) (t : ℕ → ℕ) (input : AttemptFenceInput) (payload : Jsonb)
    (id : FailureId) : Except StoreError (Db × AttemptRow) := do
  canonical payload 65536
  let attempt ← present (db.attempt? input.attemptId) (.notFound "effect attempt not found")
  require (attempt.workerId = input.workerId ∧ attempt.fencingToken = input.fencingToken ∧
      attempt.state = .readyToInvoke)
    (.leaseConflict "effect attempt is not the live invocation fence")
  let runId ← notNull ((db.intent? attempt.intentId).map (·.runId))
  let failed ← insertFailure db
    { id, intentId := attempt.intentId, runId
      position := db.nextFailurePosition attempt.intentId, payload, createdAt := t 0 }
  let stored ← updateAttempt failed (t 1) attempt.id .reconciliationRequired (t 2)
  let changed ← present (stored.attempt? attempt.id) (.notFound "effect attempt not found")
  pure (stored, changed)

structure ReconciliationInput where
  runId : RunId
  guard : LeaseGuard
  attempt : AttemptFenceInput
  proofOutcome : ProofOutcome
  proof : Jsonb
  receipt : Option EffectReceiptPayload

/-- A positive proof also stores the receipt of the effect. -/
def applyProof (db : Db) (t : ℕ → ℕ) (attempt : AttemptRow) (intent : IntentRow)
    (input : ReconciliationInput) (receiptId : ReceiptId) :
    Except StoreError (Db × AttemptRow) :=
  match input.proofOutcome with
  | .notApplied => .ok (db, attempt)
  | .applied => do
      let receipt ← present input.receipt (.stateConflict "APPLIED proof requires a receipt")
      canonical receipt.document 1048576
      let binding ← assertEffectReceiptPayload env db intent receipt
      let received ← insertReceipt db (receiptRowOf receiptId attempt.intentId receipt binding)
      let stored ← updateAttempt received (t 0) attempt.id .succeeded (t 1)
      let changed ← present (stored.attempt? attempt.id) (.notFound "effect attempt not found")
      pure (stored, changed)

def reconcileEffectAttempt (db : Db) (t : ℕ → ℕ) (input : ReconciliationInput)
    (id : ReconciliationId) (receiptId : ReceiptId) : Except StoreError (Db × AttemptRow) := do
  canonical input.proof 65536
  let attempt ← present (db.attempt? input.attempt.attemptId)
    (.stateConflict "attempt does not require reconciliation")
  require (attempt.state = .reconciliationRequired)
    (.stateConflict "attempt does not require reconciliation")
  let intent ← present (db.intent? attempt.intentId)
    (.stateConflict "reconciliation attempt does not belong to run")
  require (intent.runId = input.runId)
    (.stateConflict "reconciliation attempt does not belong to run")
  let _ ← lockRunForLease db (t 0) input.runId input.guard
  require (attempt.workerId = input.attempt.workerId ∧
      attempt.fencingToken = input.attempt.fencingToken)
    (.leaseConflict "reconciliation attempt fence is stale")
  require ((db.latestAttempt? attempt.intentId).map (·.id) = some attempt.id)
    (.leaseConflict "reconciliation attempt is no longer current")
  let proved ← insertReconciliation db
    { id, attemptId := attempt.id, proofOutcome := input.proofOutcome, payload := input.proof }
  let saved ← present (proved.reconciliationOf? attempt.id)
    (.stateConflict "reconciliation proof was not persisted")
  require (saved.proofOutcome = input.proofOutcome ∧ saved.payload = input.proof)
    (.idempotencyConflict "reconciliation proof conflicts with persisted proof")
  applyProof env proved (fun reading => t (reading + 1)) attempt intent input receiptId

end Store

end LineageGuard
