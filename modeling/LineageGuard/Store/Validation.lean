import LineageGuard.Store.Leases
import Mathlib.Tactic

/-
This file translates the checks of validation receipts and of effect receipts.
-/

namespace LineageGuard

open Relational Attempt

/-- These are the digests that the script computes. -/
structure ScriptHashing where
  candidate : MigrationCandidate → Fingerprint
  runEventStream : List RunEvent → Fingerprint
  signedReceipt : SignedLiveValidationReceipt → Fingerprint
  receiptId : SignedLiveValidationReceipt → ValidationReceiptId
  approvalPayload : ApprovalPayload → Fingerprint
  approvalAssertion : ApprovalHeaders → ApprovalPayload → Fingerprint
  effectInput : Jsonb → Fingerprint
  document : Jsonb → Fingerprint
  receiptBinding : ReceiptBindingPayload → Fingerprint
  authorityBinding : Jsonb → ImpactContext → Jsonb → MigrationCandidate → Jsonb → Fingerprint

/-- The resolver supplies the parts of a binding that the store does not persist. -/
structure StoredValidationBinding where
  change : Jsonb
  context : ImpactContext
  authoritativeAssessment : Jsonb
  expectedExecution : Jsonb
  deriving DecidableEq, Repr

structure ValidationAuthorityBinding where
  change : Jsonb
  context : ImpactContext
  authoritativeAssessment : Jsonb
  candidate : MigrationCandidate
  authorizedRunEventStream : List RunEvent
  expectedExecution : Jsonb
  deriving DecidableEq, Repr

inductive MutationMode
  | production | walkthrough
  deriving DecidableEq, Repr

/-- The options of a store hold the authorities that other packages implement. -/
structure Environment where
  script : ScriptHashing
  sql : SqlHashing
  mutationMode : MutationMode
  validationBindingForRun : Option (RunId → Except String StoredValidationBinding)
  verifyHistoricalLive : Option (SignedLiveValidationReceipt → ValidationAuthorityBinding →
    Except String SignedLiveValidationReceipt)
  verifyApproval : Option (EffectApprovalAssertion → ApprovalPayload →
    Except String EffectApprovalAssertion)

namespace Store

variable (env : Environment)

def latestCandidate (db : Db) (runId : RunId) : Except StoreError MigrationCandidate := do
  let row ← present (db.latestCandidate? runId)
    (.stateConflict "validation requires a migration candidate")
  pure row.payload

/-- The signed stream is the shortest prefix with its fingerprint. -/
def signedPrefix (fingerprint : Fingerprint) (events : List RunEvent) : Option (List RunEvent) :=
  ((List.range events.length).find? fun index =>
    env.script.runEventStream (events.take (index + 1)) = fingerprint).map fun index =>
      events.take (index + 1)

/-- The persisted context of a run is the last one that its collection returned. -/
def persistedContext (db : Db) (runId : RunId) : Except StoreError ImpactContext := do
  let bundle ← present (db.latestContext? runId)
    (.stateConflict "validation requires persisted impact context")
  match bundle.payload with
  | .context (.collected context) => pure context
  | .context (.failed ..) =>
      .error (.stateConflict "failed impact collection cannot authorize validation")
  | .evidence _ => .error (.corruptData "persisted impact collection result is corrupt")

def boundEvents (db : Db) (runId : RunId) (signedStreamFingerprint : Option Fingerprint) :
    Except StoreError (List RunEvent) := do
  let records ← authorizedEvents (db.eventRows runId)
  match signedStreamFingerprint with
  | none => pure (records.map (·.payload))
  | some fingerprint =>
      present (signedPrefix env fingerprint (records.map (·.payload)))
        (.corruptData "signed validation stream is not a prefix of persisted events")

def validationBinding (db : Db) (runId : RunId) (signedStreamFingerprint : Option Fingerprint) :
    Except StoreError ValidationAuthorityBinding := do
  let resolve ← present env.validationBindingForRun
    (.stateConflict "validation binding resolver is not configured")
  let base ← (resolve runId).mapError StoreError.external
  let context ← persistedContext db runId
  require ((db.run? runId).map (·.executionMode) = some context.collectionOriginMode)
    (.corruptData "persisted impact collection does not match run execution mode")
  require (context = base.context)
    (.stateConflict "validation context does not match persisted collection")
  let candidate ← latestCandidate db runId
  require (candidate.sourceImpactContextFingerprint = context.impactContextFingerprint)
    (.stateConflict "migration candidate does not match persisted impact context")
  let events ← boundEvents env db runId signedStreamFingerprint
  pure
    { change := base.change
      context := base.context
      authoritativeAssessment := base.authoritativeAssessment
      candidate := candidate
      authorizedRunEventStream := events
      expectedExecution := base.expectedExecution }

def requireLiveEffectContext (context : ImpactContext) : Except StoreError Unit :=
  require (context.collectionOriginMode = .live)
    (.stateConflict "external effects require a LIVE impact collection")

def verifyValidation (db : Db) (runId : RunId) (receipt : SignedLiveValidationReceipt)
    (requireLiveCollection : Bool) : Except StoreError SignedLiveValidationReceipt := do
  let verify ← present env.verifyHistoricalLive
    (.stateConflict "validation authority is not configured")
  require (receipt.protectedHeaders.runId = runId)
    (.stateConflict "validation receipt belongs to a different run")
  let binding ← validationBinding env db runId
    (some receipt.protectedHeaders.authorizedRunEventStreamFingerprint)
  whenever (requireLiveCollection = true) (requireLiveEffectContext binding.context)
  (verify receipt binding).mapError StoreError.stateConflict

/-- A lease is the original one when it is the lease that the receipt signs. -/
def OriginalLease (run : RunRow) (headers : ProtectedHeaders) : Prop :=
  run.leaseGeneration = headers.generation ∧ ∃ lease ∈ run.lease,
    lease.leaseId = headers.leaseId ∧ lease.workerId = headers.workerId

instance (run : RunRow) (headers : ProtectedHeaders) : Decidable (OriginalLease run headers) :=
  inferInstanceAs (Decidable (_ ∧ _))

def assertAcceptedValidation (db : Db) (now : ℕ) (runId : RunId)
    (requireOriginalLease requireLiveCollection : Bool) :
    Except StoreError SignedLiveValidationReceipt := do
  let row ← present (db.latestValidation? runId)
    (.stateConflict "status transition requires accepted validation")
  let verified ← verifyValidation env db runId row.payload requireLiveCollection
  require (env.script.receiptId verified = row.id)
    (.corruptData "persisted validation receipt ID does not match its content")
  require (∃ run ∈ db.run? runId, (∃ lease ∈ run.lease, now < lease.expiresAt) ∧
      (requireOriginalLease = true → OriginalLease run verified.protectedHeaders))
    (.leaseConflict "signed validation is outside the current active lease")
  pure verified

/-- This check reads the binding of a receipt from its payload. -/
def receiptBinding (payload : EffectReceiptPayload) : Except StoreError ReceiptBindingPayload := do
  let binding ← present payload.binding (.type "effect receipt binding fields are invalid")
  require (1 ≤ utf16Length binding.target ∧ utf16Length binding.target ≤ 500)
    (.type "effect target must be 1-500 characters")
  pure binding

def expectedBinding (intent : IntentRow) (validationReceiptId : ValidationReceiptId)
    (validation : SignedLiveValidationReceipt) : ReceiptBindingPayload where
  intentId := intent.id
  runId := intent.runId
  effectKind := intent.kind
  target := intent.target
  inputFingerprint := intent.inputFingerprint
  validationReceiptId := validationReceiptId
  candidateFingerprint := validation.protectedHeaders.candidateFingerprint
  artifactSetFingerprint := validation.payload.artifactSetFingerprint

def assertEffectReceiptPayload (db : Db) (intent : IntentRow) (payload : EffectReceiptPayload) :
    Except StoreError ReceiptBindingPayload := do
  let binding ← receiptBinding payload
  let validationRow ← present (db.validationReceipts.find? fun row =>
      row.id = intent.validationReceiptId ∧ row.runId = intent.runId)
    (.corruptData "effect intent validation is missing")
  let validation ← verifyValidation env db intent.runId validationRow.payload false
  let expected := expectedBinding intent validationRow.id validation
  require (env.script.receiptBinding binding = env.script.receiptBinding expected)
    (.stateConflict "effect receipt payload does not match current authenticated binding")
  require (intent.validationReceiptId = expected.validationReceiptId ∧
      intent.candidateFingerprint = expected.candidateFingerprint ∧
      intent.artifactSetFingerprint = expected.artifactSetFingerprint)
    (.stateConflict "effect intent is stale against current authenticated validation")
  pure binding

structure ValidationReceiptIssueRequest where
  runId : RunId
  claimedBindingFingerprint : Fingerprint
  claimedRunEventStreamFingerprint : Fingerprint
  candidateFingerprint : Fingerprint
  expectedExecutionFingerprint : Fingerprint
  leaseId : LeaseId
  workerId : String
  generation : ℕ

structure ValidationExecutionClaim where
  guard : LeaseGuard
  eventPrefixFingerprint : Fingerprint
  candidateFingerprint : Fingerprint
  binding : ValidationAuthorityBinding

def validationExecutionClaim (db : Db) (now : ℕ) (runId : RunId) :
    Except StoreError ValidationExecutionClaim := do
  let run ← present (db.run? runId) (.notFound "run not found")
  require (run.executionMode = .live ∧ run.status = .validating)
    (.leaseConflict "validation issuance requires a live VALIDATING lease")
  let lease ← present run.lease
    (.leaseConflict "validation issuance requires a live VALIDATING lease")
  require (toDate now < toDate lease.expiresAt)
    (.leaseConflict "validation issuance requires a live VALIDATING lease")
  let _ ← runFromRow run
  let binding ← validationBinding env db runId none
  pure
    { guard := ⟨lease.leaseId, lease.workerId, run.leaseGeneration, run.version⟩
      eventPrefixFingerprint := env.script.runEventStream binding.authorizedRunEventStream
      candidateFingerprint := env.script.candidate binding.candidate
      binding := binding }

def bindingFingerprint (binding : ValidationAuthorityBinding) : Fingerprint :=
  env.script.authorityBinding binding.change binding.context binding.authoritativeAssessment
    binding.candidate binding.expectedExecution

/-- The callback signs the receipt inside the transaction that stores it. -/
def issueAndStoreValidationReceipt (db : Db) (t : ℕ → ℕ)
    (request : ValidationReceiptIssueRequest)
    (issue : ValidationAuthorityBinding → IsoDateTime → SignedLiveValidationReceipt) :
    Except StoreError (Db × SignedLiveValidationReceipt) := do
  let claim ← validationExecutionClaim env db (t 0) request.runId
  require (request.claimedBindingFingerprint = bindingFingerprint env claim.binding ∧
      request.claimedRunEventStreamFingerprint = claim.eventPrefixFingerprint ∧
      request.candidateFingerprint = claim.candidateFingerprint ∧
      request.expectedExecutionFingerprint =
        env.script.document claim.binding.expectedExecution ∧
      request.leaseId = claim.guard.leaseId ∧ request.workerId = claim.guard.workerId ∧
      request.generation = claim.guard.generation)
    (.leaseConflict "validation issuance claim changed during execution")
  let issued := issue claim.binding (toISOString (toDate (t 0)))
  let payload ← verifyValidation env db request.runId issued false
  require (payload.protectedHeaders.authorizedRunEventStreamFingerprint =
        claim.eventPrefixFingerprint ∧
      payload.protectedHeaders.candidateFingerprint = claim.candidateFingerprint)
    (.stateConflict "issued validation does not match the locked execution claim")
  canonical payload.document 1048576
  let stored ← signerInsertValidationReceipt env.sql db (fun reading => t (reading + 1))
    (env.script.receiptId payload) request.runId (db.nextValidationPosition request.runId) payload
    claim.guard
  pure (stored, payload)

end Store

end LineageGuard
