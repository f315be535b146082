import LineageGuard.Datahub.Request
import LineageGuard.Library.Dialogue
import Mathlib.Tactic

/-
This file translates the live write-back port as a program over its reader, its mutation client,
its authority and its clock.
-/

namespace LineageGuard.Datahub

open Json Domain Attempt Dialogue

section Observations

structure DataHubDocumentProof where
  contentHash : String
  id : String
  marker : String
  title : String

structure ExactDataHubEntitySnapshot where
  documentProofs : List DataHubDocumentProof
  knownTagUrns : List String
  observedAt : String
  relevantMetadataFingerprint : String
  reviewTagDefinitionFingerprint : Option String
  scenarioMarker : String
  tagUrns : List String
  urn : String
  version : String

inductive Phase
  | before | after
  deriving DecidableEq

def validateSnapshot (snapshot : ExactDataHubEntitySnapshot) (request : DataHubWritebackRequest)
    (phase : Phase) : Except Failure Unit := do
  require (snapshot.urn = request.sourceUrn)
    (adapterError .conflict "DataHub write-back read returned the wrong URN.")
  require (snapshot.scenarioMarker = request.scenarioMarker)
    (adapterError .conflict "DataHub scenario marker changed.")
  require (snapshot.relevantMetadataFingerprint = request.expectedMetadataFingerprint)
    (adapterError .conflict "DataHub relevant metadata changed.")
  require (canonicalReviewedTagUrn ∈ snapshot.knownTagUrns ∧
    snapshot.reviewTagDefinitionFingerprint = some request.expectedReviewTagDefinitionFingerprint)
    (adapterError .conflict "The allowlisted DataHub Reviewed tag definition changed.")
  require (phase = .before → snapshot.version = request.expectedMetadataVersion)
    (adapterError .conflict "DataHub metadata version changed.")

structure WriteProof where
  document : Bool
  tag : Bool

/-- The proof shows exactly the decision document of the payloads. -/
def DataHubDocumentProof.Exact (script : Script) (payloads : InternalDataHubWritebackPayloads)
    (proof : DataHubDocumentProof) : Prop :=
  proof.marker = payloads.document.marker ∧ proof.title = payloads.document.title ∧
    proof.contentHash = script.digest payloads.document.content.toList

instance (script : Script) (payloads : InternalDataHubWritebackPayloads)
    (proof : DataHubDocumentProof) : Decidable (proof.Exact script payloads) :=
  inferInstanceAs (Decidable (_ ∧ _))

def proofState (script : Script) (snapshot : ExactDataHubEntitySnapshot)
    (payloads : InternalDataHubWritebackPayloads) : Except Failure WriteProof := do
  let matchingId := snapshot.documentProofs.filter fun proof => proof.id = payloads.document.id
  let document := matchingId.any fun proof => proof.Exact script payloads
  reject (matchingId ≠ [] ∧ document = false) (adapterError .conflict
    "The deterministic DataHub decision document already has different content.")
  return ⟨document, snapshot.tagUrns.contains payloads.reviewStatusTagUrn⟩

end Observations

section Authorities

/-- A verified reservation is in one of two states, and any other value is refused. -/
inductive ReservationState
  | reserved | consumed | unknown
  deriving DecidableEq

structure VerifiedReservation where
  attemptFence : Option String
  attemptId : Option String
  canonicalEffectFingerprint : String
  invokeBy : String
  reservationId : String
  state : ReservationState

structure ConsumedAuthority where
  attemptFence : String
  attemptId : String
  canonicalEffectFingerprint : String
  invokeBy : String
  reservationId : String

def VerifiedReservation.consumed (verified : VerifiedReservation) : Option ConsumedAuthority :=
  if verified.state = .consumed then
    some ⟨verified.attemptFence.getD "", verified.attemptId.getD "",
      verified.canonicalEffectFingerprint, verified.invokeBy, verified.reservationId⟩
  else none

end Authorities

section Receipts

structure MutationInvocation where
  responseFingerprint : String

inductive WritebackStatus
  | succeeded | ambiguous
  deriving DecidableEq

/-- The receipt repeats every field of the request. -/
structure DataHubWritebackReceipt where
  request : DataHubWritebackRequest
  authority : Option ConsumedAuthority
  completedAt : String
  contentHash : String
  document : DataHubDecisionDocument
  inputFingerprint : String
  mutationInvocationFingerprints : List String
  observedAt : String
  preservedMetadataFingerprint : String
  preservedTagUrns : List String
  receiptFingerprint : String
  status : WritebackStatus
  tagUrn : String
  writePayloadFingerprint : String
  writeProof : WriteProof

def WritebackStatus.word : WritebackStatus → String
  | .succeeded => "SUCCEEDED"
  | .ambiguous => "AMBIGUOUS"

def WritebackStatus.workerFailureState : WritebackStatus → String
  | .succeeded => "NONE"
  | .ambiguous => "FAILED_WRITEBACK"

def authorityMembers (authority : Option ConsumedAuthority) : List (String × Value) :=
  match authority with
  | none => []
  | some consumed => [("attemptFence", .string consumed.attemptFence),
      ("attemptId", .string consumed.attemptId),
      ("canonicalEffectFingerprint", .string consumed.canonicalEffectFingerprint),
      ("invokeBy", .string consumed.invokeBy),
      ("reservationId", .string consumed.reservationId)]

/-- These are the members of the receipt apart from its own fingerprint. -/
def DataHubWritebackReceipt.members (receipt : DataHubWritebackReceipt) :
    List (String × Value) :=
  receipt.request.members ++ authorityMembers receipt.authority ++
    [("completedAt", .string receipt.completedAt),
      ("document", .object [("contentHash", .string receipt.contentHash),
        ("id", .string receipt.document.id), ("marker", .string receipt.document.marker),
        ("title", .string receipt.document.title)]),
      ("inputFingerprint", .string receipt.inputFingerprint),
      ("mutationInvocationFingerprints", texts receipt.mutationInvocationFingerprints),
      ("observedAt", .string receipt.observedAt),
      ("preservedMetadataFingerprint", .string receipt.preservedMetadataFingerprint),
      ("preservedTagUrns", texts receipt.preservedTagUrns),
      ("status", .string receipt.status.word), ("tagUrn", .string receipt.tagUrn),
      ("workerFailureState", .string receipt.status.workerFailureState),
      ("writePayloadFingerprint", .string receipt.writePayloadFingerprint),
      ("writeProof", .object [("document", .bool receipt.writeProof.document),
        ("tag", .bool receipt.writeProof.tag)])]

def expectedFinalTags (before : ExactDataHubEntitySnapshot)
    (payloads : InternalDataHubWritebackPayloads) : List String :=
  sorted (before.tagUrns ++ [payloads.reviewStatusTagUrn]).dedup

def tagsPreservedExactly (script : Script) (payloads : InternalDataHubWritebackPayloads)
    (before after : ExactDataHubEntitySnapshot) : Prop :=
  script.stableJson (texts (expectedFinalTags before payloads)) =
    script.stableJson (texts (sorted after.tagUrns))

instance (script : Script) (payloads : InternalDataHubWritebackPayloads)
    (before after : ExactDataHubEntitySnapshot) :
    Decidable (tagsPreservedExactly script payloads before after) :=
  inferInstanceAs (Decidable (_ = _))

def receipt (script : Script) (request : DataHubWritebackRequest)
    (payloads : InternalDataHubWritebackPayloads) (before after : ExactDataHubEntitySnapshot)
    (proof : WriteProof) (completedAt : String) (invocations : List MutationInvocation)
    (authority : Option ConsumedAuthority) : DataHubWritebackReceipt :=
  let succeeded := proof.document = true ∧ proof.tag = true ∧
    tagsPreservedExactly script payloads before after
  let body : DataHubWritebackReceipt :=
    { request, authority, completedAt
      contentHash := script.digest payloads.document.content.toList
      document := payloads.document
      inputFingerprint := script.sha256 (.object request.members)
      mutationInvocationFingerprints := invocations.map fun item => item.responseFingerprint
      observedAt := after.observedAt
      preservedMetadataFingerprint := after.relevantMetadataFingerprint
      preservedTagUrns := sorted before.tagUrns
      receiptFingerprint := ""
      status := if succeeded then .succeeded else .ambiguous
      tagUrn := payloads.reviewStatusTagUrn
      writePayloadFingerprint := payloads.writePayloadFingerprint
      writeProof := proof }
  { body with receiptFingerprint := script.sha256 (.object body.members) }

end Receipts

section Programs

inductive MutationToolName
  | saveDocument | addTags
  deriving DecidableEq

/-- The port asks its dependencies in these ways. -/
inductive Call
  | clock
  | verifyCurrentEffectReservation (claim : String) (fingerprint : String)
  | consumeCurrentEffect (claim : String) (fingerprint : String)
  | readerFactory
  | mutationClientFactory
  | readExact (urn : String) (documentId : String) (tagUrn : String)
  | invoke (tool : MutationToolName) (arguments : Value)
  | closeReader
  | closeMutationClient

/-- A clock gives a date, and both closings are awaited whatever becomes of them. -/
abbrev Reply : Call → Type
  | .clock => ℤ
  | .verifyCurrentEffectReservation _ _ => Except Failure VerifiedReservation
  | .consumeCurrentEffect _ _ => Except Failure ConsumedAuthority
  | .readerFactory | .mutationClientFactory => Except Failure Unit
  | .readExact _ _ _ => Except Failure ExactDataHubEntitySnapshot
  | .invoke _ _ => Except Failure MutationInvocation
  | .closeReader | .closeMutationClient => Except Failure Unit

abbrev Dialog (Value : Type) := Program Call Reply Failure Value

def ask (call : Call) : Dialog (Reply call) := Program.perform call

/-- The claim of the authority is opaque. -/
structure LiveDependencies where
  currentEffectClaim : String
  enabled : Bool
  expectedTargetInstanceFingerprint : Option String

/-- A stage either finishes the write with a receipt or lets it continue. -/
inductive Stage (Value : Type)
  | finished (receipt : DataHubWritebackReceipt)
  | continued (value : Value)

/-- A rejected promise raises its error. -/
def settle {Value : Type} (result : Except Failure Value) : Dialog Value := .done result

def Failure.isRetryable : Failure → Bool
  | .adapter error => error.retryable
  | .other => false

variable (script : Script) (runtime : Runtime) (dependencies : LiveDependencies)
variable (request : DataHubWritebackRequest)

def invalidFence : Failure :=
  adapterError .authorityInvalid
    "DataHub effect authority returned an invalid or expired consumption fence."

/-- This is `validateConsumedAuthority` where no current deadline is required. -/
def validateFence (consumed : ConsumedAuthority) : Except Failure Unit :=
  reject (utf16Length consumed.attemptFence < 1 ∨ utf16Length consumed.attemptId < 1 ∨
    isFingerprint consumed.canonicalEffectFingerprint = false ∨
    runtime.parseDate consumed.invokeBy = none) invalidFence

/-- The deadline has passed at this date. -/
def Expired (invokeBy : String) (now : ℤ) : Prop :=
  ∃ deadline ∈ runtime.parseDate invokeBy, deadline < now

instance (invokeBy : String) (now : ℤ) : Decidable (Expired runtime invokeBy now) :=
  inferInstanceAs (Decidable (∃ deadline ∈ runtime.parseDate invokeBy, deadline < now))

/-- The clock is read only after the other checks pass. -/
def validateConsumedAuthority (consumed : ConsumedAuthority) : Dialog Unit := do
  settle (validateFence runtime consumed)
  let now : ℤ ← ask .clock
  settle (reject (Expired runtime consumed.invokeBy now) invalidFence)

/-- Errors of the adapter are raised again and any other error is replaced. -/
def acceptReservation (reply : Except Failure VerifiedReservation) :
    Except Failure VerifiedReservation :=
  match reply with
  | .error (.adapter error) => .error (.adapter error)
  | .error .other => .error (adapterError .authorityInvalid
      "DataHub effect authority was missing, invalid, expired, or not current.")
  | .ok verified => do
      reject (verified.state = .unknown ∨
        verified.canonicalEffectFingerprint ≠ canonicalEffectFingerprint script request ∨
        utf16Length verified.reservationId < 1 ∨ runtime.parseDate verified.invokeBy = none)
        (adapterError .authorityInvalid "DataHub effect authority is invalid.")
      verified.consumed.elim (.ok ()) (validateFence runtime)
      return verified

def verifyReservation : Dialog VerifiedReservation := do
  let reply : Except Failure VerifiedReservation ← ask (.verifyCurrentEffectReservation
    dependencies.currentEffectClaim (canonicalEffectFingerprint script request))
  settle (acceptReservation script runtime request reply)

/-- A snapshot is checked for its phase and then classified. -/
def observed (phase : Phase) (reply : Except Failure ExactDataHubEntitySnapshot) :
    Except Failure (ExactDataHubEntitySnapshot × WriteProof) := do
  let snapshot ← reply
  validateSnapshot snapshot request phase
  let proof ← proofState script snapshot (deriveInternalDataHubWritebackPayloads script request)
  return (snapshot, proof)

def readCall : Call :=
  let payloads := deriveInternalDataHubWritebackPayloads script request
  .readExact request.sourceUrn payloads.document.id payloads.reviewStatusTagUrn

def readExact (phase : Phase) : Dialog (ExactDataHubEntitySnapshot × WriteProof) := do
  let reply : Except Failure ExactDataHubEntitySnapshot ← ask (readCall script request)
  settle (observed script request phase reply)

def currentReceipt (before after : ExactDataHubEntitySnapshot) (proof : WriteProof)
    (invocations : List MutationInvocation) (authority : Option ConsumedAuthority) :
    Dialog DataHubWritebackReceipt := do
  let now : ℤ ← ask .clock
  return receipt script request (deriveInternalDataHubWritebackPayloads script request) before
    after proof (runtime.toISOString now) invocations authority

/-- The state before the write must belong to the reservation. -/
def classifyBefore (verified : VerifiedReservation) (existing : WriteProof) :
    Except Failure Unit := do
  reject (existing.tag = true ∧ existing.document = false) (adapterError .conflict
    "DataHub contains an impossible tag-only write-back state.")
  reject (verified.state = .reserved ∧ (existing.document = true ∨ existing.tag = true))
    (adapterError .conflict
      "DataHub contains write-back state without a consumed local effect.")
  reject (existing.document = true ∧ existing.tag = true ∧ verified.state ≠ .consumed)
    (adapterError .conflict
      "DataHub already contains the write-back without a consumed local effect.")

/-- An applied or an expired write-back needs no mutation client. -/
def start (verified : VerifiedReservation) :
    Dialog (Stage (ExactDataHubEntitySnapshot × WriteProof)) := do
  let (before, existing) ← readExact script request .before
  settle (classifyBefore verified existing)
  let finish : Dialog (Stage (ExactDataHubEntitySnapshot × WriteProof)) := do
    let final ← currentReceipt script runtime request before before existing [] verified.consumed
    return .finished final
  let proceed : Dialog (Stage (ExactDataHubEntitySnapshot × WriteProof)) := do
    let reply : Except Failure Unit ← ask .mutationClientFactory
    settle reply
    return .continued (before, existing)
  if existing.document = true ∧ existing.tag = true then finish
  else if verified.state = .consumed then do
    let now : ℤ ← ask .clock
    if Expired runtime verified.invokeBy now then finish else proceed
  else proceed

/-- Another error than those of the adapter leaves the consumption ambiguous. -/
def acceptConsumption (reply : Except Failure ConsumedAuthority) :
    Except Failure ConsumedAuthority :=
  match reply with
  | .error (.adapter error) => .error (.adapter error)
  | .error .other => .error (.adapter ⟨.ambiguous,
      "DataHub effect consumption outcome is ambiguous and requires reconciliation.", true⟩)
  | .ok consumed => do
      require (consumed.canonicalEffectFingerprint = canonicalEffectFingerprint script request)
        (adapterError .authorityInvalid "DataHub consumed effect fingerprint changed.")
      return consumed

def consumeAuthority (verified : VerifiedReservation) : Dialog ConsumedAuthority :=
  match verified.consumed with
  | some consumed => pure consumed
  | none => do
      let reply : Except Failure ConsumedAuthority ← ask (.consumeCurrentEffect
        dependencies.currentEffectClaim (canonicalEffectFingerprint script request))
      let consumed ← settle (acceptConsumption script request reply)
      validateConsumedAuthority runtime consumed
      return consumed

def invoke (consumed : ConsumedAuthority) (tool : MutationToolName) (arguments : Value) :
    Dialog MutationInvocation := do
  validateConsumedAuthority runtime consumed
  let reply : Except Failure MutationInvocation ← ask (.invoke tool arguments)
  settle reply

/-- A retryable failure is reconciled by a read and any other failure is raised. -/
def saveDocument (before : ExactDataHubEntitySnapshot) (existing : WriteProof)
    (consumed : ConsumedAuthority) : Dialog (Stage (List MutationInvocation)) :=
  if existing.document then pure (.continued [])
  else
    let sent : Dialog (Stage (List MutationInvocation)) := do
      let invocation ← invoke runtime consumed .saveDocument (documentArguments script request)
      return .continued [invocation]
    sent.recover fun failure => do
      if failure.isRetryable then
        let (reconciled, proof) ← readExact script request .after
        if proof.document then return .continued []
        else
          let final ← currentReceipt script runtime request before reconciled proof []
            (some consumed)
          return .finished final
      else Program.fail failure

/-- A retryable failure is left to the last read and any other failure is read back at once. -/
def addTags (before : ExactDataHubEntitySnapshot) (consumed : ConsumedAuthority)
    (documentProof : WriteProof) (invocations : List MutationInvocation) :
    Dialog (Stage (List MutationInvocation)) :=
  if documentProof.tag then pure (.continued invocations)
  else
    let sent : Dialog (Stage (List MutationInvocation)) := do
      let invocation ← invoke runtime consumed .addTags (tagArguments request)
      return .continued (invocations ++ [invocation])
    sent.recover fun failure => do
      if failure.isRetryable then return .continued invocations
      else
        let (incomplete, proof) ← readExact script request .after
        let final ← currentReceipt script runtime request before incomplete proof invocations
          (some consumed)
        return .finished final

/-- The write continues here once the document has been sent or found. -/
def proveDocument (before : ExactDataHubEntitySnapshot) (consumed : ConsumedAuthority)
    (invocations : List MutationInvocation) : Dialog DataHubWritebackReceipt := do
  let (afterDocument, documentProof) ← readExact script request .after
  if documentProof.document then
    match ← addTags script runtime request before consumed documentProof invocations with
    | .finished final => return final
    | .continued sent => do
        let (after, proof) ← readExact script request .after
        currentReceipt script runtime request before after proof sent (some consumed)
  else
    currentReceipt script runtime request before afterDocument documentProof invocations
      (some consumed)

def mutate (verified : VerifiedReservation) (before : ExactDataHubEntitySnapshot)
    (existing : WriteProof) : Dialog DataHubWritebackReceipt := do
  let consumed ← consumeAuthority script runtime dependencies request verified
  validateConsumedAuthority runtime consumed
  match ← saveDocument script runtime request before existing consumed with
  | .finished final => return final
  | .continued invocations => proveDocument script runtime request before consumed invocations

def closeReader : Dialog Unit := do
  let _ ← ask .closeReader
  return ()

def closeBoth : Dialog Unit := do
  closeReader
  let _ ← ask .closeMutationClient
  return ()

/-- A valid request is written under its verified reservation. -/
def writeVerified (verified : VerifiedReservation) : Dialog DataHubWritebackReceipt := do
  let reply : Except Failure Unit ← ask .readerFactory
  settle reply
  match ← (start script runtime request verified).closeOnError closeReader with
  | .finished final => do
      closeReader
      return final
  | .continued (before, existing) =>
      (mutate script runtime dependencies request verified before existing).closing closeBoth

def checkRequest (unsafeRequest : DataHubWritebackRequest) :
    Except Failure DataHubWritebackRequest := do
  require (dependencies.enabled = true)
    (adapterError .configuration "DataHub mutation is disabled.")
  let parsed ← validateRequest script runtime unsafeRequest
  require (∀ expected ∈ dependencies.expectedTargetInstanceFingerprint,
    parsed.targetInstanceFingerprint = expected)
    (adapterError .conflict "DataHub write-back target instance attestation changed.")
  return parsed

def write (unsafeRequest : DataHubWritebackRequest) : Dialog DataHubWritebackReceipt := do
  let parsed ← settle (checkRequest script runtime dependencies unsafeRequest)
  let verified ← verifyReservation script runtime dependencies parsed
  writeVerified script runtime dependencies parsed verified

end Programs

end LineageGuard.Datahub
