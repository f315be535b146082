import LineageGuard.Domain.Migration
import LineageGuard.Library.Attempt
import Mathlib.Tactic

/-
This file translates the write-back request, its payloads and the binding of its authority.
-/

namespace LineageGuard.Datahub

open Json Domain Attempt

section Failures

inductive DataHubAdapterErrorCode
  | ambiguous | authorityInvalid | configuration | conflict | cursorCycle | malformedResponse
  | notFound | paginationLimit | replayInvalid | responseLimit | schemaDrift | timeout
  | toolFailure | toolMissing | toolPolicyViolation | trainingDataReadFailed
  | trainingDataResponseTooLarge | unavailable
  deriving DecidableEq

structure DataHubAdapterError where
  code : DataHubAdapterErrorCode
  message : String
  retryable : Bool

/-- A promise rejects with an error of the adapter or with any other value. -/
inductive Failure
  | adapter (error : DataHubAdapterError)
  | other

/-- The constructor of the error takes it as final unless told otherwise. -/
def adapterError (code : DataHubAdapterErrorCode) (message : String) : Failure :=
  .adapter ⟨code, message, false⟩

end Failures

section Runtime

structure Url where
  protocol : String
  hostname : String
  port : String
  username : String
  password : String
  search : String
  hash : String
  pathname : String

/-- These are the functions of the runtime that read and write URLs and dates. A date that cannot
be parsed is missing, and a date counts its milliseconds. -/
structure Runtime where
  parseUrl : String → Option Url
  parseDate : String → Option ℤ
  toISOString : ℤ → String

/-- These characters are white space. -/
def isSpace (char : Char) : Bool :=
  (9 ≤ char.toNat && char.toNat ≤ 13) || (0x2000 ≤ char.toNat && char.toNat ≤ 0x200A) ||
    [0x20, 0xA0, 0x1680, 0x2028, 0x2029, 0x202F, 0x205F, 0x3000, 0xFEFF].contains char.toNat

def trim (text : String) : String :=
  String.ofList ((text.toList.dropWhile isSpace).reverse.dropWhile isSpace).reverse

end Runtime

section Requests

inductive Decision
  | allow | review | block

def Decision.word : Decision → String
  | .allow => "ALLOW"
  | .review => "REVIEW"
  | .block => "BLOCK"

structure DataHubWritebackRequest where
  artifactFingerprint : String
  approvalFingerprint : String
  candidateFingerprint : String
  decision : Decision
  documentPayloadHash : String
  expectedMetadataFingerprint : String
  expectedMetadataVersion : String
  expectedReviewTagDefinitionFingerprint : String
  githubPrUrl : String
  githubReceiptFingerprint : String
  idempotencyKey : String
  intentId : String
  reasonEvidenceIds : List String
  rollbackRef : String
  runId : String
  scenarioMarker : String
  sourceCollectionFingerprint : String
  sourceUrn : String
  tagPayloadHash : String
  targetInstanceFingerprint : String
  validationReceiptFingerprint : String

def DataHubWritebackRequest.members (request : DataHubWritebackRequest) : List (String × Value) :=
  [("artifactFingerprint", .string request.artifactFingerprint),
    ("approvalFingerprint", .string request.approvalFingerprint),
    ("candidateFingerprint", .string request.candidateFingerprint),
    ("decision", .string request.decision.word),
    ("documentPayloadHash", .string request.documentPayloadHash),
    ("expectedMetadataFingerprint", .string request.expectedMetadataFingerprint),
    ("expectedMetadataVersion", .string request.expectedMetadataVersion),
    ("expectedReviewTagDefinitionFingerprint",
      .string request.expectedReviewTagDefinitionFingerprint),
    ("githubPrUrl", .string request.githubPrUrl),
    ("githubReceiptFingerprint", .string request.githubReceiptFingerprint),
    ("idempotencyKey", .string request.idempotencyKey),
    ("intentId", .string request.intentId),
    ("reasonEvidenceIds", texts request.reasonEvidenceIds),
    ("rollbackRef", .string request.rollbackRef),
    ("runId", .string request.runId),
    ("scenarioMarker", .string request.scenarioMarker),
    ("sourceCollectionFingerprint", .string request.sourceCollectionFingerprint),
    ("sourceUrn", .string request.sourceUrn),
    ("tagPayloadHash", .string request.tagPayloadHash),
    ("targetInstanceFingerprint", .string request.targetInstanceFingerprint),
    ("validationReceiptFingerprint", .string request.validationReceiptFingerprint)]

def canonicalScenarioMarker : String := "canonical-customer-id-rename"

def canonicalReviewedTagUrn : String := "urn:li:tag:lineageguard-canonical.Reviewed"

def isIdentifierChar (char : Char) : Bool :=
  char.isAlphanum || ['_', '.', ':', '-'].contains char

def isIdentifier (text : String) : Bool :=
  utf16Length text ≤ 128 && text.toList.head?.any Char.isAlphanum &&
    text.toList.all isIdentifierChar

def isRepositoryArtifactPath (text : String) : Bool :=
  utf16Length text ≤ 512 && text.toList.head?.any Char.isAlphanum && text.toList.all isPathChar &&
    text.toList.getLast? != some '/' && !(text.toList.tails.any ['/', '/'].isPrefixOf) &&
    (segments text.toList).all fun segment => segment ≠ ['.'] && segment ≠ ['.', '.']

def isUrn (text : String) : Bool :=
  "urn:li:".toList.isPrefixOf text.toList && utf16Length text ≤ 4096

def isPullPath (pathname : String) : Bool :=
  match segments pathname.toList with
  | [[], owner, repository, ['p', 'u', 'l', 'l'], number] =>
      !owner.isEmpty && owner.all isNameChar && !repository.isEmpty &&
        repository.all isNameChar && number.head?.any (fun digit => digit.isDigit && digit ≠ '0') &&
        number.all Char.isDigit
  | _ => false

def isPullUrl (url : Url) : Bool :=
  url.protocol == "https:" && url.hostname == "github.com" && url.port == "" &&
    url.username == "" && url.password == "" && url.search == "" && url.hash == "" &&
    isPullPath url.pathname

/-- The reasons are identifiers and no reason occurs twice. -/
def areReasons (reasons : List String) : Bool :=
  1 ≤ reasons.length && reasons.length ≤ 64 && reasons.all isIdentifier && decide reasons.Nodup

/-- These are the checks of the request schema apart from those of the URL. -/
def DataHubWritebackRequest.Shaped (request : DataHubWritebackRequest) : Prop :=
  (∀ text ∈ [request.artifactFingerprint, request.approvalFingerprint,
    request.candidateFingerprint, request.documentPayloadHash,
    request.expectedMetadataFingerprint, request.expectedReviewTagDefinitionFingerprint,
    request.githubReceiptFingerprint, request.sourceCollectionFingerprint,
    request.tagPayloadHash, request.targetInstanceFingerprint,
    request.validationReceiptFingerprint], isFingerprint text = true) ∧
  (∀ text ∈ [request.idempotencyKey, request.intentId, request.runId],
    isIdentifier text = true) ∧
  (∀ text ∈ [request.expectedMetadataVersion, request.scenarioMarker],
    1 ≤ utf16Length text ∧ utf16Length text ≤ 256) ∧
  areReasons request.reasonEvidenceIds = true ∧
  isRepositoryArtifactPath request.rollbackRef = true ∧ isUrn request.sourceUrn = true ∧
  utf16Length request.githubPrUrl ≤ 2048

instance (request : DataHubWritebackRequest) : Decidable request.Shaped :=
  inferInstanceAs (Decidable (_ ∧ _))

def invalidRequest : Failure :=
  adapterError .configuration
    "DataHub write-back request is invalid or targets a non-canonical entity."

/-- The URL check of the schema trims its text. -/
def DataHubWritebackRequest.trimmed (request : DataHubWritebackRequest) :
    DataHubWritebackRequest := { request with githubPrUrl := trim request.githubPrUrl }

/-- The refinement of the URL raises its own error when the URL cannot be parsed. -/
def parseRequest (runtime : Runtime) (request : DataHubWritebackRequest) :
    Except Failure DataHubWritebackRequest := do
  let parsed := request.trimmed
  let url ← present (runtime.parseUrl parsed.githubPrUrl) .other
  require (isPullUrl url = true ∧ parsed.Shaped) invalidRequest
  return parsed

end Requests

section Payloads

structure DataHubDecisionDocument where
  content : String
  id : String
  marker : String
  title : String

structure InternalDataHubWritebackPayloads where
  document : DataHubDecisionDocument
  documentArguments : Value
  documentPayloadHash : String
  reviewStatusTagUrn : String
  tagArguments : Value
  tagPayloadHash : String
  writePayloadFingerprint : String

def safeDocumentLine (value : String) : String :=
  trim (String.ofList (value.toList.map fun char =>
    if char.toNat < 32 || char.toNat = 127 then ' ' else char))

variable (script : Script) (request : DataHubWritebackRequest)

def decisionDocumentId : String :=
  script.stableId "lineageguard-migration-decision" (.object
    [("candidateFingerprint", .string request.candidateFingerprint),
      ("sourceUrn", .string request.sourceUrn)])

def decisionDocumentMarker : String := "lineageguard:decision:v1:" ++ request.idempotencyKey

def decisionDocumentTitle : String :=
  "LineageGuard migration decision · " ++
    String.ofList (request.candidateFingerprint.toList.take 12)

def decisionDocumentContent : String :=
  "\n".intercalate
    ["Marker: " ++ decisionDocumentMarker request,
      "Decision: " ++ request.decision.word,
      "Latest verified run: " ++ request.runId,
      "Reasons: " ++ ", ".intercalate request.reasonEvidenceIds,
      "Candidate: " ++ request.candidateFingerprint,
      "Artifact: " ++ request.artifactFingerprint,
      "Validation: " ++ request.validationReceiptFingerprint,
      "GitHub review: " ++ request.githubPrUrl,
      "Rollback: " ++ safeDocumentLine request.rollbackRef]

def documentArguments : Value :=
  .object [("content", .string (decisionDocumentContent request)),
    ("document_type", .string "Decision"),
    ("related_assets", texts [request.sourceUrn]),
    ("title", .string (decisionDocumentTitle request)),
    ("urn", .string ("urn:li:document:" ++ decisionDocumentId script request))]

def tagArguments : Value :=
  .object [("entity_urns", texts [request.sourceUrn]),
    ("tag_urns", texts [canonicalReviewedTagUrn])]

def deriveInternalDataHubWritebackPayloads : InternalDataHubWritebackPayloads where
  document := ⟨decisionDocumentContent request, decisionDocumentId script request,
    decisionDocumentMarker request, decisionDocumentTitle request⟩
  documentArguments := documentArguments script request
  documentPayloadHash := script.sha256 (documentArguments script request)
  reviewStatusTagUrn := canonicalReviewedTagUrn
  tagArguments := tagArguments request
  tagPayloadHash := script.sha256 (tagArguments request)
  writePayloadFingerprint := script.sha256 (.object
    [("documentArguments", documentArguments script request),
      ("tagArguments", tagArguments request)])

/-- The binding repeats the request and adds what the payloads and the target determine. -/
def authorityBinding : Value :=
  .object (request.members ++
    [("effectKind", .string "DATAHUB_WRITEBACK"),
      ("inputFingerprint", .string (script.sha256 (.object request.members))),
      ("target", .string request.sourceUrn),
      ("writePayloadFingerprint", .string
        (deriveInternalDataHubWritebackPayloads script request).writePayloadFingerprint)])

/-- A text is hashed as it is, so that the canonical text of the binding is not quoted again. -/
def canonicalEffectFingerprint : String :=
  script.digest (script.stableJson (authorityBinding script request))

end Payloads

section Validation

def validateRequest (script : Script) (runtime : Runtime) (input : DataHubWritebackRequest) :
    Except Failure DataHubWritebackRequest := do
  let parsed ← parseRequest runtime input
  require (parsed.sourceUrn = canonicalDatasetUrn ∧
    parsed.scenarioMarker = canonicalScenarioMarker) invalidRequest
  let payloads := deriveInternalDataHubWritebackPayloads script parsed
  require (payloads.documentPayloadHash = parsed.documentPayloadHash ∧
    payloads.tagPayloadHash = parsed.tagPayloadHash)
    (adapterError .conflict "DataHub write-back payload binding conflicts.")
  return parsed

end Validation

end LineageGuard.Datahub
