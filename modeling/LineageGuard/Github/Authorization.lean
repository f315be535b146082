import LineageGuard.Github.Validation
import LineageGuard.Library.Dialogue
import Mathlib.Tactic

/-
This file translates the canonical effect of a review request and its authorization.
-/

namespace LineageGuard.Github

open Json Domain Attempt Dialogue

section Effects

/-- The text of the pull request repeats the fingerprints of the request. -/
def renderPullRequestBody (input : GitHubReviewRequest) : String :=
  "\n".intercalate (
    ["<!-- lineageguard-effect:" ++ input.intentFingerprint ++ " -->", input.body.summary, "",
      "Candidate: " ++ input.candidateFingerprint,
      "Validated artifacts: " ++ input.artifactSetFingerprint,
      "Validation receipt: " ++ input.validationReceiptFingerprint, "", "Evidence"] ++
    input.body.reasonEvidenceIds.map ("- " ++ ·) ++ ["", "Rollout"] ++
    input.body.rolloutSteps.map ("- " ++ ·) ++ ["", "Rollback"] ++
    input.body.rollbackSteps.map ("- " ++ ·))

def GitHubArtifactOperation.word : GitHubArtifactOperation → String
  | .create => "CREATE"
  | .modify _ => "MODIFY"

def GitHubArtifactOperation.expectedBlob : GitHubArtifactOperation → Value
  | .create => .null
  | .modify expectedBaseBlobSha => .string expectedBaseBlobSha

variable (script : Script)

/-- The digest of the validation stands for the content. -/
def canonicalArtifact (observations : List ValidatedArtifactBinding) (artifact : GitHubArtifact) :
    Value :=
  .object [("path", .string artifact.path), ("operation", .string artifact.operation.word),
    ("expectedBaseBlobSha", artifact.operation.expectedBlob),
    ("candidateArtifactFingerprint", .string artifact.candidateArtifactFingerprint),
    ("materializedSha256", .string (match observationAt observations artifact.path with
      | some observation => observation.materializedSha256
      | none => sha256Bytes script artifact.content))]

def canonicalMembers (input : GitHubReviewRequest) (headBranch : String) :
    List (String × Value) :=
  [("schemaVersion", .number 1), ("reservationId", .string input.effectReservationId),
    ("runId", .string input.runId), ("effectKind", .string input.effectKind),
    ("apiBaseUrl", .string apiBaseUrl), ("repository", .string input.repository),
    ("baseBranch", .string input.baseBranch), ("baseSha", .string input.baseSha),
    ("headBranch", .string headBranch), ("target", .string input.target),
    ("idempotencyKey", .string input.idempotencyKey),
    ("intentFingerprint", .string input.intentFingerprint),
    ("candidateFingerprint", .string input.candidateFingerprint),
    ("artifactSetFingerprint", .string input.artifactSetFingerprint),
    ("validationReceiptFingerprint", .string input.validationReceiptFingerprint),
    ("approvalFingerprint", .string input.approvalFingerprint),
    ("artifacts", .array (input.artifacts.map
      (canonicalArtifact script input.validation.artifacts))),
    ("pullRequest", .object [("title", .string input.title),
      ("body", .string (renderPullRequestBody input))])]

def canonicalGitHubEffect (input : GitHubReviewRequest) : Except GitHubEffectError Value := do
  let headBranch ← deterministicHead input.candidateFingerprint input.sourcePrNumber
  return .object (canonicalMembers script input headBranch)

/-- The keys of this package are sorted by their code units. -/
def unitLe (left right : String) : Bool := decide (codeUnits left ≤ codeUnits right)

def canonicalJson (value : Value) : List Char := script.stringify (canonical unitLe value)

def sha256CanonicalJson (value : Value) : String := script.digest (canonicalJson script value)

def githubEffectFingerprint (input : GitHubReviewRequest) : Except GitHubEffectError String := do
  let effect ← canonicalGitHubEffect script input
  return sha256CanonicalJson script effect

end Effects

section Dialogs

/-- The functions of the runtime read and write dates in milliseconds. -/
structure Calendar where
  parseDate : String → Option ℤ
  toISOString : ℤ → String

inductive ReservationState
  | reserved | consumed
  deriving DecidableEq

structure GitHubEffectAuthorization where
  reservationId : String
  canonicalEffectFingerprint : String
  state : ReservationState
  invokeBy : String

structure ConsumedAuthorization where
  canonicalEffectFingerprint : String
  invokeBy : String
  attemptFence : String

/-- The authority fails, exceeds its deadline or answers with a value that may be malformed. -/
inductive AuthorityReply (Answer : Type)
  | failed
  | malformed
  | answered (answer : Answer)

/-- These resources are read. -/
inductive Resource
  | repository
  | branch (name : String)
  | commit (sha : String)
  | tree (sha : String)
  | blob (sha : String)
  | pulls (head base : String)
  deriving DecidableEq

/-- A new regular file of a tree names its blob. -/
structure NewTreeEntry where
  path : String
  sha : String
  deriving DecidableEq

/-- These are the bodies of the mutations. -/
inductive Mutation
  | blob (content : JsText)
  | tree (baseTree : String) (entries : List NewTreeEntry)
  | commit (message tree parent : String)
  | ref (name sha : String)
  | pull (title body head base : String)
  deriving DecidableEq

structure GitHubHttpResponse where
  status : ℕ
  body : Value

/-- A transport that exceeds its deadline gives a classified error as well. -/
inductive TransportFailure
  | classified (error : GitHubEffectError)
  | other

/-- The port asks its authority, its clock and its transport. -/
inductive PortCall
  | verifyCurrentEffectReservation (canonicalEffectFingerprint : String)
  | consumeCurrentEffect (canonicalEffectFingerprint : String)
  | clock
  | get (resource : Resource)
  | post (mutation : Mutation)
  deriving DecidableEq

abbrev PortReply : PortCall → Type
  | .verifyCurrentEffectReservation _ => AuthorityReply GitHubEffectAuthorization
  | .consumeCurrentEffect _ => AuthorityReply ConsumedAuthorization
  | .clock => ℤ
  | .get _ | .post _ => Except TransportFailure GitHubHttpResponse

abbrev Dialog (Result : Type) := Program PortCall PortReply GitHubEffectError Result

def ask (call : PortCall) : Dialog (PortReply call) := Program.perform call

/-- A rejected promise raises its error. -/
def settle {Result : Type} (result : Except GitHubEffectError Result) : Dialog Result :=
  .done result

end Dialogs

section Authorization

variable (script : Script) (calendar : Calendar) (options : LiveGitHubOptions)
variable (input : GitHubReviewRequest)

/-- The deadline lies ahead and within five minutes, and the clock is read for both bounds. -/
def validInvokeBy (value : String) : Dialog Bool :=
  match calendar.parseDate value with
  | none => return false
  | some invokeBy => do
      if calendar.toISOString invokeBy ≠ value then
        return false
      let now : ℤ ← ask .clock
      if invokeBy < now then
        return false
      let later : ℤ ← ask .clock
      return decide (invokeBy ≤ later + 300000)

def unresolvedAuthorization : GitHubEffectError :=
  rejected .authorizationRejected "Trusted effect reservation could not be resolved"

def unauthorized : GitHubEffectError :=
  rejected .authorizationRejected
    "Trusted effect reservation does not authorize this canonical GitHub effect"

def resolveAuthorization : Dialog GitHubEffectAuthorization := do
  let computed ← settle (githubEffectFingerprint script input)
  let reply : AuthorityReply GitHubEffectAuthorization ←
    ask (.verifyCurrentEffectReservation computed)
  match reply with
  | .failed => .fail unresolvedAuthorization
  | .malformed => .fail unauthorized
  | .answered authorized => do
      settle (require (authorized.reservationId = input.effectReservationId ∧
        authorized.canonicalEffectFingerprint = computed) unauthorized)
      let current ← validInvokeBy calendar authorized.invokeBy
      settle (require (current = true ∧ input.inputFingerprint = computed) unauthorized)
      return authorized

end Authorization

end LineageGuard.Github
