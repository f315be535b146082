import LineageGuard.Domain.Migration
import LineageGuard.Library.Attempt
import Mathlib.Tactic

/-
This file translates the types of the live GitHub port.
-/

namespace LineageGuard.Github

open Domain

section Texts

/-- A text of the language consists of characters and of surrogates that stand alone. -/
inductive CodePoint
  | scalar (char : Char)
  | surrogate (index : Fin 2048)
  deriving DecidableEq

abbrev JsText := List CodePoint

def JsText.ofString (text : String) : JsText := text.toList.map .scalar

/-- The length counts code units. -/
def JsText.length (text : JsText) : ℕ :=
  (text.map fun
    | .scalar char => if 0x10000 ≤ char.toNat then 2 else 1
    | .surrogate _ => 1).sum

/-- The encoding replaces a surrogate that stands alone. -/
def CodePoint.encoded : CodePoint → Char
  | .scalar char => char
  | .surrogate _ => '\uFFFD'

def JsText.encoded (text : JsText) : List Char := text.map CodePoint.encoded

/-- This is the length of the encoding in bytes. -/
def JsText.byteLength (text : JsText) : ℕ := (text.encoded.map Char.utf8Size).sum

end Texts

section Errors

inductive GitHubOperation
  | verifyRepository | verifyBase | reconcile | readBaseCommit | createBlob | createTree
  | createCommit | createRef | createPullRequest
  deriving DecidableEq

inductive GitHubRetry
  | never | retry | reconcile
  deriving DecidableEq

inductive GitHubEffectErrorCode
  | invalidInput | policyRejected | authorizationRejected | validationBindingMismatch
  | permissionDenied | notFound | remoteConflict | redirectRejected | rateLimited
  | remoteFailure | transportRetryable | transportAmbiguous
  deriving DecidableEq

structure GitHubEffectError where
  code : GitHubEffectErrorCode
  operation : GitHubOperation
  retry : GitHubRetry
  message : String
  status : Option ℕ
  deriving DecidableEq

end Errors

section Requests

/-- Only a modification names the blob that it expects. -/
inductive GitHubArtifactOperation
  | create
  | modify (expectedBaseBlobSha : String)
  deriving DecidableEq

structure GitHubArtifact where
  path : String
  content : JsText
  candidateArtifactFingerprint : String
  operation : GitHubArtifactOperation
  deriving DecidableEq

structure ValidatedArtifactBinding where
  path : String
  candidateArtifactFingerprint : String
  materializedSha256 : String
  deriving DecidableEq

structure GitHubValidationBinding where
  runId : String
  candidateFingerprint : String
  artifactSetFingerprint : String
  receiptFingerprint : String
  artifacts : List ValidatedArtifactBinding
  deriving DecidableEq

structure GitHubReviewBody where
  summary : String
  reasonEvidenceIds : List String
  rolloutSteps : List String
  rollbackSteps : List String
  deriving DecidableEq

structure GitHubReviewRequest where
  effectReservationId : String
  runId : String
  effectKind : String
  target : String
  idempotencyKey : String
  intentFingerprint : String
  inputFingerprint : String
  repository : String
  baseBranch : String
  baseSha : String
  candidateFingerprint : String
  sourcePrNumber : Option ℤ
  artifactSetFingerprint : String
  validationReceiptFingerprint : String
  approvalFingerprint : String
  validation : GitHubValidationBinding
  artifacts : List GitHubArtifact
  title : String
  body : GitHubReviewBody
  deriving DecidableEq

/-- The host of the interface is a literal. -/
structure LiveGitHubOptions where
  owner : String
  repository : String
  baseBranch : String
  maxAttempts : ℕ
  deriving DecidableEq

def apiBaseUrl : String := "https://api.github.com"

/-- The effect is found before the call or it exists through the call. -/
inductive EffectOutcome
  | created | updated | skippedExact
  deriving DecidableEq

/-- The literal members of a receipt are left out. -/
structure GitHubReviewReceipt where
  target : String
  repository : String
  baseBranch : String
  baseSha : String
  headBranch : String
  headSha : String
  prNumber : ℕ
  prUrl : String
  createdAt : String
  updatedAt : String
  candidateFingerprint : String
  artifactSetFingerprint : String
  validationReceiptFingerprint : String
  approvalFingerprint : String
  intentFingerprint : String
  idempotencyKey : String
  inputFingerprint : String
  reconciled : Bool
  outcome : EffectOutcome
  deriving DecidableEq

end Requests

end LineageGuard.Github
