import LineageGuard.Domain.Migration
import Mathlib.Tactic

/-
This file translates the schemas of validation checks and of signed live receipts.
-/

namespace LineageGuard.Domain

open Json

inductive ValidationCheckName
  | sqlMigration | backfillEquality | dbtParse | dbtCompile | dbtTest
  | oldConsumerCompatibility | newConsumerCompatibility | rollback
  deriving DecidableEq

def ValidationCheckName.word : ValidationCheckName → String
  | .sqlMigration => "SQL_MIGRATION"
  | .backfillEquality => "BACKFILL_EQUALITY"
  | .dbtParse => "DBT_PARSE"
  | .dbtCompile => "DBT_COMPILE"
  | .dbtTest => "DBT_TEST"
  | .oldConsumerCompatibility => "OLD_CONSUMER_COMPATIBILITY"
  | .newConsumerCompatibility => "NEW_CONSUMER_COMPATIBILITY"
  | .rollback => "ROLLBACK"

def checkNames : List ValidationCheckName :=
  [.sqlMigration, .backfillEquality, .dbtParse, .dbtCompile, .dbtTest,
    .oldConsumerCompatibility, .newConsumerCompatibility, .rollback]

inductive ValidatorCommandId
  | sqlMigration | backfillEquality | dbtParse | dbtCompile | dbtTest | oldConsumer | newConsumer
  | rollback
  deriving DecidableEq

def ValidatorCommandId.word : ValidatorCommandId → String
  | .sqlMigration => "VALIDATE_SQL_MIGRATION_V1"
  | .backfillEquality => "VALIDATE_BACKFILL_EQUALITY_V1"
  | .dbtParse => "VALIDATE_DBT_PARSE_V1"
  | .dbtCompile => "VALIDATE_DBT_COMPILE_V1"
  | .dbtTest => "VALIDATE_DBT_TEST_V1"
  | .oldConsumer => "VALIDATE_OLD_CONSUMER_V1"
  | .newConsumer => "VALIDATE_NEW_CONSUMER_V1"
  | .rollback => "VALIDATE_ROLLBACK_V1"

def commandForCheck : ValidationCheckName → ValidatorCommandId
  | .sqlMigration => .sqlMigration
  | .backfillEquality => .backfillEquality
  | .dbtParse => .dbtParse
  | .dbtCompile => .dbtCompile
  | .dbtTest => .dbtTest
  | .oldConsumerCompatibility => .oldConsumer
  | .newConsumerCompatibility => .newConsumer
  | .rollback => .rollback

structure ExecutedArtifactObservation where
  path : String
  candidateArtifactFingerprint : String
  materializedSha256 : String
  deriving DecidableEq

structure ExecutionFence where
  runId : RunId
  sandboxId : String
  worktreeId : String
  leaseId : LeaseId
  workerId : String
  generation : ℕ
  deriving DecidableEq

/-- The status and the exit code of a signed check are literals. -/
structure ExecutedValidationCheck where
  check : ValidationCheckName
  artifactPaths : List String
  artifactObservations : List ExecutedArtifactObservation
  artifactSetFingerprint : String
  validatorImplementationId : String
  validatorVersion : String
  validatorDigest : String
  commandId : ValidatorCommandId
  startedAt : IsoDateTime
  finishedAt : IsoDateTime
  stdoutFingerprint : String
  stderrFingerprint : String
  outputFingerprint : String
  fence : ExecutionFence
  deriving DecidableEq

structure ExpectedValidator where
  check : ValidationCheckName
  commandId : ValidatorCommandId
  implementationId : String
  version : String
  digest : String
  deriving DecidableEq

structure ExpectedValidationExecution where
  fence : ExecutionFence
  validators : List ExpectedValidator
  deriving DecidableEq

inductive ReceiptAlgorithm
  | ed25519 | hmacSha256
  deriving DecidableEq

def ReceiptAlgorithm.word : ReceiptAlgorithm → String
  | .ed25519 => "ED25519"
  | .hmacSha256 => "HMAC-SHA256"

structure LiveValidationProtectedHeaders where
  algorithm : ReceiptAlgorithm
  issuer : String
  keyId : String
  candidateFingerprint : String
  changeFingerprint : String
  impactContextFingerprint : String
  authoritativeGroundedAssessmentFingerprint : String
  authorizedRunEventStreamFingerprint : String
  leaseAcquiredAt : IsoDateTime
  leaseExpiresAt : IsoDateTime
  fence : ExecutionFence
  deriving DecidableEq

structure LiveValidationPayload where
  artifactPaths : List String
  artifactObservations : List ExecutedArtifactObservation
  artifactSetFingerprint : String
  checks : List ExecutedValidationCheck
  completedAt : IsoDateTime
  deriving DecidableEq

structure LiveValidationUnsignedEnvelope where
  protectedHeaders : LiveValidationProtectedHeaders
  payload : LiveValidationPayload
  deriving DecidableEq

structure SignedLiveValidationReceipt extends LiveValidationUnsignedEnvelope where
  signedPayloadFingerprint : String
  signature : String
  deriving DecidableEq

section Values

variable (spelling : Spelling)

def ExecutedArtifactObservation.json (observation : ExecutedArtifactObservation) : Value :=
  .object [("path", .string observation.path),
    ("candidateArtifactFingerprint", .string observation.candidateArtifactFingerprint),
    ("materializedSha256", .string observation.materializedSha256)]

def observationsJson (observations : List ExecutedArtifactObservation) : Value :=
  .array (observations.map ExecutedArtifactObservation.json)

def ExecutionFence.members (fence : ExecutionFence) : List (String × Value) :=
  [("runId", .string (spelling.id fence.runId)), ("sandboxId", .string fence.sandboxId),
    ("worktreeId", .string fence.worktreeId), ("leaseId", .string (spelling.id fence.leaseId)),
    ("workerId", .string fence.workerId), ("generation", .number fence.generation)]

def ExecutedValidationCheck.json (check : ExecutedValidationCheck) : Value :=
  .object ([("check", .string check.check.word), ("status", .string "PASS"),
    ("artifactPaths", texts check.artifactPaths),
    ("artifactObservations", observationsJson check.artifactObservations),
    ("artifactSetFingerprint", .string check.artifactSetFingerprint),
    ("validatorImplementationId", .string check.validatorImplementationId),
    ("validatorVersion", .string check.validatorVersion),
    ("validatorDigest", .string check.validatorDigest),
    ("commandId", .string check.commandId.word), ("exitCode", .number 0),
    ("startedAt", .string (spelling.date check.startedAt)),
    ("finishedAt", .string (spelling.date check.finishedAt)),
    ("stdoutFingerprint", .string check.stdoutFingerprint),
    ("stderrFingerprint", .string check.stderrFingerprint),
    ("outputFingerprint", .string check.outputFingerprint)] ++ check.fence.members spelling)

def ExpectedValidator.json (validator : ExpectedValidator) : Value :=
  .object [("check", .string validator.check.word),
    ("commandId", .string validator.commandId.word),
    ("implementationId", .string validator.implementationId),
    ("version", .string validator.version), ("digest", .string validator.digest)]

def ExpectedValidationExecution.json (expected : ExpectedValidationExecution) : Value :=
  .object ([("schemaVersion", .number 1),
    ("purpose", .string "LINEAGEGUARD_EXPECTED_VALIDATION_EXECUTION")] ++
    expected.fence.members spelling ++
    [("validators", .array (expected.validators.map ExpectedValidator.json))])

def LiveValidationProtectedHeaders.json (headers : LiveValidationProtectedHeaders) : Value :=
  .object ([("schemaVersion", .number 1), ("purpose", .string "LINEAGEGUARD_VALIDATION_LIVE"),
    ("algorithm", .string headers.algorithm.word), ("issuer", .string headers.issuer),
    ("keyId", .string headers.keyId),
    ("candidateFingerprint", .string headers.candidateFingerprint),
    ("changeFingerprint", .string headers.changeFingerprint),
    ("impactContextFingerprint", .string headers.impactContextFingerprint),
    ("authoritativeGroundedAssessmentFingerprint",
      .string headers.authoritativeGroundedAssessmentFingerprint),
    ("authoritativeGroundedDecision", .string "BLOCK"),
    ("authorizedRunEventStreamFingerprint", .string headers.authorizedRunEventStreamFingerprint),
    ("leaseAcquiredAt", .string (spelling.date headers.leaseAcquiredAt)),
    ("leaseExpiresAt", .string (spelling.date headers.leaseExpiresAt))] ++
    headers.fence.members spelling)

def LiveValidationPayload.json (payload : LiveValidationPayload) : Value :=
  .object [("status", .string "PASS"), ("artifactPaths", texts payload.artifactPaths),
    ("artifactObservations", observationsJson payload.artifactObservations),
    ("artifactSetFingerprint", .string payload.artifactSetFingerprint),
    ("checks", .array (payload.checks.map (ExecutedValidationCheck.json spelling))),
    ("completedAt", .string (spelling.date payload.completedAt))]

def LiveValidationUnsignedEnvelope.members (envelope : LiveValidationUnsignedEnvelope) :
    List (String × Value) :=
  [("protectedHeaders", envelope.protectedHeaders.json spelling),
    ("payload", envelope.payload.json spelling)]

def SignedLiveValidationReceipt.json (receipt : SignedLiveValidationReceipt) : Value :=
  .object (receipt.toLiveValidationUnsignedEnvelope.members spelling ++
    [("signedPayloadFingerprint", .string receipt.signedPayloadFingerprint),
      ("signature", .string receipt.signature)])

end Values

section Fingerprints

variable (script : Script) (spelling : Spelling)

/-- The paths are compared by `localeCompare`. -/
def canonicalObservations (observations : List ExecutedArtifactObservation) :
    List ExecutedArtifactObservation :=
  observations.insertionSort fun left right => localeLe left.path right.path = true

def validationArtifactSetFingerprint (observations : List ExecutedArtifactObservation) : String :=
  script.sha256 (.object [("domain", .string "lineageguard.validation.artifact-set.v1"),
    ("observations", observationsJson (canonicalObservations observations))])

def validationOutputFingerprint (check : ValidationCheckName) (exitCode : ℕ)
    (stdoutFingerprint stderrFingerprint : String)
    (artifactObservations : List ExecutedArtifactObservation) : String :=
  script.sha256 (.object [("schemaVersion", .number 1),
    ("purpose", .string "LINEAGEGUARD_VALIDATOR_OUTPUT"), ("check", .string check.word),
    ("exitCode", .number exitCode), ("stdoutFingerprint", .string stdoutFingerprint),
    ("stderrFingerprint", .string stderrFingerprint),
    ("artifactObservations", observationsJson artifactObservations)])

def liveValidationSignedPayloadFingerprint (envelope : LiveValidationUnsignedEnvelope) : String :=
  script.sha256 (.object [("domain", .string "lineageguard.validation.signed-live-envelope.v1"),
    ("envelope", .object (envelope.members spelling))])

/-- The database and the script hash this value for a receipt. -/
def signedReceiptValue (receipt : SignedLiveValidationReceipt) : Value :=
  .object [("domain", .string "lineageguard.validation.signed-live-receipt.v1"),
    ("receipt", receipt.json spelling)]

def signedLiveValidationReceiptFingerprint (receipt : SignedLiveValidationReceipt) : String :=
  script.sha256 (signedReceiptValue spelling receipt)

end Fingerprints

section Issues

variable (script : Script) (spelling : Spelling)

def ExecutionFence.issues (fence : ExecutionFence) (path : List PathItem) : List Issue :=
  lengthIssues 1 160 fence.sandboxId (below path "sandboxId") ++
  lengthIssues 1 240 fence.worktreeId (below path "worktreeId") ++
  lengthIssues 1 160 fence.workerId (below path "workerId") ++
  issueUnless (0 < fence.generation) .tooSmall (below path "generation") ++
  issueUnless (fence.generation ≤ 1000000) .tooBig (below path "generation")

def ExecutedArtifactObservation.issues (observation : ExecutedArtifactObservation)
    (path : List PathItem) : List Issue :=
  migrationArtifactPathIssues observation.path (below path "path") ++
  fingerprintIssues observation.candidateArtifactFingerprint
    (below path "candidateArtifactFingerprint") ++
  fingerprintIssues observation.materializedSha256 (below path "materializedSha256")

/-- A check and a payload list the artifacts that they cover in the same way. -/
def coverageIssues (artifactPaths : List String) (observations : List ExecutedArtifactObservation)
    (path : List PathItem) : List Issue :=
  eachIssues artifactPaths (below path "artifactPaths") migrationArtifactPathIssues ++
  countIssues 1 20 artifactPaths (below path "artifactPaths") ++
  eachIssues observations (below path "artifactObservations")
    ExecutedArtifactObservation.issues ++
  countIssues 1 20 observations (below path "artifactObservations")

/-- The observed paths are unique and sorted and repeat the listed ones. -/
def coversPaths (artifactPaths : List String) (observations : List ExecutedArtifactObservation) :
    Prop :=
  (observations.map (·.path)).Nodup ∧ observations.map (·.path) = sorted (observations.map (·.path))
    ∧ observations.map (·.path) = artifactPaths

instance (artifactPaths : List String) (observations : List ExecutedArtifactObservation) :
    Decidable (coversPaths artifactPaths observations) := inferInstanceAs (Decidable (_ ∧ _))

def ExecutedValidationCheck.shapeIssues (check : ExecutedValidationCheck) (path : List PathItem) :
    List Issue :=
  coverageIssues check.artifactPaths check.artifactObservations path ++
  fingerprintIssues check.artifactSetFingerprint (below path "artifactSetFingerprint") ++
  lengthIssues 1 160 check.validatorImplementationId (below path "validatorImplementationId") ++
  lengthIssues 1 80 check.validatorVersion (below path "validatorVersion") ++
  fingerprintIssues check.validatorDigest (below path "validatorDigest") ++
  dateIssues check.startedAt (below path "startedAt") ++
  dateIssues check.finishedAt (below path "finishedAt") ++
  fingerprintIssues check.stdoutFingerprint (below path "stdoutFingerprint") ++
  fingerprintIssues check.stderrFingerprint (below path "stderrFingerprint") ++
  fingerprintIssues check.outputFingerprint (below path "outputFingerprint") ++
  check.fence.issues path

def ExecutedValidationCheck.issues (check : ExecutedValidationCheck) (path : List PathItem) :
    List Issue :=
  check.shapeIssues path ++
  issueUnless (check.commandId = commandForCheck check.check)
    (.custom "Validation check must use its allowlisted command ID") (below path "commandId") ++
  issueUnless (check.startedAt.time ≤ check.finishedAt.time)
    (.custom "Validation check cannot finish before it starts") (below path "finishedAt") ++
  issueUnless (coversPaths check.artifactPaths check.artifactObservations)
    (.custom "Check observations must exactly cover canonical artifact paths")
    (below path "artifactObservations") ++
  issueUnless (check.artifactSetFingerprint =
      validationArtifactSetFingerprint script check.artifactObservations)
    (.custom "Check artifact-set fingerprint is not canonical")
    (below path "artifactSetFingerprint") ++
  issueUnless (check.outputFingerprint = validationOutputFingerprint script check.check 0
      check.stdoutFingerprint check.stderrFingerprint check.artifactObservations)
    (.custom "Validator output fingerprint is not canonical") (below path "outputFingerprint")

def ExpectedValidator.issues (validator : ExpectedValidator) (path : List PathItem) : List Issue :=
  lengthIssues 1 160 validator.implementationId (below path "implementationId") ++
  lengthIssues 1 80 validator.version (below path "version") ++
  fingerprintIssues validator.digest (below path "digest")

/-- These are the issues that `expectedValidationExecutionSchema` reports. -/
def expectedValidationExecutionIssues (expected : ExpectedValidationExecution) : List Issue :=
  expected.fence.issues [] ++
  eachIssues expected.validators [.field "validators"] ExpectedValidator.issues ++
  countIssues 8 8 expected.validators [.field "validators"] ++
  issueUnless (expected.validators.map (·.check) <+: checkNames)
    (.custom "Expected validators must exactly cover checks in canonical order")
    [.field "validators"] ++
  eachIssues expected.validators [.field "validators"] fun validator path =>
    issueUnless (validator.commandId = commandForCheck validator.check)
      (.custom "Expected validator command is not allowlisted for its check")
      (below path "commandId")

def LiveValidationProtectedHeaders.issues (headers : LiveValidationProtectedHeaders)
    (path : List PathItem) : List Issue :=
  lengthIssues 1 240 headers.issuer (below path "issuer") ++
  lengthIssues 1 160 headers.keyId (below path "keyId") ++
  fingerprintIssues headers.candidateFingerprint (below path "candidateFingerprint") ++
  fingerprintIssues headers.changeFingerprint (below path "changeFingerprint") ++
  fingerprintIssues headers.impactContextFingerprint (below path "impactContextFingerprint") ++
  fingerprintIssues headers.authoritativeGroundedAssessmentFingerprint
    (below path "authoritativeGroundedAssessmentFingerprint") ++
  fingerprintIssues headers.authorizedRunEventStreamFingerprint
    (below path "authorizedRunEventStreamFingerprint") ++
  dateIssues headers.leaseAcquiredAt (below path "leaseAcquiredAt") ++
  dateIssues headers.leaseExpiresAt (below path "leaseExpiresAt") ++
  headers.fence.issues path

def LiveValidationPayload.shapeIssues (payload : LiveValidationPayload) (path : List PathItem) :
    List Issue :=
  coverageIssues payload.artifactPaths payload.artifactObservations path ++
  fingerprintIssues payload.artifactSetFingerprint (below path "artifactSetFingerprint") ++
  eachIssues payload.checks (below path "checks") (ExecutedValidationCheck.issues script) ++
  countIssues 8 8 payload.checks (below path "checks") ++
  dateIssues payload.completedAt (below path "completedAt")

def isBase64Url (char : Char) : Bool := char.isAlphanum || char = '_' || char = '-'

/-- The last character of an unpadded signature leaves its unused bits at zero. -/
def isCanonicalSignature (algorithm : ReceiptAlgorithm) (signature : String) : Bool :=
  let (count, ends) := match algorithm with
    | .ed25519 => (85, "AQgw")
    | .hmacSha256 => (42, "AEIMQUYcgkosw048")
  signature.toList.length == count + 1 && (signature.toList.take count).all isBase64Url &&
    signature.toList.getLast?.any ends.toList.contains

/-- The fence of every check and its observations repeat those of the receipt. -/
def receiptCheckIssues (receipt : SignedLiveValidationReceipt) (check : ExecutedValidationCheck)
    (path : List PathItem) : List Issue :=
  issueUnless (check.fence.runId = receipt.protectedHeaders.fence.runId)
    (.custom "Per-check execution fence must match protected headers") (below path "runId") ++
  issueUnless (check.fence.sandboxId = receipt.protectedHeaders.fence.sandboxId)
    (.custom "Per-check execution fence must match protected headers") (below path "sandboxId") ++
  issueUnless (check.fence.worktreeId = receipt.protectedHeaders.fence.worktreeId)
    (.custom "Per-check execution fence must match protected headers") (below path "worktreeId") ++
  issueUnless (check.fence.leaseId = receipt.protectedHeaders.fence.leaseId)
    (.custom "Per-check execution fence must match protected headers") (below path "leaseId") ++
  issueUnless (check.fence.workerId = receipt.protectedHeaders.fence.workerId)
    (.custom "Per-check execution fence must match protected headers") (below path "workerId") ++
  issueUnless (check.fence.generation = receipt.protectedHeaders.fence.generation)
    (.custom "Per-check execution fence must match protected headers") (below path "generation") ++
  issueUnless (check.artifactObservations = receipt.payload.artifactObservations.filter
      fun observation => check.artifactPaths.contains observation.path)
    (.custom "Per-check artifact hashes must match the signed global artifact set")
    (below path "artifactObservations")

/-- The completion lies inside the lease and every check inside the completed execution. -/
def intervalIssues (receipt : SignedLiveValidationReceipt) : List Issue :=
  issueUnless (receipt.protectedHeaders.leaseAcquiredAt.time <
        receipt.protectedHeaders.leaseExpiresAt.time ∧
      receipt.protectedHeaders.leaseAcquiredAt.time ≤ receipt.payload.completedAt.time ∧
      receipt.payload.completedAt.time < receipt.protectedHeaders.leaseExpiresAt.time)
    (.custom "Live validation completion must occur inside the protected lease interval")
    [.field "payload", .field "completedAt"] ++
  issueUnless (∀ check ∈ receipt.payload.checks,
      receipt.protectedHeaders.leaseAcquiredAt.time ≤ check.startedAt.time ∧
      check.finishedAt.time ≤ receipt.payload.completedAt.time)
    (.custom "All check execution must remain inside the protected live interval")
    [.field "payload", .field "checks"]

/-- These are the issues that `signedLiveValidationReceiptSchema` reports. -/
def signedLiveValidationReceiptIssues (receipt : SignedLiveValidationReceipt) : List Issue :=
  receipt.protectedHeaders.issues [.field "protectedHeaders"] ++
  receipt.payload.shapeIssues script [.field "payload"] ++
  fingerprintIssues receipt.signedPayloadFingerprint [.field "signedPayloadFingerprint"] ++
  lengthIssues 43 86 receipt.signature [.field "signature"] ++
  issueUnless (coversPaths receipt.payload.artifactPaths receipt.payload.artifactObservations)
    (.custom "Receipt observations must exactly cover canonical artifact paths")
    [.field "payload", .field "artifactObservations"] ++
  issueUnless (receipt.payload.artifactSetFingerprint =
      validationArtifactSetFingerprint script receipt.payload.artifactObservations)
    (.custom "Receipt artifact-set fingerprint is not canonical")
    [.field "payload", .field "artifactSetFingerprint"] ++
  issueUnless (receipt.payload.checks.map (·.check) <+: checkNames)
    (.custom "Live receipt requires the exact canonical check order")
    [.field "payload", .field "checks"] ++
  eachIssues receipt.payload.checks [.field "payload", .field "checks"]
    (receiptCheckIssues receipt) ++
  intervalIssues receipt ++
  issueUnless (isCanonicalSignature receipt.protectedHeaders.algorithm receipt.signature)
    (.custom "Signature must be canonical unpadded Base64URL for the protected algorithm")
    [.field "signature"] ++
  issueUnless (receipt.signedPayloadFingerprint = liveValidationSignedPayloadFingerprint script
      spelling receipt.toLiveValidationUnsignedEnvelope)
    (.custom "Signed payload fingerprint is not canonical") [.field "signedPayloadFingerprint"]

end Issues

section Accepted

variable {script : Script} {spelling : Spelling} {receipt : SignedLiveValidationReceipt}

/-- The headers of an accepted check carry its fence. -/
theorem ExecutedValidationCheck.fence_issues {check : ExecutedValidationCheck}
    {path : List PathItem} (accepted : check.issues script path = []) :
    check.fence.issues path = [] := by
  simp only [ExecutedValidationCheck.issues, ExecutedValidationCheck.shapeIssues,
    List.append_eq_nil_iff, and_assoc] at accepted
  obtain ⟨_, _, _, _, _, _, _, _, _, _, fence, _⟩ := accepted
  exact fence

theorem LiveValidationProtectedHeaders.fence_issues {headers : LiveValidationProtectedHeaders}
    {path : List PathItem} (accepted : headers.issues path = []) :
    headers.fence.issues path = [] := by
  rw [LiveValidationProtectedHeaders.issues, List.append_eq_nil_iff] at accepted
  exact accepted.2

/-- The schema of a receipt accepts its headers and the checks of its payload. -/
theorem receipt_shapes (accepted : signedLiveValidationReceiptIssues script spelling receipt = []) :
    receipt.protectedHeaders.issues [.field "protectedHeaders"] = [] ∧
      ∀ check ∈ receipt.payload.checks, ∃ path, check.issues script path = [] := by
  simp only [signedLiveValidationReceiptIssues, LiveValidationPayload.shapeIssues,
    List.append_eq_nil_iff, and_assoc] at accepted
  obtain ⟨headers, _, _, checks, _⟩ := accepted
  exact ⟨headers, eachIssues_nil checks⟩

end Accepted

end LineageGuard.Domain
