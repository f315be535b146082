import LineageGuard.Datahub.Request
import LineageGuard.Github.Types
import Mathlib.Tactic

/-
This file translates the validation of a request of the live GitHub port.
-/

namespace LineageGuard.Github

open Domain Attempt

def rejected (code : GitHubEffectErrorCode) (message : String) : GitHubEffectError :=
  ⟨code, .verifyRepository, .never, message, none⟩

section Grammar

/-- These characters are written as they are. -/
def isUnreserved (char : Char) : Bool :=
  char.isAlphanum || ['-', '_', '.', '!', '~', '*', Char.ofNat 39, '(', ')'].contains char

def percent (byte : UInt8) : List Char :=
  ['%', (Nat.digitChar (byte.toNat / 16)).toUpper, (Nat.digitChar (byte.toNat % 16)).toUpper]

def encodeURIComponent (text : String) : String :=
  String.ofList (text.toList.flatMap fun char =>
    if isUnreserved char then [char] else (String.utf8EncodeChar char).flatMap percent)

def isOpaqueChar (char : Char) : Bool := char.isAlphanum || ['_', '-'].contains char

def isOpaqueReservation (text : String) : Bool :=
  decide (32 ≤ text.length) && decide (text.length ≤ 200) && text.toList.all isOpaqueChar

def isIdempotencyKey (text : String) : Bool :=
  decide (16 ≤ text.length) && decide (text.length ≤ 240) && text.toList.all fun char =>
    char.isAlphanum || [':', '.', '_', '/', '-'].contains char

def safePath (path : String) : Bool :=
  decide (1 ≤ utf16Length path) && decide (utf16Length path ≤ 240) && isRelative path.toList &&
    isNormalized path.toList &&
    (isBetween "walkthrough/migrations/" ".sql" isNameChar path.toList ||
      isBetween "walkthrough/models/" ".sql" isPathChar path.toList ||
      isBetween "walkthrough/tests/" ".sql" isPathChar path.toList ||
      isBetween "docs/migrations/" ".md" isNameChar path.toList)

end Grammar

section Requests

variable (script : Script) (options : LiveGitHubOptions)

def sha256Bytes (content : JsText) : String := script.digest content.encoded

/-- The types carry the other checks of the shape. -/
def hasRuntimeRequestShape (input : GitHubReviewRequest) : Bool :=
  input.sourcePrNumber.isNone && decide (input.body.reasonEvidenceIds.length ≤ 200) &&
    decide (input.body.rolloutSteps.length ≤ 20) && decide (input.body.rollbackSteps.length ≤ 20) &&
    decide (input.validation.artifacts.length ≤ 20) && decide (input.artifacts.length ≤ 20)

def isRepositoryChar (char : Char) : Bool := char.isAlphanum || ['_', '.', '-'].contains char

def isBranchChar (char : Char) : Bool := isRepositoryChar char || char = '/'

/-- The options without a model are accepted. -/
def validateOptions : Except GitHubEffectError Unit := do
  require (options.owner ≠ "" ∧ options.owner.toList.all isRepositoryChar = true ∧
      options.repository ≠ "" ∧ options.repository.toList.all isRepositoryChar = true)
    (rejected .invalidInput "invalid repository allowlist")
  require (options.baseBranch ≠ "" ∧ options.baseBranch.toList.all isBranchChar = true ∧
      ¬ ['.', '.'] <:+: options.baseBranch.toList ∧
      "lineageguard/".toList.isPrefixOf options.baseBranch.toList = false)
    (rejected .invalidInput "invalid base branch allowlist")
  require (options.maxAttempts ∈ [1, 2, 3])
    (rejected .invalidInput "max attempts must be between 1 and 3")

def expectedRepository : String := options.owner ++ "/" ++ options.repository

def expectedTarget (baseSha : String) : String :=
  apiBaseUrl ++ "/repos/" ++ expectedRepository options ++ "/git/ref/heads/" ++
    encodeURIComponent options.baseBranch ++ "#" ++ baseSha

def effectFingerprints (input : GitHubReviewRequest) : List String :=
  [input.inputFingerprint, input.intentFingerprint, input.candidateFingerprint,
    input.artifactSetFingerprint, input.validationReceiptFingerprint, input.approvalFingerprint]

/-- The last observation at a path stands for it in the map. -/
def observationAt (observations : List ValidatedArtifactBinding) (path : String) :
    Option ValidatedArtifactBinding :=
  observations.reverse.find? fun observation => observation.path = path

def isBlank (text : String) : Bool := Datahub.trim text = ""

def operationAccepted : GitHubArtifactOperation → Bool
  | .create => true
  | .modify expectedBaseBlobSha => isGitSha expectedBaseBlobSha

def artifactInvalid (seen : List String) (artifact : GitHubArtifact) : Bool :=
  !safePath artifact.path || decide (artifact.content.length < 1) ||
    decide (100000 < artifact.content.byteLength) ||
    !isFingerprint artifact.candidateArtifactFingerprint ||
    !operationAccepted artifact.operation || seen.contains artifact.path

def matchesObservation (artifact : GitHubArtifact) (observation : ValidatedArtifactBinding) : Bool :=
  observation.candidateArtifactFingerprint = artifact.candidateArtifactFingerprint &&
    observation.materializedSha256 = sha256Bytes script artifact.content

/-- The loop returns the paths that it has seen. -/
def checkArtifacts (observations : List ValidatedArtifactBinding) :
    List String → List GitHubArtifact → Except GitHubEffectError (List String)
  | seen, [] => .ok seen
  | seen, artifact :: rest => do
      reject (artifactInvalid seen artifact = true)
        (rejected .invalidInput "artifact input is invalid")
      require ((observationAt observations artifact.path).any (matchesObservation script artifact))
        (rejected .validationBindingMismatch
          "artifact bytes or candidate fingerprint differ from signed validation")
      checkArtifacts observations (artifact.path :: seen) rest

def validateRequest (input : GitHubReviewRequest) : Except GitHubEffectError Unit := do
  require (hasRuntimeRequestShape input = true)
    (rejected .invalidInput "GitHub effect request is malformed")
  require (input.repository = expectedRepository options ∧ input.baseBranch = options.baseBranch ∧
      input.target = expectedTarget options input.baseSha ∧ input.effectKind = "GITHUB_WRITE")
    (rejected .policyRejected
      "effect target is outside the exact repository, owner, or base allowlist")
  require (isPrefixedId "run_" input.runId ∧ isGitSha input.baseSha)
    (rejected .invalidInput "invalid run or base commit identity")
  require (isOpaqueReservation input.effectReservationId ∧ isIdempotencyKey input.idempotencyKey)
    (rejected .invalidInput "invalid effect reservation or idempotency identity")
  require ((effectFingerprints input).all isFingerprint)
    (rejected .invalidInput "invalid effect fingerprint")
  require (input.validation.runId = input.runId ∧
      input.validation.candidateFingerprint = input.candidateFingerprint ∧
      input.validation.artifactSetFingerprint = input.artifactSetFingerprint ∧
      input.validation.receiptFingerprint = input.validationReceiptFingerprint)
    (rejected .validationBindingMismatch
      "validation receipt is not bound to this run, candidate, artifact set, and effect")
  require (isBlank input.title = false ∧ utf16Length input.title ≤ 160 ∧
      isBlank input.body.summary = false ∧ utf16Length input.body.summary ≤ 2000)
    (rejected .invalidInput "invalid review title or summary")
  require (1 ≤ input.body.reasonEvidenceIds.length ∧ input.body.reasonEvidenceIds.length ≤ 200 ∧
      (input.body.reasonEvidenceIds.all (isPrefixedId "ev_")) ∧ input.body.reasonEvidenceIds.Nodup)
    (rejected .invalidInput "review must cite valid evidence IDs")
  require (1 ≤ input.body.rolloutSteps.length ∧ input.body.rolloutSteps.length ≤ 20 ∧
      1 ≤ input.body.rollbackSteps.length ∧ input.body.rollbackSteps.length ≤ 20 ∧
      (input.body.rolloutSteps ++ input.body.rollbackSteps).all fun step =>
        !isBlank step && decide (utf16Length step ≤ 1000))
    (rejected .invalidInput "review requires bounded rollout and rollback steps")
  require (1 ≤ input.artifacts.length ∧ input.artifacts.length ≤ 20 ∧
      input.validation.artifacts.length = input.artifacts.length)
    (rejected .validationBindingMismatch "artifact set is incomplete")
  let validatedPaths := input.validation.artifacts.map (·.path)
  require validatedPaths.Nodup
    (rejected .validationBindingMismatch "validated artifact paths must be unique")
  require (validatedPaths = sorted validatedPaths)
    (rejected .validationBindingMismatch "validated artifact paths must be canonical")
  let seen ← checkArtifacts script input.validation.artifacts [] input.artifacts
  require (seen.length = input.validation.artifacts.length)
    (rejected .validationBindingMismatch "artifact paths differ from signed validation")
  require (input.artifacts.map (·.path) = validatedPaths)
    (rejected .validationBindingMismatch "artifact order differs from signed validation")

/-- The prefix of the candidate names the branch. -/
def deterministicHead (candidateFingerprint : String) (prNumber : Option ℤ) :
    Except GitHubEffectError String := do
  require (isFingerprint candidateFingerprint)
    (rejected .invalidInput "invalid candidate fingerprint")
  let start := String.ofList (candidateFingerprint.toList.take 12)
  match prNumber with
  | none => return "lineageguard/generated/" ++ start
  | some number => do
      require (0 < number) (rejected .invalidInput "invalid source pull request number")
      return "lineageguard/generated/pr-" ++ number.repr ++ "-" ++ start

end Requests

section Accepted

variable {script : Script} {options : LiveGitHubOptions} {input : GitHubReviewRequest}

/-- These are the checks of one artifact apart from its place in the list. -/
structure AcceptedArtifact (script : Script) (observations : List ValidatedArtifactBinding)
    (artifact : GitHubArtifact) : Prop where
  path : safePath artifact.path = true
  filled : 1 ≤ artifact.content.length
  bounded : artifact.content.byteLength ≤ 100000
  fingerprint : isFingerprint artifact.candidateArtifactFingerprint = true
  operation : operationAccepted artifact.operation = true
  observed : ∃ observation, observationAt observations artifact.path = some observation ∧
    observation.candidateArtifactFingerprint = artifact.candidateArtifactFingerprint ∧
    observation.materializedSha256 = sha256Bytes script artifact.content

theorem artifact_step {observations : List ValidatedArtifactBinding} {seen : List String}
    {artifact : GitHubArtifact} : (¬ artifactInvalid seen artifact = true ∧
      (observationAt observations artifact.path).any (matchesObservation script artifact) = true) ↔
        AcceptedArtifact script observations artifact ∧ artifact.path ∉ seen := by
  simp only [artifactInvalid, Bool.or_eq_true, Bool.not_eq_true', decide_eq_true_eq,
    List.contains_iff_mem, not_or, Bool.not_eq_false, not_lt, Option.any_eq_true,
    matchesObservation, Bool.and_eq_true]
  constructor
  · rintro ⟨⟨⟨⟨⟨⟨path, filled⟩, bounded⟩, fingerprint⟩, operation⟩, fresh⟩, observed⟩
    exact ⟨⟨path, filled, bounded, fingerprint, operation, observed⟩, fresh⟩
  · rintro ⟨accepted, fresh⟩
    exact ⟨⟨⟨⟨⟨⟨accepted.path, accepted.filled⟩, accepted.bounded⟩, accepted.fingerprint⟩,
      accepted.operation⟩, fresh⟩, accepted.observed⟩

/-- The loop accepts every artifact at a path of its own. -/
theorem checkArtifacts_ok {observations : List ValidatedArtifactBinding}
    {artifacts : List GitHubArtifact} {seen result : List String} :
    checkArtifacts script observations seen artifacts = .ok result ↔
      (∀ artifact ∈ artifacts, AcceptedArtifact script observations artifact) ∧
        (artifacts.map (·.path)).Nodup ∧ (∀ artifact ∈ artifacts, artifact.path ∉ seen) ∧
        result = (artifacts.map (·.path)).reverse ++ seen := by
  induction artifacts generalizing seen with
  | nil => simp [checkArtifacts, eq_comm]
  | cons artifact rest ih =>
      have step := @artifact_step script observations seen artifact
      simp only [checkArtifacts, bind_ok, reject_ok, require_ok, exists_const, ih]
      rw [← and_assoc, step]
      rw [List.forall_mem_cons, List.forall_mem_cons, List.map_cons, List.nodup_cons]
      simp only [List.mem_cons, not_or, List.reverse_cons, List.append_assoc,
        List.singleton_append, List.mem_map, not_exists, not_and]
      constructor
      · rintro ⟨⟨accepted, fresh⟩, others, single, apart, rfl⟩
        exact ⟨⟨accepted, others⟩, ⟨fun other present => (apart other present).1, single⟩,
          ⟨fresh, fun other present => (apart other present).2⟩, rfl⟩
      · rintro ⟨⟨accepted, others⟩, ⟨apart, single⟩, ⟨fresh, kept⟩, rfl⟩
        exact ⟨⟨accepted, fresh⟩, others, single,
          fun other present => ⟨apart other present, kept other present⟩, rfl⟩

/-- These are the checks of the request apart from its artifacts. -/
structure AcceptedFields (options : LiveGitHubOptions) (input : GitHubReviewRequest) : Prop where
  unnumbered : input.sourcePrNumber = none
  repository : input.repository = expectedRepository options
  baseBranch : input.baseBranch = options.baseBranch
  target : input.target = expectedTarget options input.baseSha
  effectKind : input.effectKind = "GITHUB_WRITE"
  runId : isPrefixedId "run_" input.runId = true
  baseSha : isGitSha input.baseSha = true
  reservation : isOpaqueReservation input.effectReservationId = true
  idempotencyKey : isIdempotencyKey input.idempotencyKey = true
  fingerprints : (effectFingerprints input).all isFingerprint = true
  validatedRun : input.validation.runId = input.runId
  validatedCandidate : input.validation.candidateFingerprint = input.candidateFingerprint
  validatedSet : input.validation.artifactSetFingerprint = input.artifactSetFingerprint
  validatedReceipt : input.validation.receiptFingerprint = input.validationReceiptFingerprint
  title : isBlank input.title = false ∧ utf16Length input.title ≤ 160
  summary : isBlank input.body.summary = false ∧ utf16Length input.body.summary ≤ 2000
  evidence : 1 ≤ input.body.reasonEvidenceIds.length ∧ input.body.reasonEvidenceIds.length ≤ 200 ∧
    input.body.reasonEvidenceIds.all (isPrefixedId "ev_") = true ∧
    input.body.reasonEvidenceIds.Nodup
  steps : 1 ≤ input.body.rolloutSteps.length ∧ input.body.rolloutSteps.length ≤ 20 ∧
    1 ≤ input.body.rollbackSteps.length ∧ input.body.rollbackSteps.length ≤ 20 ∧
    ((input.body.rolloutSteps ++ input.body.rollbackSteps).all fun step =>
      !isBlank step && decide (utf16Length step ≤ 1000)) = true

/-- The artifacts are those of the validation. -/
structure AcceptedArtifacts (script : Script) (input : GitHubReviewRequest) : Prop where
  count : 1 ≤ input.artifacts.length ∧ input.artifacts.length ≤ 20
  ordered : input.artifacts.map (·.path) = sorted (input.artifacts.map (·.path))
  single : (input.artifacts.map (·.path)).Nodup
  observed : input.artifacts.map (·.path) = input.validation.artifacts.map (·.path)
  each : ∀ artifact ∈ input.artifacts,
    AcceptedArtifact script input.validation.artifacts artifact

theorem validateRequest_ok : validateRequest script options input = .ok () ↔
    AcceptedFields options input ∧ AcceptedArtifacts script input := by
  simp only [validateRequest, bind_ok, require_ok, exists_const, checkArtifacts_ok]
  constructor
  · rintro ⟨shape, ⟨repository, baseBranch, target, effectKind⟩, ⟨runId, baseSha⟩,
      ⟨reservation, idempotencyKey⟩, fingerprints,
      ⟨validatedRun, validatedCandidate, validatedSet, validatedReceipt⟩,
      ⟨titled, titleLength, summarized, summaryLength⟩, evidence, steps, ⟨filled, most, sameCount⟩,
      single, ordered, _, ⟨each, _, _, _⟩, _, observed⟩
    simp only [hasRuntimeRequestShape, Bool.and_eq_true, Option.isNone_iff_eq_none] at shape
    rw [← observed] at single ordered
    exact ⟨⟨shape.1.1.1.1.1, repository, baseBranch, target, effectKind, runId, baseSha,
      reservation, idempotencyKey, fingerprints, validatedRun, validatedCandidate, validatedSet,
      validatedReceipt, ⟨titled, titleLength⟩, ⟨summarized, summaryLength⟩, evidence, steps⟩,
      ⟨⟨filled, most⟩, ordered, single, observed, each⟩⟩
  · rintro ⟨fields, artifacts⟩
    have counts : input.validation.artifacts.length = input.artifacts.length := by
      have same := congrArg List.length artifacts.observed
      rwa [List.length_map, List.length_map, eq_comm] at same
    have shape : hasRuntimeRequestShape input = true := by
      simp only [hasRuntimeRequestShape, fields.unnumbered, Bool.and_eq_true, decide_eq_true_eq,
        counts]
      exact ⟨⟨⟨⟨⟨rfl, fields.evidence.2.1⟩, fields.steps.2.1⟩, fields.steps.2.2.2.1⟩,
        artifacts.count.2⟩, artifacts.count.2⟩
    refine ⟨shape, ⟨fields.repository, fields.baseBranch, fields.target, fields.effectKind⟩,
      ⟨fields.runId, fields.baseSha⟩, ⟨fields.reservation, fields.idempotencyKey⟩,
      fields.fingerprints, ⟨fields.validatedRun, fields.validatedCandidate, fields.validatedSet,
      fields.validatedReceipt⟩, ⟨fields.title.1, fields.title.2, fields.summary.1,
      fields.summary.2⟩, fields.evidence, fields.steps, ⟨artifacts.count.1, artifacts.count.2,
      counts⟩, ?_, ?_, _, ⟨artifacts.each, artifacts.single, by simp, rfl⟩, ?_, artifacts.observed⟩
    · rw [← artifacts.observed]
      exact artifacts.single
    · rw [← artifacts.observed]
      exact artifacts.ordered
    · simp [counts]

end Accepted

end LineageGuard.Github
