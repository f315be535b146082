import LineageGuard.Domain.CandidateIdentity
import LineageGuard.Domain.ShortTexts
import LineageGuard.Github.Validation
import Mathlib.Tactic

/-
This file proves which accepted candidates the live GitHub port accepts in a review request.
-/

namespace LineageGuard.Github

open Domain Attempt

section Requests

/-- These members of a request do not come from the candidate. -/
structure ReviewDetails where
  effectReservationId : String
  runId : String
  idempotencyKey : String
  intentFingerprint : String
  inputFingerprint : String
  baseSha : String
  candidateFingerprint : String
  artifactSetFingerprint : String
  validationReceiptFingerprint : String
  approvalFingerprint : String
  title : String
  body : GitHubReviewBody
  baseBlobSha : String → String

variable (script : Script) (options : LiveGitHubOptions) (details : ReviewDetails)

def reviewOperation : MigrationArtifact → GitHubArtifactOperation
  | ⟨.dbtModel _, path, _⟩ => .modify (details.baseBlobSha path)
  | _ => .create

def reviewArtifact (artifact : MigrationArtifact) : GitHubArtifact :=
  ⟨artifact.path, JsText.ofString artifact.content, migrationArtifactFingerprint script artifact,
    reviewOperation details artifact⟩

/-- The validation has seen the exact bytes of the artifact. -/
def materializedArtifact (artifact : MigrationArtifact) : ValidatedArtifactBinding :=
  ⟨artifact.path, migrationArtifactFingerprint script artifact,
    sha256Bytes script (JsText.ofString artifact.content)⟩

def reviewRequest (prNumber : Option ℤ) (candidate : Domain.MigrationCandidate) :
    GitHubReviewRequest where
  effectReservationId := details.effectReservationId
  runId := details.runId
  effectKind := "GITHUB_WRITE"
  target := expectedTarget options details.baseSha
  idempotencyKey := details.idempotencyKey
  intentFingerprint := details.intentFingerprint
  inputFingerprint := details.inputFingerprint
  repository := expectedRepository options
  baseBranch := options.baseBranch
  baseSha := details.baseSha
  candidateFingerprint := details.candidateFingerprint
  sourcePrNumber := prNumber
  artifactSetFingerprint := details.artifactSetFingerprint
  validationReceiptFingerprint := details.validationReceiptFingerprint
  approvalFingerprint := details.approvalFingerprint
  validation := ⟨details.runId, details.candidateFingerprint, details.artifactSetFingerprint,
    details.validationReceiptFingerprint, candidate.artifacts.map (materializedArtifact script)⟩
  artifacts := candidate.artifacts.map (reviewArtifact script details)
  title := details.title
  body := details.body

/-- The identifiers and the texts are well formed. -/
structure ReviewDetails.WellFormed (details : ReviewDetails) : Prop where
  runId : isPrefixedId "run_" details.runId = true
  baseSha : isGitSha details.baseSha = true
  reservation : isOpaqueReservation details.effectReservationId = true
  idempotencyKey : isIdempotencyKey details.idempotencyKey = true
  fingerprints : [details.inputFingerprint, details.intentFingerprint,
    details.candidateFingerprint, details.artifactSetFingerprint,
    details.validationReceiptFingerprint, details.approvalFingerprint].all isFingerprint = true
  title : isBlank details.title = false ∧ utf16Length details.title ≤ 160
  summary : isBlank details.body.summary = false ∧ utf16Length details.body.summary ≤ 2000
  evidence : 1 ≤ details.body.reasonEvidenceIds.length ∧
    details.body.reasonEvidenceIds.length ≤ 200 ∧
    details.body.reasonEvidenceIds.all (isPrefixedId "ev_") = true ∧
    details.body.reasonEvidenceIds.Nodup
  steps : 1 ≤ details.body.rolloutSteps.length ∧ details.body.rolloutSteps.length ≤ 20 ∧
    1 ≤ details.body.rollbackSteps.length ∧ details.body.rollbackSteps.length ≤ 20 ∧
    ((details.body.rolloutSteps ++ details.body.rollbackSteps).all fun step =>
      !isBlank step && decide (utf16Length step ≤ 1000)) = true
  blobs : ∀ path, isGitSha (details.baseBlobSha path) = true

/-- The port knows the folders of the models and of the tests without their project, and the ends
of a rollback path in lower case. -/
def KnownPath (artifact : MigrationArtifact) : Prop :=
  match artifact.kind with
  | .sqlMigration | .migrationDocument => True
  | .rollbackSql => "walkthrough/migrations/".toList <+: artifact.path.toList ∧
      ".sql".toList <:+ artifact.path.toList
  | .dbtModel _ => "walkthrough/models/".toList <+: artifact.path.toList
  | .dbtTest => "walkthrough/tests/".toList <+: artifact.path.toList

end Requests

section Paths

/-- Two beginnings of one text agree. -/
theorem prefix_apart {first second path : List Char} (isFirst : first <+: path)
    (isSecond : second <+: path) (apart : ¬ first <+: second ∧ ¬ second <+: first) : False := by
  rcases List.prefix_or_prefix_of_prefix isFirst isSecond with before | after
  · exact apart.1 before
  · exact apart.2 after

theorem isBetween_begins {start close : String} {allowed : Char → Bool} {path : List Char}
    (between : isBetween start close allowed path = true) : start.toList <+: path := by
  obtain ⟨middle, _, _, rfl⟩ := isBetween_iff.mp between
  rw [List.append_assoc]
  exact List.prefix_append _ _

theorem isBetween_suffix {start close : String} {allowed : Char → Bool} {path : List Char}
    (between : isBetween start close allowed path = true) : close.toList <:+ path := by
  obtain ⟨middle, _, _, rfl⟩ := isBetween_iff.mp between
  exact List.suffix_append _ _

theorem isNameChar_lower {char : Char} (named : isNameChar char.toLower = true) :
    isNameChar char = true := by
  by_cases upper : char.isUpper = true
  · have letter : char.isAlpha = true := by
      delta Char.isAlpha
      rw [upper, Bool.true_or]
    rw [isNameChar, Char.isAlphanum, letter, Bool.true_or, Bool.true_or]
  · have same : char.toLower = char := by
      delta Char.toLower
      rw [dif_neg]
      exact fun bounds => upper (decide_eq_true bounds)
    rwa [same] at named

/-- A path whose lower case is of a form is of the form when its ends are in lower case. -/
theorem isBetween_lower {start close : String} {path : List Char}
    (between : isBetween start close isNameChar (lower path) = true)
    (starts : start.toList <+: path) (closes : close.toList <:+ path) :
    isBetween start close isNameChar path = true := by
  obtain ⟨middle, filled, within, isLower⟩ := isBetween_iff.mp between
  obtain ⟨rest, rfl⟩ := starts
  have lengths := congrArg List.length isLower
  simp only [lower, List.length_map, List.length_append] at lengths
  have positive := List.length_pos_of_ne_nil filled
  have inside : close.toList <:+ rest :=
    List.suffix_of_suffix_length_le closes (List.suffix_append _ _) (by omega)
  obtain ⟨own, rfl⟩ := inside
  rw [List.length_append] at lengths
  simp only [lower, List.map_append, List.append_assoc] at isLower
  have tails := (List.append_inj isLower (by simp)).2
  have middles := (List.append_inj tails (by simp; omega)).1
  apply isBetween_iff.mpr
  refine ⟨own, ?_, ?_, (List.append_assoc _ _ _).symm⟩
  · rintro rfl
    exact filled (middles.symm.trans rfl)
  · intro char present
    apply isNameChar_lower
    apply within
    rw [← middles]
    exact List.mem_map_of_mem present

/-- The folders of the port are apart from one another and from the project folders. -/
def portFolders : List String :=
  ["walkthrough/migrations/", "walkthrough/models/", "walkthrough/tests/", "docs/migrations/",
    "walkthrough/dbt/models/", "walkthrough/dbt/tests/"]

/-- A path lies in one of the folders at most. -/
theorem folder_unique {first second : String} (isFirst : first ∈ portFolders)
    (isSecond : second ∈ portFolders) {path : List Char} (inFirst : first.toList <+: path)
    (inSecond : second.toList <+: path) : first = second := by
  by_contra different
  have symmetric : ∀ first ∈ portFolders, ∀ second ∈ portFolders, first ≠ second →
      ¬ first.toList <+: second.toList ∧ ¬ second.toList <+: first.toList := by
    decide
  exact prefix_apart inFirst inSecond (symmetric first isFirst second isSecond different)

/-- The port accepts a path of the schema exactly when it knows its folder. -/
theorem safePath_known {artifact : MigrationArtifact} {place : List PathItem}
    (accepted : artifactPathIssues (isPathOfKind artifact.kind) artifact.path place = []) :
    safePath artifact.path = true ↔ KnownPath artifact := by
  simp only [artifactPathIssues, List.append_eq_nil_iff, issueUnless_nil, lengthIssues_nil]
    at accepted
  obtain ⟨⟨⟨⟨least, most⟩, relative⟩, normalized⟩, matched⟩ := accepted
  simp only [safePath, least, most, relative, normalized, decide_true, Bool.true_and,
    Bool.or_eq_true]
  obtain ⟨kind, path, content⟩ := artifact
  have folder : ∀ {first second : String} {close : String} {allowed : Char → Bool},
      first ∈ portFolders → second ∈ portFolders → first.toList <+: path.toList →
      isBetween second close allowed path.toList = true → first = second :=
    fun isFirst isSecond inFirst between =>
      folder_unique isFirst isSecond inFirst (isBetween_begins between)
  have migrations : "walkthrough/migrations/" ∈ portFolders := by decide
  have models : "walkthrough/models/" ∈ portFolders := by decide
  have tests : "walkthrough/tests/" ∈ portFolders := by decide
  have documents : "docs/migrations/" ∈ portFolders := by decide
  have dbtModels : "walkthrough/dbt/models/" ∈ portFolders := by decide
  have dbtTests : "walkthrough/dbt/tests/" ∈ portFolders := by decide
  cases kind with
  | sqlMigration =>
      simp only [isPathOfKind, isSqlMigrationPath, Bool.and_eq_true] at matched
      exact iff_of_true (Or.inl (Or.inl (Or.inl matched.1))) trivial
  | rollbackSql =>
      simp only [isPathOfKind, isRollbackPath, Bool.and_eq_true] at matched
      constructor
      · have same : ∀ {start : List Char}, start <+: path.toList → lower start = start →
            start <+: lower path.toList := by
          rintro start ⟨rest, isPath⟩ isLower
          rw [← isPath, lower, List.map_append, ← lower, isLower]
          exact List.prefix_append _ _
        have inside := isBetween_begins matched.1
        rintro (((isMigration | isModel) | isTest) | isDocument)
        · exact ⟨isBetween_begins isMigration, isBetween_suffix isMigration⟩
        · have lowered := same (isBetween_begins isModel) (by decide)
          exact absurd (folder_unique migrations models inside lowered) (by decide)
        · have lowered := same (isBetween_begins isTest) (by decide)
          exact absurd (folder_unique migrations tests inside lowered) (by decide)
        · have lowered := same (isBetween_begins isDocument) (by decide)
          exact absurd (folder_unique migrations documents inside lowered) (by decide)
      · rintro ⟨starts, closes⟩
        exact Or.inl (Or.inl (Or.inl (isBetween_lower matched.1 starts closes)))
  | dbtModel expectedBaseSha =>
      have written : isBetween "walkthrough/models/" ".sql" isPathChar path.toList = true ∨
          isBetween "walkthrough/dbt/models/" ".sql" isPathChar path.toList = true := by
        simpa [isPathOfKind, isDbtPath] using matched
      constructor
      · intro patterns
        rcases written with plain | inProject
        · exact isBetween_begins plain
        · have inside := isBetween_begins inProject
          rcases patterns with ((isMigration | isModel) | isTest) | isDocument
          · exact absurd (folder dbtModels migrations inside isMigration) (by decide)
          · exact absurd (folder dbtModels models inside isModel) (by decide)
          · exact absurd (folder dbtModels tests inside isTest) (by decide)
          · exact absurd (folder dbtModels documents inside isDocument) (by decide)
      · intro starts
        rcases written with plain | inProject
        · exact Or.inl (Or.inl (Or.inr plain))
        · exact absurd (folder models dbtModels starts inProject) (by decide)
  | dbtTest =>
      have written : isBetween "walkthrough/tests/" ".sql" isPathChar path.toList = true ∨
          isBetween "walkthrough/dbt/tests/" ".sql" isPathChar path.toList = true := by
        simpa [isPathOfKind, isDbtPath] using matched
      constructor
      · intro patterns
        rcases written with plain | inProject
        · exact isBetween_begins plain
        · have inside := isBetween_begins inProject
          rcases patterns with ((isMigration | isModel) | isTest) | isDocument
          · exact absurd (folder dbtTests migrations inside isMigration) (by decide)
          · exact absurd (folder dbtTests models inside isModel) (by decide)
          · exact absurd (folder dbtTests tests inside isTest) (by decide)
          · exact absurd (folder dbtTests documents inside isDocument) (by decide)
      · intro starts
        rcases written with plain | inProject
        · exact Or.inl (Or.inr plain)
        · exact absurd (folder tests dbtTests starts inProject) (by decide)
  | migrationDocument => exact iff_of_true (Or.inr matched) trivial

end Paths

section Agreement

variable {script : Script} {options : LiveGitHubOptions} {details : ReviewDetails}
variable {candidate : Domain.MigrationCandidate}

theorem ofString_length (text : String) : (JsText.ofString text).length = utf16Length text := by
  rw [JsText.length, JsText.ofString, List.map_map]
  rfl

/-- The artifacts of an accepted candidate are accepted one by one. -/
structure AcceptedCandidate (candidate : Domain.MigrationCandidate) : Prop where
  count : 5 ≤ candidate.artifacts.length ∧ candidate.artifacts.length ≤ 20
  single : (candidate.artifacts.map (·.path)).Nodup
  ordered : candidate.artifacts.map (·.path) = sorted (candidate.artifacts.map (·.path))
  each : ∀ artifact ∈ candidate.artifacts, ∃ place, artifact.issues place = []

theorem candidate_artifacts (accepted : migrationCandidateIssues candidate = []) :
    AcceptedCandidate candidate := by
  rw [migrationCandidateIssues, List.append_eq_nil_iff] at accepted
  obtain ⟨shape, refinement⟩ := accepted
  simp only [Domain.MigrationCandidate.shapeIssues, List.append_eq_nil_iff, and_assoc] at shape
  simp only [Domain.MigrationCandidate.refinementIssues, List.append_eq_nil_iff, issueUnless_nil,
    and_assoc] at refinement
  obtain ⟨_, _, _, _, _, _, _, _, each, count, _⟩ := shape
  obtain ⟨_, _, _, _, single, ordered, _⟩ := refinement
  exact ⟨countIssues_nil.mp count, single, ordered, eachIssues_nil each⟩

theorem observationAt_unique {observations : List ValidatedArtifactBinding}
    (single : (observations.map (·.path)).Nodup) {observation : ValidatedArtifactBinding}
    (present : observation ∈ observations) :
    observationAt observations observation.path = some observation := by
  cases found : observationAt observations observation.path with
  | none =>
      have absent := List.find?_eq_none.mp found observation (List.mem_reverse.mpr present)
      simp at absent
  | some other =>
      have same : other.path = observation.path := by simpa using List.find?_some found
      have isOther := List.mem_reverse.mp (List.mem_of_find?_eq_some found)
      rw [List.inj_on_of_nodup_map single isOther present same]

/-- The port refuses a number, an unknown folder and a content of more bytes than characters. -/
def Admitted (prNumber : Option ℤ) (candidate : Domain.MigrationCandidate) : Prop :=
  prNumber = none ∧ ∀ artifact ∈ candidate.artifacts, KnownPath artifact ∧
    (JsText.ofString artifact.content).byteLength ≤ 100000

theorem reviewArtifact_accepted (wellFormed : details.WellFormed)
    (single : (candidate.artifacts.map (·.path)).Nodup) {artifact : MigrationArtifact}
    (present : artifact ∈ candidate.artifacts) {place : List PathItem}
    (accepted : artifact.issues place = []) :
    AcceptedArtifact script (candidate.artifacts.map (materializedArtifact script))
      (reviewArtifact script details artifact) ↔
        KnownPath artifact ∧ (JsText.ofString artifact.content).byteLength ≤ 100000 := by
  simp only [MigrationArtifact.issues, List.append_eq_nil_iff, lengthIssues_nil] at accepted
  have known := safePath_known accepted.2
  have observed : observationAt (candidate.artifacts.map (materializedArtifact script))
      artifact.path = some (materializedArtifact script artifact) := by
    have materialized := List.mem_map_of_mem (f := materializedArtifact script) present
    exact observationAt_unique (by rwa [List.map_map]) materialized
  have operation : operationAccepted (reviewOperation details artifact) = true := by
    obtain ⟨kind, path, content⟩ := artifact
    cases kind with
    | dbtModel expectedBaseSha => exact wellFormed.blobs path
    | _ => rfl
  constructor
  · intro ported
    exact ⟨known.mp ported.path, ported.bounded⟩
  · rintro ⟨isKnown, bounded⟩
    refine ⟨known.mpr isKnown, ?_, bounded, digest_fingerprint script _, operation,
      materializedArtifact script artifact, observed, rfl, rfl⟩
    show 1 ≤ (JsText.ofString artifact.content).length
    rw [ofString_length]
    exact accepted.1.2.1

/-- The two packages name the branch in the same way. -/
theorem deterministicHead_agrees {fingerprint : String} (digits : isFingerprint fingerprint = true)
    {prNumber : Option ℤ} (positive : ∀ number ∈ prNumber, 0 < number) :
    ∃ name, deterministicHead fingerprint prNumber = .ok name ∧
      generatedBranchName fingerprint prNumber = .ok name := by
  cases prNumber with
  | none =>
      refine ⟨"lineageguard/generated/" ++ fingerprintPrefix fingerprint 12, ?_, ?_⟩
      · simp only [deterministicHead, require, if_pos digits]
        rfl
      · simp only [generatedBranchName, require, if_pos digits]
        rfl
  | some number =>
      have counted := positive number rfl
      refine ⟨"lineageguard/generated/pr-" ++ number.repr ++ "-" ++
        fingerprintPrefix fingerprint 12, ?_, ?_⟩
      · simp only [deterministicHead, require, if_pos digits, if_pos counted]
        rfl
      · simp only [generatedBranchName, require, if_pos digits, if_pos counted]
        rfl

/-- The request of an accepted candidate is accepted and names the branch of the domain exactly
when the candidate is admitted. -/
theorem candidate_request_agrees (script : Script) (options : LiveGitHubOptions)
    (details : ReviewDetails) (wellFormed : details.WellFormed)
    (candidate : Domain.MigrationCandidate)
    (accepted : migrationCandidateIssues candidate = []) (prNumber : Option ℤ)
    (positive : ∀ number ∈ prNumber, 0 < number) :
    (validateRequest script options (reviewRequest script options details prNumber candidate) =
        .ok () ∧
      ∃ name, deterministicHead details.candidateFingerprint prNumber = .ok name ∧
        generatedBranchName details.candidateFingerprint prNumber = .ok name) ↔
      Admitted prNumber candidate := by
  have artifacts := candidate_artifacts accepted
  have digits : isFingerprint details.candidateFingerprint = true :=
    List.all_eq_true.mp wellFormed.fingerprints _ (by simp)
  have head := deterministicHead_agrees digits positive
  have paths : ((reviewRequest script options details prNumber candidate).artifacts.map
      (·.path)) = candidate.artifacts.map (·.path) := by
    simp only [reviewRequest, List.map_map]
    rfl
  rw [validateRequest_ok]
  constructor
  · rintro ⟨⟨fields, ported⟩, _⟩
    refine ⟨fields.unnumbered, fun artifact present => ?_⟩
    obtain ⟨place, checked⟩ := artifacts.each artifact present
    exact (reviewArtifact_accepted wellFormed artifacts.single present checked).mp
      (ported.each _ (List.mem_map_of_mem present))
  · rintro ⟨unnumbered, admitted⟩
    refine ⟨⟨⟨unnumbered, rfl, rfl, rfl, rfl, wellFormed.runId, wellFormed.baseSha,
      wellFormed.reservation, wellFormed.idempotencyKey, wellFormed.fingerprints, rfl, rfl, rfl, rfl,
      wellFormed.title, wellFormed.summary, wellFormed.evidence, wellFormed.steps⟩, ?_⟩, head⟩
    refine ⟨?_, ?_, ?_, ?_, ?_⟩
    · simp only [reviewRequest, List.length_map]
      exact ⟨le_trans (by decide) artifacts.count.1, artifacts.count.2⟩
    · rw [paths]
      exact artifacts.ordered
    · rw [paths]
      exact artifacts.single
    · simp only [reviewRequest, List.map_map]
      rfl
    · intro ported present
      obtain ⟨artifact, isArtifact, rfl⟩ := List.mem_map.mp present
      obtain ⟨place, checked⟩ := artifacts.each artifact isArtifact
      exact (reviewArtifact_accepted wellFormed artifacts.single isArtifact checked).mpr
        (admitted artifact isArtifact)

end Agreement

section Samples

def sampleSha : String := "0000000000000000000000000000000000000000"

def sampleEvidenceId : String := "ev_000000000000000000000000"

/-- The canonical candidate keeps its model in the folder of the project. -/
def sampleModelPath (inProject : Bool) : String :=
  if inProject then "walkthrough/dbt/models/a.sql" else "walkthrough/models/a.sql"

def sampleModel (inProject : Bool) : MigrationArtifact :=
  ⟨.dbtModel sampleSha, sampleModelPath inProject, "m"⟩

def sampleMigrations : List MigrationArtifact :=
  [⟨.sqlMigration, "walkthrough/migrations/a.sql", "u"⟩,
    ⟨.rollbackSql, "walkthrough/migrations/rollback.sql", "v"⟩]

def sampleArtifacts (inProject : Bool) : List MigrationArtifact :=
  [⟨.migrationDocument, "docs/migrations/a.md", "d"⟩] ++
    (if inProject then sampleModel true :: sampleMigrations
      else sampleMigrations ++ [sampleModel false]) ++
    [⟨.dbtTest, "walkthrough/tests/a.sql", "t"⟩]

def sampleCandidate (inProject : Bool) : Domain.MigrationCandidate where
  sourceChangeFingerprint := hexText 0
  sourcePatchFingerprint := hexText 0
  sourceImpactContextFingerprint := hexText 0
  sourceEvidenceIds := [sampleEvidenceId]
  summary := "s"
  steps := [
    ⟨"step_a", .expand, "t", "r", [sampleEvidenceId],
      ["walkthrough/migrations/a.sql", "walkthrough/migrations/rollback.sql"]⟩,
    ⟨"step_b", .migrate, "t", "r", [sampleEvidenceId],
      [sampleModelPath inProject, "walkthrough/tests/a.sql"]⟩,
    ⟨"step_c", .contract, "t", "r", [sampleEvidenceId], ["docs/migrations/a.md"]⟩]
  artifacts := sampleArtifacts inProject
  requiredReviewers := [.owner "urn:li:a" ["urn:li:a"] "r"]
  compatibilityWindowDays := 1
  rollbackPlan := "p"

theorem sampleSha_accepted : isGitSha sampleSha = true := by decide

/-- The paths of the samples are accepted for their kinds. -/
theorem samplePaths_located {sha : String} : ∀ artifact ∈ ([⟨.migrationDocument, "docs/migrations/a.md", "d"⟩,
      ⟨.sqlMigration, "walkthrough/migrations/a.sql", "u"⟩,
      ⟨.rollbackSql, "walkthrough/migrations/rollback.sql", "v"⟩,
      ⟨.dbtModel sha, "walkthrough/dbt/models/a.sql", "m"⟩,
      ⟨.dbtModel sha, "walkthrough/models/a.sql", "m"⟩,
      ⟨.dbtTest, "walkthrough/tests/a.sql", "t"⟩] : List MigrationArtifact), ∀ place,
    artifactPathIssues (isPathOfKind artifact.kind) artifact.path place = [] := by
  have folder : "walkthrough/migrations/".toList = _ := String.toList_ofList
  have close : ".sql".toList = _ := String.toList_ofList
  have word : "rollback".toList = _ := String.toList_ofList
  have document : isMigrationDocumentPath "docs/migrations/a.md" = true := by
    rw [isMigrationDocumentPath, String.toList_ofList]
    exact @literal_between _ _ ['a'] _ (by decide) (by decide)
  have expand : isSqlMigrationPath "walkthrough/migrations/a.sql" = true := by
    have path : "walkthrough/migrations/a.sql".toList = _ := String.toList_ofList
    simp only [isSqlMigrationPath, isBetween, mentionsRollback, folder, close, word, path]
    decide
  have rollback : isRollbackPath "walkthrough/migrations/rollback.sql" = true := by
    have path : "walkthrough/migrations/rollback.sql".toList = _ := String.toList_ofList
    simp only [isRollbackPath, isBetween, mentionsRollback, lower, folder, close, word, path]
    decide
  have models := @dbtPath_matched ['m', 'o', 'd', 'e', 'l', 's'] ['a'] (by decide) (by decide)
  have tests := @dbtPath_matched ['t', 'e', 's', 't', 's'] ['a'] (by decide) (by decide)
  simp only [List.forall_mem_cons, List.not_mem_nil, false_implies, implies_true, and_true]
  refine ⟨?_, ?_, ?_, ?_, ?_, ?_⟩
  · exact literalPath_accepted (by decide) (by decide) (by decide) document
  · exact literalPath_accepted (by decide) (by decide) (by decide) expand
  · exact literalPath_accepted (by decide) (by decide) (by decide) rollback
  · exact literalPath_accepted (by decide) (by decide) (by decide) (models true)
  · exact literalPath_accepted (by decide) (by decide) (by decide) (models false)
  · exact literalPath_accepted (by decide) (by decide) (by decide) (tests false)

/-- A step of the samples is accepted when its evidence and its targets are. -/
theorem sampleStep_accepted (letter : Char) (phase : MigrationPhase) {ids targets : List String}
    (named : letter.isLower = true) (cited : ∀ id ∈ ids, isPrefixedId "ev_" id = true)
    (evidence : 1 ≤ ids.length ∧ ids.length ≤ 200)
    (located : ∀ target ∈ targets, ∃ kind, artifactPathIssues (isPathOfKind kind) target [] = [])
    (count : 1 ≤ targets.length ∧ targets.length ≤ 20) (place : List PathItem) :
    MigrationStep.issues ⟨String.ofList ['s', 't', 'e', 'p', '_', letter], phase, "t", "r", ids,
      targets⟩ place = [] := by
  apply step_accepted
  · have start : "step_".toList = ['s', 't', 'e', 'p', '_'] := String.toList_ofList
    simp [isStepId, start, named]
  · exact lengthIssues_ofList (by decide)
  · exact lengthIssues_ofList (by decide)
  · exact cited
  · exact evidence
  · intro target present
    obtain ⟨kind, accepted⟩ := located target present
    exact isArtifactPath_of accepted
  · exact count

theorem sampleEvidenceId_prefixed : ∀ id ∈ [sampleEvidenceId], isPrefixedId "ev_" id = true := by
  intro id present
  rw [List.mem_singleton.mp present]
  exact @literalId_prefixed ['e', 'v', '_'] _ rfl (by decide)

theorem sampleSteps_accepted (inProject : Bool) :
    ∀ step ∈ (sampleCandidate inProject).steps, ∀ place, step.issues place = [] := by
  have paths := @samplePaths_located sampleSha
  simp only [List.forall_mem_cons, List.not_mem_nil, false_implies, implies_true,
    and_true] at paths
  obtain ⟨document, expand, rollback, project, model, test⟩ := paths
  simp only [sampleCandidate, List.forall_mem_cons, List.not_mem_nil, false_implies,
    implies_true, and_true]
  refine ⟨sampleStep_accepted 'a' .expand (by decide) sampleEvidenceId_prefixed (by decide) ?_
      (by decide),
    sampleStep_accepted 'b' .migrate (by decide) sampleEvidenceId_prefixed (by decide) ?_
      ⟨le_add_self, by simp⟩,
    sampleStep_accepted 'c' .contract (by decide) sampleEvidenceId_prefixed (by decide) ?_
      (by decide)⟩
  · simp only [List.forall_mem_cons, List.not_mem_nil, false_implies, implies_true, and_true]
    exact ⟨⟨_, expand []⟩, ⟨_, rollback []⟩⟩
  · simp only [List.forall_mem_cons, List.not_mem_nil, false_implies, implies_true, and_true]
    refine ⟨?_, ⟨_, test []⟩⟩
    cases inProject with
    | false => exact ⟨_, model []⟩
    | true => exact ⟨_, project []⟩
  · simp only [List.forall_mem_cons, List.not_mem_nil, false_implies, implies_true, and_true]
    exact ⟨_, document []⟩

theorem sampleArtifacts_accepted (inProject : Bool) :
    ∀ artifact ∈ (sampleCandidate inProject).artifacts, ∀ place, artifact.issues place = [] := by
  have paths := @samplePaths_located sampleSha
  simp only [List.forall_mem_cons, List.not_mem_nil, false_implies, implies_true,
    and_true] at paths
  obtain ⟨document, expand, rollback, project, model, test⟩ := paths
  have modified : ∀ sha, ArtifactKind.dbtModel sampleSha = .dbtModel sha → isGitSha sha = true := by
    intro sha same
    rw [← ArtifactKind.dbtModel.inj same]
    exact sampleSha_accepted
  have listed : ∀ artifact ∈ sampleModel inProject ::
      (sampleMigrations ++ [⟨.migrationDocument, "docs/migrations/a.md", "d"⟩,
        ⟨.dbtTest, "walkthrough/tests/a.sql", "t"⟩]), ∀ place, artifact.issues place = [] := by
    simp only [sampleMigrations, List.cons_append, List.nil_append, List.forall_mem_cons,
      List.not_mem_nil, false_implies, implies_true, and_true]
    refine ⟨?_, artifact_accepted (by simp) (letter_short (by decide) (by decide)) expand,
      artifact_accepted (by simp) (letter_short (by decide) (by decide)) rollback,
      artifact_accepted (by simp) (letter_short (by decide) (by decide)) document,
      artifact_accepted (by simp) (letter_short (by decide) (by decide)) test⟩
    cases inProject with
    | false => exact artifact_accepted modified (letter_short (by decide) (by decide)) model
    | true => exact artifact_accepted modified (letter_short (by decide) (by decide)) project
  intro artifact present
  apply listed
  cases inProject <;> simp [sampleCandidate, sampleArtifacts] at present ⊢ <;> tauto

theorem sampleCandidate_shaped (inProject : Bool) :
    (sampleCandidate inProject).shapeIssues = [] := by
  have digest : isFingerprint (hexText 0) = true :=
    isFingerprint_of (hexText_length 0) (hexText_chars 0)
  have urn : ∀ path, urnIssues "urn:li:a" path = [] := fun path =>
    urnIssues_ofList path (by decide) (by decide) (by decide)
  apply @candidate_shaped (sampleCandidate inProject) digest digest digest sampleEvidenceId_prefixed
  · simp [sampleCandidate]
  · exact letter_short (by decide) (by decide)
  · exact sampleSteps_accepted inProject
  · simp [sampleCandidate]
  · exact sampleArtifacts_accepted inProject
  · cases inProject <;> decide
  · simp only [sampleCandidate, List.forall_mem_cons, List.not_mem_nil, false_implies,
      implies_true, and_true, MigrationReviewer.issues, List.append_eq_nil_iff]
    intro place
    exact ⟨⟨urn _, urnListIssues_of _ (by simpa using urn) (by decide)⟩,
      letter_short (by decide) (by decide) _⟩
  · simp [sampleCandidate]
  · exact ⟨le_rfl, by simp [sampleCandidate]⟩
  · exact letter_short (by decide) (by decide)

theorem sampleCandidate_refined (inProject : Bool) :
    (sampleCandidate inProject).refinementIssues = [] := by
  have single : canonicalIds [sampleEvidenceId] := ⟨List.nodup_singleton _, rfl⟩
  have paths : canonicalIds ((sampleCandidate inProject).artifacts.map (·.path)) := by
    cases inProject with
    | false => exact listed_canonical [_, _, _, _, _] (by decide) (by decide)
    | true => exact listed_canonical [_, _, _, _, _] (by decide) (by decide)
  have targets : ∀ step ∈ (sampleCandidate inProject).steps, canonicalIds step.artifactTargets := by
    simp only [sampleCandidate, List.forall_mem_cons, List.not_mem_nil, false_implies,
      implies_true, and_true]
    refine ⟨listed_canonical [_, _] (by decide) (by decide), ?_, listed_canonical [_] (by decide) (by decide)⟩
    cases inProject with
    | false => exact listed_canonical [_, _] (by decide) (by decide)
    | true => exact listed_canonical [_, _] (by decide) (by decide)
  simp only [MigrationCandidate.refinementIssues, List.append_eq_nil_iff, issueUnless_nil,
    and_assoc]
  refine ⟨rfl, single, ?_, ?_, paths.1, paths.2, ⟨List.nodup_singleton _, rfl⟩, ?_, ?_, ?_, ?_, ?_,
    ?_, ?_⟩
  · simp [usedEvidence, sampleCandidate]
  · apply eachIssues_of
    intro step present place
    rw [stepOrderIssues, List.append_eq_nil_iff, issueUnless_nil, issueUnless_nil]
    refine ⟨?_, (targets step present).2⟩
    simp only [sampleCandidate, List.mem_cons, List.not_mem_nil, or_false] at present
    rcases present with rfl | rfl | rfl <;> exact single
  · cases inProject <;> simp [countWord, sampleCandidate, sampleArtifacts, sampleMigrations, sampleModel, ArtifactKind.word]
  · cases inProject <;> simp [countWord, sampleCandidate, sampleArtifacts, sampleMigrations, sampleModel, ArtifactKind.word]
  · cases inProject <;> simp [countWord, sampleCandidate, sampleArtifacts, sampleMigrations, sampleModel, ArtifactKind.word]
  · cases inProject <;> simp [countWord, sampleCandidate, sampleArtifacts, sampleMigrations, sampleModel, ArtifactKind.word]
  · cases inProject <;> simp [countWord, sampleCandidate, sampleArtifacts, sampleMigrations, sampleModel, ArtifactKind.word]
  · apply eachIssues_of
    simp only [sampleCandidate, List.forall_mem_cons, List.not_mem_nil, false_implies,
      implies_true, and_true, targetIssues, List.flatMap_eq_nil_iff]
    cases inProject <;> simp [sampleArtifacts, sampleMigrations, sampleModel, sampleModelPath, artifactAt, phaseKinds, issueUnless]
  · rw [List.flatMap_eq_nil_iff]
    cases inProject <;> simp [references, sampleCandidate, sampleArtifacts, sampleMigrations, sampleModel, sampleModelPath, issueUnless]

theorem sampleCandidate_accepted (inProject : Bool) :
    migrationCandidateIssues (sampleCandidate inProject) = [] := by
  rw [migrationCandidateIssues, sampleCandidate_shaped, sampleCandidate_refined, List.append_nil]

def sampleDetails : ReviewDetails where
  effectReservationId := "rrrrrrrrrrrrrrrrrrrrrrrrrrrrrrrr"
  runId := "run_000000000000000000000000"
  idempotencyKey := "kkkkkkkkkkkkkkkk"
  intentFingerprint := hexText 0
  inputFingerprint := hexText 0
  baseSha := sampleSha
  candidateFingerprint := hexText 0
  artifactSetFingerprint := hexText 0
  validationReceiptFingerprint := hexText 0
  approvalFingerprint := hexText 0
  title := "t"
  body := ⟨"s", [sampleEvidenceId], ["o"], ["b"]⟩
  baseBlobSha := fun _ => sampleSha

theorem sampleDetails_fingerprints : [sampleDetails.inputFingerprint,
    sampleDetails.intentFingerprint, sampleDetails.candidateFingerprint,
    sampleDetails.artifactSetFingerprint, sampleDetails.validationReceiptFingerprint,
    sampleDetails.approvalFingerprint].all isFingerprint = true := by
  have digest : isFingerprint (hexText 0) = true :=
    isFingerprint_of (hexText_length 0) (hexText_chars 0)
  simp [sampleDetails, digest]

theorem sampleDetails_wellFormed : sampleDetails.WellFormed where
  runId := @literalId_prefixed ['r', 'u', 'n', '_'] _ rfl (by decide)
  baseSha := sampleSha_accepted
  reservation := by decide
  idempotencyKey := by decide
  fingerprints := sampleDetails_fingerprints
  title := by decide
  summary := by decide
  evidence := ⟨by decide, by decide, List.all_eq_true.mpr sampleEvidenceId_prefixed,
    List.nodup_singleton _⟩
  steps := by decide
  blobs := fun _ => sampleSha_accepted

def sampleScript : Script := Script.probe 0 []

def sampleOptions : LiveGitHubOptions := ⟨"o", "r", "main", 1⟩

theorem sampleCandidate_known (inProject : Bool) :
    Admitted none (sampleCandidate inProject) ↔ inProject = false := by
  cases inProject with
  | false =>
      refine iff_of_true ⟨rfl, fun artifact present => ?_⟩ rfl
      simp only [sampleCandidate, sampleArtifacts, sampleMigrations, Bool.false_eq_true, if_false,
        List.cons_append, List.nil_append, List.mem_cons, List.not_mem_nil, or_false] at present
      rcases present with rfl | rfl | rfl | rfl | rfl
      · exact ⟨trivial, by decide⟩
      · exact ⟨trivial, by decide⟩
      · exact ⟨⟨by decide, by decide⟩, by decide⟩
      · refine ⟨?_, by decide⟩
        show "walkthrough/models/".toList <+: "walkthrough/models/a.sql".toList
        decide
      · refine ⟨?_, by decide⟩
        show "walkthrough/tests/".toList <+: "walkthrough/tests/a.sql".toList
        decide
  | true =>
      refine iff_of_false (fun admitted => ?_) (by decide)
      have inFolder := (admitted.2 (sampleModel true) (by decide)).1
      have apart : ¬ "walkthrough/models/".toList <+: "walkthrough/dbt/models/a.sql".toList := by
        decide
      exact apart inFolder

/-- The model of the canonical candidate and the number of a source are refused. -/
theorem project_request_refused :
    migrationCandidateIssues (sampleCandidate true) = [] ∧ sampleDetails.WellFormed ∧
      validateRequest sampleScript sampleOptions
        (reviewRequest sampleScript sampleOptions sampleDetails none (sampleCandidate true)) ≠
          .ok () ∧
      migrationCandidateIssues (sampleCandidate false) = [] ∧
      validateRequest sampleScript sampleOptions
        (reviewRequest sampleScript sampleOptions sampleDetails (some 1) (sampleCandidate false)) ≠
          .ok () := by
  refine ⟨sampleCandidate_accepted true, sampleDetails_wellFormed, fun accepted => ?_,
    sampleCandidate_accepted false, fun accepted => ?_⟩
  · have ported := (validateRequest_ok.mp accepted).2.each
      (reviewArtifact sampleScript sampleDetails (sampleModel true))
      (List.mem_map_of_mem (by decide))
    have refused : safePath (sampleModelPath true) = false := by decide
    have path : safePath (sampleModelPath true) = true := ported.path
    rw [refused] at path
    exact Bool.false_ne_true path
  · have unnumbered := (validateRequest_ok.mp accepted).1.unnumbered
    exact Option.some_ne_none 1 unnumbered

theorem candidate_request_agrees_sample :
    validateRequest sampleScript sampleOptions
        (reviewRequest sampleScript sampleOptions sampleDetails none (sampleCandidate false)) =
      .ok () ∧
      ∃ name, deterministicHead sampleDetails.candidateFingerprint none = .ok name ∧
        generatedBranchName sampleDetails.candidateFingerprint none = .ok name :=
  (candidate_request_agrees sampleScript sampleOptions sampleDetails sampleDetails_wellFormed
    (sampleCandidate false) (sampleCandidate_accepted false) none (by simp)).mpr
    ((sampleCandidate_known false).mpr rfl)

end Samples

end LineageGuard.Github
