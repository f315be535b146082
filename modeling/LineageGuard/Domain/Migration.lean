import LineageGuard.Domain.Evidence
import Mathlib.Tactic

/-
This file translates the migration candidate schema and the fingerprint of a candidate.
-/

namespace LineageGuard.Domain

open Json

/-- Only a model is modified, and a modification names the commit that it expects. -/
inductive ArtifactKind
  | sqlMigration | rollbackSql | dbtModel (expectedBaseSha : String) | dbtTest
  | migrationDocument
  deriving DecidableEq

def ArtifactKind.word : ArtifactKind → String
  | .sqlMigration => "SQL_MIGRATION"
  | .rollbackSql => "ROLLBACK_SQL"
  | .dbtModel _ => "DBT_MODEL"
  | .dbtTest => "DBT_TEST"
  | .migrationDocument => "MIGRATION_DOCUMENT"

structure MigrationArtifact where
  kind : ArtifactKind
  path : String
  content : String
  deriving DecidableEq

inductive MigrationPhase
  | expand | migrate | contract
  deriving DecidableEq

def MigrationPhase.word : MigrationPhase → String
  | .expand => "EXPAND"
  | .migrate => "MIGRATE"
  | .contract => "CONTRACT"

inductive MigrationReviewer
  | owner (ownerUrn : String) (affectedAssetUrns : List String) (reason : String)
  | unresolvedOwner (evidenceId affectedAssetUrn reason : String)
  deriving DecidableEq

structure MigrationStep where
  id : String
  phase : MigrationPhase
  title : String
  rationale : String
  affectedEvidenceIds : List String
  artifactTargets : List String
  deriving DecidableEq

/-- The strategy and the source decision of a candidate are literals. -/
structure MigrationCandidate where
  sourceChangeFingerprint : String
  sourcePatchFingerprint : String
  sourceImpactContextFingerprint : String
  sourceEvidenceIds : List String
  summary : String
  steps : List MigrationStep
  artifacts : List MigrationArtifact
  requiredReviewers : List MigrationReviewer
  compatibilityWindowDays : ℤ
  rollbackPlan : String
  deriving DecidableEq

section Values

def ArtifactKind.members : ArtifactKind → List (String × Value)
  | .dbtModel expectedBaseSha =>
      [("operation", .string "MODIFY"), ("expectedBaseSha", .string expectedBaseSha)]
  | _ => [("operation", .string "CREATE")]

def MigrationArtifact.json (artifact : MigrationArtifact) : Value :=
  .object (artifact.kind.members ++ [("content", .string artifact.content),
    ("kind", .string artifact.kind.word), ("path", .string artifact.path)])

def MigrationReviewer.json : MigrationReviewer → Value
  | .owner ownerUrn affectedAssetUrns reason =>
      .object [("kind", .string "OWNER"), ("ownerUrn", .string ownerUrn),
        ("affectedAssetUrns", texts affectedAssetUrns), ("reason", .string reason)]
  | .unresolvedOwner evidenceId affectedAssetUrn reason =>
      .object [("kind", .string "UNRESOLVED_OWNER"), ("evidenceId", .string evidenceId),
        ("affectedAssetUrn", .string affectedAssetUrn),
        ("fallbackAuthority", .string "DATA_PLATFORM_OWNER"), ("reason", .string reason)]

def MigrationStep.json (step : MigrationStep) : Value :=
  .object [("id", .string step.id), ("phase", .string step.phase.word),
    ("title", .string step.title), ("rationale", .string step.rationale),
    ("affectedEvidenceIds", texts step.affectedEvidenceIds),
    ("artifactTargets", texts step.artifactTargets)]

def MigrationCandidate.json (candidate : MigrationCandidate) : Value :=
  .object [("strategy", .string "EXPAND_MIGRATE_CONTRACT"),
    ("sourceChangeFingerprint", .string candidate.sourceChangeFingerprint),
    ("sourcePatchFingerprint", .string candidate.sourcePatchFingerprint),
    ("sourceImpactContextFingerprint", .string candidate.sourceImpactContextFingerprint),
    ("sourceDecision", .string "BLOCK"),
    ("sourceEvidenceIds", texts candidate.sourceEvidenceIds),
    ("summary", .string candidate.summary),
    ("steps", .array (candidate.steps.map MigrationStep.json)),
    ("artifacts", .array (candidate.artifacts.map MigrationArtifact.json)),
    ("requiredReviewers", .array (candidate.requiredReviewers.map MigrationReviewer.json)),
    ("compatibilityWindowDays", .number candidate.compatibilityWindowDays),
    ("rollbackPlan", .string candidate.rollbackPlan)]

def migrationArtifactFingerprint (script : Script) (artifact : MigrationArtifact) : String :=
  script.sha256 artifact.json

def migrationCandidateFingerprint (script : Script) (candidate : MigrationCandidate) : String :=
  script.sha256 candidate.json

end Values

section Paths

def isNameChar (char : Char) : Bool := char.isAlphanum || ['.', '_', '-'].contains char

def isPathChar (char : Char) : Bool := isNameChar char || char = '/'

/-- The path has these ends and at least one character of the class between them. -/
def isBetween (start : String) (close : String) (allowed : Char → Bool) (path : List Char) : Bool :=
  let rest := path.drop start.toList.length
  let middle := rest.take (rest.length - close.toList.length)
  start.toList.isPrefixOf path && close.toList.isSuffixOf rest && !middle.isEmpty &&
    middle.all allowed

def mentionsRollback (path : List Char) : Bool :=
  path.tails.any fun rest => "rollback".toList.isPrefixOf rest

/-- The rollback pattern ignores case. -/
def lower (path : List Char) : List Char := path.map Char.toLower

def isSqlMigrationPath (path : String) : Bool :=
  isBetween "walkthrough/migrations/" ".sql" isNameChar path.toList &&
    !mentionsRollback (path.toList.drop "walkthrough/migrations/".toList.length)

def isRollbackPath (path : String) : Bool :=
  isBetween "walkthrough/migrations/" ".sql" isNameChar (lower path.toList) &&
    mentionsRollback ((lower path.toList).drop "walkthrough/migrations/".toList.length)

def isDbtPath (folder path : String) : Bool :=
  isBetween ("walkthrough/" ++ folder ++ "/") ".sql" isPathChar path.toList ||
    isBetween ("walkthrough/dbt/" ++ folder ++ "/") ".sql" isPathChar path.toList

def isMigrationDocumentPath (path : String) : Bool :=
  isBetween "docs/migrations/" ".md" isNameChar path.toList

def isPathOfKind : ArtifactKind → String → Bool
  | .sqlMigration => isSqlMigrationPath
  | .rollbackSql => isRollbackPath
  | .dbtModel _ => isDbtPath "models"
  | .dbtTest => isDbtPath "tests"
  | .migrationDocument => isMigrationDocumentPath

/-- The segments of a path stand between its slashes. -/
def segments (path : List Char) : List (List Char) := path.splitOn '/'

def isRelative (path : List Char) : Bool := path.head? != some '/' && !path.contains '\\'

def isNormalized (path : List Char) : Bool :=
  (segments path).all fun segment => segment ≠ [] ∧ segment ≠ ['.'] ∧ segment ≠ ['.', '.']

/-- Every path schema makes these checks before its pattern. -/
def artifactPathIssues (pattern : String → Bool) (value : String) (path : List PathItem) :
    List Issue :=
  lengthIssues 1 240 value path ++
  issueUnless (isRelative value.toList) (.custom "Path must be relative POSIX") path ++
  issueUnless (isNormalized value.toList) (.custom "Path must use normalized segments") path ++
  issueUnless (pattern value) .invalidFormat path

/-- A target is accepted when one of the path schemas accepts it. -/
def isArtifactPath (value : String) : Bool :=
  [isSqlMigrationPath, isRollbackPath, isDbtPath "models", isDbtPath "tests",
    isMigrationDocumentPath].any fun pattern => (artifactPathIssues pattern value []).isEmpty

def migrationArtifactPathIssues (value : String) (path : List PathItem) : List Issue :=
  issueUnless (isArtifactPath value) .invalidFormat path

/-- A path of this form splits into its ends and its middle. -/
theorem isBetween_iff {start close : String} {allowed : Char → Bool} {path : List Char} :
    isBetween start close allowed path = true ↔ ∃ middle, middle ≠ [] ∧
      (∀ char ∈ middle, allowed char = true) ∧ path = start.toList ++ middle ++ close.toList := by
  simp only [isBetween, Bool.and_eq_true, List.isPrefixOf_iff_prefix, List.isSuffixOf_iff_suffix,
    Bool.not_eq_true', List.isEmpty_eq_false_iff, List.all_eq_true]
  constructor
  · rintro ⟨⟨⟨⟨rest, rfl⟩, suffix⟩, filled⟩, within⟩
    rw [List.drop_left] at suffix filled within
    obtain ⟨middle, rfl⟩ := suffix
    rw [List.length_append, Nat.add_sub_cancel, List.take_left] at filled within
    exact ⟨middle, filled, within, (List.append_assoc _ _ _).symm⟩
  · rintro ⟨middle, filled, within, rfl⟩
    rw [List.append_assoc, List.drop_left, List.length_append, Nat.add_sub_cancel, List.take_left]
    exact ⟨⟨⟨List.prefix_append _ _, List.suffix_append _ _⟩, filled⟩, within⟩

/-- A text is filled when it has no null character. -/
def Filled (chars : List Char) : Prop := ∀ char ∈ chars, char.toNat ≠ 0

theorem filled_all {chars : List Char} (each : chars.all (·.toNat != 0) = true) : Filled chars :=
  fun char present => bne_iff_ne.mp (List.all_eq_true.mp each char present)

theorem isBetween_filled {start close : String} {allowed : Char → Bool} {path : List Char}
    (startFilled : Filled start.toList) (closeFilled : Filled close.toList)
    (allowedFilled : ∀ char, allowed char = true → char.toNat ≠ 0)
    (between : isBetween start close allowed path = true) : Filled path := by
  obtain ⟨middle, _, within, rfl⟩ := isBetween_iff.mp between
  intro char present
  rw [List.mem_append, List.mem_append] at present
  rcases present with (isStart | isMiddle) | isClose
  · exact startFilled char isStart
  · exact allowedFilled char (within char isMiddle)
  · exact closeFilled char isClose

theorem isPathChar_filled (char : Char) (allowed : isPathChar char = true) : char.toNat ≠ 0 := by
  intro null
  have : char = '\x00' := Char.toNat_inj.mp null
  rw [this] at allowed
  exact absurd allowed (by decide)

theorem isNameChar_filled (char : Char) (allowed : isNameChar char = true) : char.toNat ≠ 0 := by
  apply isPathChar_filled
  rw [isPathChar, allowed, Bool.true_or]

theorem lower_filled {path : List Char} (filled : Filled (lower path)) : Filled path := by
  intro char present null
  have : char = '\x00' := Char.toNat_inj.mp null
  rw [this] at present
  exact filled _ (List.mem_map_of_mem present) (by decide)

/-- The path of an artifact has no null character. -/
theorem isPathOfKind_filled {kind : ArtifactKind} {path : String}
    (matched : isPathOfKind kind path = true) : Filled path.toList := by
  have sql : Filled ".sql".toList := filled_all (by decide)
  have migrations : Filled "walkthrough/migrations/".toList := filled_all (by decide)
  have dbt : ∀ folder : String, Filled folder.toList → isDbtPath folder path = true →
      Filled path.toList := by
    intro folder named found
    rw [isDbtPath, Bool.or_eq_true] at found
    rcases found with found | found
    · apply isBetween_filled _ sql isPathChar_filled found
      simp only [Filled, String.toList_append, List.forall_mem_append]
      exact ⟨⟨filled_all (by decide), named⟩, filled_all (by decide)⟩
    · apply isBetween_filled _ sql isPathChar_filled found
      simp only [Filled, String.toList_append, List.forall_mem_append]
      exact ⟨⟨filled_all (by decide), named⟩, filled_all (by decide)⟩
  cases kind with
  | sqlMigration =>
      simp only [isPathOfKind, isSqlMigrationPath, Bool.and_eq_true] at matched
      exact isBetween_filled migrations sql isNameChar_filled matched.1
  | rollbackSql =>
      simp only [isPathOfKind, isRollbackPath, Bool.and_eq_true] at matched
      exact lower_filled (isBetween_filled migrations sql isNameChar_filled matched.1)
  | dbtModel expectedBaseSha => exact dbt "models" (filled_all (by decide)) matched
  | dbtTest => exact dbt "tests" (filled_all (by decide)) matched
  | migrationDocument =>
      exact isBetween_filled (filled_all (by decide)) (filled_all (by decide)) isNameChar_filled
        matched

end Paths

section Shapes

def isGitSha (text : String) : Bool := isHex 40 text.toList || isHex 64 text.toList

def evidenceIdIssues (id : String) (path : List PathItem) : List Issue :=
  issueUnless (isPrefixedId "ev_" id) .invalidFormat path

def isStepId (id : String) : Bool :=
  let rest := id.toList.drop 5
  "step_".toList.isPrefixOf id.toList && decide (1 ≤ rest.length) && decide (rest.length ≤ 60) &&
    rest.all fun char => char.isLower || char.isDigit || char = '-'

def MigrationArtifact.issues (artifact : MigrationArtifact) (path : List PathItem) : List Issue :=
  (match artifact.kind with
    | .dbtModel expectedBaseSha =>
        issueUnless (isGitSha expectedBaseSha) .invalidFormat (below path "expectedBaseSha")
    | _ => []) ++
  lengthIssues 1 100000 artifact.content (below path "content") ++
  artifactPathIssues (isPathOfKind artifact.kind) artifact.path (below path "path")

def MigrationReviewer.issues (reviewer : MigrationReviewer) (path : List PathItem) : List Issue :=
  match reviewer with
  | .owner ownerUrn affectedAssetUrns reason =>
      urnIssues ownerUrn (below path "ownerUrn") ++
      urnListIssues 1 affectedAssetUrns (below path "affectedAssetUrns") ++
      lengthIssues 1 500 reason (below path "reason")
  | .unresolvedOwner evidenceId affectedAssetUrn reason =>
      evidenceIdIssues evidenceId (below path "evidenceId") ++
      urnIssues affectedAssetUrn (below path "affectedAssetUrn") ++
      lengthIssues 1 500 reason (below path "reason")

def MigrationStep.issues (step : MigrationStep) (path : List PathItem) : List Issue :=
  issueUnless (isStepId step.id) .invalidFormat (below path "id") ++
  lengthIssues 1 160 step.title (below path "title") ++
  lengthIssues 1 1000 step.rationale (below path "rationale") ++
  eachIssues step.affectedEvidenceIds (below path "affectedEvidenceIds") evidenceIdIssues ++
  countIssues 1 200 step.affectedEvidenceIds (below path "affectedEvidenceIds") ++
  eachIssues step.artifactTargets (below path "artifactTargets") migrationArtifactPathIssues ++
  countIssues 1 20 step.artifactTargets (below path "artifactTargets")

def MigrationCandidate.shapeIssues (candidate : MigrationCandidate) : List Issue :=
  fingerprintIssues candidate.sourceChangeFingerprint [.field "sourceChangeFingerprint"] ++
  fingerprintIssues candidate.sourcePatchFingerprint [.field "sourcePatchFingerprint"] ++
  fingerprintIssues candidate.sourceImpactContextFingerprint
    [.field "sourceImpactContextFingerprint"] ++
  eachIssues candidate.sourceEvidenceIds [.field "sourceEvidenceIds"] evidenceIdIssues ++
  countIssues 1 200 candidate.sourceEvidenceIds [.field "sourceEvidenceIds"] ++
  lengthIssues 1 2000 candidate.summary [.field "summary"] ++
  eachIssues candidate.steps [.field "steps"] MigrationStep.issues ++
  countIssues 3 20 candidate.steps [.field "steps"] ++
  eachIssues candidate.artifacts [.field "artifacts"] MigrationArtifact.issues ++
  countIssues 5 20 candidate.artifacts [.field "artifacts"] ++
  eachIssues candidate.requiredReviewers [.field "requiredReviewers"] MigrationReviewer.issues ++
  countIssues 1 20 candidate.requiredReviewers [.field "requiredReviewers"] ++
  issueUnless (1 ≤ candidate.compatibilityWindowDays) .tooSmall
    [.field "compatibilityWindowDays"] ++
  issueUnless (candidate.compatibilityWindowDays ≤ 90) .tooBig
    [.field "compatibilityWindowDays"] ++
  lengthIssues 1 2000 candidate.rollbackPlan [.field "rollbackPlan"]

end Shapes

section Refinement

/-- The phases are a run of expansions, then of migrations, then of contractions. -/
def phasesOrdered (phases : List MigrationPhase) : Bool :=
  let firstMigrate := phases.idxOf .migrate
  let firstContract := phases.idxOf .contract
  phases.head? == some .expand && phases.contains .migrate && phases.contains .contract &&
  decide (1 ≤ firstMigrate) && decide (firstMigrate < firstContract) &&
  phases.zipIdx.all fun (phase, index) =>
    if index < firstMigrate then phase == .expand
    else if index < firstContract then phase == .migrate
    else phase == .contract

def canonicalIds (ids : List String) : Prop := ids.Nodup ∧ ids = sorted ids

instance (ids : List String) : Decidable (canonicalIds ids) :=
  inferInstanceAs (Decidable (_ ∧ _))

/-- A phase refers to artifacts of these kinds. -/
def phaseKinds : MigrationPhase → ArtifactKind → Bool
  | .expand, .sqlMigration => true
  | .expand, .rollbackSql => true
  | .migrate, .dbtModel _ => true
  | .migrate, .dbtTest => true
  | .contract, .migrationDocument => true
  | _, _ => false

def reviewerKey : MigrationReviewer → String
  | .owner ownerUrn _ _ => "OWNER:" ++ ownerUrn
  | .unresolvedOwner evidenceId affectedAssetUrn _ =>
      "UNRESOLVED_OWNER:" ++ evidenceId ++ ":" ++ affectedAssetUrn

def countWord (artifacts : List MigrationArtifact) (word : String) : ℕ :=
  artifacts.countP fun artifact => artifact.kind.word == word

/-- The last artifact at a path stands for it in the map. -/
def artifactAt (artifacts : List MigrationArtifact) (path : String) : Option MigrationArtifact :=
  artifacts.reverse.find? fun artifact => artifact.path = path

def targetIssues (candidate : MigrationCandidate) (step : MigrationStep) (path : List PathItem) :
    List Issue :=
  step.artifactTargets.flatMap fun target =>
    match artifactAt candidate.artifacts target with
    | none => [⟨.custom ("Unknown artifact target: " ++ target), below path "artifactTargets"⟩]
    | some artifact => issueUnless (phaseKinds step.phase artifact.kind)
        (.custom (artifact.kind.word ++ " is incompatible with " ++ step.phase.word))
        (below path "artifactTargets")

def stepOrderIssues (step : MigrationStep) (path : List PathItem) : List Issue :=
  issueUnless (canonicalIds step.affectedEvidenceIds)
    (.custom "Step evidence IDs must be unique and sorted") (below path "affectedEvidenceIds") ++
  issueUnless (step.artifactTargets = sorted step.artifactTargets)
    (.custom "Artifact targets must use canonical path order") (below path "artifactTargets")

def usedEvidence (candidate : MigrationCandidate) : List String :=
  sorted (candidate.steps.flatMap (·.affectedEvidenceIds)).dedup

def references (candidate : MigrationCandidate) (path : String) : ℕ :=
  (candidate.steps.flatMap (·.artifactTargets)).count path

def MigrationCandidate.refinementIssues (candidate : MigrationCandidate) : List Issue :=
  issueUnless (phasesOrdered (candidate.steps.map (·.phase)))
    (.custom "Phases must be ordered EXPAND, MIGRATE, CONTRACT") [.field "steps"] ++
  issueUnless (canonicalIds candidate.sourceEvidenceIds)
    (.custom "Source evidence IDs must be unique and sorted") [.field "sourceEvidenceIds"] ++
  issueUnless (usedEvidence candidate = sorted candidate.sourceEvidenceIds)
    (.custom "Steps must cover the exact source evidence set") [.field "steps"] ++
  eachIssues candidate.steps [.field "steps"] stepOrderIssues ++
  issueUnless ((candidate.artifacts.map (·.path)).Nodup) (.custom "Artifact paths must be unique")
    [.field "artifacts"] ++
  issueUnless (candidate.artifacts.map (·.path) = sorted (candidate.artifacts.map (·.path)))
    (.custom "Artifacts must use canonical path order") [.field "artifacts"] ++
  issueUnless (canonicalIds (candidate.requiredReviewers.map reviewerKey))
    (.custom "Reviewers must be unique and canonically ordered") [.field "requiredReviewers"] ++
  issueUnless (countWord candidate.artifacts "ROLLBACK_SQL" = 1)
    (.custom "Exactly one executable rollback SQL artifact is required") [.field "artifacts"] ++
  issueUnless (1 ≤ countWord candidate.artifacts "SQL_MIGRATION" ∧
      1 ≤ countWord candidate.artifacts "DBT_MODEL" ∧
      1 ≤ countWord candidate.artifacts "DBT_TEST" ∧
      countWord candidate.artifacts "MIGRATION_DOCUMENT" = 1)
    (.custom "Candidate is missing a mandatory artifact role") [.field "artifacts"] ++
  eachIssues candidate.steps [.field "steps"] (targetIssues candidate) ++
  candidate.artifacts.flatMap fun artifact => issueUnless (references candidate artifact.path = 1)
    (.custom "Every artifact must be referenced exactly once") [.field "artifacts"]

/-- These are the issues that `migrationCandidateSchema` reports. -/
def migrationCandidateIssues (candidate : MigrationCandidate) : List Issue :=
  candidate.shapeIssues ++ candidate.refinementIssues

end Refinement

end LineageGuard.Domain
