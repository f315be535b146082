import LineageGuard.Domain.ShortTexts
import LineageGuard.Guarantees.CandidateBinding
import Mathlib.Tactic

/-
This file proves that the steps and the artifacts of the builder are accepted.
-/

namespace LineageGuard.Agent

open Json Attempt Domain

section Contents

/-- The parts of a text and what stands between them give its length. -/
theorem utf16Length_intercalate {separator : String} {parts : List String} {bound : ℕ}
    (each : ∀ part ∈ parts, utf16Length part ≤ bound) :
    utf16Length (separator.intercalate parts) ≤
      parts.length * (bound + utf16Length separator) := by
  induction parts with
  | nil => exact Nat.zero_le _
  | cons part rest ih =>
      have first := each part List.mem_cons_self
      by_cases last : rest = []
      · rw [last, String.intercalate_singleton, List.length_singleton]
        omega
      · have others := ih fun other present => each other (List.mem_cons_of_mem _ present)
        rw [String.intercalate_cons_of_ne_nil last, utf16Length_append, utf16Length_append,
          List.length_cons, Nat.succ_mul]
        omega

theorem content_accepted {first : String} {rest : List String} {bound : ℕ}
    (filled : 1 ≤ utf16Length first) (each : ∀ line ∈ first :: rest, utf16Length line ≤ bound)
    (most : (rest.length + 1) * (bound + 1) ≤ 100000) (place : List PathItem) :
    lengthIssues 1 100000 ("\n".intercalate (first :: rest)) place = [] := by
  have lineBreak : utf16Length "\n" = 1 := utf16Length_ofList ['\n']
  have total := @utf16Length_intercalate "\n" _ _ each
  rw [lineBreak] at total
  refine lengthIssues_nil.mpr ⟨?_, total.trans most⟩
  by_cases last : rest = []
  · rwa [last, String.intercalate_singleton]
  · rw [String.intercalate_cons_of_ne_nil last, utf16Length_append, utf16Length_append]
    omega

theorem line_weaker {line : String} (short : utf16Length line ≤ 200) : utf16Length line ≤ 400 := by
  omega

theorem lines_joined {first second : String} (firstShort : utf16Length first ≤ 200)
    (secondShort : utf16Length second ≤ 200) : utf16Length (first ++ second) ≤ 400 := by
  rw [utf16Length_append]
  omega

theorem expandSql_accepted (place : List PathItem) :
    lengthIssues 1 100000 expandSql place = [] := by
  refine @content_accepted _ _ 400 (line_filled (by decide)) ?_ (by decide) place
  simp only [List.forall_mem_cons, List.not_mem_nil, false_implies, implies_true, and_true]
  and_intros
  all_goals
    first
    | with_reducible refine lines_joined ?_ ?_
    | with_reducible refine line_weaker ?_
  all_goals exact line_short (by decide)

theorem fixedContents_accepted (place : List PathItem) :
    ∀ content ∈ [rollbackSql, stgOrdersContent, customerRevenueContent, customerFeaturesContent,
      equalityTestContent, notNullTestContent], lengthIssues 1 100000 content place = [] := by
  simp only [List.forall_mem_cons, List.not_mem_nil, false_implies, implies_true, and_true]
  and_intros
  all_goals
    refine @content_accepted _ _ 200 (line_filled (by decide)) ?_ (by decide) place
    simp only [List.forall_mem_cons, List.not_mem_nil, false_implies, implies_true, and_true]
    and_intros
    all_goals exact line_short (by decide)

/-- The document has a line for each reviewer. -/
theorem migrationDoc_accepted {reviewers : List MigrationReviewer} (few : reviewers.length ≤ 5)
    (short : ∀ reviewer ∈ reviewers, utf16Length (reviewerLine reviewer) ≤ 3000)
    (place : List PathItem) : lengthIssues 1 100000 (migrationDoc reviewers) place = [] := by
  have longer : ∀ line : String, utf16Length line ≤ 400 → utf16Length line ≤ 3000 :=
    fun _ atMost => atMost.trans (by decide)
  rw [migrationDoc]
  simp only [List.cons_append, List.nil_append]
  refine @content_accepted _ _ 3000 (line_filled (by decide)) ?_ ?_ place
  · simp only [List.forall_mem_cons, List.forall_mem_map]
    and_intros
    all_goals first | exact short | refine longer _ ?_
    all_goals
      first
      | with_reducible refine lines_joined ?_ ?_
      | with_reducible refine line_weaker ?_
    all_goals exact line_short (by decide)
  · simp only [List.length_cons, List.length_map]
    omega

end Contents

section Paths

theorem documentPath_matched : isMigrationDocumentPath "docs/migrations/customer-id.md" = true := by
  have folder : "docs/migrations/".toList = _ := String.toList_ofList
  have close : ".md".toList = _ := String.toList_ofList
  have path : "docs/migrations/customer-id.md".toList = _ := String.toList_ofList
  simp only [isMigrationDocumentPath, isBetween, folder, close, path]
  decide

theorem expandPath_matched : isSqlMigrationPath "walkthrough/migrations/001_expand.sql" = true := by
  have folder : "walkthrough/migrations/".toList = _ := String.toList_ofList
  have close : ".sql".toList = _ := String.toList_ofList
  have word : "rollback".toList = _ := String.toList_ofList
  have path : "walkthrough/migrations/001_expand.sql".toList = _ := String.toList_ofList
  simp only [isSqlMigrationPath, isBetween, mentionsRollback, folder, close, word, path]
  decide

theorem rollbackPath_matched : isRollbackPath "walkthrough/migrations/001_rollback.sql" = true := by
  have folder : "walkthrough/migrations/".toList = _ := String.toList_ofList
  have close : ".sql".toList = _ := String.toList_ofList
  have word : "rollback".toList = _ := String.toList_ofList
  have path : "walkthrough/migrations/001_rollback.sql".toList = _ := String.toList_ofList
  simp only [isRollbackPath, isBetween, mentionsRollback, lower, folder, close, word, path]
  decide

theorem modelPaths_matched :
    ∀ path ∈ ["walkthrough/dbt/models/analytics/customer_revenue.sql",
      "walkthrough/dbt/models/fraud/customer_features.sql",
      "walkthrough/dbt/models/staging/stg_orders.sql"], isDbtPath "models" path = true := by
  have plain : "walkthrough/".toList = _ := String.toList_ofList
  have project : "walkthrough/dbt/".toList = _ := String.toList_ofList
  have folder : "models".toList = _ := String.toList_ofList
  have slash : "/".toList = _ := String.toList_ofList
  have close : ".sql".toList = _ := String.toList_ofList
  have first : "walkthrough/dbt/models/analytics/customer_revenue.sql".toList = _ :=
    String.toList_ofList
  have second : "walkthrough/dbt/models/fraud/customer_features.sql".toList = _ :=
    String.toList_ofList
  have third : "walkthrough/dbt/models/staging/stg_orders.sql".toList = _ := String.toList_ofList
  simp only [List.forall_mem_cons, List.not_mem_nil, false_implies, implies_true, and_true,
    isDbtPath, isBetween, String.toList_append, plain, project, folder, slash, close, first,
    second, third]
  decide

theorem testPaths_matched :
    ∀ path ∈ ["walkthrough/dbt/tests/orders_buyer_id_not_null.sql",
      "walkthrough/dbt/tests/orders_compat.sql"], isDbtPath "tests" path = true := by
  have plain : "walkthrough/".toList = _ := String.toList_ofList
  have project : "walkthrough/dbt/".toList = _ := String.toList_ofList
  have folder : "tests".toList = _ := String.toList_ofList
  have slash : "/".toList = _ := String.toList_ofList
  have close : ".sql".toList = _ := String.toList_ofList
  have first : "walkthrough/dbt/tests/orders_buyer_id_not_null.sql".toList = _ :=
    String.toList_ofList
  have second : "walkthrough/dbt/tests/orders_compat.sql".toList = _ := String.toList_ofList
  simp only [List.forall_mem_cons, List.not_mem_nil, false_implies, implies_true, and_true,
    isDbtPath, isBetween, String.toList_append, plain, project, folder, slash, close, first,
    second]
  decide

end Paths

section Artifacts

variable {baseSha : String} {reviewers : List MigrationReviewer}

theorem canonicalArtifact_located : ∀ artifact ∈ canonicalArtifacts baseSha reviewers,
    ∀ place, artifactPathIssues (isPathOfKind artifact.kind) artifact.path place = [] := by
  have models := modelPaths_matched
  have tests := testPaths_matched
  simp only [List.forall_mem_cons, List.not_mem_nil, false_implies, implies_true,
    and_true] at models tests
  simp only [canonicalArtifacts, List.forall_mem_cons, List.not_mem_nil, false_implies,
    implies_true, and_true]
  refine ⟨?_, ?_, ?_, ?_, ?_, ?_, ?_, ?_⟩
  · exact literalPath_accepted (by decide) (by decide) (by decide) documentPath_matched
  · exact literalPath_accepted (by decide) (by decide) (by decide) models.1
  · exact literalPath_accepted (by decide) (by decide) (by decide) models.2.1
  · exact literalPath_accepted (by decide) (by decide) (by decide) models.2.2
  · exact literalPath_accepted (by decide) (by decide) (by decide) tests.1
  · exact literalPath_accepted (by decide) (by decide) (by decide) tests.2
  · exact literalPath_accepted (by decide) (by decide) (by decide) expandPath_matched
  · exact literalPath_accepted (by decide) (by decide) (by decide) rollbackPath_matched

theorem canonicalArtifact_based : ∀ artifact ∈ canonicalArtifacts baseSha reviewers,
    ∀ sha, artifact.kind = .dbtModel sha → sha = baseSha := by
  simp only [canonicalArtifacts, List.forall_mem_cons, List.not_mem_nil, false_implies,
    implies_true, and_true, reduceCtorEq, ArtifactKind.dbtModel.injEq, true_and]
  exact ⟨fun _ same => same.symm, fun _ same => same.symm, fun _ same => same.symm⟩

/-- The artifacts differ from request to request in the base and in the document only. -/
theorem canonicalArtifact_accepted (isSha : isGitSha baseSha = true)
    (document : ∀ place, lengthIssues 1 100000 (migrationDoc reviewers) place = []) :
    ∀ artifact ∈ canonicalArtifacts baseSha reviewers, ∀ place, artifact.issues place = [] := by
  have fixed := fixedContents_accepted
  simp only [List.forall_mem_cons, List.not_mem_nil, false_implies, implies_true,
    and_true, forall_and] at fixed
  obtain ⟨rollback, staging, revenue, features, equality, notNull⟩ := fixed
  have contents : ∀ artifact ∈ canonicalArtifacts baseSha reviewers,
      ∀ place, lengthIssues 1 100000 artifact.content place = [] := by
    simp only [canonicalArtifacts, List.forall_mem_cons, List.not_mem_nil, false_implies,
      implies_true, and_true]
    exact ⟨document, revenue, features, staging, notNull, equality, expandSql_accepted, rollback⟩
  intro artifact present
  refine artifact_accepted ?_ (contents artifact present) (canonicalArtifact_located _ present)
  intro sha modified
  rwa [canonicalArtifact_based artifact present sha modified]

def canonicalPaths : List String :=
  ["docs/migrations/customer-id.md", "walkthrough/dbt/models/analytics/customer_revenue.sql",
    "walkthrough/dbt/models/fraud/customer_features.sql",
    "walkthrough/dbt/models/staging/stg_orders.sql",
    "walkthrough/dbt/tests/orders_buyer_id_not_null.sql", "walkthrough/dbt/tests/orders_compat.sql",
    "walkthrough/migrations/001_expand.sql", "walkthrough/migrations/001_rollback.sql"]

theorem canonicalPaths_canonical : canonicalIds canonicalPaths := by
  exact listed_canonical [_, _, _, _, _, _, _, _] (by decide) (by decide)

end Artifacts

section Refinement

variable {baseSha : String} {reviewers : List MigrationReviewer} {ids : List String}

theorem canonicalArtifacts_paths :
    (canonicalArtifacts baseSha reviewers).map (·.path) = canonicalPaths := rfl

/-- The steps refer to the artifacts in another order. -/
theorem canonicalSteps_targets :
    ((canonicalSteps ids).flatMap (·.artifactTargets)).Perm canonicalPaths := by
  have split : canonicalPaths = (canonicalPaths.take 1 ++ (canonicalPaths.drop 1).take 5) ++
      canonicalPaths.drop 6 := rfl
  have targets : (canonicalSteps ids).flatMap (·.artifactTargets) =
      canonicalPaths.drop 6 ++ ((canonicalPaths.drop 1).take 5 ++ canonicalPaths.take 1) := rfl
  rw [targets]
  nth_rewrite 4 [split]
  exact List.perm_append_comm.trans (List.perm_append_comm.append_right _)

theorem canonicalIds_sublist {part : List String} (canonical : canonicalIds ids)
    (within : part.Sublist ids) : canonicalIds part := by
  have ordered := sorted_pairwise ids
  rw [← canonical.2] at ordered
  exact ⟨canonical.1.sublist within, (sorted_eq (ordered.sublist within)).symm⟩

theorem step_targets : ∀ step ∈ canonicalSteps ids, canonicalIds step.artifactTargets := by
  have paths := canonicalPaths_canonical
  simp only [canonicalSteps, List.forall_mem_cons, List.not_mem_nil, false_implies, implies_true,
    and_true]
  refine ⟨canonicalIds_sublist paths (List.drop_sublist 6 canonicalPaths),
    canonicalIds_sublist paths
      ((List.take_sublist 5 (canonicalPaths.drop 1)).trans (List.drop_sublist 1 canonicalPaths)),
    canonicalIds_sublist paths (List.take_sublist 1 canonicalPaths)⟩

theorem step_evidence (canonical : canonicalIds ids) :
    ∀ step ∈ canonicalSteps ids, canonicalIds step.affectedEvidenceIds := by
  simp only [canonicalSteps, List.forall_mem_cons, List.not_mem_nil, false_implies, implies_true,
    and_true]
  exact ⟨canonicalIds_sublist canonical (List.take_sublist _ _),
    canonicalIds_sublist canonical (List.drop_sublist _ _),
    canonicalIds_sublist canonical (List.take_sublist _ _)⟩

/-- Every target is an artifact of a kind that belongs to the phase. -/
theorem step_compatible : ∀ step ∈ canonicalSteps ids, ∀ target ∈ step.artifactTargets,
    ∃ artifact ∈ canonicalArtifacts baseSha reviewers, artifact.path = target ∧
      phaseKinds step.phase artifact.kind = true := by
  simp only [canonicalSteps, List.forall_mem_cons, List.not_mem_nil, false_implies, implies_true,
    and_true]
  exact ⟨⟨⟨_, .tail _ (.tail _ (.tail _ (.tail _ (.tail _ (.tail _ (.head _)))))), rfl, rfl⟩,
      ⟨_, .tail _ (.tail _ (.tail _ (.tail _ (.tail _ (.tail _ (.tail _ (.head _))))))), rfl, rfl⟩⟩,
    ⟨⟨_, .tail _ (.head _), rfl, rfl⟩, ⟨_, .tail _ (.tail _ (.head _)), rfl, rfl⟩,
      ⟨_, .tail _ (.tail _ (.tail _ (.head _))), rfl, rfl⟩,
      ⟨_, .tail _ (.tail _ (.tail _ (.tail _ (.head _)))), rfl, rfl⟩,
      ⟨_, .tail _ (.tail _ (.tail _ (.tail _ (.tail _ (.head _))))), rfl, rfl⟩⟩,
    ⟨_, .head _, rfl, rfl⟩⟩

theorem countWord_canonical : countWord (canonicalArtifacts baseSha reviewers) "ROLLBACK_SQL" = 1 ∧
    1 ≤ countWord (canonicalArtifacts baseSha reviewers) "SQL_MIGRATION" ∧
    1 ≤ countWord (canonicalArtifacts baseSha reviewers) "DBT_MODEL" ∧
    1 ≤ countWord (canonicalArtifacts baseSha reviewers) "DBT_TEST" ∧
    countWord (canonicalArtifacts baseSha reviewers) "MIGRATION_DOCUMENT" = 1 := by
  simp [countWord, canonicalArtifacts, ArtifactKind.word]

/-- This is the candidate that the builder fills in. -/
def filledCandidate (change : ProposedChange) (context : Domain.ImpactContext)
    (rationale : Option String) (ids : List String) (reviewers : List MigrationReviewer) :
    Domain.MigrationCandidate where
  sourceChangeFingerprint := change.fingerprint
  sourcePatchFingerprint := change.sourcePatchFingerprint
  sourceImpactContextFingerprint := context.impactContextFingerprint
  sourceEvidenceIds := ids
  summary := rationale.getD
    "Add buyer_id, migrate readers, then retire customer_id after compatibility window."
  steps := canonicalSteps ids
  artifacts := canonicalArtifacts change.baseSha reviewers
  requiredReviewers := reviewers
  compatibilityWindowDays := 30
  rollbackPlan :=
    "Run walkthrough/migrations/001_rollback.sql while customer_id remains the source of truth."

variable {change : ProposedChange} {context : Domain.ImpactContext} {rationale : Option String}

theorem filledCandidate_targets (step : MigrationStep) (present : step ∈ canonicalSteps ids)
    (place : List PathItem) :
    targetIssues (filledCandidate change context rationale ids reviewers) step place = [] := by
  rw [targetIssues, List.flatMap_eq_nil_iff]
  intro target named
  obtain ⟨artifact, isArtifact, rfl, compatible⟩ := step_compatible step present target named
  have single : ((canonicalArtifacts change.baseSha reviewers).map (·.path)).Nodup :=
    canonicalPaths_canonical.1
  have found : artifactAt (filledCandidate change context rationale ids reviewers).artifacts
      artifact.path = some artifact := artifactAt_single single isArtifact
  rw [found]
  exact issueUnless_nil.mpr compatible

/-- The candidate passes the checks of the whole when its reviewers are in order. -/
theorem filledCandidate_refined (canonical : canonicalIds ids)
    (ordered : canonicalIds (reviewers.map reviewerKey)) :
    (filledCandidate change context rationale ids reviewers).refinementIssues = [] := by
  have paths : canonicalIds ((canonicalArtifacts change.baseSha reviewers).map (·.path)) :=
    canonicalPaths_canonical
  have covered : usedEvidence (filledCandidate change context rationale ids reviewers) =
      sorted ids := by
    have cover := distribution_covers canonical.1 canonical.2
    rw [List.append_assoc] at cover
    rw [← canonical.2]
    show sorted
      (expandEvidence ids ++ (migrateEvidence ids ++ (contractEvidence ids ++ []))).dedup = ids
    rw [List.append_nil, cover]
  obtain ⟨rollback, expand, model, test, document⟩ :=
    @countWord_canonical change.baseSha reviewers
  simp only [Domain.MigrationCandidate.refinementIssues, List.append_eq_nil_iff, issueUnless_nil,
    and_assoc]
  refine ⟨rfl, canonical, covered, ?_, paths.1, paths.2, ordered, rollback, expand, model, test,
    document, ?_, ?_⟩
  · apply eachIssues_of
    intro step present place
    rw [stepOrderIssues, List.append_eq_nil_iff, issueUnless_nil, issueUnless_nil]
    exact ⟨step_evidence canonical step present, (step_targets step present).2⟩
  · exact eachIssues_of filledCandidate_targets
  · rw [List.flatMap_eq_nil_iff]
    intro artifact present
    have named : artifact.path ∈ canonicalPaths := List.mem_map_of_mem present
    rw [issueUnless_nil]
    show ((canonicalSteps ids).flatMap (·.artifactTargets)).count artifact.path = 1
    rw [canonicalSteps_targets.count_eq]
    exact List.count_eq_one_of_mem canonicalPaths_canonical.1 named

end Refinement

section Shapes

variable {ids : List String}

theorem step_named : ∀ step ∈ canonicalSteps ids, isStepId step.id = true := by
  have start : "step_".toList = _ := String.toList_ofList
  have expand : "step_expand".toList = _ := String.toList_ofList
  have migrate : "step_migrate".toList = _ := String.toList_ofList
  have contract : "step_contract".toList = _ := String.toList_ofList
  simp only [canonicalSteps, List.forall_mem_cons, List.not_mem_nil, false_implies, implies_true,
    and_true, isStepId, start, expand, migrate, contract]
  decide

theorem step_described : ∀ step ∈ canonicalSteps ids, ∀ place,
    lengthIssues 1 160 step.title place = [] ∧ lengthIssues 1 1000 step.rationale place = [] := by
  simp only [canonicalSteps, List.forall_mem_cons, List.not_mem_nil, false_implies, implies_true,
    and_true, forall_and]
  and_intros
  all_goals exact lengthIssues_ofList (by decide)

/-- Two identifiers suffice for evidence in every step. -/
theorem step_filled (two : 2 ≤ ids.length) (most : ids.length ≤ 200) :
    ∀ step ∈ canonicalSteps ids, ∀ place,
      countIssues 1 200 step.affectedEvidenceIds place = [] := by
  simp only [canonicalSteps, List.forall_mem_cons, List.not_mem_nil, false_implies, implies_true,
    and_true, countIssues_nil, expandEvidence, migrateEvidence, contractEvidence, List.length_take,
    List.length_drop, forall_const]
  omega

theorem step_cited : ∀ step ∈ canonicalSteps ids, ∀ id ∈ step.affectedEvidenceIds, id ∈ ids := by
  simp only [canonicalSteps, List.forall_mem_cons, List.not_mem_nil, false_implies, implies_true,
    and_true]
  exact ⟨fun _ => List.mem_of_mem_take, fun _ => List.mem_of_mem_drop,
    fun _ => List.mem_of_mem_take⟩

theorem step_located : ∀ step ∈ canonicalSteps ids, ∀ target ∈ step.artifactTargets,
    isArtifactPath target = true := by
  intro step present target named
  obtain ⟨artifact, isArtifact, rfl, _⟩ :=
    @step_compatible "" [] ids step present target named
  exact isArtifactPath_of (canonicalArtifact_located artifact isArtifact [])

theorem step_counted : ∀ step ∈ canonicalSteps ids, ∀ place,
    countIssues 1 20 step.artifactTargets place = [] := by
  simp [canonicalSteps, countIssues_nil]

theorem step_shaped (prefixed : ∀ id ∈ ids, isPrefixedId "ev_" id = true) (two : 2 ≤ ids.length)
    (most : ids.length ≤ 200) :
    ∀ step ∈ canonicalSteps ids, ∀ place, step.issues place = [] := by
  intro step present place
  exact step_accepted (step_named step present) (fun place => (step_described step present place).1)
    (fun place => (step_described step present place).2)
    (fun id cited => prefixed id (step_cited step present id cited))
    (countIssues_nil.mp (step_filled two most step present place)) (step_located step present)
    (countIssues_nil.mp (step_counted step present place)) place

end Shapes

end LineageGuard.Agent
