import LineageGuard.Agent.CandidateRuns
import LineageGuard.Guarantees.SemanticFingerprint
import Mathlib.Tactic

/-
This file proves that the identity of a publication depends on the change and on the meaning of the
context alone.
-/

namespace LineageGuard.Agent

open Json Attempt Domain

section Plain

/-- An item without the data of its retrievals keeps its identity. -/
def plain (item : EvidenceItem) : EvidenceItem :=
  { item with toEvidenceDraft := item.toEvidenceDraft.bare }

theorem plain_owner (item : EvidenceItem) : (plain item).payload.isOwner = item.payload.isOwner := by
  rcases item with ⟨⟨_, _, _, _, _, _, _, _, payload⟩, _, _⟩
  cases payload <;> rfl

theorem connectedIds_plain (evidence : List EvidenceItem) :
    connectedIds (evidence.map plain) = connectedIds evidence := by
  simp only [connectedIds, List.filter_map, List.map_map, Function.comp_def, plain_owner]
  rfl

theorem sortEvidence_plain (evidence : List EvidenceItem) :
    sortEvidence (evidence.map plain) = (sortEvidence evidence).map plain := by
  apply Eq.symm
  apply List.map_mergeSort
  intro left _ right _
  rfl

theorem connectedEvidence_plain (evidence : List EvidenceItem) :
    connectedEvidence (evidence.map plain) = (connectedEvidence evidence).map plain := by
  simp only [connectedEvidence, connectedIds_plain, List.filter_map]
  exact sortEvidence_plain _

theorem owners_plain (evidence : List EvidenceItem) :
    owners (evidence.map plain) = owners evidence := by
  simp only [owners, List.filterMap_map]
  congr 1
  funext item
  rcases item with ⟨⟨_, _, _, _, _, _, _, _, payload⟩, _, _⟩
  cases payload <;> rfl

theorem filter_plain {keep : EvidenceItem → Bool}
    (blind : ∀ item, keep (plain item) = keep item) (evidence : List EvidenceItem) :
    (evidence.map plain).filter keep = (evidence.filter keep).map plain := by
  rw [List.filter_map]
  congr 2
  funext item
  exact blind item

theorem downstreamPaths_plain (evidence : List EvidenceItem) :
    downstreamPaths (evidence.map plain) = (downstreamPaths evidence).map plain := by
  apply filter_plain
  intro item
  rcases item with ⟨⟨_, _, _, _, _, _, _, _, payload⟩, _, _⟩
  cases payload <;> rfl

theorem productionModels_plain (evidence : List EvidenceItem) :
    productionModels (evidence.map plain) = (productionModels evidence).map plain := by
  apply filter_plain
  intro item
  rcases item with ⟨⟨_, _, _, _, _, _, _, _, payload⟩, _, _⟩
  cases payload <;> rfl

theorem criticalDashboards_plain (evidence : List EvidenceItem) :
    criticalDashboards (evidence.map plain) = (criticalDashboards evidence).map plain := by
  apply filter_plain
  intro item
  rcases item with ⟨⟨_, _, _, _, _, _, _, _, payload⟩, _, _⟩
  cases payload <;> rfl

theorem observedSystemQueries_plain (evidence : List EvidenceItem) :
    observedSystemQueries (evidence.map plain) = (observedSystemQueries evidence).map plain := by
  apply filter_plain
  intro item
  rcases item with ⟨⟨_, _, _, _, _, _, _, _, payload⟩, _, _⟩
  cases payload <;> rfl

theorem missingOwnerAssets_plain (evidence : List EvidenceItem) :
    missingOwnerAssets (evidence.map plain) = (missingOwnerAssets evidence).map plain := by
  rw [missingOwnerAssets, ownerAssetUrns, owners_plain]
  apply filter_plain
  intro item
  rcases item with ⟨⟨_, _, _, _, _, _, _, _, payload⟩, _, _⟩
  cases payload <;> rfl

theorem reason_plain (ruleId : RiskRuleId) (message : String) (severity : RiskLevel)
    (evidence : List EvidenceItem) :
    reason ruleId message severity (evidence.map plain) =
      reason ruleId message severity evidence := by
  rw [reason, reason, sortEvidence_plain, List.map_map]
  simp only [List.map_eq_nil_iff]
  rfl

/-- The rules read no data of a retrieval. -/
theorem groundedReasons_plain (evidence : List EvidenceItem) :
    groundedReasons (evidence.map plain) = groundedReasons evidence := by
  simp only [groundedReasons, downstreamPaths_plain, productionModels_plain,
    observedSystemQueries_plain, criticalDashboards_plain, missingOwnerAssets_plain, reason_plain]

theorem unresolvedReviewer_plain (evidence : List EvidenceItem) (evidenceId : String) :
    unresolvedReviewer (evidence.map plain) evidenceId = unresolvedReviewer evidence evidenceId := by
  have found : (evidence.map plain).find? (fun item => item.id = evidenceId) =
      (evidence.find? fun item => item.id = evidenceId).map plain := List.find?_map
  have asset : ∀ item, criticalAsset (plain item) = criticalAsset item := by
    intro item
    rcases item with ⟨⟨_, _, _, _, _, _, _, _, payload⟩, _, _⟩
    cases payload <;> rfl
  rw [unresolvedReviewer, unresolvedReviewer, found]
  cases evidence.find? fun item => item.id = evidenceId with
  | none => rfl
  | some item => simp only [Option.map_some, Option.bind_some, asset]

/-- The reviewers depend on no data of a retrieval. -/
theorem requiredReviewers_plain (collates : String → String → Bool) (evidence : List EvidenceItem)
    (reasons : List RiskReason) :
    requiredReviewers collates (evidence.map plain) reasons =
      requiredReviewers collates evidence reasons := by
  have unresolved : unresolvedReviewer (evidence.map plain) = unresolvedReviewer evidence := by
    funext evidenceId
    exact unresolvedReviewer_plain evidence evidenceId
  have owned : ownerReviewers (evidence.map plain) = ownerReviewers evidence := by
    rw [ownerReviewers, ownerReviewers, owners_plain]
  rw [requiredReviewers, requiredReviewers, unresolved, owned]

end Plain

section Runs

variable {script : Script} {spelling : Spelling} {change : ProposedChange}

/-- Computations that differ in their last part are compared after their common part. -/
theorem bind_map_congr {Error Found Result Image : Type} {start : Except Error Found}
    {next other : Found → Except Error Result} {image : Result → Image}
    (same : ∀ found, (next found).map image = (other found).map image) :
    (start >>= next).map image = (start >>= other).map image := by
  cases start with
  | error failure => rfl
  | ok found => exact same found

/-- An authoritative comparison carries the reasons of a complete context. -/
theorem compared_reasons {context : Domain.ImpactContext} {baselineAt groundedAt : IsoDateTime}
    {comparison : RiskComparison}
    (compared : compareAuthoritativeRisk script spelling change context baselineAt groundedAt =
      .ok comparison) :
    context.collectionStatus = .complete ∧
      groundedReasons (connectedEvidence context.evidence) = .ok comparison.grounded.reasons := by
  simp only [compareAuthoritativeRisk, bind_ok, parse_ok] at compared
  obtain ⟨_, ⟨_, rfl⟩, _, ⟨_, rfl⟩, _, _, grounded, evaluated, _, rfl⟩ := compared
  simp only [evaluateGroundedRisk, bind_ok, parse_ok, require_ok] at evaluated
  obtain ⟨_, ⟨_, rfl⟩, _, ⟨_, rfl⟩, _, _, _, complete, _, _, reasons, found, _, rfl⟩ := evaluated
  exact ⟨complete, found⟩

variable {first second : Domain.ImpactContext}

/-- The evidence of two accepted contexts with one meaning differs in its retrievals alone. -/
theorem sameEvidence_plain (firstAccepted : contextDataIssues script first.toImpactContextData = [])
    (secondAccepted : contextDataIssues script second.toImpactContextData = [])
    (same : Domain.SameEvidence first.evidence second.evidence) :
    first.evidence.map plain = second.evidence.map plain := by
  have rebuilt : ∀ data : ImpactContextData, contextDataIssues script data = [] →
      data.evidence.map plain = (data.evidence.map fun item => item.toEvidenceDraft.bare).map
        fun draft => ⟨draft, script.stableId "ev" (bareIdentity draft),
          script.sha256 (bareIdentity draft)⟩ := by
    intro data accepted
    rw [List.map_map]
    apply List.map_congr_left
    intro item present
    have bound := accepted_bound accepted item present
    rw [plain, bound.id, bound.fingerprint]
    rfl
  rw [rebuilt _ firstAccepted, rebuilt _ secondAccepted,
    sameEvidence_ordered firstAccepted secondAccepted same]

/-- A complete context has no failures whose order could differ. -/
theorem complete_ordered (firstAccepted : contextDataIssues script first.toImpactContextData = [])
    (secondAccepted : contextDataIssues script second.toImpactContextData = [])
    (firstComplete : first.collectionStatus = .complete)
    (secondComplete : second.collectionStatus = .complete) :
    SameFailureOrder first.toImpactContextData second.toImpactContextData := by
  have none : ∀ data : ImpactContextData, contextDataIssues script data = [] →
      data.collectionStatus = .complete → data.failures = [] := by
    intro data accepted complete
    simp only [contextDataIssues, List.append_eq_nil_iff, statusIssues, complete,
      issueUnless_nil] at accepted
    exact accepted.1.2.1
  rw [SameFailureOrder, none _ firstAccepted firstComplete, none _ secondAccepted secondComplete]

/-- What is read from the identity of the candidate comes from the change, the reasons, the evidence
and the fingerprint of the context. -/
theorem buildCanonicalCandidate_identity (collates : String → String → Bool)
    (change : ProposedChange) {firstComparison secondComparison : RiskComparison} {Image : Type}
    {image : Domain.MigrationCandidate → Image}
    (blind : ∀ candidate other, candidateIdentity candidate = candidateIdentity other →
      image candidate = image other)
    (reasons : firstComparison.grounded.reasons = secondComparison.grounded.reasons)
    (evidence : first.evidence.map plain = second.evidence.map plain)
    (fingerprint : first.impactContextFingerprint = second.impactContextFingerprint)
    (firstRationale secondRationale : Option String) :
    (buildCanonicalCandidate collates change first firstComparison firstRationale).map image =
      (buildCanonicalCandidate collates change second secondComparison secondRationale).map
        image := by
  have reviewers : requiredReviewers collates first.evidence =
      requiredReviewers collates second.evidence := by
    funext found
    rw [← requiredReviewers_plain, evidence, requiredReviewers_plain]
  simp only [buildCanonicalCandidate, reasons, reviewers, fingerprint]
  apply bind_map_congr
  intro done
  apply bind_map_congr
  intro found
  apply bind_map_congr
  intro covered
  exact congrArg Except.ok (blind _ _ rfl)

end Runs

section Publication

/-- A publication identifies an artifact by its path, its kind and its content. -/
def published (artifact : MigrationArtifact) : String × String × String :=
  (artifact.path, artifact.kind.word, artifact.content)

/-- Two candidates have the same publication when they differ at most in what it leaves out and in
the order of their lists. -/
structure SamePublication (candidate other : Domain.MigrationCandidate) : Prop where
  change : candidate.sourceChangeFingerprint = other.sourceChangeFingerprint
  patch : candidate.sourcePatchFingerprint = other.sourcePatchFingerprint
  context : candidate.sourceImpactContextFingerprint = other.sourceImpactContextFingerprint
  evidence : candidate.sourceEvidenceIds.Perm other.sourceEvidenceIds
  artifacts : (candidate.artifacts.map published).Perm (other.artifacts.map published)

variable {script : Script} {candidate other : Domain.MigrationCandidate}

theorem candidateIdentity_plain (candidate : Domain.MigrationCandidate) :
    Plain (candidateIdentity candidate) := by
  simp [candidateIdentity, MigrationArtifact.identity, Plain, plainMembers_iff, plainItems_iff,
    texts_plain]

def publishedJson (triple : String × String × String) : Value :=
  .object [("path", .string triple.1), ("kind", .string triple.2.1),
    ("content", .string triple.2.2)]

theorem map_identity (artifacts : List MigrationArtifact) :
    artifacts.map MigrationArtifact.identity = (artifacts.map published).map publishedJson := by
  rw [List.map_map]
  rfl

theorem publishedJson_injective : Function.Injective publishedJson := by
  intro left right same
  simp only [publishedJson, Value.object.injEq, List.cons.injEq, Prod.mk.injEq, true_and, and_true,
    Value.string.injEq] at same
  exact Prod.ext same.1 (Prod.ext same.2.1 same.2.2)

theorem sortArtifacts_perm (artifacts : List MigrationArtifact) :
    (sortArtifacts artifacts).Perm artifacts := List.mergeSort_perm _ _

theorem sortArtifacts_pairwise (artifacts : List MigrationArtifact) :
    (sortArtifacts artifacts).Pairwise fun left right => localeLe left.path right.path = true := by
  apply List.pairwise_mergeSort
  · intro left middle right first second
    exact localeLe_trans first second
  · intro left right
    rw [Bool.or_eq_true]
    exact localeLe_total left.path right.path

/-- Sorted artifacts with distinct paths stand in one order. -/
theorem sortArtifacts_published {artifacts others : List MigrationArtifact}
    (filled : ∀ artifact ∈ artifacts, Filled artifact.path.toList)
    (single : (artifacts.map (·.path)).Nodup)
    (same : (artifacts.map published).Perm (others.map published)) :
    (sortArtifacts artifacts).map published = (sortArtifacts others).map published := by
  have ordered : ∀ items : List MigrationArtifact, ((sortArtifacts items).map published).Pairwise
      fun left right => localeLe left.1 right.1 = true := by
    intro items
    rw [List.pairwise_map]
    exact sortArtifacts_pairwise items
  have shuffled : ((sortArtifacts artifacts).map published).Perm
      ((sortArtifacts others).map published) :=
    (((sortArtifacts_perm artifacts).map published).trans same).trans
      ((sortArtifacts_perm others).map published).symm
  apply shuffled.eq_of_pairwise _ (ordered artifacts) (ordered others)
  intro left right isLeft isRight before after
  have leftThere : left ∈ artifacts.map published :=
    ((sortArtifacts_perm artifacts).map published).mem_iff.mp isLeft
  have rightThere : right ∈ artifacts.map published :=
    same.mem_iff.mpr (((sortArtifacts_perm others).map published).mem_iff.mp isRight)
  obtain ⟨first, isFirst, rfl⟩ := List.mem_map.mp leftThere
  obtain ⟨second, isSecond, rfl⟩ := List.mem_map.mp rightThere
  have paths : first.path = second.path :=
    localeLe_antisymm (filled first isFirst) (filled second isSecond) before after
  rw [List.inj_on_of_nodup_map single isFirst isSecond paths]

theorem accepted_paths (accepted : migrationCandidateIssues candidate = []) :
    (∀ artifact ∈ candidate.artifacts, Filled artifact.path.toList) ∧
      (candidate.artifacts.map (·.path)).Nodup := by
  rw [migrationCandidateIssues, List.append_eq_nil_iff] at accepted
  obtain ⟨shape, refinement⟩ := accepted
  simp only [Domain.MigrationCandidate.shapeIssues, List.append_eq_nil_iff, and_assoc] at shape
  simp only [Domain.MigrationCandidate.refinementIssues, List.append_eq_nil_iff, issueUnless_nil,
    and_assoc] at refinement
  obtain ⟨_, _, _, _, _, _, _, _, each, _⟩ := shape
  obtain ⟨_, _, _, _, single, _⟩ := refinement
  refine ⟨?_, single⟩
  intro artifact present
  obtain ⟨place, checked⟩ := eachIssues_nil each artifact present
  simp only [MigrationArtifact.issues, artifactPathIssues, List.append_eq_nil_iff,
    issueUnless_nil] at checked
  exact isPathOfKind_filled checked.2.2

/-- The fingerprint of an accepted candidate does not depend on the order of its lists. -/
theorem samePublication_fingerprint (accepted : migrationCandidateIssues candidate = [])
    (same : SamePublication candidate other) :
    canonicalCandidateFingerprint script candidate =
      canonicalCandidateFingerprint script other := by
  obtain ⟨filled, single⟩ := accepted_paths accepted
  have written : (sortArtifacts candidate.artifacts).map MigrationArtifact.identity =
      (sortArtifacts other.artifacts).map MigrationArtifact.identity := by
    rw [map_identity, map_identity, sortArtifacts_published filled single same.artifacts]
  rw [canonicalCandidateFingerprint, canonicalCandidateFingerprint, candidateIdentity,
    candidateIdentity, same.change, same.patch, same.context, sorted_perm same.evidence, written]

/-- Without a collision the fingerprint tells the publication. -/
theorem fingerprint_samePublication
    (distinct : script.digest (script.stringify (candidateIdentity candidate)) =
        script.digest (script.stringify (candidateIdentity other)) →
      script.stringify (candidateIdentity candidate) = script.stringify (candidateIdentity other))
    (equal : canonicalCandidateFingerprint script candidate =
      canonicalCandidateFingerprint script other) : SamePublication candidate other := by
  have written := distinct equal
  rw [stringify_eq script _ (candidateIdentity_plain candidate),
    stringify_eq script _ (candidateIdentity_plain other)] at written
  have same := text_inj written
  simp only [candidateIdentity, texts, Value.object.injEq, List.cons.injEq, Prod.mk.injEq,
    true_and, and_true, Value.string.injEq, Value.array.injEq] at same
  obtain ⟨change, patch, context, evidence, artifacts⟩ := same
  have ids : sorted candidate.sourceEvidenceIds = sorted other.sourceEvidenceIds :=
    List.map_injective_iff.mpr (fun _ _ equal => Value.string.inj equal) evidence
  have triples : (sortArtifacts candidate.artifacts).map published =
      (sortArtifacts other.artifacts).map published := by
    rw [map_identity, map_identity] at artifacts
    exact List.map_injective_iff.mpr publishedJson_injective artifacts
  constructor
  · exact change
  · exact patch
  · exact context
  · exact ((List.perm_insertionSort _ _).symm.trans (List.Perm.of_eq ids)).trans
      (List.perm_insertionSort _ _)
  · exact (((sortArtifacts_perm _).map published).symm.trans (List.Perm.of_eq triples)).trans
      ((sortArtifacts_perm _).map published)

/-- The effects of a run are published under these names. -/
def publicationNames (script : Script) (prNumber : Option ℤ)
    (candidate : Domain.MigrationCandidate) :
    String × Except NameError String × Except NameError String :=
  let fingerprint := canonicalCandidateFingerprint script candidate
  (fingerprint, generatedBranchName fingerprint prNumber, decisionMarker fingerprint)

theorem publicationNames_congr (script : Script) (prNumber : Option ℤ)
    (candidate other : Domain.MigrationCandidate)
    (same : candidateIdentity candidate = candidateIdentity other) :
    publicationNames script prNumber candidate = publicationNames script prNumber other := by
  rw [publicationNames, publicationNames, canonicalCandidateFingerprint,
    canonicalCandidateFingerprint, same]

/-- Two runs of one change with one meaning publish under the same names, an accepted candidate
keeps its fingerprint under every reordering, and without a collision the fingerprint tells the
publication. -/
theorem publication_identity (script : Script) (spelling : Spelling)
    (collates : String → String → Bool) (change : ProposedChange)
    (first second : Domain.ImpactContext)
    (firstAccepted : impactContextIssues script spelling first = [])
    (secondAccepted : impactContextIssues script spelling second = [])
    (same : SameMeaning first.toImpactContextData second.toImpactContextData)
    (firstBaselineAt firstGroundedAt secondBaselineAt secondGroundedAt : IsoDateTime)
    (firstComparison secondComparison : RiskComparison)
    (firstCompared : compareAuthoritativeRisk script spelling change first firstBaselineAt
      firstGroundedAt = .ok firstComparison)
    (secondCompared : compareAuthoritativeRisk script spelling change second secondBaselineAt
      secondGroundedAt = .ok secondComparison)
    (firstRationale secondRationale : Option String) :
    (∃ firstCandidate secondCandidate,
      buildCanonicalCandidate collates change first firstComparison firstRationale =
        .ok firstCandidate ∧
      buildCanonicalCandidate collates change second secondComparison secondRationale =
        .ok secondCandidate ∧
      ∀ prNumber, publicationNames script prNumber firstCandidate =
        publicationNames script prNumber secondCandidate) ∧
    (∀ candidate other, migrationCandidateIssues candidate = [] → SamePublication candidate other →
      canonicalCandidateFingerprint script candidate =
        canonicalCandidateFingerprint script other) ∧
    (∀ candidate other,
      (script.digest (script.stringify (candidateIdentity candidate)) =
          script.digest (script.stringify (candidateIdentity other)) →
        script.stringify (candidateIdentity candidate) =
          script.stringify (candidateIdentity other)) →
      ¬ SamePublication candidate other →
      canonicalCandidateFingerprint script candidate ≠
        canonicalCandidateFingerprint script other) := by
  obtain ⟨_, _, firstFingerprint, _, _, firstData⟩ := impactContextIssues_nil.mp firstAccepted
  obtain ⟨_, _, secondFingerprint, _, _, secondData⟩ := impactContextIssues_nil.mp secondAccepted
  obtain ⟨firstComplete, firstReasons⟩ := compared_reasons firstCompared
  obtain ⟨secondComplete, secondReasons⟩ := compared_reasons secondCompared
  obtain ⟨firstCandidate, firstBuilt⟩ := buildCanonicalCandidate_total firstAccepted firstComplete
    firstReasons collates firstRationale
  obtain ⟨secondCandidate, secondBuilt⟩ := buildCanonicalCandidate_total secondAccepted
    secondComplete secondReasons collates secondRationale
  have evidence := sameEvidence_plain firstData secondData same.evidence
  have fingerprint : first.impactContextFingerprint = second.impactContextFingerprint := by
    rw [firstFingerprint, secondFingerprint]
    exact sameMeaning_fingerprint firstData secondData same
      (complete_ordered firstData secondData firstComplete secondComplete)
  have reasons : firstComparison.grounded.reasons = secondComparison.grounded.reasons := by
    rw [← groundedReasons_plain, ← connectedEvidence_plain, evidence, connectedEvidence_plain,
      groundedReasons_plain, secondReasons] at firstReasons
    exact (Except.ok.inj firstReasons).symm
  refine ⟨?_, ?_, ?_⟩
  · refine ⟨firstCandidate, secondCandidate, firstBuilt, secondBuilt, ?_⟩
    intro prNumber
    have names := buildCanonicalCandidate_identity collates change
      (publicationNames_congr script prNumber) reasons evidence fingerprint firstRationale
      secondRationale
    rw [firstBuilt, secondBuilt] at names
    exact Except.ok.inj names
  · intro candidate other accepted alike
    exact samePublication_fingerprint accepted alike
  · intro candidate other distinct different equal
    exact different (fingerprint_samePublication distinct equal)

end Publication

section Sample

/-- The digest shows the criticality and the kind of an item. -/
def sampleScript : Script := Script.picking [16, 72, 76]

def toolLetter : Tool → Char
  | .search => 'a'
  | .getEntities => 'b'
  | .listSchemaFields => 'c'
  | .getLineage => 'd'
  | .getLineagePathsBetween => 'e'
  | .getDatasetQueries => 'f'

def sampleDate (instant : ℕ) : IsoDateTime := ⟨instant, 1⟩

/-- Each run has a mark in its invocations and a date of its own. -/
def sampleRetrieval (mark : Char) (instant : ℕ) (tool : Tool) (place : Char) : Retrieval :=
  ⟨tool, String.ofList [mark, toolLetter tool, place], sampleDate instant, hexText instant⟩

def sampleProvenance (mark : Char) (instant : ℕ) (steps : List (Tool × Role)) : List Provenance :=
  (steps.zip ['0', '1', '2']).map fun (step, place) =>
    ⟨sampleRetrieval mark instant step.1 place, step.2⟩

def sampleDraft (mark : Char) (instant : ℕ) (criticality : Criticality) (targetUrn : Option String)
    (relatedEvidenceIds : List String) (payload : EvidencePayload) : EvidenceItem :=
  createEvidence sampleScript {
    sourceUrn := canonicalDatasetUrn
    targetUrn
    fieldPath := some canonicalFieldPath
    title := "a"
    summary := "a"
    criticality
    provenance := sampleProvenance mark instant (semanticSteps payload)
    relatedEvidenceIds
    payload }

variable (mark : Char) (instant : ℕ)

def sampleSchema : EvidenceItem := sampleDraft mark instant .medium none []
  (.schema ⟨canonicalSchemaFieldUrn, canonicalNativeFieldPath, "uuid", false⟩)

def samplePath (criticality : Criticality) (through asset : String) : EvidenceItem :=
  sampleDraft mark instant criticality (some asset) []
    (.lineagePath ⟨canonicalNodes through asset, canonicalSegments through asset⟩)

def sampleDashboardPath : EvidenceItem :=
  samplePath mark instant .low canonicalAnalyticsRevenueUrn canonicalDashboardUrn

def sampleModelPath : EvidenceItem :=
  samplePath mark instant .critical canonicalFraudFeaturesUrn canonicalFraudModelUrn

def sampleDashboard : EvidenceItem :=
  sampleDraft mark instant .critical (some canonicalDashboardUrn)
    [(sampleDashboardPath mark instant).id]
    (.dashboard ⟨canonicalDashboardUrn, "looker", .production, canonicalTags, [],
      canonicalAnalyticsRevenueUrn, "analytics.customer_revenue.customer_id"⟩)

def sampleModel : EvidenceItem :=
  sampleDraft mark instant .critical (some canonicalFraudModelUrn)
    [(sampleModelPath mark instant).id]
    (.mlModel ⟨canonicalFraudModelUrn, .production, canonicalTags, [], canonicalFraudFeaturesUrn,
      "fraud.customer_features.customer_id", ⟨String.ofList [mark], canonicalFraudModelUrn,
        canonicalFraudFeaturesUrn, hexText instant, sampleDate instant⟩⟩)

def sampleQuery : EvidenceItem :=
  sampleDraft mark instant .high (some canonicalQueryUrn) [(sampleDashboardPath mark instant).id]
    (.queryUsage ⟨canonicalQueryUrn, canonicalAnalyticsRevenueUrn, canonicalQuerySubjectFieldUrn,
      canonicalNativeFieldPath, canonicalQueryStatementFingerprint⟩)

def sampleGlossary : EvidenceItem :=
  sampleDraft mark instant .high (some canonicalGlossaryTermUrn) []
    (.glossaryTerm ⟨canonicalGlossaryTermUrn, "Customer Identifier", canonicalSchemaFieldUrn,
      canonicalFieldPath⟩)

def sampleEvidence : List EvidenceItem :=
  [sampleDashboard mark instant, sampleModelPath mark instant, sampleModel mark instant,
    sampleGlossary mark instant, sampleQuery mark instant, sampleDashboardPath mark instant,
    sampleSchema mark instant]

def sampleProposal : ProposedChange :=
  ⟨"", "", hexText 0, .fixture, "a/b", String.ofList (List.replicate 40 'a'),
    String.ofList (List.replicate 40 'b'), ["a"]⟩

/-- The identity of a change does not depend on its identifier. -/
def sampleChange : ProposedChange :=
  { sampleProposal with
    id := sampleScript.stableId "chg" sampleProposal.identity
    fingerprint := sampleScript.sha256 sampleProposal.identity }

def sampleComplete : ImpactContextData where
  changeId := sampleChange.id
  collectionOrigin := .live
  resolution := [⟨String.ofList [mark, toolLetter .search, '0'], sampleDate instant,
    hexText instant⟩]
  collectedAt := sampleDate instant
  collectionStatus := .complete
  evidence := sampleEvidence mark instant
  failures := []

theorem sampleRetrieval_issues (tool : Tool) (letter : Char) (path : List PathItem) :
    (sampleRetrieval mark instant tool letter).issues path = [] := by
  have digest : isFingerprint (hexText instant) = true :=
    isFingerprint_of (hexText_length instant) (hexText_chars instant)
  have valid : (sampleDate instant).Valid := Or.inl Nat.one_ne_zero
  have short : 1 ≤ utf16Length (String.ofList [mark, toolLetter tool, letter]) ∧
      utf16Length (String.ofList [mark, toolLetter tool, letter]) ≤ 160 := by
    rw [utf16Length_ofList]
    simp only [List.map_cons, List.map_nil, List.sum_cons, List.sum_nil]
    constructor <;> split <;> split <;> split <;> omega
  simp only [Retrieval.issues, List.append_eq_nil_iff, lengthIssues_nil, dateIssues_nil,
    fingerprintIssues_nil]
  exact ⟨⟨short, valid⟩, digest⟩

theorem sampleDraft_id (criticality : Criticality) (targetUrn : Option String)
    (relatedEvidenceIds : List String) (payload : EvidencePayload) :
    isPrefixedId "ev_" (sampleDraft mark instant criticality targetUrn relatedEvidenceIds
      payload).id = true := stableId_prefixed sampleScript "ev" _

theorem sampleDraft_issues {criticality : Criticality} {targetUrn : Option String}
    {relatedEvidenceIds : List String} {payload : EvidencePayload} (path : List PathItem)
    (target : ∀ urn ∈ targetUrn, ∀ path, urnIssues urn path = [])
    (prefixed : ∀ id ∈ relatedEvidenceIds, isPrefixedId "ev_" id = true)
    (few : relatedEvidenceIds.length ≤ 1)
    (accepted : ∀ path, payload.issues path = []) :
    evidenceItemIssues sampleScript (sampleDraft mark instant criticality targetUrn
      relatedEvidenceIds payload) path = [] := by
  have title : ∀ most ≥ 1, ∀ path, lengthIssues 1 most "a" path = [] := by
    intro most atLeast path
    rw [lengthIssues_nil, utf16Length_ofList]
    exact ⟨by decide, atLeast⟩
  have field : ∀ path, lengthIssues 1 500 canonicalFieldPath path = [] := by
    intro path
    rw [lengthIssues_nil, canonicalFieldPath, utf16Length_ofList]
    decide
  have target : (targetUrn.elim [] fun urn => urnIssues urn (below path "targetUrn")) = [] := by
    cases targetUrn with
    | none => rfl
    | some urn => exact target urn rfl _
  have steps : 1 ≤ (sampleProvenance mark instant (semanticSteps payload)).length ∧
      (sampleProvenance mark instant (semanticSteps payload)).length ≤ 8 := by
    cases payload <;> simp [sampleProvenance, semanticSteps]
  have entries : eachIssues (sampleProvenance mark instant (semanticSteps payload))
      (below path "provenance") Provenance.issues = [] := by
    apply eachIssues_of
    intro entry present place
    rw [sampleProvenance, List.mem_map] at present
    obtain ⟨⟨step, letter⟩, _, rfl⟩ := present
    exact sampleRetrieval_issues mark instant step.1 letter place
  have related : eachIssues relatedEvidenceIds (below path "relatedEvidenceIds")
      (fun id position => issueUnless (isPrefixedId "ev_" id) .invalidFormat position) = [] := by
    apply eachIssues_of
    intro id present place
    rw [issueUnless_nil]
    exact prefixed id present
  have single : relatedEvidenceIds.Nodup := by
    match relatedEvidenceIds, few with
    | [], _ => exact List.nodup_nil
    | [id], _ => exact List.nodup_singleton id
  rw [evidenceItemIssues, EvidenceItem.baseIssues]
  simp only [List.append_eq_nil_iff, and_assoc]
  exact ⟨issueUnless_nil.mpr (stableId_prefixed sampleScript "ev" _),
    fingerprintIssues_nil.mpr (digest_fingerprint sampleScript _),
    (canonicalUrns_accepted _).1, target, field _, title 240 (by decide) _,
    title 1000 (by decide) _, entries, countIssues_nil.mpr steps, related,
    issueUnless_nil.mpr (few.trans (by decide)), issueUnless_nil.mpr single, accepted _,
    issueUnless_nil.mpr rfl, issueUnless_nil.mpr rfl⟩

theorem sampleEvidence_shape : ∀ item ∈ sampleEvidence mark instant, ∀ path,
    evidenceItemIssues sampleScript item path = [] := by
  have name : ∀ path, lengthIssues 1 500 canonicalNativeFieldPath path = [] :=
    lengthIssues_ofList (by decide)
  have revenue := fun path => (canonicalUrns_accepted path).2.2.2.1
  have features := fun path => (canonicalUrns_accepted path).2.2.2.2.1
  have dashboard := fun path => (canonicalUrns_accepted path).2.2.2.2.2.1
  have model := fun path => (canonicalUrns_accepted path).2.2.2.2.2.2.1
  have term := fun path => (canonicalUrns_accepted path).2.2.2.2.2.2.2.2.2.1
  have query := fun path => (canonicalUrns_accepted path).2.2.2.2.2.2.2.2.2.2.1
  have subject := fun path => (canonicalUrns_accepted path).2.2.2.2.2.2.2.2.2.2.2
  have statement : isFingerprint canonicalQueryStatementFingerprint = true := by
    rw [isFingerprint, canonicalQueryStatementFingerprint, String.toList_ofList]
    decide
  have digest : ∀ path, fingerprintIssues (hexText instant) path = [] := by
    intro path
    exact fingerprintIssues_nil.mpr
      (isFingerprint_of (hexText_length instant) (hexText_chars instant))
  have dashboardPath : ∀ id ∈ [(sampleDashboardPath mark instant).id],
      isPrefixedId "ev_" id = true := by
    intro id present
    rw [List.mem_singleton.mp present]
    exact sampleDraft_id mark instant _ _ _ _
  have modelPath : ∀ id ∈ [(sampleModelPath mark instant).id],
      isPrefixedId "ev_" id = true := by
    intro id present
    rw [List.mem_singleton.mp present]
    exact sampleDraft_id mark instant _ _ _ _
  have none : ∀ id ∈ ([] : List String), isPrefixedId "ev_" id = true := by
    simp
  simp only [sampleEvidence, List.forall_mem_cons]
  refine ⟨?_, ?_, ?_, ?_, ?_, ?_, ?_, by simp⟩
  · intro path
    apply sampleDraft_issues mark instant path (by simpa using dashboard) dashboardPath le_rfl
    intro place
    simp only [EvidencePayload.issues, List.append_eq_nil_iff, and_assoc]
    exact ⟨dashboard _, lengthIssues_ofList (by decide) _, canonicalTags_accepted _,
      urnListIssues_of _ (by simp) (by decide), revenue _, lengthIssues_ofList (by decide) _⟩
  · intro path
    exact sampleDraft_issues mark instant path (by simpa using model) none (by decide)
      (canonicalPath_accepted features model)
  · intro path
    apply sampleDraft_issues mark instant path (by simpa using model) modelPath le_rfl
    intro place
    have endpoint : lengthIssues 1 2048 (String.ofList [mark]) = fun _ => [] := by
      funext path
      rw [lengthIssues_nil, utf16Length_ofList]
      simp only [List.map_cons, List.map_nil, List.sum_cons, List.sum_nil]
      split <;> omega
    simp only [EvidencePayload.issues, TrainingDataReceipt.issues, List.append_eq_nil_iff,
      and_assoc]
    exact ⟨model _, canonicalTags_accepted _, urnListIssues_of _ (by simp) (by decide), features _,
      lengthIssues_ofList (by decide) _, congrFun endpoint _, model _, features _, digest _,
      dateIssues_nil.mpr (Or.inl Nat.one_ne_zero)⟩
  · intro path
    apply sampleDraft_issues mark instant path (by simpa using term) none (by decide)
    intro place
    simp only [EvidencePayload.issues, List.append_eq_nil_iff, and_assoc]
    exact ⟨term _, lengthIssues_ofList (by decide) _, (canonicalUrns_accepted _).2.1,
      lengthIssues_ofList (by decide) _⟩
  · intro path
    apply sampleDraft_issues mark instant path (by simpa using query) dashboardPath le_rfl
    intro place
    simp only [EvidencePayload.issues, List.append_eq_nil_iff, and_assoc]
    exact ⟨query _, revenue _, subject _, name _, fingerprintIssues_nil.mpr statement⟩
  · intro path
    exact sampleDraft_issues mark instant path (by simpa using dashboard) none (by decide)
      (canonicalPath_accepted revenue dashboard)
  · intro path
    apply sampleDraft_issues mark instant path (by simp) none (by decide)
    intro place
    simp only [EvidencePayload.issues, List.append_eq_nil_iff, and_assoc]
    exact ⟨(canonicalUrns_accepted _).2.1, lengthIssues_ofList (by decide) _,
      lengthIssues_ofList (by decide) _⟩

/-- The identifiers do not depend on the run. -/
theorem sampleEvidence_ids : (sampleEvidence mark instant).map (·.id) =
    (sampleEvidence 'a' 0).map (·.id) := by
  rfl

/-- These digits follow the start of the identifiers. -/
def sampleDigits : List (List Char) :=
  [['4', '3', '6', '4', '4', '4'], ['4', '3', '6', '4', '4', 'c'], ['4', '3', '6', '4', '4', 'd'],
    ['4', '8', '4', '7', '5', '3'], ['4', '8', '5', '1', '5', '9'], ['4', 'c', '4', '9', '4', '7'],
    ['4', 'd', '3', 'a', '4', '8']]

def sampleId (digits : List Char) : List Char :=
  ['e', 'v', '_'] ++ List.replicate 8 '0' ++ digits ++ List.replicate 10 '0'

/-- The characters at the three places give the identifier. -/
theorem picked_id {draft : EvidenceDraft} (chars digits : List Char)
    (shown : [16, 72, 76].map (fun place =>
      (sampleScript.stableJson (normalizedEvidenceIdentity draft))[place]?) = chars.map some)
    (written : ((List.range 64).map fun place => hexDigit (chars.foldl (fun shown char =>
      shown * 256 + char.toNat) 0 * 16 ^ 50 / 16 ^ (63 - place) % 16)).take 24 =
        List.replicate 8 '0' ++ digits ++ List.replicate 10 '0') :
    (createEvidence sampleScript draft).id = String.ofList (sampleId digits) := by
  have folded : ∀ places : List ℕ, ∀ text chars : List Char, ∀ start : ℕ,
      places.map (fun place => text[place]?) = chars.map some →
      places.foldl (fun shown place => shown * 256 + text[place]?.elim 0 Char.toNat) start =
        chars.foldl (fun shown char => shown * 256 + char.toNat) start := by
    intro places
    induction places with
    | nil =>
        intro text chars start same
        rw [List.map_nil, eq_comm, List.map_eq_nil_iff] at same
        rw [same]
        rfl
    | cons place rest ih =>
        intro text chars start same
        cases chars with
        | nil => cases same
        | cons char others =>
            rw [List.map_cons, List.map_cons, List.cons.injEq] at same
            rw [List.foldl_cons, List.foldl_cons, same.1, Option.elim_some]
            exact ih text others _ same.2
  show "ev" ++ "_" ++ String.ofList ((sampleScript.sha256 _).toList.take 24) = _
  have digest : sampleScript.sha256 (normalizedEvidenceIdentity draft) =
      hexText (chars.foldl (fun shown char => shown * 256 + char.toNat) 0 * 16 ^ 50) := by
    rw [Script.sha256]
    show hexText _ = hexText _
    rw [folded _ _ _ _ shown]
  rw [digest, hexText, String.toList_ofList, written, ← String.toList_inj]
  simp only [String.toList_append, String.toList_ofList]
  rfl

theorem sampleEvidence_listed : (sampleEvidence 'a' 0).map (·.id) =
    sampleDigits.map fun digits => String.ofList (sampleId digits) := by
  simp only [sampleEvidence, sampleDigits, List.map_cons, List.map_nil, List.cons.injEq, and_true]
  refine ⟨?_, ?_, ?_, ?_, ?_, ?_, ?_⟩
  · exact picked_id ['C', 'd', 'D'] _ (by decide) (by decide)
  · exact picked_id ['C', 'd', 'L'] _ (by decide) (by decide)
  · exact picked_id ['C', 'd', 'M'] _ (by decide) (by decide)
  · exact picked_id ['H', 'G', 'S'] _ (by decide) (by decide)
  · exact picked_id ['H', 'Q', 'Y'] _ (by decide) (by decide)
  · exact picked_id ['L', 'I', 'G'] _ (by decide) (by decide)
  · exact picked_id ['M', ':', 'H'] _ (by decide) (by decide)

theorem sampleEvidence_order :
    (sampleEvidence mark instant).map (·.id) = sorted ((sampleEvidence mark instant).map (·.id)) ∧
      ((sampleEvidence mark instant).map (·.id)).Nodup := by
  rw [sampleEvidence_ids, sampleEvidence_listed]
  constructor
  · apply Eq.symm
    apply sorted_eq
    rw [List.pairwise_map]
    simp only [codeUnits, String.toList_ofList]
    decide
  · rw [List.nodup_map_iff_inj_on (by decide)]
    intro first _ second _ same
    have equal := String.ofList_inj.mp same
    simpa [sampleId] using equal

theorem sampleComplete_status : statusIssues (sampleComplete mark instant) = [] := by
  simp only [statusIssues, sampleComplete, List.append_eq_nil_iff, issueUnless_nil]
  refine ⟨trivial, ?_⟩
  simp [isCanonicalEvidence, sampleEvidence, sampleDashboard, sampleModelPath, sampleModel,
    sampleGlossary, sampleQuery, sampleDashboardPath, sampleSchema, samplePath, sampleDraft,
    createEvidence, schemas, paths, dashboards, models, queries, glossaries, owners, only,
    isCanonicalSchema, hasCanonicalPath, isCanonicalDashboard, isCanonicalModel, isCanonicalQuery,
    isCanonicalGlossary, ownerKeys, declaredOwnerKeys, canonicalUrns_apart.symm]

/-- Every known retrieval is one of the run. -/
def SampleKnown (known : Invocations) : Prop :=
  ∀ id retrieval, known.get id = some retrieval → ∃ tool place,
    retrieval = sampleRetrieval mark instant tool place ∧ id = retrieval.invocationId

theorem sampleRetrieval_inj {first second : Tool} {left right : Char}
    (same : (sampleRetrieval mark instant first left).invocationId =
      (sampleRetrieval mark instant second right).invocationId) : first = second ∧ left = right := by
  simp only [sampleRetrieval, String.ofList_inj, List.cons.injEq, and_true, true_and] at same
  refine ⟨?_, same.2⟩
  have letters := same.1
  cases first <;> cases second <;> first | rfl | exact absurd letters (by decide)

theorem sampleKnown_set {known : Invocations} (kept : SampleKnown mark instant known) (tool : Tool)
    (place : Char) : SampleKnown mark instant (known.set (sampleRetrieval mark instant tool place)) := by
  intro id retrieval found
  rw [Invocations.get, Invocations.set, List.lookup_cons] at found
  split at found
  case h_1 same =>
      obtain rfl := Option.some.inj found
      exact ⟨tool, place, rfl, beq_iff_eq.mp same⟩
  case h_2 => exact kept id retrieval found

/-- The retrievals of one run do not contradict each other. -/
theorem sampleProvenance_issues (path : List PathItem) {entries : List Provenance}
    (ofRun : ∀ entry ∈ entries, ∃ tool place,
      entry.toRetrieval = sampleRetrieval mark instant tool place) :
    ∀ (index : ℕ) (previous : Option ℕ) (known : Invocations),
      (∀ time ∈ previous, time ≤ (sampleDate instant).time) → SampleKnown mark instant known →
      (provenanceIssues (sampleDate instant).time path index previous known entries).1 = [] ∧
        SampleKnown mark instant
          (provenanceIssues (sampleDate instant).time path index previous known entries).2 := by
  induction entries with
  | nil => exact fun _ _ known _ kept => ⟨rfl, kept⟩
  | cons entry rest ih =>
      intro index previous known earlier kept
      obtain ⟨tool, place, same⟩ := ofRun entry List.mem_cons_self
      have time : entry.retrievedAt = sampleDate instant := congrArg Retrieval.retrievedAt same
      have agrees : (known.get entry.invocationId).any (· ≠ entry.toRetrieval) = false := by
        cases found : known.get entry.invocationId with
        | none => rfl
        | some retrieval =>
            obtain ⟨other, letter, rfl, ids⟩ := kept _ _ found
            have equal : entry.toRetrieval.invocationId = _ := ids
            rw [same] at equal
            obtain ⟨rfl, rfl⟩ := sampleRetrieval_inj mark instant equal
            simp [same]
      have later := ih (fun other present => ofRun other (List.mem_cons_of_mem _ present))
        (index + 1) (some entry.retrievedAt.time) (known.set entry.toRetrieval)
        (by simp [time]) (same ▸ sampleKnown_set mark instant kept tool place)
      simp only [provenanceIssues, agrees, List.append_eq_nil_iff, issueUnless_nil, time]
      simp only [time] at later
      exact ⟨⟨⟨⟨le_refl _, earlier⟩, trivial⟩, later.1⟩, later.2⟩

theorem sampleDraft_steps (criticality : Criticality) (targetUrn : Option String)
    (relatedEvidenceIds : List String) (payload : EvidencePayload) :
    provenanceMatches (sampleDraft mark instant criticality targetUrn relatedEvidenceIds payload) =
      true := by
  cases payload <;> rfl

theorem sampleDraft_bindings {criticality : Criticality} {targetUrn : Option String}
    {relatedEvidenceIds : List String} {payload : EvidencePayload}
    (related : relatedEvidenceIds = [] ∨ ∃ item ∈ sampleEvidence mark instant,
      relatedEvidenceIds = [item.id])
    (kind : ∀ path, kindIssues (sampleEvidence mark instant)
      (sampleDraft mark instant criticality targetUrn relatedEvidenceIds payload) path = [])
    (path : List PathItem) : bindingIssues (sampleEvidence mark instant)
      (sampleDraft mark instant criticality targetUrn relatedEvidenceIds payload) path = [] := by
  have single := (sampleEvidence_order mark instant).2
  have ordered : relatedEvidenceIds = sorted relatedEvidenceIds := by
    rcases related with rfl | ⟨item, _, rfl⟩ <;> rfl
  have present : (relatedEvidenceIds.flatMap fun id =>
      issueUnless ((byId (sampleEvidence mark instant) id).isSome)
        (.custom ("Dangling related evidence id: " ++ id)) (below path "relatedEvidenceIds")) = [] := by
    rw [List.flatMap_eq_nil_iff]
    intro id isId
    rw [issueUnless_nil]
    rcases related with rfl | ⟨item, isItem, rfl⟩
    · simp at isId
    · rw [List.mem_singleton.mp isId, byId_mem single isItem]
      rfl
  simp only [bindingIssues, List.append_eq_nil_iff]
  exact ⟨⟨⟨⟨issueUnless_nil.mpr (sampleDraft_steps mark instant _ _ _ _),
    issueUnless_nil.mpr ordered⟩, present⟩, issueUnless_nil.mpr (Or.inr ⟨rfl, rfl⟩)⟩, kind path⟩

theorem sampleRelated {item found : EvidenceItem} (related : item.relatedEvidenceIds = [found.id])
    (isFound : found ∈ sampleEvidence mark instant) :
    Domain.related (sampleEvidence mark instant) item = some found := by
  rw [Domain.related, related]
  exact byId_mem (sampleEvidence_order mark instant).2 isFound

/-- An asset at the end of its path is bound to it. -/
theorem sampleAsset_matches {item : EvidenceItem} {criticality : Criticality}
    {through asset fieldName : String} (target : item.targetUrn = some asset)
    (related : item.relatedEvidenceIds = [(samplePath mark instant criticality through asset).id])
    (isPath : samplePath mark instant criticality through asset ∈ sampleEvidence mark instant)
    (field : ".customer_id".toList.isSuffixOf fieldName.toList = true) :
    assetMatches (sampleEvidence mark instant) item asset .production canonicalTags [] through
      fieldName := by
  have reaches : pathReaches (sampleEvidence mark instant) item asset through = true := by
    rw [pathReaches, sampleRelated mark instant related isPath]
    simp [samplePath, sampleDraft, createEvidence, reachesField, linksEntity, canonicalSegments]
  refine ⟨target, rfl, ?_, ?_, ?_, ?_, List.nodup_nil, rfl, field, reaches⟩
  · simp [canonicalTags_eq, canonicalTags_apart]
  · rw [canonicalTags_eq]
    exact canonicalTags_eq.symm
  · simp [canonicalTags_eq]
  · simp [canonicalTags_eq]

theorem samplePath_kind {criticality : Criticality} {through asset : String}
    (path : List PathItem) : kindIssues (sampleEvidence mark instant)
      (samplePath mark instant criticality through asset) path = [] := by
  have matched : pathMatches (samplePath mark instant criticality through asset)
      ⟨canonicalNodes through asset, canonicalSegments through asset⟩ := by
    refine ⟨rfl, rfl, rfl, ?_, ?_, rfl, rfl⟩
    · simp [segmentsMatchNodes, canonicalNodes, canonicalSegments, LineageSegment.sourceUrn,
        LineageSegment.targetUrn]
    · show (canonicalDatasetUrn == canonicalDatasetUrn &&
        canonicalNativeFieldPath == canonicalNativeFieldPath) = true
      simp
  exact issueUnless_nil.mpr matched

theorem sampleQuery_matches : queryMatches (sampleEvidence mark instant) (sampleQuery mark instant)
    ⟨canonicalQueryUrn, canonicalAnalyticsRevenueUrn, canonicalQuerySubjectFieldUrn,
      canonicalNativeFieldPath, canonicalQueryStatementFingerprint⟩ = true := by
  have isPath : sampleDashboardPath mark instant ∈ sampleEvidence mark instant := by
    simp [sampleEvidence]
  have found : Domain.related (sampleEvidence mark instant) (sampleQuery mark instant) =
      some (sampleDashboardPath mark instant) := by
    apply sampleRelated mark instant _ isPath
    rw [sampleQuery, sampleDraft, createEvidence]
  have target : (sampleQuery mark instant).targetUrn = some canonicalQueryUrn := rfl
  have payload : (sampleDashboardPath mark instant).payload = .lineagePath
      ⟨canonicalNodes canonicalAnalyticsRevenueUrn canonicalDashboardUrn,
        canonicalSegments canonicalAnalyticsRevenueUrn canonicalDashboardUrn⟩ := rfl
  have reaches : reachesField (canonicalSegments canonicalAnalyticsRevenueUrn canonicalDashboardUrn)
      canonicalAnalyticsRevenueUrn canonicalNativeFieldPath = true := by
    simp [reachesField, canonicalSegments]
  simp only [queryMatches, found, target, payload, reaches, Bool.and_true, Bool.and_eq_true]
  refine ⟨BEq.rfl, ?_⟩
  delta canonicalQuerySubjectFieldUrn
  exact BEq.rfl

theorem sampleEvidence_bindings : ∀ item ∈ sampleEvidence mark instant, ∀ path,
    bindingIssues (sampleEvidence mark instant) item path = [] := by
  have dashboardPath : sampleDashboardPath mark instant ∈ sampleEvidence mark instant := by
    simp [sampleEvidence]
  have modelPath : sampleModelPath mark instant ∈ sampleEvidence mark instant := by
    simp [sampleEvidence]
  have suffix : ∀ start : List Char, ".customer_id".toList.isSuffixOf
      (String.ofList (start ++ ['.', 'c', 'u', 's', 't', 'o', 'm', 'e', 'r', '_', 'i', 'd'])).toList =
        true := by
    intro start
    have word : ".customer_id".toList =
        ['.', 'c', 'u', 's', 't', 'o', 'm', 'e', 'r', '_', 'i', 'd'] := String.toList_ofList
    rw [word, String.toList_ofList, List.isSuffixOf_iff_suffix]
    exact List.suffix_append _ _
  rw [sampleEvidence]
  simp only [List.forall_mem_cons]
  rw [← sampleEvidence]
  refine ⟨?_, ?_, ?_, ?_, ?_, ?_, ?_, by simp⟩
  · apply sampleDraft_bindings mark instant (Or.inr ⟨_, dashboardPath, rfl⟩)
    intro path
    exact issueUnless_nil.mpr
      (sampleAsset_matches mark instant rfl rfl dashboardPath (suffix "analytics.customer_revenue".toList))
  · exact sampleDraft_bindings mark instant (Or.inl rfl) (samplePath_kind mark instant)
  · apply sampleDraft_bindings mark instant (Or.inr ⟨_, modelPath, rfl⟩)
    intro path
    rw [kindIssues]
    exact List.append_eq_nil_iff.mpr ⟨issueUnless_nil.mpr
      (sampleAsset_matches mark instant rfl rfl modelPath (suffix "fraud.customer_features".toList)),
      issueUnless_nil.mpr ⟨rfl, rfl⟩⟩
  · apply sampleDraft_bindings mark instant (Or.inl rfl)
    intro path
    exact issueUnless_nil.mpr ⟨rfl, rfl, rfl, rfl⟩
  · apply sampleDraft_bindings mark instant (Or.inr ⟨_, dashboardPath, rfl⟩)
    intro path
    exact issueUnless_nil.mpr (sampleQuery_matches mark instant)
  · exact sampleDraft_bindings mark instant (Or.inl rfl) (samplePath_kind mark instant)
  · apply sampleDraft_bindings mark instant (Or.inl rfl)
    intro path
    exact issueUnless_nil.mpr ⟨rfl, rfl, rfl, rfl⟩

/-- The loop over the items accepts them one by one. -/
theorem sampleEvidence_loop {data : ImpactContextData}
    (collected : data.collectedAt = sampleDate instant)
    (resolved : data.resolution.getLast?.map (·.retrievedAt) = some (sampleDate instant)) :
    ∀ {items : List EvidenceItem} (index : ℕ) (known : Invocations),
      SampleKnown mark instant known →
      (∀ item ∈ items, ∃ payload : EvidencePayload,
        item.provenance = sampleProvenance mark instant (semanticSteps payload)) →
      (∀ item ∈ items, ∀ path, bindingIssues data.evidence item path = []) →
      (evidenceIssues data index known items).1 = [] := by
  intro items
  induction items with
  | nil => exact fun _ _ _ _ _ => rfl
  | cons item rest ih =>
      intro index known kept steps bindings
      obtain ⟨payload, provenance⟩ := steps item List.mem_cons_self
      have single : (item.provenance.map (·.invocationId)).Nodup := by
        rw [provenance]
        cases payload <;> simp [sampleProvenance, semanticSteps, sampleRetrieval, toolLetter]
      have ofRun : ∀ entry ∈ item.provenance, ∃ tool place,
          entry.toRetrieval = sampleRetrieval mark instant tool place := by
        intro entry present
        rw [provenance, sampleProvenance, List.mem_map] at present
        obtain ⟨⟨step, letter⟩, _, rfl⟩ := present
        exact ⟨step.1, letter, rfl⟩
      have earlier : ∀ time ∈ data.resolution.getLast?.map (·.retrievedAt.time),
          time ≤ (sampleDate instant).time := by
        intro time isTime
        cases last : data.resolution.getLast? with
        | none => simp [last] at isTime
        | some entry =>
            simp only [last, Option.map_some, Option.some.injEq, Option.mem_def] at resolved isTime
            rw [← isTime, resolved]
      have first := sampleProvenance_issues mark instant [.field "evidence", .index index] ofRun 0
        (data.resolution.getLast?.map (·.retrievedAt.time)) known earlier kept
      have others := ih (index + 1) _ first.2
        (fun other present => steps other (List.mem_cons_of_mem _ present))
        (fun other present => bindings other (List.mem_cons_of_mem _ present))
      rw [← collected] at first others
      rw [evidenceIssues]
      simp only [List.append_eq_nil_iff]
      exact ⟨⟨⟨issueUnless_nil.mpr single, first.1⟩, bindings item List.mem_cons_self _⟩, others⟩

theorem sampleComplete_accepted :
    contextDataIssues sampleScript (sampleComplete mark instant) = [] := by
  have none : SampleKnown mark instant [] := by
    intro id retrieval found
    cases found
  have known : SampleKnown mark instant (resolutionInvocations (sampleComplete mark instant)) :=
    sampleKnown_set mark instant none .search '0'
  have steps : ∀ item ∈ sampleEvidence mark instant, ∃ payload : EvidencePayload,
      item.provenance = sampleProvenance mark instant (semanticSteps payload) := by
    simp only [sampleEvidence, List.forall_mem_cons]
    exact ⟨⟨_, rfl⟩, ⟨_, rfl⟩, ⟨_, rfl⟩, ⟨_, rfl⟩, ⟨_, rfl⟩, ⟨_, rfl⟩, ⟨_, rfl⟩, by simp⟩
  have loop : (evidenceIssues (sampleComplete mark instant) 0
      (resolutionInvocations (sampleComplete mark instant)) (sampleEvidence mark instant)).1 = [] :=
    sampleEvidence_loop mark instant rfl rfl 0 _ known steps (sampleEvidence_bindings mark instant)
  have valid : (sampleDate instant).Valid := Or.inl Nat.one_ne_zero
  have change : isPrefixedId "chg_" sampleChange.id = true := stableId_prefixed sampleScript "chg" _
  have shape : (sampleComplete mark instant).shapeIssues sampleScript = [] := by
    simp only [ImpactContextData.shapeIssues, List.append_eq_nil_iff, and_assoc]
    refine ⟨issueUnless_nil.mpr change, rfl, ?_,
      countIssues_nil.mpr ⟨le_refl 1, (by decide : 1 ≤ 8)⟩, dateIssues_nil.mpr valid,
      eachIssues_of (sampleEvidence_shape mark instant),
      issueUnless_nil.mpr (by decide : 7 ≤ 200), rfl, issueUnless_nil.mpr (by decide : 0 ≤ 20)⟩
    apply eachIssues_of
    intro entry present place
    rw [List.mem_singleton.mp present]
    exact sampleRetrieval_issues mark instant .search '0' place
  have order : orderIssues (sampleComplete mark instant) = [] := by
    obtain ⟨ordered, single⟩ := sampleEvidence_order mark instant
    simp only [orderIssues, List.append_eq_nil_iff, and_assoc]
    refine ⟨issueUnless_nil.mpr (List.nodup_singleton _), ?_, issueUnless_nil.mpr ordered,
      issueUnless_nil.mpr List.nodup_nil, issueUnless_nil.mpr rfl, issueUnless_nil.mpr single⟩
    simp [sampleComplete, resolutionIssues]
  rw [contextDataIssues]
  simp only [List.append_eq_nil_iff, and_assoc]
  exact ⟨shape, order, loop, sampleComplete_status mark instant, rfl⟩

theorem sampleChange_accepted : proposedChangeIssues sampleScript sampleChange = [] := by
  have sha : ∀ chars, isHex 40 chars = true → isGitSha (String.ofList chars) = true := by
    intro chars digits
    rw [isGitSha, String.toList_ofList, digits, Bool.true_or]
  have lengths : utf16Length (String.ofList (List.replicate 40 'a')) =
      utf16Length (String.ofList (List.replicate 40 'b')) := by
    rw [utf16Length_ofList, utf16Length_ofList]
    rfl
  have digest : ∀ value, isFingerprint (hexText value) = true := fun value =>
    isFingerprint_of (hexText_length value) (hexText_chars value)
  have files : eachIssues ["a"] [.field "files"] safeRepositoryPathIssues = [] := by
    decide
  have repository : isRepository "a/b" = true := by
    decide
  have different : String.ofList (List.replicate 40 'a') ≠ String.ofList (List.replicate 40 'b') := by
    rw [ne_eq, String.ofList_inj]
    decide
  have identity : sampleChange.identity = sampleProposal.identity := rfl
  simp only [proposedChangeIssues, ProposedChange.shapeIssues, List.append_eq_nil_iff, and_assoc,
    identity]
  exact ⟨issueUnless_nil.mpr (stableId_prefixed sampleScript "chg" _),
    fingerprintIssues_nil.mpr (digest_fingerprint sampleScript _),
    fingerprintIssues_nil.mpr (digest 0), lengthIssues_ofList (by decide) _,
    issueUnless_nil.mpr repository, issueUnless_nil.mpr (sha _ (by decide)),
    issueUnless_nil.mpr (sha _ (by decide)), files, countIssues_nil.mpr (by decide),
    issueUnless_nil.mpr different, issueUnless_nil.mpr lengths, issueUnless_nil.mpr rfl,
    issueUnless_nil.mpr rfl⟩

def sampleRun : Domain.ImpactContext :=
  ⟨sampleComplete mark instant,
    computeImpactContextFingerprint sampleScript (sampleComplete mark instant),
    computeImpactCollectionFingerprint sampleScript Spelling.sample (sampleComplete mark instant)⟩

theorem sampleRun_accepted :
    impactContextIssues sampleScript Spelling.sample (sampleRun mark instant) = [] :=
  fingerprinted_accepted rfl (sampleComplete_accepted mark instant)

theorem sampleRun_compared : ∃ comparison, compareAuthoritativeRisk sampleScript Spelling.sample
    sampleChange (sampleRun mark instant) (sampleDate instant) (sampleDate instant) =
      .ok comparison := by
  have valid : (sampleDate instant).Valid := Or.inl Nat.one_ne_zero
  have retrieved : ∀ item ∈ sampleEvidence mark instant, ∀ entry ∈ item.provenance,
      entry.retrievedAt = sampleDate instant := by
    have steps : ∀ (payload : EvidencePayload),
        ∀ entry ∈ sampleProvenance mark instant (semanticSteps payload),
          entry.retrievedAt = sampleDate instant := by
      intro payload entry present
      rw [sampleProvenance, List.mem_map] at present
      obtain ⟨⟨step, letter⟩, _, rfl⟩ := present
      rfl
    simp only [sampleEvidence, List.forall_mem_cons]
    exact ⟨steps _, steps _, steps _, steps _, steps _, steps _, steps _, by simp⟩
  have timely : evaluationTimes (sampleRun mark instant) (sampleDate instant) = .ok () := by
    simp only [evaluationTimes, bind_ok, reject_ok, not_lt, not_exists, not_and]
    refine ⟨(), le_refl _, ?_⟩
    intro item present entry isEntry
    rw [retrieved item present entry isEntry]
  exact compare_total sampleChange_accepted (sampleRun_accepted mark instant) rfl rfl valid valid
    timely

theorem sampleDraft_bare (criticality : Criticality) (targetUrn : Option String)
    (relatedEvidenceIds : List String) (payload : EvidencePayload) :
    (sampleDraft mark instant criticality targetUrn relatedEvidenceIds
      payload).toEvidenceDraft.bare = ⟨canonicalDatasetUrn, targetUrn, some canonicalFieldPath, "a",
        "a", criticality, [], relatedEvidenceIds, payload.bare⟩ := rfl

theorem sampleRun_same :
    SameMeaning (sampleRun 'a' 0).toImpactContextData (sampleRun 'b' 1000).toImpactContextData where
  changeId := rfl
  collectionStatus := rfl
  evidence := by
    have ids := sampleEvidence_ids 'b' 1000
    simp only [sampleEvidence, List.map_cons, List.cons.injEq] at ids
    obtain ⟨_, modelPath, _, _, _, dashboardPath, _⟩ := ids
    apply List.Perm.of_eq
    simp only [sampleRun, sampleComplete, sampleEvidence, sampleDashboard, sampleModel,
      sampleQuery, dashboardPath, modelPath, List.map_cons, List.map_nil, sampleDraft_bare]
    simp only [sampleDashboardPath, sampleModelPath, samplePath, sampleGlossary, sampleSchema,
      sampleDraft_bare, EvidencePayload.bare, TrainingDataReceipt.bare]
  failures := List.Perm.refl _

/-- The two runs differ in every invocation, in every date and in every response. -/
theorem publication_identity_sample : ∃ firstComparison secondComparison,
    (∃ firstCandidate secondCandidate,
      buildCanonicalCandidate localeLe sampleChange (sampleRun 'a' 0) firstComparison none =
        .ok firstCandidate ∧
      buildCanonicalCandidate localeLe sampleChange (sampleRun 'b' 1000) secondComparison
        (some "another rationale") = .ok secondCandidate ∧
      ∀ prNumber, publicationNames sampleScript prNumber firstCandidate =
        publicationNames sampleScript prNumber secondCandidate) := by
  obtain ⟨firstComparison, firstCompared⟩ := sampleRun_compared 'a' 0
  obtain ⟨secondComparison, secondCompared⟩ := sampleRun_compared 'b' 1000
  exact ⟨firstComparison, secondComparison,
    (publication_identity sampleScript Spelling.sample localeLe sampleChange (sampleRun 'a' 0)
      (sampleRun 'b' 1000) (sampleRun_accepted 'a' 0) (sampleRun_accepted 'b' 1000) sampleRun_same
      _ _ _ _ firstComparison secondComparison firstCompared secondCompared none
      (some "another rationale")).1⟩

end Sample

end LineageGuard.Agent
