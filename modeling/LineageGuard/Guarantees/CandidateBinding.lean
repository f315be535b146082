import LineageGuard.Domain.CandidateBinding
import LineageGuard.Guarantees.CandidateRequest
import LineageGuard.Guarantees.GroundedRisk
import Mathlib.Tactic

/-
This file proves what an accepted candidate has in common with its context and its assessment.
-/

namespace LineageGuard.Domain

open Json Attempt

section Acceptance

variable {script : Script} {spelling : Spelling} {candidate : Domain.MigrationCandidate}
variable {change : ProposedChange} {context : Domain.ImpactContext} {assessment : RiskAssessment}

theorem sameTexts_iff {first second : List String} :
    sameTexts script first second ↔ first = second := by
  rw [sameTexts, stringify_eq script _ (texts_plain first), stringify_eq script _ (texts_plain second)]
  constructor
  · exact fun same => texts_injective (text_inj same)
  · exact congrArg fun found => text (texts found)

/-- The unresolved owners escalate the assets that the fifth rule names. -/
def Escalates (evidence : List EvidenceItem) (reasons : List RiskReason)
    (reviewers : List MigrationReviewer) : Prop :=
  ∃ expected, List.Forall₂ (fun id key => expectedEscalation evidence id = .ok key)
    (lg005Ids reasons) expected ∧
    sorted ((reviewers.filterMap MigrationReviewer.escalated).map escalationKey) = sorted expected

/-- These are the checks that an accepted candidate passes. -/
structure BoundCandidate (script : Script) (spelling : Spelling)
    (candidate : Domain.MigrationCandidate) (change : ProposedChange)
    (context : Domain.ImpactContext) (assessment : RiskAssessment) : Prop where
  wellFormed : migrationCandidateIssues candidate = []
  changed : proposedChangeIssues script change = []
  known : impactContextIssues script spelling context = []
  assessed : bindGroundedRiskAssessment script spelling change context assessment =
    .ok assessment
  source : checkSource candidate change context assessment = .ok ()
  cited : candidate.sourceEvidenceIds = reasonEvidence assessment.reasons
  within : ∀ id ∈ candidate.sourceEvidenceIds, id ∈ context.evidence.map (·.id)
  count : (candidate.requiredReviewers.filterMap MigrationReviewer.owned).length =
    (ownerAssets context.evidence).length
  owned : ∀ reviewer ∈ candidate.requiredReviewers.filterMap MigrationReviewer.owned,
    reviewer.2 = sorted (((ownerAssets context.evidence).lookup reviewer.1).getD [])
  escalated : Escalates context.evidence assessment.reasons candidate.requiredReviewers
  base : ∀ artifact ∈ candidate.artifacts, ∀ sha ∈ artifact.expectedBaseSha, sha = change.baseSha

theorem grounded_returns {result : RiskAssessment}
    (grounded : bindGroundedRiskAssessment script spelling change context assessment =
      .ok result) : riskAssessmentIssues assessment [] = [] ∧ result = assessment := by
  simp only [bindGroundedRiskAssessment, bind_ok, parse_ok, require_ok] at grounded
  obtain ⟨_, _, _, _, _, ⟨accepted, rfl⟩, _, _, _, _, _, _, returned⟩ := grounded
  refine ⟨accepted, ?_⟩
  split at returned
  · exact (pure_ok.mp returned).symm
  · cases returned

theorem checkEvidence_ok {done : Unit} : checkEvidence script candidate context assessment = .ok done ↔
    candidate.sourceEvidenceIds = reasonEvidence assessment.reasons ∧
      ∀ id ∈ candidate.sourceEvidenceIds, id ∈ context.evidence.map (·.id) := by
  simp only [checkEvidence, bind_ok, require_ok, reject_ok, exists_const, sameTexts_iff, not_exists,
    not_and, not_not]

theorem checkOwners_ok {done : Unit} : checkOwners script candidate context = .ok done ↔
    (candidate.requiredReviewers.filterMap MigrationReviewer.owned).length =
      (ownerAssets context.evidence).length ∧
    ∀ reviewer ∈ candidate.requiredReviewers.filterMap MigrationReviewer.owned,
      reviewer.2 = sorted (((ownerAssets context.evidence).lookup reviewer.1).getD []) := by
  simp only [checkOwners, bind_ok, require_ok, exists_const, sameTexts_iff]

theorem checkEscalations_ok {done : Unit} : checkEscalations script candidate context assessment = .ok done ↔
    Escalates context.evidence assessment.reasons candidate.requiredReviewers := by
  simp only [checkEscalations, bind_ok, require_ok, mapM_ok, sameTexts_iff, Escalates]

theorem bindMigrationCandidate_ok {result : Domain.MigrationCandidate} :
    bindMigrationCandidate script spelling candidate change context assessment = .ok result ↔
      BoundCandidate script spelling candidate change context assessment ∧ result = candidate := by
  simp only [bindMigrationCandidate, bind_ok, parse_ok, reject_ok, pure_ok, checkEvidence_ok,
    checkOwners_ok, checkEscalations_ok, exists_const, not_exists, not_and, not_not]
  constructor
  · rintro ⟨_, ⟨wellFormed, rfl⟩, _, ⟨changed, rfl⟩, _, ⟨known, rfl⟩, _, assessed, ⟨⟩, source,
      ⟨cited, within⟩, ⟨count, owned⟩, escalated, base, rfl⟩
    obtain ⟨_, rfl⟩ := grounded_returns assessed
    exact ⟨⟨wellFormed, changed, known, assessed, source, cited, within, count, owned, escalated,
      base⟩, rfl⟩
  · rintro ⟨bound, rfl⟩
    exact ⟨_, ⟨bound.wellFormed, rfl⟩, _, ⟨bound.changed, rfl⟩, _, ⟨bound.known, rfl⟩, _,
      bound.assessed, (), bound.source, ⟨bound.cited, bound.within⟩, ⟨bound.count, bound.owned⟩,
      bound.escalated, bound.base, rfl⟩

end Acceptance

section Owners

variable {candidate : Domain.MigrationCandidate} {evidence : List EvidenceItem}
variable {reviewers : List MigrationReviewer}

/-- The schema tells the reviewers of a candidate apart and puts them in order. -/
structure OrderedReviewers (reviewers : List MigrationReviewer) : Prop where
  single : (reviewers.map reviewerKey).Nodup
  ordered : reviewers.map reviewerKey = sorted (reviewers.map reviewerKey)
  each : ∀ reviewer ∈ reviewers, ∃ place, reviewer.issues place = []

theorem wellFormed_reviewers (accepted : migrationCandidateIssues candidate = []) :
    OrderedReviewers candidate.requiredReviewers := by
  rw [migrationCandidateIssues, List.append_eq_nil_iff] at accepted
  obtain ⟨shape, refinement⟩ := accepted
  simp only [Domain.MigrationCandidate.shapeIssues, List.append_eq_nil_iff, and_assoc] at shape
  simp only [Domain.MigrationCandidate.refinementIssues, List.append_eq_nil_iff, issueUnless_nil,
    and_assoc] at refinement
  obtain ⟨_, _, _, _, _, _, _, _, _, _, each, _⟩ := shape
  obtain ⟨_, _, _, _, _, _, ⟨single, ordered⟩, _⟩ := refinement
  exact ⟨single, ordered, eachIssues_nil each⟩

theorem owned_single (single : (reviewers.map reviewerKey).Nodup) :
    ((reviewers.filterMap MigrationReviewer.owned).map Prod.fst).Nodup := by
  rw [List.Nodup, List.pairwise_map, List.pairwise_filterMap]
  refine (List.pairwise_map.mp single).imp ?_
  intro first second differ found isFound other isOther same
  cases first with
  | unresolvedOwner => cases isFound
  | owner firstUrn _ _ =>
      cases second with
      | unresolvedOwner => cases isOther
      | owner secondUrn _ _ =>
          cases isFound
          cases isOther
          exact differ (congrArg ("OWNER:" ++ ·) same)

theorem owned_filled (each : ∀ reviewer ∈ reviewers, ∃ place, reviewer.issues place = [])
    {pair : String × List String} (present : pair ∈ reviewers.filterMap MigrationReviewer.owned) :
    pair.2 ≠ [] := by
  obtain ⟨reviewer, isReviewer, isPair⟩ := List.mem_filterMap.mp present
  obtain ⟨place, accepted⟩ := each reviewer isReviewer
  cases reviewer with
  | unresolvedOwner => cases isPair
  | owner ownerUrn assets reason =>
      cases isPair
      simp only [MigrationReviewer.issues, List.append_eq_nil_iff, urnListIssues] at accepted
      obtain ⟨⟨_, _, count⟩, _⟩ := accepted
      exact List.ne_nil_of_length_pos (countIssues_nil.mp count).1

/-- These are the assets of one owner. -/
def assetsOf (evidence : List EvidenceItem) (ownerUrn : String) : List String :=
  OrderedMap.valuesAt ((owners evidence).map fun owner => (owner.ownerUrn, owner.assetUrn)) ownerUrn

theorem mem_assetsOf {ownerUrn assetUrn : String} : assetUrn ∈ assetsOf evidence ownerUrn ↔
    ∃ owner ∈ owners evidence, owner.ownerUrn = ownerUrn ∧ owner.assetUrn = assetUrn := by
  rw [assetsOf, OrderedMap.valuesAt, List.mem_map]
  constructor
  · rintro ⟨pair, isPair, rfl⟩
    obtain ⟨isPair, same⟩ := List.mem_filter.mp isPair
    obtain ⟨owner, isOwner, rfl⟩ := List.mem_map.mp isPair
    exact ⟨owner, isOwner, of_decide_eq_true same, rfl⟩
  · rintro ⟨owner, isOwner, same, rfl⟩
    exact ⟨_, List.mem_filter.mpr ⟨List.mem_map_of_mem isOwner, decide_eq_true same⟩, rfl⟩

/-- The owners are those of the evidence, each once and with all its assets. -/
structure OwnersGrouped (evidence : List EvidenceItem) (reviewers : List MigrationReviewer) :
    Prop where
  single : ((reviewers.filterMap MigrationReviewer.owned).map Prod.fst).Nodup
  exact : ∀ ownerUrn assets, (ownerUrn, assets) ∈ reviewers.filterMap MigrationReviewer.owned ↔
    ownerUrn ∈ (owners evidence).map (·.ownerUrn) ∧ assets = sorted (assetsOf evidence ownerUrn)

theorem owners_grouped (ordered : OrderedReviewers reviewers)
    (count : (reviewers.filterMap MigrationReviewer.owned).length = (ownerAssets evidence).length)
    (owned : ∀ reviewer ∈ reviewers.filterMap MigrationReviewer.owned,
      reviewer.2 = sorted (((ownerAssets evidence).lookup reviewer.1).getD [])) :
    OwnersGrouped evidence reviewers := by
  have single := owned_single ordered.single
  have keys : ∀ ownerUrn, ownerUrn ∈ (ownerAssets evidence).map Prod.fst ↔
      ownerUrn ∈ (owners evidence).map (·.ownerUrn) := by
    intro ownerUrn
    rw [ownerAssets, OrderedMap.mem_group_keys, List.map_map]
    rfl
  have grouped : ∀ reviewer ∈ reviewers.filterMap MigrationReviewer.owned,
      reviewer.2 = sorted (assetsOf evidence reviewer.1) := by
    intro reviewer present
    rw [owned reviewer present, ownerAssets, OrderedMap.lookup_group, assetsOf]
  have known : ∀ ownerUrn ∈ (reviewers.filterMap MigrationReviewer.owned).map Prod.fst,
      ownerUrn ∈ (ownerAssets evidence).map Prod.fst := by
    intro ownerUrn present
    obtain ⟨reviewer, isReviewer, rfl⟩ := List.mem_map.mp present
    by_contra absent
    have filled := owned_filled ordered.each isReviewer
    rw [owned reviewer isReviewer, OrderedMap.lookup_none.mpr absent] at filled
    exact filled rfl
  have same : ((reviewers.filterMap MigrationReviewer.owned).map Prod.fst).Perm
      ((ownerAssets evidence).map Prod.fst) := by
    apply (List.subperm_of_subset single known).perm_of_length_le
    rw [List.length_map, List.length_map, count]
  refine ⟨single, fun ownerUrn assets => ⟨fun present => ?_, ?_⟩⟩
  · exact ⟨(keys ownerUrn).mp (known ownerUrn (List.mem_map_of_mem present)),
      grouped _ present⟩
  · rintro ⟨isOwner, rfl⟩
    obtain ⟨reviewer, isReviewer, rfl⟩ :=
      List.mem_map.mp (same.mem_iff.mpr ((keys ownerUrn).mpr isOwner))
    rw [← grouped reviewer isReviewer]
    exact isReviewer

end Owners

section Escalations

variable {script : Script} {data : ImpactContextData} {reasons : List RiskReason}
variable {reviewers : List MigrationReviewer}

theorem escalationKey_inj {first second : String × String}
    (firstId : isPrefixedId "ev_" first.1 = true) (secondId : isPrefixedId "ev_" second.1 = true)
    (same : escalationKey first = escalationKey second) : first = second := by
  have long : ∀ id, isPrefixedId "ev_" id = true → id.toList.length = 27 := by
    intro id prefixed
    simp only [isPrefixedId, isHex, Bool.and_eq_true, beq_iff_eq] at prefixed
    obtain ⟨start, ⟨digits, _⟩⟩ := prefixed
    have three : "ev_".toList.length = 3 := rfl
    have lengths := congrArg List.length start
    rw [three, List.length_take] at lengths
    rw [three, List.length_drop] at digits
    omega
  have lists := congrArg String.toList same
  simp only [escalationKey, String.toList_append] at lists
  obtain ⟨start, rest⟩ := List.append_inj lists (by
    rw [List.length_append, List.length_append, long _ firstId, long _ secondId])
  have ids := List.append_inj_left start ((long _ firstId).trans (long _ secondId).symm)
  exact Prod.ext (String.toList_inj.mp ids) (String.toList_inj.mp rest)

theorem escalated_single (single : (reviewers.map reviewerKey).Nodup) :
    (reviewers.filterMap MigrationReviewer.escalated).Nodup := by
  rw [List.Nodup, List.pairwise_filterMap]
  refine (List.pairwise_map.mp single).imp ?_
  intro first second differ found isFound other isOther same
  cases first with
  | owner => cases isFound
  | unresolvedOwner firstId firstUrn _ =>
      cases second with
      | owner => cases isOther
      | unresolvedOwner secondId secondUrn _ =>
          cases isFound
          cases isOther
          cases same
          exact differ rfl

theorem escalated_id (each : ∀ reviewer ∈ reviewers, ∃ place, reviewer.issues place = [])
    {pair : String × String} (present : pair ∈ reviewers.filterMap MigrationReviewer.escalated) :
    isPrefixedId "ev_" pair.1 = true := by
  obtain ⟨reviewer, isReviewer, isPair⟩ := List.mem_filterMap.mp present
  obtain ⟨place, accepted⟩ := each reviewer isReviewer
  cases reviewer with
  | owner => cases isPair
  | unresolvedOwner evidenceId assetUrn reason =>
      cases isPair
      simp only [MigrationReviewer.issues, List.append_eq_nil_iff] at accepted
      exact issueUnless_nil.mp accepted.1.1

/-- A reason of the fifth rule is the only one. -/
theorem mem_lg005Ids (single : (reasons.map fun reason => ruleOrder reason.ruleId).Nodup)
    {id : String} : id ∈ lg005Ids reasons ↔
      ∃ reason ∈ reasons, reason.ruleId = .lg005 ∧ id ∈ reason.evidenceIds := by
  rw [lg005Ids]
  cases found : reasons.find? fun reason => reason.ruleId = .lg005 with
  | none =>
      have absent := List.find?_eq_none.mp found
      simp only [decide_eq_true_eq] at absent
      constructor
      · intro present
        cases present
      · rintro ⟨reason, isReason, isRule, _⟩
        exact absurd isRule (absent reason isReason)
  | some reason =>
      have isReason := List.mem_of_find?_eq_some found
      have isRule : reason.ruleId = .lg005 := by simpa using List.find?_some found
      constructor
      · exact fun present => ⟨reason, isReason, isRule, present⟩
      · rintro ⟨other, isOther, alsoRule, present⟩
        rw [List.inj_on_of_nodup_map single isOther isReason (by rw [alsoRule, isRule])] at present
        exact present

/-- The item of an identifier is the only one. -/
theorem expectedEscalation_ok {evidence : List EvidenceItem}
    (single : (evidence.map (·.id)).Nodup) {id key : String} :
    expectedEscalation evidence id = .ok key ↔ ∃ item ∈ evidence, item.id = id ∧
      ∃ assetUrn, affectedAsset item = some assetUrn ∧ key = escalationKey (id, assetUrn) := by
  simp only [expectedEscalation, bind_ok, present_ok, pure_ok, Option.bind_eq_some_iff]
  constructor
  · rintro ⟨assetUrn, ⟨item, found, isAsset⟩, rfl⟩
    have isId : item.id = id := by simpa using List.find?_some found
    exact ⟨item, List.mem_of_find?_eq_some found, isId, assetUrn, isAsset, rfl⟩
  · rintro ⟨item, isItem, rfl, assetUrn, isAsset, rfl⟩
    refine ⟨assetUrn, ⟨item, ?_, isAsset⟩, rfl⟩
    cases first : evidence.find? fun other => other.id = item.id with
    | none =>
        have absent := List.find?_eq_none.mp first item isItem
        exact absurd (decide_eq_true rfl) absent
    | some other =>
        have same : other.id = item.id := by simpa using List.find?_some first
        rw [List.inj_on_of_nodup_map single (List.mem_of_find?_eq_some first) isItem same]

/-- The escalated assets are those that the fifth rule names, each once. -/
structure EscalationsExact (evidence : List EvidenceItem) (reasons : List RiskReason)
    (reviewers : List MigrationReviewer) : Prop where
  single : (reviewers.filterMap MigrationReviewer.escalated).Nodup
  exact : ∀ evidenceId assetUrn,
    (evidenceId, assetUrn) ∈ reviewers.filterMap MigrationReviewer.escalated ↔
      (∃ reason ∈ reasons, reason.ruleId = .lg005 ∧ evidenceId ∈ reason.evidenceIds) ∧
        ∃ item ∈ evidence, item.id = evidenceId ∧ affectedAsset item = some assetUrn

theorem sorted_same {first second : List String} (same : sorted first = sorted second) :
    first.Perm second := by
  have firstPerm := List.perm_insertionSort (fun left right => codeUnits left ≤ codeUnits right) first
  have secondPerm :=
    List.perm_insertionSort (fun left right => codeUnits left ≤ codeUnits right) second
  rw [sorted, sorted] at same
  exact firstPerm.symm.trans ((List.Perm.of_eq same).trans secondPerm)

theorem escalations_exact {evidence : List EvidenceItem} (known : (evidence.map (·.id)).Nodup)
    (rules : (reasons.map fun reason => ruleOrder reason.ruleId).Nodup)
    (ids : ∀ reason ∈ reasons, ∀ id ∈ reason.evidenceIds, isPrefixedId "ev_" id = true)
    (ordered : OrderedReviewers reviewers) (escalates : Escalates evidence reasons reviewers) :
    EscalationsExact evidence reasons reviewers := by
  obtain ⟨expected, each, same⟩ := escalates
  have perm := sorted_same same
  refine ⟨escalated_single ordered.single, fun evidenceId assetUrn => ?_⟩
  rw [← mem_lg005Ids rules]
  have listed : ∀ id ∈ lg005Ids reasons, isPrefixedId "ev_" id = true := by
    intro id present
    obtain ⟨reason, isReason, _, cited⟩ := (mem_lg005Ids rules).mp present
    exact ids reason isReason id cited
  constructor
  · intro present
    have inExpected := perm.mem_iff.mp (List.mem_map_of_mem present)
    obtain ⟨index, within, isKey⟩ := List.mem_iff_getElem.mp inExpected
    have position : index < (lg005Ids reasons).length := each.length_eq ▸ within
    have made := (List.forall₂_iff_get.mp each).2 index position within
    obtain ⟨item, isItem, isId, asset, isAsset, key⟩ := (expectedEscalation_ok known).mp made
    have cited : (lg005Ids reasons)[index] ∈ lg005Ids reasons := List.getElem_mem position
    have pairs := escalationKey_inj (escalated_id ordered.each present) (listed _ cited)
      (isKey.symm.trans key)
    obtain ⟨rfl, rfl⟩ := Prod.mk.inj pairs
    exact ⟨cited, item, isItem, isId, isAsset⟩
  · rintro ⟨cited, item, isItem, rfl, isAsset⟩
    obtain ⟨index, position, isId⟩ := List.mem_iff_getElem.mp cited
    have within : index < expected.length := each.length_eq ▸ position
    have made := (List.forall₂_iff_get.mp each).2 index position within
    have key := (expectedEscalation_ok known).mpr ⟨item, isItem, rfl, assetUrn, isAsset, rfl⟩
    rw [List.get_eq_getElem, isId] at made
    have isKey := Except.ok.inj (made.symm.trans key)
    have inExpected : escalationKey (item.id, assetUrn) ∈ expected :=
      isKey ▸ List.getElem_mem within
    obtain ⟨pair, isPair, sameKey⟩ := List.mem_map.mp (perm.mem_iff.mpr inExpected)
    rw [← escalationKey_inj (escalated_id ordered.each isPair) (listed _ cited) sameKey]
    exact isPair

end Escalations

section Artifacts

variable {candidate : Domain.MigrationCandidate}

/-- One step alone names the artifact, once and in a phase of its kind. -/
def UsedOnce (candidate : Domain.MigrationCandidate) (artifact : MigrationArtifact) : Prop :=
  ∃ before step after, candidate.steps = before ++ step :: after ∧
    step.artifactTargets.count artifact.path = 1 ∧
    phaseKinds step.phase artifact.kind = true ∧
    ∀ other ∈ before ++ after, artifact.path ∉ other.artifactTargets

theorem count_split {Item : Type} {targets : Item → List String} {path : String} :
    ∀ {steps : List Item}, (steps.flatMap targets).count path = 1 →
      ∃ before step after, steps = before ++ step :: after ∧ (targets step).count path = 1 ∧
        ∀ other ∈ before ++ after, path ∉ targets other := by
  intro steps once
  induction steps with
  | nil => cases once
  | cons step rest ih =>
      rw [List.flatMap_cons, List.count_append] at once
      by_cases here : (targets step).count path = 0
      · obtain ⟨before, found, after, rfl, single, absent⟩ := ih (by omega)
        refine ⟨step :: before, found, after, rfl, single, ?_⟩
        intro other present
        rcases List.mem_cons.mp present with rfl | later
        · exact List.count_eq_zero.mp here
        · exact absent other later
      · refine ⟨[], step, rest, rfl, by omega, ?_⟩
        intro other present named
        have none : (rest.flatMap targets).count path = 0 := by omega
        exact List.count_eq_zero.mp none (List.mem_flatMap.mpr ⟨other, present, named⟩)

theorem artifactAt_single {artifacts : List MigrationArtifact}
    (single : (artifacts.map (·.path)).Nodup) {artifact : MigrationArtifact}
    (present : artifact ∈ artifacts) : artifactAt artifacts artifact.path = some artifact := by
  cases found : artifactAt artifacts artifact.path with
  | none =>
      have absent := List.find?_eq_none.mp found artifact (List.mem_reverse.mpr present)
      exact absurd (decide_eq_true rfl) absent
  | some other =>
      have same : other.path = artifact.path := by simpa using List.find?_some found
      have isOther := List.mem_reverse.mp (List.mem_of_find?_eq_some found)
      rw [List.inj_on_of_nodup_map single isOther present same]

theorem artifacts_used (accepted : migrationCandidateIssues candidate = []) :
    ∀ artifact ∈ candidate.artifacts, UsedOnce candidate artifact := by
  rw [migrationCandidateIssues, List.append_eq_nil_iff] at accepted
  obtain ⟨_, refinement⟩ := accepted
  simp only [Domain.MigrationCandidate.refinementIssues, List.append_eq_nil_iff, issueUnless_nil,
    and_assoc] at refinement
  obtain ⟨_, _, _, _, single, _, _, _, _, _, _, _, targets, references⟩ := refinement
  intro artifact present
  have once := issueUnless_nil.mp (List.flatMap_eq_nil_iff.mp references artifact present)
  obtain ⟨before, step, after, split, named, absent⟩ := count_split once
  have isStep : step ∈ candidate.steps := by
    rw [split]
    exact List.mem_append_right _ List.mem_cons_self
  obtain ⟨place, compatible⟩ := eachIssues_nil targets step isStep
  have target : artifact.path ∈ step.artifactTargets :=
    List.count_pos_iff.mp (by omega)
  have checked := List.flatMap_eq_nil_iff.mp compatible artifact.path target
  rw [artifactAt_single single present] at checked
  exact ⟨before, step, after, split, named, issueUnless_nil.mp checked, absent⟩

end Artifacts

section Evidence

variable {script : Script} {spelling : Spelling} {candidate : Domain.MigrationCandidate}
variable {change : ProposedChange} {context : Domain.ImpactContext} {assessment : RiskAssessment}

/-- The candidate cites each item that a reason cites, once and in order. -/
structure EvidenceExact (reasons : List RiskReason) (cited : List String) : Prop where
  single : cited.Nodup
  ordered : cited = sorted cited
  exact : ∀ id, id ∈ cited ↔ ∃ reason ∈ reasons, id ∈ reason.evidenceIds

theorem reasonEvidence_exact (reasons : List RiskReason) :
    EvidenceExact reasons (reasonEvidence reasons) := by
  refine ⟨Agent.reasonEvidence_nodup reasons, (sorted_eq (sorted_pairwise _)).symm, ?_⟩
  intro id
  rw [reasonEvidence, sorted, (List.perm_insertionSort _ _).mem_iff, List.mem_dedup,
    List.mem_flatMap]

theorem assessed_rules (accepted : riskAssessmentIssues assessment [] = []) :
    (assessment.reasons.map fun reason => ruleOrder reason.ruleId).Nodup ∧
      ∀ reason ∈ assessment.reasons, ∀ id ∈ reason.evidenceIds, isPrefixedId "ev_" id = true := by
  simp only [riskAssessmentIssues, List.append_eq_nil_iff, issueUnless_nil, and_assoc] at accepted
  obtain ⟨_, _, each, _, _, single, _⟩ := accepted
  refine ⟨single, fun reason isReason id cited => ?_⟩
  obtain ⟨place, checked⟩ := eachIssues_nil each reason isReason
  simp only [RiskReason.issues, List.append_eq_nil_iff, and_assoc] at checked
  obtain ⟨place, checked⟩ := eachIssues_nil checked.2.1 id cited
  exact issueUnless_nil.mp checked

/-- The candidate says of its owners, assets, evidence and artifacts what the context says. -/
structure BindsExactly (candidate : Domain.MigrationCandidate) (context : Domain.ImpactContext)
    (assessment : RiskAssessment) : Prop where
  owners : OwnersGrouped context.evidence candidate.requiredReviewers
  escalations : EscalationsExact context.evidence assessment.reasons candidate.requiredReviewers
  evidence : EvidenceExact assessment.reasons candidate.sourceEvidenceIds
  artifacts : ∀ artifact ∈ candidate.artifacts, UsedOnce candidate artifact

theorem binds_exactly (bound : BoundCandidate script spelling candidate change context assessment) :
    BindsExactly candidate context assessment := by
  obtain ⟨_, _, _, _, _, data⟩ := impactContextIssues_nil.mp bound.known
  obtain ⟨rules, ids⟩ := assessed_rules (grounded_returns bound.assessed).1
  have ordered := wellFormed_reviewers bound.wellFormed
  have cited := reasonEvidence_exact assessment.reasons
  rw [← bound.cited] at cited
  exact ⟨owners_grouped ordered bound.count bound.owned,
    escalations_exact (accepted_order data).2 rules ids ordered bound.escalated, cited,
    artifacts_used bound.wellFormed⟩

end Evidence

section Uniqueness

variable {script : Script} {spelling : Spelling} {candidate other : Domain.MigrationCandidate}
variable {change otherChange : ProposedChange} {context : Domain.ImpactContext}
variable {assessment : RiskAssessment} {first second : List MigrationReviewer}

/-- A reviewer without its reason is what the context decides. -/
def MigrationReviewer.bare : MigrationReviewer → MigrationReviewer
  | .owner ownerUrn affectedAssetUrns _ => .owner ownerUrn affectedAssetUrns ""
  | .unresolvedOwner evidenceId affectedAssetUrn _ =>
      .unresolvedOwner evidenceId affectedAssetUrn ""

def MigrationReviewer.reason : MigrationReviewer → String
  | .owner _ _ reason => reason
  | .unresolvedOwner _ _ reason => reason

theorem reviewerKey_bare (reviewer : MigrationReviewer) :
    reviewerKey reviewer.bare = reviewerKey reviewer := by
  cases reviewer <;> rfl

theorem bare_owned (reviewer : MigrationReviewer) : reviewer.bare.owned = reviewer.owned := by
  cases reviewer <;> rfl

theorem bare_escalated (reviewer : MigrationReviewer) :
    reviewer.bare.escalated = reviewer.escalated := by
  cases reviewer <;> rfl

theorem keys_bare (reviewers : List MigrationReviewer) :
    (reviewers.map MigrationReviewer.bare).map reviewerKey = reviewers.map reviewerKey := by
  rw [List.map_map]
  exact List.map_congr_left fun reviewer _ => reviewerKey_bare reviewer

/-- A selection that does not read the reasons depends on the bare reviewers only. -/
theorem selected_bare {A : Type} {select : MigrationReviewer → Option A}
    (unread : ∀ reviewer, select reviewer.bare = select reviewer)
    (reviewers : List MigrationReviewer) :
    (reviewers.map MigrationReviewer.bare).filterMap select = reviewers.filterMap select := by
  rw [List.filterMap_map]
  exact List.filterMap_congr fun reviewer _ => unread reviewer

theorem mem_owner_bare {ownerUrn : String} {assets : List String} :
    .owner ownerUrn assets "" ∈ first.map MigrationReviewer.bare ↔
      (ownerUrn, assets) ∈ first.filterMap MigrationReviewer.owned := by
  rw [List.mem_map, List.mem_filterMap]
  constructor
  · rintro ⟨reviewer, present, same⟩
    refine ⟨reviewer, present, ?_⟩
    rw [← bare_owned, same]
    rfl
  · rintro ⟨reviewer, present, same⟩
    refine ⟨reviewer, present, ?_⟩
    cases reviewer with
    | unresolvedOwner => cases same
    | owner => cases same; rfl

theorem mem_escalated_bare {evidenceId assetUrn : String} :
    .unresolvedOwner evidenceId assetUrn "" ∈ first.map MigrationReviewer.bare ↔
      (evidenceId, assetUrn) ∈ first.filterMap MigrationReviewer.escalated := by
  rw [List.mem_map, List.mem_filterMap]
  constructor
  · rintro ⟨reviewer, present, same⟩
    refine ⟨reviewer, present, ?_⟩
    rw [← bare_escalated, same]
    rfl
  · rintro ⟨reviewer, present, same⟩
    refine ⟨reviewer, present, ?_⟩
    cases reviewer with
    | owner => cases same
    | unresolvedOwner => cases same; rfl

theorem bare_members (owners : ∀ pair, pair ∈ first.filterMap MigrationReviewer.owned ↔
      pair ∈ second.filterMap MigrationReviewer.owned)
    (escalations : ∀ pair, pair ∈ first.filterMap MigrationReviewer.escalated ↔
      pair ∈ second.filterMap MigrationReviewer.escalated) :
    ∀ reviewer ∈ first.map MigrationReviewer.bare,
      reviewer ∈ second.map MigrationReviewer.bare := by
  intro reviewer present
  obtain ⟨source, _, rfl⟩ := List.mem_map.mp present
  cases source with
  | owner ownerUrn assets _ =>
      exact mem_owner_bare.mpr ((owners _).mp (mem_owner_bare.mp present))
  | unresolvedOwner evidenceId assetUrn _ =>
      exact mem_escalated_bare.mpr ((escalations _).mp (mem_escalated_bare.mp present))

/-- Ordered reviewers with the same owners and escalations are the same up to their reasons. -/
theorem bare_unique (firstOrdered : OrderedReviewers first) (secondOrdered : OrderedReviewers second)
    (owners : ∀ pair, pair ∈ first.filterMap MigrationReviewer.owned ↔
      pair ∈ second.filterMap MigrationReviewer.owned)
    (escalations : ∀ pair, pair ∈ first.filterMap MigrationReviewer.escalated ↔
      pair ∈ second.filterMap MigrationReviewer.escalated) :
    first.map MigrationReviewer.bare = second.map MigrationReviewer.bare := by
  have firstSingle := firstOrdered.single
  have secondSingle := secondOrdered.single
  have firstSorted := firstOrdered.ordered
  have secondSorted := secondOrdered.ordered
  rw [← keys_bare] at firstSingle firstSorted secondSingle secondSorted
  have same := (List.perm_ext_iff_of_nodup (List.Nodup.of_map _ firstSingle)
    (List.Nodup.of_map _ secondSingle)).mpr fun reviewer =>
      ⟨bare_members owners escalations reviewer,
        bare_members (fun pair => (owners pair).symm) (fun pair => (escalations pair).symm) reviewer⟩
  exact eq_of_sorted reviewerKey same firstSorted secondSorted secondSingle

theorem bound_unique
    (firstBound : BoundCandidate script spelling candidate change context assessment)
    (secondBound : BoundCandidate script spelling other otherChange context assessment) :
    other.requiredReviewers.map MigrationReviewer.bare =
      candidate.requiredReviewers.map MigrationReviewer.bare := by
  have firstExact := binds_exactly firstBound
  have secondExact := binds_exactly secondBound
  apply bare_unique (wellFormed_reviewers secondBound.wellFormed)
    (wellFormed_reviewers firstBound.wellFormed)
  · intro pair
    exact (secondExact.owners.exact pair.1 pair.2).trans (firstExact.owners.exact pair.1 pair.2).symm
  · intro pair
    exact (secondExact.escalations.exact pair.1 pair.2).trans
      (firstExact.escalations.exact pair.1 pair.2).symm

/-- A reason has between one and five hundred code units. -/
def ReasonFits (reviewer : MigrationReviewer) : Prop :=
  1 ≤ utf16Length reviewer.reason ∧ utf16Length reviewer.reason ≤ 500

theorem urnIssues_anywhere {urn : String} {place : List PathItem} (accepted : urnIssues urn place = [])
    (path : List PathItem) : urnIssues urn path = [] := by
  rw [urnIssues, List.append_eq_nil_iff, lengthIssues_nil, issueUnless_nil] at accepted ⊢
  exact accepted

theorem reviewer_fits {reviewer : MigrationReviewer} {place : List PathItem}
    (accepted : reviewer.issues place = []) : ReasonFits reviewer := by
  cases reviewer <;>
  · rw [MigrationReviewer.issues, List.append_eq_nil_iff] at accepted
    exact lengthIssues_nil.mp accepted.2

/-- Another reason that fits leaves a reviewer accepted. -/
theorem reviewer_again {reviewer filled : MigrationReviewer} {place : List PathItem}
    (accepted : reviewer.issues place = []) (same : filled.bare = reviewer.bare)
    (fits : ReasonFits filled) (path : List PathItem) : filled.issues path = [] := by
  cases reviewer with
  | owner ownerUrn assets _ =>
      cases filled with
      | unresolvedOwner => cases same
      | owner =>
          cases same
          simp only [MigrationReviewer.issues, List.append_eq_nil_iff, urnListIssues] at accepted ⊢
          obtain ⟨⟨urn, each, count⟩, _⟩ := accepted
          refine ⟨⟨urnIssues_anywhere urn _, eachIssues_of fun asset present place => ?_, ?_⟩, ?_⟩
          · obtain ⟨_, checked⟩ := eachIssues_nil each asset present
            exact urnIssues_anywhere checked place
          · exact countIssues_nil.mpr (countIssues_nil.mp count)
          · exact lengthIssues_nil.mpr fits
  | unresolvedOwner evidenceId assetUrn _ =>
      cases filled with
      | owner => cases same
      | unresolvedOwner =>
          cases same
          simp only [MigrationReviewer.issues, List.append_eq_nil_iff] at accepted ⊢
          obtain ⟨⟨id, urn⟩, _⟩ := accepted
          exact ⟨⟨issueUnless_nil.mpr (issueUnless_nil.mp id), urnIssues_anywhere urn _⟩,
            lengthIssues_nil.mpr fits⟩

theorem reviewers_again {reviewers : List MigrationReviewer} {place : List PathItem}
    (accepted : eachIssues candidate.requiredReviewers place MigrationReviewer.issues = [])
    (same : reviewers.map MigrationReviewer.bare =
      candidate.requiredReviewers.map MigrationReviewer.bare)
    (fits : ∀ reviewer ∈ reviewers, ReasonFits reviewer) (path : List PathItem) :
    eachIssues reviewers path MigrationReviewer.issues = [] := by
  apply eachIssues_of
  intro filled present
  have isBare := List.mem_map_of_mem (f := MigrationReviewer.bare) present
  rw [same] at isBare
  obtain ⟨reviewer, isReviewer, alike⟩ := List.mem_map.mp isBare
  obtain ⟨_, checked⟩ := eachIssues_nil accepted reviewer isReviewer
  exact reviewer_again checked alike.symm (fits filled present)

theorem replaced_wellFormed {reviewers : List MigrationReviewer}
    (accepted : migrationCandidateIssues candidate = [])
    (same : reviewers.map MigrationReviewer.bare =
      candidate.requiredReviewers.map MigrationReviewer.bare)
    (fits : ∀ reviewer ∈ reviewers, ReasonFits reviewer) :
    migrationCandidateIssues { candidate with requiredReviewers := reviewers } = [] := by
  have keys : reviewers.map reviewerKey = candidate.requiredReviewers.map reviewerKey := by
    rw [← keys_bare, same, keys_bare]
  have count : reviewers.length = candidate.requiredReviewers.length := by
    rw [← List.length_map MigrationReviewer.bare, same, List.length_map]
  rw [migrationCandidateIssues, List.append_eq_nil_iff] at accepted ⊢
  obtain ⟨shape, refinement⟩ := accepted
  constructor
  · simp only [Domain.MigrationCandidate.shapeIssues, List.append_eq_nil_iff, countIssues_nil,
      count] at shape ⊢
    obtain ⟨⟨⟨⟨⟨before, each⟩, counted⟩, least⟩, most⟩, plan⟩ := shape
    exact ⟨⟨⟨⟨⟨before, reviewers_again each same fits _⟩, counted⟩, least⟩, most⟩, plan⟩
  · simp only [Domain.MigrationCandidate.refinementIssues, keys] at refinement ⊢
    exact refinement

theorem replaced_bound {reviewers : List MigrationReviewer}
    (bound : BoundCandidate script spelling candidate change context assessment)
    (same : reviewers.map MigrationReviewer.bare =
      candidate.requiredReviewers.map MigrationReviewer.bare)
    (fits : ∀ reviewer ∈ reviewers, ReasonFits reviewer) :
    BoundCandidate script spelling { candidate with requiredReviewers := reviewers } change context
      assessment := by
  have owned : reviewers.filterMap MigrationReviewer.owned =
      candidate.requiredReviewers.filterMap MigrationReviewer.owned := by
    rw [← selected_bare bare_owned, same, selected_bare bare_owned]
  have escalated : reviewers.filterMap MigrationReviewer.escalated =
      candidate.requiredReviewers.filterMap MigrationReviewer.escalated := by
    rw [← selected_bare bare_escalated, same, selected_bare bare_escalated]
  exact {
    wellFormed := replaced_wellFormed bound.wellFormed same fits
    changed := bound.changed
    known := bound.known
    assessed := bound.assessed
    source := bound.source
    cited := bound.cited
    within := bound.within
    count := by rw [owned]; exact bound.count
    owned := by rw [owned]; exact bound.owned
    escalated := by rw [Escalates, escalated]; exact bound.escalated
    base := bound.base }

/-- An accepted candidate says what its context says, and its reviewers are free in their reasons
only. -/
theorem candidate_binding (script : Script) (spelling : Spelling)
    (candidate : Domain.MigrationCandidate) (change : ProposedChange)
    (context : Domain.ImpactContext) (assessment : RiskAssessment)
    (result : Domain.MigrationCandidate)
    (accepted : bindMigrationCandidate script spelling candidate change context assessment =
      .ok result) :
    result = candidate ∧ BindsExactly candidate context assessment ∧
      ∀ reviewers : List MigrationReviewer,
        (∃ other otherChange, other.requiredReviewers = reviewers ∧
          bindMigrationCandidate script spelling other otherChange context assessment = .ok other) ↔
        reviewers.map MigrationReviewer.bare =
            candidate.requiredReviewers.map MigrationReviewer.bare ∧
          ∀ reviewer ∈ reviewers, ReasonFits reviewer := by
  obtain ⟨bound, rfl⟩ := bindMigrationCandidate_ok.mp accepted
  refine ⟨rfl, binds_exactly bound, fun reviewers => ⟨?_, ?_⟩⟩
  · rintro ⟨other, otherChange, rfl, alsoAccepted⟩
    obtain ⟨otherBound, _⟩ := bindMigrationCandidate_ok.mp alsoAccepted
    refine ⟨bound_unique bound otherBound, fun reviewer present => ?_⟩
    obtain ⟨_, checked⟩ := (wellFormed_reviewers otherBound.wellFormed).each reviewer present
    exact reviewer_fits checked
  · rintro ⟨same, fits⟩
    exact ⟨{ result with requiredReviewers := reviewers }, change, rfl,
      bindMigrationCandidate_ok.mpr ⟨replaced_bound bound same fits, rfl⟩⟩

end Uniqueness

section Sample

open Agent
open Github (samplePaths_located sampleStep_accepted)

/-- The rules cite the paths, the query, the dashboard and the model. -/
def sampleCited : List String :=
  [sampleId ['4', '3', '6', '4', '4', '4'], sampleId ['4', '3', '6', '4', '4', 'c'],
    sampleId ['4', '3', '6', '4', '4', 'd'], sampleId ['4', '8', '5', '1', '5', '9'],
    sampleId ['4', 'c', '4', '9', '4', '7']].map String.ofList

/-- Neither the dashboard nor the model has an owner. -/
def sampleReviewers (reason : String) : List MigrationReviewer :=
  [.unresolvedOwner (String.ofList (sampleId ['4', '3', '6', '4', '4', '4']))
      canonicalDashboardUrn reason,
    .unresolvedOwner (String.ofList (sampleId ['4', '3', '6', '4', '4', 'd']))
      canonicalFraudModelUrn reason]

def sampleFilled (changed patched known reason : String) : Domain.MigrationCandidate where
  sourceChangeFingerprint := changed
  sourcePatchFingerprint := patched
  sourceImpactContextFingerprint := known
  sourceEvidenceIds := sampleCited
  summary := "s"
  steps := [
    ⟨"step_a", .expand, "t", "r", sampleCited,
      ["walkthrough/migrations/a.sql", "walkthrough/migrations/rollback.sql"]⟩,
    ⟨"step_b", .migrate, "t", "r", sampleCited.take 1,
      ["walkthrough/models/a.sql", "walkthrough/tests/a.sql"]⟩,
    ⟨"step_c", .contract, "t", "r", sampleCited.take 1, ["docs/migrations/a.md"]⟩]
  artifacts := [⟨.migrationDocument, "docs/migrations/a.md", "d"⟩,
    ⟨.sqlMigration, "walkthrough/migrations/a.sql", "u"⟩,
    ⟨.rollbackSql, "walkthrough/migrations/rollback.sql", "v"⟩,
    ⟨.dbtModel sampleChange.baseSha, "walkthrough/models/a.sql", "m"⟩,
    ⟨.dbtTest, "walkthrough/tests/a.sql", "t"⟩]
  requiredReviewers := sampleReviewers reason
  compatibilityWindowDays := 1
  rollbackPlan := "p"

theorem sampleCited_prefixed : ∀ id ∈ sampleCited, isPrefixedId "ev_" id = true := by
  have each : ∀ digits ∈ [['4', '3', '6', '4', '4', '4'], ['4', '3', '6', '4', '4', 'c'],
      ['4', '3', '6', '4', '4', 'd'], ['4', '8', '5', '1', '5', '9'],
      ['4', 'c', '4', '9', '4', '7']],
      isPrefixedId "ev_" (String.ofList (sampleId digits)) = true := by
    simp only [List.forall_mem_cons, List.not_mem_nil, false_implies, implies_true, and_true]
    refine ⟨?_, ?_, ?_, ?_, ?_⟩
    all_goals exact @literalId_prefixed ['e', 'v', '_'] _ (by decide) (by decide)
  intro id present
  simp only [sampleCited, List.map_cons, List.map_nil, List.mem_cons, List.not_mem_nil,
    or_false] at present
  rcases present with rfl | rfl | rfl | rfl | rfl
  all_goals exact each _ (by decide)

theorem sampleReviewers_accepted : ∀ reviewer ∈ sampleReviewers "r", ∀ place,
    reviewer.issues place = [] := by
  simp only [sampleReviewers, List.forall_mem_cons, List.not_mem_nil, false_implies, implies_true,
    and_true, MigrationReviewer.issues, List.append_eq_nil_iff]
  have dashboard := sampleCited_prefixed _ List.mem_cons_self
  have model := sampleCited_prefixed _ (List.mem_cons_of_mem _ (List.mem_cons_of_mem _
    List.mem_cons_self))
  exact ⟨fun place => ⟨⟨issueUnless_nil.mpr dashboard, (canonicalUrns_accepted _).2.2.2.2.2.1⟩,
      letter_short (by decide) (by decide) _⟩,
    fun place => ⟨⟨issueUnless_nil.mpr model, (canonicalUrns_accepted _).2.2.2.2.2.2.1⟩,
      letter_short (by decide) (by decide) _⟩⟩

theorem sampleFilled_shaped {changed patched known : String}
    (isChanged : isFingerprint changed = true) (isPatched : isFingerprint patched = true)
    (isKnown : isFingerprint known = true) :
    (sampleFilled changed patched known "r").shapeIssues = [] := by
  have first : ∀ id ∈ sampleCited.take 1, isPrefixedId "ev_" id = true :=
    fun id present => sampleCited_prefixed id (List.mem_of_mem_take present)
  have paths := @samplePaths_located sampleChange.baseSha
  simp only [List.forall_mem_cons, List.not_mem_nil, false_implies, implies_true,
    and_true] at paths
  obtain ⟨document, expand, rollback, _, model, test⟩ := paths
  have modified : ∀ sha, ArtifactKind.dbtModel sampleChange.baseSha = .dbtModel sha →
      isGitSha sha = true := by
    intro sha same
    have changed := sampleChange_accepted
    simp only [proposedChangeIssues, ProposedChange.shapeIssues, List.append_eq_nil_iff,
      issueUnless_nil, and_assoc] at changed
    rw [← ArtifactKind.dbtModel.inj same]
    exact changed.2.2.2.2.2.1
  apply @candidate_shaped (sampleFilled changed patched known "r") isChanged isPatched isKnown
    sampleCited_prefixed
  · show 1 ≤ sampleCited.length ∧ sampleCited.length ≤ 200
    decide
  · exact letter_short (by decide) (by decide)
  · simp only [sampleFilled, List.forall_mem_cons, List.not_mem_nil, false_implies, implies_true,
      and_true]
    refine ⟨sampleStep_accepted 'a' .expand (by decide) sampleCited_prefixed (by decide) ?_
        (by decide),
      sampleStep_accepted 'b' .migrate (by decide) first (by decide) ?_ (by decide),
      sampleStep_accepted 'c' .contract (by decide) first (by decide) ?_ (by decide)⟩
    · simp only [List.forall_mem_cons, List.not_mem_nil, false_implies, implies_true, and_true]
      exact ⟨⟨_, expand []⟩, ⟨_, rollback []⟩⟩
    · simp only [List.forall_mem_cons, List.not_mem_nil, false_implies, implies_true, and_true]
      exact ⟨⟨_, model []⟩, ⟨_, test []⟩⟩
    · simp only [List.forall_mem_cons, List.not_mem_nil, false_implies, implies_true, and_true]
      exact ⟨_, document []⟩
  · simp [sampleFilled]
  · simp only [sampleFilled, List.forall_mem_cons, List.not_mem_nil, false_implies, implies_true,
      and_true]
    exact ⟨artifact_accepted (by simp) (letter_short (by decide) (by decide)) document,
      artifact_accepted (by simp) (letter_short (by decide) (by decide)) expand,
      artifact_accepted (by simp) (letter_short (by decide) (by decide)) rollback,
      artifact_accepted modified (letter_short (by decide) (by decide)) model,
      artifact_accepted (by simp) (letter_short (by decide) (by decide)) test⟩
  · simp [sampleFilled]
  · exact sampleReviewers_accepted
  · simp [sampleFilled, sampleReviewers]
  · exact ⟨le_rfl, by simp [sampleFilled]⟩
  · exact letter_short (by decide) (by decide)

theorem sampleReviewers_canonical (reason : String) :
    canonicalIds ((sampleReviewers reason).map reviewerKey) := by
  have key : ∀ start id urn : List Char, String.ofList start ++ String.ofList id ++
      String.ofList [':'] ++ String.ofList urn = String.ofList (start ++ id ++ [':'] ++ urn) := by
    intro start id urn
    simp only [String.ofList_append]
  have keys : (sampleReviewers reason).map reviewerKey = [_, _].map String.ofList :=
    congrArg₂ (fun first second => [first, second]) (key _ _ _) (key _ _ _)
  rw [keys]
  exact listed_canonical _ (by decide) (by decide)

theorem sampleFilled_refined (changed patched known : String) :
    (sampleFilled changed patched known "r").refinementIssues = [] := by
  have cited : canonicalIds sampleCited := listed_canonical _ (by decide) (by decide)
  have single : ∀ id, canonicalIds [id] := fun id => ⟨List.nodup_singleton id, rfl⟩
  have paths : canonicalIds ((sampleFilled changed patched known "r").artifacts.map (·.path)) :=
    listed_canonical [_, _, _, _, _] (by decide) (by decide)
  have covered : usedEvidence (sampleFilled changed patched known "r") = sorted sampleCited := by
    show sorted (sampleCited ++ (sampleCited.take 1 ++ (sampleCited.take 1 ++ []))).dedup = _
    apply sorted_perm
    rw [List.perm_ext_iff_of_nodup (List.nodup_dedup _) cited.1]
    intro id
    simp only [List.mem_dedup, List.mem_append, List.not_mem_nil, or_false, or_self,
      or_iff_left_iff_imp]
    exact List.mem_of_mem_take
  simp only [MigrationCandidate.refinementIssues, List.append_eq_nil_iff, issueUnless_nil,
    and_assoc]
  refine ⟨rfl, cited, covered, ?_, paths.1, paths.2, sampleReviewers_canonical "r", ?_, ?_, ?_, ?_,
    ?_, ?_, ?_⟩
  · apply eachIssues_of
    simp only [sampleFilled, List.forall_mem_cons, List.not_mem_nil, false_implies, implies_true,
      and_true, stepOrderIssues, List.append_eq_nil_iff, issueUnless_nil]
    exact ⟨fun _ => ⟨cited, (listed_canonical [_, _] (by decide) (by decide)).2⟩,
      fun _ => ⟨single _, (listed_canonical [_, _] (by decide) (by decide)).2⟩,
      fun _ => ⟨single _, (single _).2⟩⟩
  · simp [countWord, sampleFilled, ArtifactKind.word]
  · simp [countWord, sampleFilled, ArtifactKind.word]
  · simp [countWord, sampleFilled, ArtifactKind.word]
  · simp [countWord, sampleFilled, ArtifactKind.word]
  · simp [countWord, sampleFilled, ArtifactKind.word]
  · apply eachIssues_of
    simp [sampleFilled, targetIssues, artifactAt, phaseKinds, issueUnless]
  · simp [references, sampleFilled, issueUnless]

theorem sampleFilled_wellFormed {changed patched known : String}
    (isChanged : isFingerprint changed = true) (isPatched : isFingerprint patched = true)
    (isKnown : isFingerprint known = true) :
    migrationCandidateIssues (sampleFilled changed patched known "r") = [] := by
  rw [migrationCandidateIssues, sampleFilled_shaped isChanged isPatched isKnown,
    sampleFilled_refined, List.append_nil]

def sampleBound (reason : String) : Domain.MigrationCandidate :=
  sampleFilled sampleChange.fingerprint sampleChange.sourcePatchFingerprint
    (sampleRun 'a' 0).impactContextFingerprint reason

theorem sampleGrounds : Grounds sampleScript Spelling.sample sampleChange (sampleRun 'a' 0) :=
  ⟨sampleChange_accepted, sampleRun_accepted 'a' 0, rfl, rfl⟩

def sampleAssessment : RiskAssessment :=
  groundedAssessment sampleChange (sampleRun 'a' 0) (sampleDate 0)

theorem sampleAssessment_reasons :
    sampleAssessment.reasons = firedReasons (sampleEvidence 'a' 0) := by
  rw [sampleAssessment, groundedAssessment, connectedEvidence_eq sampleGrounds.data]
  rfl

theorem sampleCited_exact : reasonEvidence (firedReasons (sampleEvidence 'a' 0)) = sampleCited := by
  have regroup : ∀ first second third fourth fifth : Prop,
      (second ∨ fifth ∨ third ∨ fourth ∨ first ∨ first ∨ third) ↔
        (first ∨ second ∨ third ∨ fourth ∨ fifth) := by
    intros
    tauto
  have cited : canonicalIds sampleCited := listed_canonical _ (by decide) (by decide)
  have listed := sampleEvidence_listed
  simp only [sampleEvidence, sampleDigits, List.map_cons, List.cons.injEq] at listed
  obtain ⟨dashboard, modelPath, model, _, query, dashboardPath, _⟩ := listed
  have fired : (firedReasons (sampleEvidence 'a' 0)).flatMap (·.evidenceIds) =
      [(sampleModelPath 'a' 0).id, (sampleDashboardPath 'a' 0).id, (sampleModel 'a' 0).id,
        (sampleQuery 'a' 0).id, (sampleDashboard 'a' 0).id, (sampleDashboard 'a' 0).id,
        (sampleModel 'a' 0).id] := rfl
  rw [reasonEvidence, fired, dashboard, modelPath, model, query, dashboardPath, cited.2]
  apply sorted_perm
  rw [List.perm_ext_iff_of_nodup (List.nodup_dedup _) cited.1]
  intro id
  simp only [List.mem_dedup, sampleCited, List.map_cons, List.map_nil, List.mem_cons,
    List.not_mem_nil, or_false]
  exact regroup _ _ _ _ _

theorem sampleEscalates : Escalates (sampleEvidence 'a' 0) (firedReasons (sampleEvidence 'a' 0))
    (sampleReviewers "r") := by
  have ids : lg005Ids (firedReasons (sampleEvidence 'a' 0)) =
      [(sampleDashboard 'a' 0).id, (sampleModel 'a' 0).id] := rfl
  have listed := sampleEvidence_listed
  simp only [sampleEvidence, sampleDigits, List.map_cons, List.cons.injEq] at listed
  obtain ⟨dashboard, _, model, _⟩ := listed
  have single := (sampleEvidence_order 'a' 0).2
  refine ⟨((sampleReviewers "r").filterMap MigrationReviewer.escalated).map escalationKey, ?_, rfl⟩
  rw [ids]
  refine .cons ?_ (.cons ?_ .nil)
  · refine (expectedEscalation_ok single).mpr
      ⟨sampleDashboard 'a' 0, by simp [sampleEvidence], rfl, canonicalDashboardUrn, ?_, ?_⟩
    · rfl
    · rw [dashboard]
  · refine (expectedEscalation_ok single).mpr
      ⟨sampleModel 'a' 0, by simp [sampleEvidence], rfl, canonicalFraudModelUrn, ?_, ?_⟩
    · rfl
    · rw [model]

theorem sampleBound_bound : BoundCandidate sampleScript Spelling.sample (sampleBound "r")
    sampleChange (sampleRun 'a' 0) sampleAssessment := by
  have blocking : BlockingAssessment (sampleRun 'a' 0) sampleAssessment := sampleGrounds.blocking
  have known := sampleRun_accepted 'a' 0
  obtain ⟨digest, _⟩ := impactContextIssues_nil.mp known
  have changed := sampleChange_accepted
  simp only [proposedChangeIssues, ProposedChange.shapeIssues, List.append_eq_nil_iff,
    fingerprintIssues_nil, and_assoc] at changed
  have valid : (sampleDate 0).Valid := Or.inl Nat.one_ne_zero
  have cited : (sampleBound "r").sourceEvidenceIds = reasonEvidence sampleAssessment.reasons := by
    rw [sampleAssessment_reasons, sampleCited_exact]
    rfl
  exact {
    wellFormed := sampleFilled_wellFormed changed.2.1 changed.2.2.1 digest
    changed := sampleChange_accepted
    known := known
    assessed := (sampleGrounds.bind_ok _ _).mpr ⟨rfl, rfl, valid, le_refl _⟩
    source := require_ok.mpr ⟨rfl, rfl, rfl, rfl, rfl, rfl, rfl, blocking.outcome.1⟩
    cited := cited
    within := by
      intro id present
      rw [cited, sampleAssessment_reasons] at present
      exact reasonEvidence_subset (sampleEvidence 'a' 0) id present
    count := rfl
    owned := by
      intro reviewer present
      cases present
    escalated := by
      rw [sampleAssessment_reasons]
      exact sampleEscalates
    base := by
      intro artifact present sha named
      simp only [sampleBound, sampleFilled, List.mem_cons, List.not_mem_nil, or_false] at present
      rcases present with rfl | rfl | rfl | rfl | rfl
      all_goals cases named
      rfl }

theorem candidate_binding_sample :
    BindsExactly (sampleBound "r") (sampleRun 'a' 0) sampleAssessment :=
  (candidate_binding sampleScript Spelling.sample (sampleBound "r") sampleChange
    (sampleRun 'a' 0) sampleAssessment (sampleBound "r")
    (bindMigrationCandidate_ok.mpr ⟨sampleBound_bound, rfl⟩)).2.1

/-- Two accepted candidates of one context give their reviewers other reasons. -/
theorem two_reviewer_lists : ∃ first second : Domain.MigrationCandidate,
    bindMigrationCandidate sampleScript Spelling.sample first sampleChange (sampleRun 'a' 0)
      sampleAssessment = .ok first ∧
    bindMigrationCandidate sampleScript Spelling.sample second sampleChange (sampleRun 'a' 0)
      sampleAssessment = .ok second ∧
    ¬ first.requiredReviewers.Perm second.requiredReviewers := by
  have fits : ∀ reviewer ∈ sampleReviewers "s", ReasonFits reviewer := by
    intro reviewer present
    simp only [sampleReviewers, List.mem_cons, List.not_mem_nil, or_false] at present
    have short : 1 ≤ utf16Length "s" ∧ utf16Length "s" ≤ 500 := by decide
    rcases present with rfl | rfl <;> exact short
  refine ⟨sampleBound "r", { sampleBound "r" with requiredReviewers := sampleReviewers "s" },
    bindMigrationCandidate_ok.mpr ⟨sampleBound_bound, rfl⟩,
    bindMigrationCandidate_ok.mpr ⟨replaced_bound sampleBound_bound rfl fits, rfl⟩, ?_⟩
  intro same
  have present := same.mem_iff.mp List.mem_cons_self
  simp [sampleReviewers] at present

end Sample

end LineageGuard.Domain
