import LineageGuard.Agent.CandidateRuns
import LineageGuard.Domain.CompleteContext
import LineageGuard.Domain.RiskBinding
import LineageGuard.Guarantees.PublicationIdentity
import Mathlib.Tactic

/-
This file proves what the rules say about a complete context and which assessments are accepted.
-/

namespace LineageGuard.Domain

open Json Attempt Agent

section Connection

variable {script : Script} {data : ImpactContextData}

theorem accepted_bindings (accepted : contextDataIssues script data = []) :
    ∀ item ∈ data.evidence, ∃ path, bindingIssues data.evidence item path = [] := by
  simp only [contextDataIssues, List.append_eq_nil_iff] at accepted
  exact evidenceIssues_bindings accepted.1.1.2

theorem related_some {evidence : List EvidenceItem} {item other : EvidenceItem}
    (found : related evidence item = some other) :
    other ∈ evidence ∧ other.id ∈ item.relatedEvidenceIds := by
  rw [related] at found
  split at found
  · next id listed =>
      rw [byId] at found
      have same : other.id = id := by simpa using List.find?_some found
      rw [listed, same]
      exact ⟨List.mem_reverse.mp (List.mem_of_find?_eq_some found), List.mem_singleton_self _⟩
  · cases found

/-- An owner belongs to an item of another kind. -/
theorem ownsRelatedAsset_related {evidence : List EvidenceItem} {item : EvidenceItem}
    {payload : OwnerPayload} (owns : ownsRelatedAsset evidence item payload = true) :
    ∃ asset, related evidence item = some asset ∧ asset.payload.isOwner = false := by
  rw [ownsRelatedAsset] at owns
  cases found : related evidence item with
  | none => simp [found] at owns
  | some asset =>
      refine ⟨asset, rfl, ?_⟩
      cases kind : asset.payload <;> simp [found, kind, EvidencePayload.isOwner] at owns ⊢

/-- Every item of accepted evidence is an item of the field or belongs to one. -/
theorem connectedEvidence_eq (accepted : contextDataIssues script data = []) :
    connectedEvidence data.evidence = data.evidence := by
  have bound := accepted_bindings accepted
  have direct : ∀ item ∈ data.evidence, item.payload.isOwner = false →
      item.id ∈ connectedIds data.evidence := by
    intro item present other
    obtain ⟨path, bindings⟩ := bound item present
    simp only [bindingIssues, List.append_eq_nil_iff, issueUnless_nil, other, Bool.false_eq_true,
      false_or] at bindings
    apply List.mem_map_of_mem
    rw [List.mem_filter]
    simp [present, other, bindings.1.2.2]
  rw [connectedEvidence, sortEvidence_sublist accepted List.filter_sublist, List.filter_eq_self]
  intro item present
  rw [Bool.or_eq_true, List.contains_iff_mem]
  cases kind : item.payload.isOwner with
  | false => exact Or.inl (direct item present kind)
  | true =>
      obtain ⟨path, bindings⟩ := bound item present
      simp only [bindingIssues, List.append_eq_nil_iff] at bindings
      have checked := bindings.2
      cases payload : item.payload <;> simp only [payload, EvidencePayload.isOwner,
        Bool.false_eq_true] at kind
      case owner owner =>
          simp only [kindIssues, payload] at checked
          obtain ⟨_, _, owns⟩ := issueUnless_nil.mp checked
          obtain ⟨asset, isRelated, other⟩ := ownsRelatedAsset_related owns
          obtain ⟨isItem, listed⟩ := related_some isRelated
          refine Or.inr (List.any_eq_true.mpr ⟨asset.id, listed, ?_⟩)
          exact List.contains_iff_mem.mpr (direct asset isItem other)

theorem provenanceIssues_times {collected : ℕ} {path : List PathItem} {index : ℕ}
    {previous : Option ℕ} {known : Invocations} {entries : List Provenance}
    (accepted : (provenanceIssues collected path index previous known entries).1 = []) :
    ∀ entry ∈ entries, entry.retrievedAt.time ≤ collected := by
  induction entries generalizing index previous known with
  | nil => simp
  | cons entry rest ih =>
      simp only [provenanceIssues, List.append_eq_nil_iff, issueUnless_nil] at accepted
      rw [List.forall_mem_cons]
      exact ⟨accepted.1.1.1, ih accepted.2⟩

theorem evidenceIssues_times {index : ℕ} {known : Invocations} {items : List EvidenceItem}
    (accepted : (evidenceIssues data index known items).1 = []) :
    ∀ item ∈ items, ∀ entry ∈ item.provenance,
      entry.retrievedAt.time ≤ data.collectedAt.time := by
  induction items generalizing index known with
  | nil => simp
  | cons item rest ih =>
      simp only [evidenceIssues, List.append_eq_nil_iff] at accepted
      obtain ⟨⟨⟨_, provenance⟩, _⟩, others⟩ := accepted
      rw [List.forall_mem_cons]
      exact ⟨provenanceIssues_times provenance, ih others⟩

/-- An assessment that does not precede the collection precedes no retrieval. -/
theorem evaluationTimes_iff {context : ImpactContext} {evaluatedAt : IsoDateTime}
    (accepted : contextDataIssues script context.toImpactContextData = []) :
    evaluationTimes context evaluatedAt = .ok () ↔
      context.collectedAt.time ≤ evaluatedAt.time := by
  have retrieved : ∀ item ∈ context.evidence, ∀ entry ∈ item.provenance,
      entry.retrievedAt.time ≤ context.collectedAt.time := by
    simp only [contextDataIssues, List.append_eq_nil_iff] at accepted
    exact evidenceIssues_times accepted.1.1.2
  simp only [evaluationTimes, bind_ok, reject_ok, not_lt, not_exists, not_and]
  constructor
  · rintro ⟨_, after, _⟩
    exact after
  · intro after
    exact ⟨(), after, fun item present entry isEntry =>
      (retrieved item present entry isEntry).trans after⟩

end Connection

section Rules

/-- The owners that were observed on a dashboard or a model. -/
def observedOwners : EvidencePayload → Option (List String)
  | .dashboard payload => some payload.ownerUrns
  | .mlModel payload => some payload.ownerUrns
  | _ => none

/-- The rules block the change of a complete context. -/
structure BlockingAssessment (context : ImpactContext) (assessment : RiskAssessment) : Prop where
  outcome : assessment.decision = .block ∧ assessment.risk = .critical
  findings : ∀ ruleId ∈ [RiskRuleId.lg001, .lg002, .lg003, .lg004],
    ∃ found ∈ assessment.reasons, found.ruleId = ruleId ∧ found.evidenceIds ≠ []
  cited : ∀ found ∈ assessment.reasons, ∀ id ∈ found.evidenceIds,
    id ∈ context.evidence.map (·.id)
  unowned : ∀ item ∈ context.evidence,
    (∃ found ∈ assessment.reasons, found.ruleId = .lg005 ∧ item.id ∈ found.evidenceIds) ↔
      observedOwners item.payload = some []

variable {evidence : List EvidenceItem}

theorem firedReasons_found {found : RiskReason} (present : found ∈ firedReasons evidence) :
    ruleEvidence evidence found.ruleId ≠ [] ∧
      found.evidenceIds = (ruleEvidence evidence found.ruleId).map (·.id) := by
  obtain ⟨ruleId, _, fired⟩ := List.mem_filterMap.mp present
  obtain ⟨filled, rfl⟩ := firedReason_some.mp fired
  exact ⟨filled, rfl⟩

/-- A rule with evidence is one of the reasons. -/
theorem firedReasons_mem {ruleId : RiskRuleId} (filled : ruleEvidence evidence ruleId ≠ []) :
    ∃ found ∈ firedReasons evidence, found.ruleId = ruleId := by
  have listed : ruleId ∈ ruleIds := by cases ruleId <;> simp [ruleIds]
  exact ⟨_, List.mem_filterMap.mpr ⟨ruleId, listed, firedReason_some.mpr ⟨filled, rfl⟩⟩, rfl⟩

variable {dashboardPath modelPath dashboard model query : EvidenceItem}
variable {dashboardPayload : DashboardPayload} {modelPayload : ModelPayload}
variable {queryPayload : QueryPayload}

theorem selected_mem {Found : Type} {select : EvidenceItem → Option Found} {item : EvidenceItem}
    (one : (evidence.filter fun item => (select item).isSome) = [item]) : item ∈ evidence := by
  have present : item ∈ evidence.filter fun item => (select item).isSome := by
    rw [one]
    exact List.mem_singleton_self _
  exact (List.mem_filter.mp present).1

theorem selected_eq {Found : Type} {select : EvidenceItem → Option Found}
    {item other : EvidenceItem}
    (one : (evidence.filter fun item => (select item).isSome) = [item]) (present : other ∈ evidence)
    (selects : (select other).isSome = true) : other = item := by
  have listed : other ∈ evidence.filter fun item => (select item).isSome :=
    List.mem_filter.mpr ⟨present, selects⟩
  rw [one] at listed
  exact List.mem_singleton.mp listed

/-- The first four rules have evidence in a complete context. -/
theorem CanonicalItems.fired (items : CanonicalItems evidence dashboardPath modelPath dashboard
    model query dashboardPayload modelPayload queryPayload) :
    ∀ ruleId ∈ [RiskRuleId.lg001, .lg002, .lg003, .lg004], ruleEvidence evidence ruleId ≠ [] := by
  have path : dashboardPath ∈ evidence :=
    (List.mem_filter.mp (items.paths.symm.subset List.mem_cons_self)).1
  have lifecycle : modelPayload.lifecycle = .production := by
    have canonical := items.modelCanonical
    simp only [isCanonicalModel, Bool.and_eq_true, beq_iff_eq] at canonical
    exact canonical.1.1.1.1.1.2
  simp only [List.forall_mem_cons, List.not_mem_nil, false_implies, implies_true, and_true]
  refine ⟨?_, ?_, ?_, ?_⟩
  · apply List.ne_nil_of_mem (a := dashboardPath)
    simp [ruleEvidence, downstreamPaths, path, (pathOf_some.mp items.dashboardPath).2]
  · apply List.ne_nil_of_mem (a := model)
    simp [ruleEvidence, productionModels, selected_mem items.models,
      (modelOf_some.mp items.model).2, lifecycle]
  · apply List.ne_nil_of_mem (a := query)
    simp [ruleEvidence, observedSystemQueries, selected_mem items.queries,
      (queryOf_some.mp items.query).2]
  · apply List.ne_nil_of_mem (a := dashboard)
    obtain ⟨critical, payload⟩ := dashboardOf_some.mp items.dashboard
    simp [ruleEvidence, criticalDashboards, selected_mem items.dashboards, payload, critical]

/-- The fifth rule reads the assets without an observed owner. -/
theorem CanonicalItems.missing (items : CanonicalItems evidence dashboardPath modelPath dashboard
    model query dashboardPayload modelPayload queryPayload)
    (canonical : isCanonicalEvidence evidence = true) {item : EvidenceItem}
    (present : item ∈ evidence) :
    item ∈ missingOwnerAssets evidence ↔ observedOwners item.payload = some [] := by
  obtain ⟨dashboardUnowned, modelUnowned⟩ := items.unowned canonical
  have dashboardUrn : dashboardPayload.dashboardUrn = canonicalDashboardUrn := by
    have required := items.dashboardCanonical
    simp only [isCanonicalDashboard, Bool.and_eq_true, beq_iff_eq] at required
    exact required.1.1.1.1.1.1
  have modelUrn : modelPayload.modelUrn = canonicalFraudModelUrn := by
    have required := items.modelCanonical
    simp only [isCanonicalModel, Bool.and_eq_true, beq_iff_eq] at required
    exact required.1.1.1.1.1.1.1.1
  rw [missingOwnerAssets, List.mem_filter]
  cases kind : item.payload with
  | dashboard payload =>
      obtain rfl := selected_eq items.dashboards present (by simp [dashboardOf, kind])
      obtain ⟨critical, isPayload⟩ := dashboardOf_some.mp items.dashboard
      rw [isPayload, EvidencePayload.dashboard.injEq] at kind
      subst kind
      simp only [present, critical, dashboardUrn, observedOwners, true_and, decide_true,
        Bool.true_and, Bool.not_eq_true', List.contains_eq_mem, decide_eq_false_iff_not,
        dashboardUnowned, Option.some.injEq]
  | mlModel payload =>
      obtain rfl := selected_eq items.models present (by simp [modelOf, kind])
      obtain ⟨critical, isPayload⟩ := modelOf_some.mp items.model
      rw [isPayload, EvidencePayload.mlModel.injEq] at kind
      subst kind
      simp only [present, critical, modelUrn, observedOwners, true_and, decide_true,
        Bool.true_and, Bool.not_eq_true', List.contains_eq_mem, decide_eq_false_iff_not,
        modelUnowned, Option.some.injEq]
  | schema payload => simp [observedOwners]
  | lineagePath payload => simp [observedOwners]
  | queryUsage payload => simp [observedOwners]
  | glossaryTerm payload => simp [observedOwners]
  | owner payload => simp [observedOwners]

/-- Reasons of the first rule block the change, and its severity is critical. -/
theorem deriveOutcome_block {reasons : List RiskReason} {found : RiskReason}
    (present : found ∈ reasons) (first : found.ruleId = .lg001)
    (severity : found.severity = .critical) : deriveOutcome reasons = (.block, .critical) := by
  have blocking : (reasons.any fun reason => isBlocking reason.ruleId) = true :=
    List.any_eq_true.mpr ⟨found, present, by rw [first]; rfl⟩
  have critical : (reasons.any fun reason => decide (reason.severity = .critical)) = true :=
    List.any_eq_true.mpr ⟨found, present, decide_eq_true severity⟩
  rw [deriveOutcome, if_pos blocking, if_pos critical]

end Rules

section Guarantee

variable {script : Script} {spelling : Spelling} {change : ProposedChange} {context : ImpactContext}
variable {evaluatedAt : IsoDateTime}

/-- An accepted complete context of the change. -/
structure Grounds (script : Script) (spelling : Spelling) (change : ProposedChange)
    (context : ImpactContext) : Prop where
  changeAccepted : proposedChangeIssues script change = []
  contextAccepted : impactContextIssues script spelling context = []
  bound : context.changeId = change.id
  complete : context.collectionStatus = .complete

theorem Grounds.data (grounds : Grounds script spelling change context) :
    contextDataIssues script context.toImpactContextData = [] := by
  obtain ⟨_, _, _, _, _, accepted⟩ := impactContextIssues_nil.mp grounds.contextAccepted
  exact accepted

theorem Grounds.evaluated (grounds : Grounds script spelling change context)
    (valid : evaluatedAt.Valid) (after : context.collectedAt.time ≤ evaluatedAt.time) :
    evaluateGroundedRisk script spelling change context evaluatedAt =
      .ok (groundedAssessment change context evaluatedAt) :=
  grounded_total grounds.changeAccepted grounds.contextAccepted grounds.bound grounds.complete valid
    ((evaluationTimes_iff grounds.data).mpr after)

/-- An evaluation that succeeds has the one result that the context allows. -/
theorem Grounds.evaluated_ok (grounds : Grounds script spelling change context)
    (valid : evaluatedAt.Valid) (assessment : RiskAssessment) :
    evaluateGroundedRisk script spelling change context evaluatedAt = .ok assessment ↔
      context.collectedAt.time ≤ evaluatedAt.time ∧
        groundedAssessment change context evaluatedAt = assessment := by
  constructor
  · intro evaluated
    have after : context.collectedAt.time ≤ evaluatedAt.time := by
      simp only [evaluateGroundedRisk, bind_ok] at evaluated
      obtain ⟨_, _, found, isContext, _, _, _, _, _, timely, _⟩ := evaluated
      rw [← (parse_ok.mp isContext).2] at timely
      exact (evaluationTimes_iff grounds.data).mp timely
    rw [grounds.evaluated valid after] at evaluated
    exact ⟨after, Except.ok.inj evaluated⟩
  · rintro ⟨after, rfl⟩
    exact grounds.evaluated valid after

theorem Grounds.blocking (grounds : Grounds script spelling change context) :
    BlockingAssessment context (groundedAssessment change context evaluatedAt) := by
  have canonical := complete_canonical grounds.data grounds.complete
  obtain ⟨_, _, _, _, _, _, _, _, items⟩ := canonicalEvidence_items canonical
  have connected : connectedEvidence context.evidence = context.evidence :=
    connectedEvidence_eq grounds.data
  have reasons : (groundedAssessment change context evaluatedAt).reasons =
      firedReasons context.evidence := by rw [groundedAssessment, connected]
  have outcome : deriveOutcome (firedReasons context.evidence) = (.block, .critical) := by
    obtain ⟨found, present, first⟩ := firedReasons_mem (items.fired .lg001 List.mem_cons_self)
    obtain ⟨_, _, fired⟩ := List.mem_filterMap.mp present
    obtain ⟨_, rfl⟩ := firedReason_some.mp fired
    obtain rfl : _ = RiskRuleId.lg001 := first
    exact deriveOutcome_block present rfl rfl
  refine ⟨?_, ?_, ?_, ?_⟩
  · rw [groundedAssessment, connected]
    exact ⟨congrArg Prod.fst outcome, congrArg Prod.snd outcome⟩
  · intro ruleId listed
    obtain ⟨found, present, rfl⟩ := firedReasons_mem (items.fired ruleId listed)
    obtain ⟨filled, ids⟩ := firedReasons_found present
    rw [reasons]
    refine ⟨found, present, rfl, ?_⟩
    rw [ids]
    exact fun empty => filled (List.map_eq_nil_iff.mp empty)
  · intro found present id named
    rw [reasons] at present
    rw [(firedReasons_found present).2] at named
    exact ((ruleEvidence_sublist context.evidence found.ruleId).map _).subset named
  · intro item present
    rw [reasons, ← items.missing canonical present]
    constructor
    · rintro ⟨found, isFound, fifth, named⟩
      rw [(firedReasons_found isFound).2, fifth, ruleEvidence] at named
      obtain ⟨other, isOther, same⟩ := List.mem_map.mp named
      have within := (ruleEvidence_sublist context.evidence .lg005).subset isOther
      rwa [← List.inj_on_of_nodup_map (accepted_order grounds.data).2 within present same]
    · intro missing
      have filled : ruleEvidence context.evidence .lg005 ≠ [] := List.ne_nil_of_mem missing
      obtain ⟨found, isFound, fifth⟩ := firedReasons_mem filled
      refine ⟨found, isFound, fifth, ?_⟩
      rw [(firedReasons_found isFound).2, fifth]
      exact List.mem_map_of_mem missing

/-- The binding accepts the assessment of its own time and no other. -/
theorem Grounds.bind_ok (grounds : Grounds script spelling change context)
    (input output : RiskAssessment) :
    bindGroundedRiskAssessment script spelling change context input = .ok output ↔
      output = input ∧ input = groundedAssessment change context input.evaluatedAt ∧
        input.evaluatedAt.Valid ∧ context.collectedAt.time ≤ input.evaluatedAt.time := by
  constructor
  · intro accepted
    simp only [bindGroundedRiskAssessment, Attempt.bind_ok, require_ok] at accepted
    obtain ⟨_, isChange, _, isContext, _, isInput, _, _, authoritative, evaluated, _, sameText,
      returned⟩ := accepted
    obtain ⟨_, rfl⟩ := parse_ok.mp isChange
    obtain ⟨_, rfl⟩ := parse_ok.mp isContext
    obtain ⟨issues, rfl⟩ := parse_ok.mp isInput
    have valid : input.evaluatedAt.Valid := by
      simp only [riskAssessmentIssues, List.append_eq_nil_iff, dateIssues_nil] at issues
      exact issues.1.1.1.2
    obtain ⟨after, rfl⟩ := (grounds.evaluated_ok valid _).mp evaluated
    refine ⟨?_, RiskAssessment.stringify_inj rfl sameText, valid, after⟩
    split at returned
    · exact (Except.ok.inj returned).symm
    · cases returned
  · rintro ⟨rfl, same, valid, after⟩
    have issues : riskAssessmentIssues output [] = [] := by
      rw [same]
      exact groundedAssessment_issues grounds.changeAccepted grounds.contextAccepted valid []
    have evaluated := grounds.evaluated valid after
    rw [← same] at evaluated
    have known : unknownCitation context.evidence output.reasons = none := by
      rw [unknownCitation_none, same]
      exact grounds.blocking.cited
    have identity : context.changeId = change.id ∧ output.changeId = change.id ∧
        output.contextMode = .datahubGrounded ∧
        output.impactContextFingerprint = some context.impactContextFingerprint := by
      rw [same]
      exact ⟨grounds.bound, rfl, rfl, rfl⟩
    simp only [bindGroundedRiskAssessment, parse_accepted grounds.changeAccepted,
      parse_accepted grounds.contextAccepted, parse_accepted issues, evaluated, known, require, identity,
      and_self, if_true, bind, Except.bind]
    rfl

/-- The rules block every complete context, and the binding accepts this assessment at any later
time and nothing else. -/
theorem grounded_risk (script : Script) (spelling : Spelling) (change : ProposedChange)
    (context : ImpactContext) (evaluatedAt : IsoDateTime)
    (grounds : Grounds script spelling change context) (valid : evaluatedAt.Valid)
    (after : context.collectedAt.time ≤ evaluatedAt.time) :
    ∃ assessment,
      evaluateGroundedRisk script spelling change context evaluatedAt = .ok assessment ∧
      BlockingAssessment context assessment ∧
      bindGroundedRiskAssessment script spelling change context assessment = .ok assessment ∧
      ∀ input output,
        bindGroundedRiskAssessment script spelling change context input = .ok output ↔
          output = input ∧ input = { assessment with evaluatedAt := input.evaluatedAt } ∧
            input.evaluatedAt.Valid ∧ context.collectedAt.time ≤ input.evaluatedAt.time :=
  ⟨groundedAssessment change context evaluatedAt, grounds.evaluated valid after, grounds.blocking,
    (grounds.bind_ok _ _).mpr ⟨rfl, rfl, valid, after⟩, grounds.bind_ok⟩

theorem grounded_risk_sample :
    Grounds sampleScript Spelling.sample sampleChange (sampleRun 'a' 0) ∧
      ∃ assessment, bindGroundedRiskAssessment sampleScript Spelling.sample sampleChange
        (sampleRun 'a' 0) assessment = .ok assessment := by
  have grounds : Grounds sampleScript Spelling.sample sampleChange (sampleRun 'a' 0) :=
    ⟨sampleChange_accepted, sampleRun_accepted 'a' 0, rfl, rfl⟩
  obtain ⟨assessment, _, _, accepted, _⟩ := grounded_risk sampleScript Spelling.sample sampleChange
    (sampleRun 'a' 0) (sampleDate 0) grounds (Or.inl Nat.one_ne_zero) (le_refl _)
  exact ⟨grounds, assessment, accepted⟩

end Guarantee

end LineageGuard.Domain
