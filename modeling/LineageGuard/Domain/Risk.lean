import LineageGuard.Domain.Change
import LineageGuard.Domain.ImpactContext
import LineageGuard.Library.Attempt
import Mathlib.Tactic

/-
This file translates the risk rules and the comparison of two assessments.
-/

namespace LineageGuard.Domain

open Json Attempt

section Assessments

inductive Decision
  | allow | review | block
  deriving DecidableEq

def Decision.word : Decision → String
  | .allow => "ALLOW"
  | .review => "REVIEW"
  | .block => "BLOCK"

inductive RiskLevel
  | low | medium | high | critical
  deriving DecidableEq

/-- The constructors stand in the order of the rules. -/
inductive RiskRuleId
  | lg001 | lg002 | lg003 | lg004 | lg005
  deriving DecidableEq

def ruleOrder : RiskRuleId → ℕ
  | .lg001 => 0
  | .lg002 => 1
  | .lg003 => 2
  | .lg004 => 3
  | .lg005 => 4

def expectedSeverity : RiskRuleId → RiskLevel
  | .lg001 | .lg002 | .lg004 => .critical
  | .lg003 | .lg005 => .high

def isBlocking : RiskRuleId → Bool
  | .lg005 => false
  | _ => true

structure RiskReason where
  ruleId : RiskRuleId
  message : String
  evidenceIds : List String
  severity : RiskLevel
  deriving DecidableEq

inductive ContextMode
  | repositoryOnly | datahubGrounded
  deriving DecidableEq

/-- The policy version of an assessment is a literal. -/
structure RiskAssessment where
  changeId : String
  impactContextFingerprint : Option String
  contextMode : ContextMode
  decision : Decision
  risk : RiskLevel
  reasons : List RiskReason
  evaluatedAt : IsoDateTime
  deriving DecidableEq

structure RiskComparison where
  changeId : String
  baseline : RiskAssessment
  grounded : RiskAssessment
  decisionChanged : Bool
  transition : String
  triggeredRuleIds : List RiskRuleId
  changedBecauseEvidenceIds : List String
  deriving DecidableEq

def deriveOutcome (reasons : List RiskReason) : Decision × RiskLevel :=
  if reasons.any fun reason => isBlocking reason.ruleId then
    (.block, if reasons.any fun reason => reason.severity = .critical then .critical else .high)
  else if reasons = [] then (.allow, .low)
  else (.review, .high)

/-- These are the evidence identifiers of all reasons without repetition. -/
def reasonEvidence (reasons : List RiskReason) : List String :=
  sorted (reasons.flatMap (·.evidenceIds)).dedup

end Assessments

section Issues

def RiskReason.issues (reason : RiskReason) (path : List PathItem) : List Issue :=
  lengthIssues 1 500 reason.message (below path "message") ++
  eachIssues reason.evidenceIds (below path "evidenceIds") evidenceIdIssues ++
  countIssues 1 200 reason.evidenceIds (below path "evidenceIds") ++
  issueUnless (reason.severity = expectedSeverity reason.ruleId)
    (.custom "Rule severity contradicts the deterministic policy") (below path "severity") ++
  issueUnless reason.evidenceIds.Nodup (.custom "Reason evidence IDs must be unique")
    (below path "evidenceIds") ++
  issueUnless (reason.evidenceIds = sorted reason.evidenceIds)
    (.custom "Reason evidence IDs must be sorted") (below path "evidenceIds")

/-- A baseline has no reasons and a grounded assessment follows from its reasons. -/
def RiskAssessment.modeIssues (assessment : RiskAssessment) (path : List PathItem) : List Issue :=
  match assessment.contextMode with
  | .repositoryOnly => issueUnless (assessment.decision = .allow ∧ assessment.risk = .low ∧
        assessment.reasons = [] ∧ assessment.impactContextFingerprint = none)
      (.custom "Repository-only assessment must be ALLOW/LOW with no evidence reasons") path
  | .datahubGrounded =>
      issueUnless (assessment.impactContextFingerprint ≠ none)
        (.custom "Grounded assessment must bind the impact context fingerprint")
        (below path "impactContextFingerprint") ++
      issueUnless ((assessment.decision, assessment.risk) = deriveOutcome assessment.reasons)
        (.custom "Grounded decision and risk must be derived from triggered policy rules") path

/-- These are the issues that `riskAssessmentSchema` reports. -/
def riskAssessmentIssues (assessment : RiskAssessment) (path : List PathItem) : List Issue :=
  let order := assessment.reasons.map fun reason => ruleOrder reason.ruleId
  issueUnless (isPrefixedId "chg_" assessment.changeId) .invalidFormat (below path "changeId") ++
  (assessment.impactContextFingerprint.elim [] fun text =>
    fingerprintIssues text (below path "impactContextFingerprint")) ++
  eachIssues assessment.reasons (below path "reasons") RiskReason.issues ++
  issueUnless (assessment.reasons.length ≤ 20) .tooBig (below path "reasons") ++
  dateIssues assessment.evaluatedAt (below path "evaluatedAt") ++
  issueUnless order.Nodup (.custom "Risk rules must be unique") (below path "reasons") ++
  issueUnless (order = order.insertionSort (· ≤ ·))
    (.custom "Risk rules must use canonical order") (below path "reasons") ++
  assessment.modeIssues path

def transitionText (baseline grounded : Decision) : String :=
  baseline.word ++ "→" ++ grounded.word

/-- These are the issues that `riskComparisonSchema` reports. -/
def riskComparisonIssues (comparison : RiskComparison) : List Issue :=
  issueUnless (isPrefixedId "chg_" comparison.changeId) .invalidFormat [.field "changeId"] ++
  riskAssessmentIssues comparison.baseline [.field "baseline"] ++
  riskAssessmentIssues comparison.grounded [.field "grounded"] ++
  issueUnless (comparison.triggeredRuleIds.length ≤ 5) .tooBig [.field "triggeredRuleIds"] ++
  eachIssues comparison.changedBecauseEvidenceIds [.field "changedBecauseEvidenceIds"]
    evidenceIdIssues ++
  issueUnless (comparison.changedBecauseEvidenceIds.length ≤ 200) .tooBig
    [.field "changedBecauseEvidenceIds"] ++
  issueUnless (comparison.baseline.changeId = comparison.changeId ∧
      comparison.grounded.changeId = comparison.changeId ∧
      comparison.baseline.contextMode = .repositoryOnly ∧
      comparison.grounded.contextMode = .datahubGrounded)
    (.custom "Comparison assessments are not bound to the same change") [] ++
  issueUnless (comparison.decisionChanged =
      decide (comparison.baseline.decision ≠ comparison.grounded.decision))
    (.custom "decisionChanged is contradictory") [.field "decisionChanged"] ++
  issueUnless (comparison.transition =
      transitionText comparison.baseline.decision comparison.grounded.decision)
    (.custom "Transition is contradictory") [.field "transition"] ++
  issueUnless (comparison.triggeredRuleIds = comparison.grounded.reasons.map (·.ruleId))
    (.custom "Triggered rule delta is contradictory") [.field "triggeredRuleIds"] ++
  issueUnless (comparison.changedBecauseEvidenceIds = reasonEvidence comparison.grounded.reasons)
    (.custom "Evidence delta is contradictory") [.field "changedBecauseEvidenceIds"]

end Issues

section Evaluation

/-- A schema reports its issues and a function of the domain raises a message. -/
inductive DomainFailure
  | schema (issues : List Issue)
  | message (text : String)
  deriving DecidableEq

/-- This is `parse` of a schema with these issues. -/
def parse {Value : Type} (issues : List Issue) (value : Value) : Except DomainFailure Value := do
  require (issues = []) (.schema issues)
  return value

theorem parse_ok {Value : Type} {issues : List Issue} {value result : Value} :
    parse issues value = .ok result ↔ issues = [] ∧ value = result := by
  simp only [parse, bind_ok, require_ok, pure_ok, exists_const]

theorem parse_accepted {Value : Type} {issues : List Issue} (accepted : issues = [])
    (value : Value) : parse issues value = .ok value := parse_ok.mpr ⟨accepted, rfl⟩

def sortEvidence (items : List EvidenceItem) : List EvidenceItem :=
  items.mergeSort fun left right => localeLe left.id right.id

/-- A rule without evidence gives no reason. -/
def reason (ruleId : RiskRuleId) (message : String) (severity : RiskLevel)
    (evidence : List EvidenceItem) : Except DomainFailure (Option RiskReason) :=
  if evidence = [] then .ok none
  else
    let found : RiskReason := ⟨ruleId, message, (sortEvidence evidence).map (·.id), severity⟩
    (parse (found.issues []) found).map some

def evaluateRepositoryBaseline (script : Script) (untrustedChange : ProposedChange)
    (evaluatedAt : IsoDateTime) : Except DomainFailure RiskAssessment := do
  let change ← parse (proposedChangeIssues script untrustedChange) untrustedChange
  let assessment : RiskAssessment :=
    ⟨change.id, none, .repositoryOnly, .allow, .low, [], evaluatedAt⟩
  parse (riskAssessmentIssues assessment []) assessment

def connectedIds (evidence : List EvidenceItem) : List String :=
  (evidence.filter fun item => !item.payload.isOwner && item.fieldPath = some canonicalFieldPath).map
    (·.id)

/-- The rules read the evidence of the field and what is related to it. -/
def connectedEvidence (evidence : List EvidenceItem) : List EvidenceItem :=
  sortEvidence (evidence.filter fun item =>
    (connectedIds evidence).contains item.id ||
      item.relatedEvidenceIds.any fun id => (connectedIds evidence).contains id)

def downstreamPaths (evidence : List EvidenceItem) : List EvidenceItem :=
  evidence.filter fun item =>
    match item.payload with
    | .lineagePath _ => true
    | _ => false

def productionModels (evidence : List EvidenceItem) : List EvidenceItem :=
  evidence.filter fun item =>
    match item.payload with
    | .mlModel payload => payload.lifecycle = .production
    | _ => false

def criticalDashboards (evidence : List EvidenceItem) : List EvidenceItem :=
  evidence.filter fun item =>
    match item.payload with
    | .dashboard _ => item.criticality = .critical
    | _ => false

def observedSystemQueries (evidence : List EvidenceItem) : List EvidenceItem :=
  evidence.filter fun item =>
    match item.payload with
    | .queryUsage _ => true
    | _ => false

def ownerAssetUrns (evidence : List EvidenceItem) : List String :=
  (owners evidence).map (·.assetUrn)

def missingOwnerAssets (evidence : List EvidenceItem) : List EvidenceItem :=
  evidence.filter fun item =>
    match item.payload with
    | .dashboard payload => item.criticality = .critical &&
        !(ownerAssetUrns evidence).contains payload.dashboardUrn
    | .mlModel payload => item.criticality = .critical &&
        !(ownerAssetUrns evidence).contains payload.modelUrn
    | _ => false

/-- The five rules read the connected evidence. -/
def groundedReasons (evidence : List EvidenceItem) : Except DomainFailure (List RiskReason) := do
  let first ← reason .lg001 "The incompatible field rename has downstream field-level lineage."
    .critical (downstreamPaths evidence)
  let second ← reason .lg002 "A production ML model depends on the renamed field."
    .critical (productionModels evidence)
  let third ← reason .lg003 "An observed system query references the renamed field."
    .high (observedSystemQueries evidence)
  let fourth ← reason .lg004 "A critical dashboard depends on the incompatible field change."
    .critical (criticalDashboards evidence)
  let fifth ← reason .lg005 "An affected critical asset has no recorded owner."
    .high (missingOwnerAssets evidence)
  return [first, second, third, fourth, fifth].filterMap id

/-- The assessment must follow the collection and every retrieval. -/
def evaluationTimes (context : ImpactContext) (evaluatedAt : IsoDateTime) :
    Except DomainFailure Unit := do
  reject (evaluatedAt.time < context.collectedAt.time)
    (.message "Risk assessment cannot precede context collection")
  reject (∃ item ∈ context.evidence, ∃ entry ∈ item.provenance,
      evaluatedAt.time < entry.retrievedAt.time)
    (.message "Risk assessment cannot precede evidence retrieval")

def evaluateGroundedRisk (script : Script) (spelling : Spelling)
    (untrustedChange : ProposedChange) (untrustedContext : ImpactContext)
    (evaluatedAt : IsoDateTime) : Except DomainFailure RiskAssessment := do
  let change ← parse (proposedChangeIssues script untrustedChange) untrustedChange
  let context ← parse (impactContextIssues script spelling untrustedContext) untrustedContext
  require (context.changeId = change.id)
    (.message "Impact context is not bound to the proposed field change")
  require (context.collectionStatus = .complete)
    (.message "Grounded risk evaluation requires a complete impact context")
  evaluationTimes context evaluatedAt
  let reasons ← groundedReasons (connectedEvidence context.evidence)
  let (decision, risk) := deriveOutcome reasons
  let assessment : RiskAssessment := ⟨change.id, some context.impactContextFingerprint,
    .datahubGrounded, decision, risk, reasons, evaluatedAt⟩
  parse (riskAssessmentIssues assessment []) assessment

def compareAuthoritativeRisk (script : Script) (spelling : Spelling)
    (changeInput : ProposedChange) (contextInput : ImpactContext) (baselineAt : IsoDateTime)
    (groundedAt : IsoDateTime) : Except DomainFailure RiskComparison := do
  let change ← parse (proposedChangeIssues script changeInput) changeInput
  let context ← parse (impactContextIssues script spelling contextInput) contextInput
  let baseline ← evaluateRepositoryBaseline script change baselineAt
  let grounded ← evaluateGroundedRisk script spelling change context groundedAt
  let comparison : RiskComparison :=
    { changeId := change.id, baseline, grounded
      decisionChanged := baseline.decision ≠ grounded.decision
      transition := transitionText baseline.decision grounded.decision
      triggeredRuleIds := grounded.reasons.map (·.ruleId)
      changedBecauseEvidenceIds := reasonEvidence grounded.reasons }
  parse (riskComparisonIssues comparison) comparison

end Evaluation

end LineageGuard.Domain
