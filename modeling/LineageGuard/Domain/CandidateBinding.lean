import LineageGuard.Domain.RiskBinding
import LineageGuard.Library.OrderedMap
import Mathlib.Tactic

/-
This file translates the check that a candidate follows from its change, context and assessment.
-/

namespace LineageGuard.Domain

open Json Attempt

section Reviewers

def MigrationReviewer.owned : MigrationReviewer → Option (String × List String)
  | .owner ownerUrn affectedAssetUrns _ => some (ownerUrn, affectedAssetUrns)
  | .unresolvedOwner _ _ _ => none

def MigrationReviewer.escalated : MigrationReviewer → Option (String × String)
  | .owner _ _ _ => none
  | .unresolvedOwner evidenceId affectedAssetUrn _ => some (evidenceId, affectedAssetUrn)

/-- These are the assets of each owner in the order of the evidence. -/
def ownerAssets (evidence : List EvidenceItem) : List (String × List String) :=
  OrderedMap.group ((owners evidence).map fun owner => (owner.ownerUrn, owner.assetUrn))

/-- A dashboard and a model are affected critical assets. -/
def affectedAsset (item : EvidenceItem) : Option String :=
  (match item.payload with
    | .dashboard payload => some payload.dashboardUrn
    | .mlModel payload => some payload.modelUrn
    | _ => none).filter (· ≠ "")

def lg005Ids (reasons : List RiskReason) : List String :=
  ((reasons.find? fun reason => reason.ruleId = .lg005).map (·.evidenceIds)).getD []

def escalationKey (pair : String × String) : String := pair.1 ++ ":" ++ pair.2

def expectedEscalation (evidence : List EvidenceItem) (evidenceId : String) :
    Except DomainFailure String := do
  let item := evidence.find? fun item => item.id = evidenceId
  let assetUrn ← present (item.bind affectedAsset)
    (.message "LG005 must reference an affected critical asset")
  return escalationKey (evidenceId, assetUrn)

end Reviewers

section Binding

/-- A modified artifact names the commit that it expects. -/
def MigrationArtifact.expectedBaseSha (artifact : MigrationArtifact) : Option String :=
  match artifact.kind with
  | .dbtModel expectedBaseSha => some expectedBaseSha
  | _ => none

/-- Both texts are written from lists of texts. -/
def sameTexts (script : Script) (first second : List String) : Prop :=
  script.stringify (texts first) = script.stringify (texts second)

instance (script : Script) (first second : List String) : Decidable (sameTexts script first second) :=
  inferInstanceAs (Decidable (_ = _))

def checkSource (candidate : MigrationCandidate) (change : ProposedChange)
    (context : ImpactContext) (assessment : RiskAssessment) : Except DomainFailure Unit :=
  require (context.changeId = change.id ∧ assessment.changeId = change.id ∧
      assessment.contextMode = .datahubGrounded ∧
      candidate.sourceChangeFingerprint = change.fingerprint ∧
      candidate.sourcePatchFingerprint = change.sourcePatchFingerprint ∧
      candidate.sourceImpactContextFingerprint = context.impactContextFingerprint ∧
      assessment.impactContextFingerprint = some context.impactContextFingerprint ∧
      assessment.decision = .block)
    (.message "Migration candidate source binding does not match the change and decision")

def checkEvidence (script : Script) (candidate : MigrationCandidate) (context : ImpactContext)
    (assessment : RiskAssessment) : Except DomainFailure Unit := do
  require (sameTexts script candidate.sourceEvidenceIds (reasonEvidence assessment.reasons))
    (.message "Migration candidate does not cite the exact risk evidence set")
  reject (∃ id ∈ candidate.sourceEvidenceIds, id ∉ context.evidence.map (·.id))
    (.message "Migration candidate cites evidence outside the bound impact context")

def checkOwners (script : Script) (candidate : MigrationCandidate) (context : ImpactContext) :
    Except DomainFailure Unit := do
  let ownerReviewers := candidate.requiredReviewers.filterMap MigrationReviewer.owned
  require (ownerReviewers.length = (ownerAssets context.evidence).length)
    (.message "Migration candidate owner reviewers do not match ownership evidence")
  require (∀ reviewer ∈ ownerReviewers, sameTexts script reviewer.2
      (sorted (((ownerAssets context.evidence).lookup reviewer.1).getD [])))
    (.message "Migration candidate owner reviewer assets do not match ownership evidence")

def checkEscalations (script : Script) (candidate : MigrationCandidate) (context : ImpactContext)
    (assessment : RiskAssessment) : Except DomainFailure Unit := do
  let expectedEscalations ←
    (lg005Ids assessment.reasons).mapM (expectedEscalation context.evidence)
  let actualEscalations :=
    (candidate.requiredReviewers.filterMap MigrationReviewer.escalated).map escalationKey
  require (sameTexts script (sorted actualEscalations) (sorted expectedEscalations))
    (.message
      "Migration candidate unresolved-owner escalations do not match LG005 evidence")

def bindMigrationCandidate (script : Script) (spelling : Spelling)
    (candidateInput : MigrationCandidate) (changeInput : ProposedChange)
    (contextInput : ImpactContext) (assessmentInput : RiskAssessment) :
    Except DomainFailure MigrationCandidate := do
  let candidate ← parse (migrationCandidateIssues candidateInput) candidateInput
  let change ← parse (proposedChangeIssues script changeInput) changeInput
  let context ← parse (impactContextIssues script spelling contextInput) contextInput
  let assessment ← bindGroundedRiskAssessment script spelling change context assessmentInput
  checkSource candidate change context assessment
  checkEvidence script candidate context assessment
  checkOwners script candidate context
  checkEscalations script candidate context assessment
  reject (∃ artifact ∈ candidate.artifacts, ∃ sha ∈ artifact.expectedBaseSha,
      sha ≠ change.baseSha)
    (.message "Modified artifact base SHA does not match the proposed change base")
  return candidate

end Binding

end LineageGuard.Domain
