import LineageGuard.Domain.Risk
import Mathlib.Tactic

/-
This file translates the check that an assessment is the one that the rules give.
-/

namespace LineageGuard.Domain

open Json Attempt

section Texts

def RiskLevel.word : RiskLevel → String
  | .low => "LOW"
  | .medium => "MEDIUM"
  | .high => "HIGH"
  | .critical => "CRITICAL"

def RiskRuleId.word : RiskRuleId → String
  | .lg001 => "LG001"
  | .lg002 => "LG002"
  | .lg003 => "LG003"
  | .lg004 => "LG004"
  | .lg005 => "LG005"

def ContextMode.word : ContextMode → String
  | .repositoryOnly => "REPOSITORY_ONLY"
  | .datahubGrounded => "DATAHUB_GROUNDED"

def RiskReason.json (reason : RiskReason) : Value :=
  .object [("ruleId", .string reason.ruleId.word), ("message", .string reason.message),
    ("evidenceIds", texts reason.evidenceIds), ("severity", .string reason.severity.word)]

/-- The schema gives its members in this order. -/
def RiskAssessment.json (spelling : Spelling) (assessment : RiskAssessment) : Value :=
  .object ([("changeId", .string assessment.changeId)] ++
    optional "impactContextFingerprint" assessment.impactContextFingerprint ++
    [("contextMode", .string assessment.contextMode.word),
      ("decision", .string assessment.decision.word), ("risk", .string assessment.risk.word),
      ("reasons", .array (assessment.reasons.map RiskReason.json)),
      ("evaluatedAt", .string (spelling.date assessment.evaluatedAt)),
      ("policyVersion", .string "lineageguard-p0.1")])

theorem Decision.word_injective : Function.Injective Decision.word := by
  intro first second same
  cases first <;> cases second <;> simp [Decision.word] at same ⊢

theorem RiskLevel.word_injective : Function.Injective RiskLevel.word := by
  intro first second same
  cases first <;> cases second <;> simp [RiskLevel.word] at same ⊢

theorem RiskRuleId.word_injective : Function.Injective RiskRuleId.word := by
  intro first second same
  cases first <;> cases second <;> simp [RiskRuleId.word] at same ⊢

theorem ContextMode.word_injective : Function.Injective ContextMode.word := by
  intro first second same
  cases first <;> cases second <;> simp [ContextMode.word] at same ⊢

theorem texts_injective : Function.Injective texts := by
  intro first second same
  have string : Function.Injective Value.string := fun _ _ equal => Value.string.inj equal
  exact List.map_injective_iff.mpr string (Value.array.inj same)

theorem RiskReason.json_injective : Function.Injective RiskReason.json := by
  intro first second same
  obtain ⟨firstRule, firstMessage, firstIds, firstSeverity⟩ := first
  obtain ⟨secondRule, secondMessage, secondIds, secondSeverity⟩ := second
  simp only [RiskReason.json, Value.object.injEq, List.cons.injEq, Prod.mk.injEq,
    Value.string.injEq, true_and, and_true] at same
  obtain ⟨rule, message, ids, severity⟩ := same
  rw [RiskRuleId.word_injective rule, message, texts_injective ids,
    RiskLevel.word_injective severity]

theorem RiskReason.json_plain (reason : RiskReason) : Plain reason.json := by
  simp [RiskReason.json, Plain, PlainMembers, texts_plain]

theorem RiskAssessment.json_plain (spelling : Spelling) (assessment : RiskAssessment) :
    Plain (assessment.json spelling) := by
  cases fingerprint : assessment.impactContextFingerprint <;>
    simp [RiskAssessment.json, optional, fingerprint, Plain, PlainMembers, plainItems_iff,
      RiskReason.json_plain]

/-- Assessments of one time with the same text are the same. -/
theorem RiskAssessment.stringify_inj {script : Script} {spelling : Spelling}
    {first second : RiskAssessment} (sameTime : first.evaluatedAt = second.evaluatedAt)
    (sameText : script.stringify (first.json spelling) = script.stringify (second.json spelling)) :
    first = second := by
  rw [stringify_eq script _ (first.json_plain spelling),
    stringify_eq script _ (second.json_plain spelling)] at sameText
  have same := text_inj sameText
  obtain ⟨firstChange, firstFingerprint, firstMode, firstDecision, firstRisk, firstReasons,
    firstTime⟩ := first
  obtain ⟨secondChange, secondFingerprint, secondMode, secondDecision, secondRisk, secondReasons,
    secondTime⟩ := second
  have fingerprints : firstFingerprint = secondFingerprint := by
    cases firstFingerprint <;> cases secondFingerprint <;>
      simp [RiskAssessment.json, optional] at same ⊢
    exact same.2.1
  subst fingerprints
  simp only [RiskAssessment.json, Value.object.injEq, List.append_cancel_left_eq,
    List.cons_append, List.nil_append, List.cons.injEq, Prod.mk.injEq,
    Value.string.injEq, Value.array.injEq, true_and, and_true] at same
  obtain ⟨change, mode, decision, risk, reasons, _⟩ := same
  rw [RiskAssessment.mk.injEq]
  exact ⟨change, rfl, ContextMode.word_injective mode, Decision.word_injective decision,
    RiskLevel.word_injective risk, List.map_injective_iff.mpr RiskReason.json_injective reasons,
    sameTime⟩

end Texts

section Binding

/-- The first citation of a reason that is not an item of the evidence. -/
def unknownCitation (evidence : List EvidenceItem) (reasons : List RiskReason) :
    Option (RiskRuleId × String) :=
  (reasons.flatMap fun item => item.evidenceIds.map fun evidenceId => (item.ruleId, evidenceId)).find?
    fun cited => !(evidence.map (·.id)).contains cited.2

theorem unknownCitation_none {evidence : List EvidenceItem} {reasons : List RiskReason} :
    unknownCitation evidence reasons = none ↔
      ∀ item ∈ reasons, ∀ evidenceId ∈ item.evidenceIds, evidenceId ∈ evidence.map (·.id) := by
  simp only [unknownCitation, List.find?_eq_none, List.mem_flatMap, List.mem_map, Bool.not_eq_true,
    Bool.not_eq_false', List.contains_iff_mem]
  constructor
  · intro cited item isItem evidenceId named
    exact cited (item.ruleId, evidenceId) ⟨item, isItem, evidenceId, named, rfl⟩
  · rintro known _ ⟨item, isItem, evidenceId, named, rfl⟩
    exact known item isItem evidenceId named

def bindGroundedRiskAssessment (script : Script) (spelling : Spelling)
    (changeInput : ProposedChange) (contextInput : ImpactContext)
    (assessmentInput : RiskAssessment) : Except DomainFailure RiskAssessment := do
  let change ← parse (proposedChangeIssues script changeInput) changeInput
  let parsedContext ← parse (impactContextIssues script spelling contextInput) contextInput
  let parsedAssessment ← parse (riskAssessmentIssues assessmentInput []) assessmentInput
  require (parsedContext.changeId = change.id ∧ parsedAssessment.changeId = change.id ∧
      parsedAssessment.contextMode = .datahubGrounded ∧
      parsedAssessment.impactContextFingerprint = some parsedContext.impactContextFingerprint)
    (.message "Grounded assessment identity does not match the change and context")
  let authoritative ←
    evaluateGroundedRisk script spelling change parsedContext parsedAssessment.evaluatedAt
  require (script.stringify (parsedAssessment.json spelling) =
      script.stringify (authoritative.json spelling))
    (.message "Grounded assessment is not the authoritative deterministic decision")
  match unknownCitation parsedContext.evidence parsedAssessment.reasons with
  | none => return parsedAssessment
  | some (ruleId, evidenceId) => throw (.message
      ("Risk reason " ++ ruleId.word ++ " cites unknown evidence " ++ evidenceId))

end Binding

end LineageGuard.Domain
