import LineageGuard.Domain.ImpactContext
import Mathlib.Tactic

/-
This file separates what a context says from how it was retrieved.
-/

namespace LineageGuard.Domain

open Json

section Bare

def TrainingDataReceipt.bare (receipt : TrainingDataReceipt) : TrainingDataReceipt :=
  { receipt with endpoint := "", responseSha256 := "", retrievedAt := ⟨0, 0⟩ }

def EvidencePayload.bare : EvidencePayload → EvidencePayload
  | .mlModel payload =>
      .mlModel { payload with trainingDataReceipt := payload.trainingDataReceipt.bare }
  | payload => payload

/-- A draft keeps its content and drops its retrievals. -/
def EvidenceDraft.bare (draft : EvidenceDraft) : EvidenceDraft :=
  { draft with provenance := [], payload := draft.payload.bare }

theorem semanticPayload_bare (payload : EvidencePayload) :
    semanticPayload payload.bare = semanticPayload payload := by
  cases payload <;> rfl

end Bare

section Steps

/-- Every kind of evidence is collected in these steps. -/
def semanticSteps : EvidencePayload → List (Tool × Role)
  | .schema _ => [(.listSchemaFields, .schema)]
  | .lineagePath _ => [(.getLineage, .lineageDiscovery), (.getLineagePathsBetween, .fieldPath),
      (.getLineagePathsBetween, .entityPath)]
  | .dashboard _ | .mlModel _ => [(.getEntities, .entityDetails)]
  | .queryUsage _ => [(.getDatasetQueries, .queryDiscovery), (.getEntities, .queryDetails)]
  | .owner _ => [(.getEntities, .owner)]
  | .glossaryTerm _ => [(.listSchemaFields, .glossaryBinding), (.getEntities, .glossaryDetails)]

def pushPair (steps : List (Tool × Role)) (step : Role × Tool) : List (Tool × Role) :=
  if steps.getLast? = some (step.2, step.1) then steps else steps ++ [(step.2, step.1)]

theorem semanticProvenance_eq (provenance : List Provenance) : semanticProvenance provenance =
    (provenance.map fun entry => (entry.role, entry.tool)).foldl pushPair [] := by
  rw [semanticProvenance, List.foldl_map]
  rfl

/-- Pages that repeat a step leave one step. -/
theorem pushPair_repeated (count : ℕ) (step : Role × Tool) :
    (List.replicate (count + 1) step).foldl pushPair [] = [(step.2, step.1)] := by
  have kept : ∀ more : ℕ, (List.replicate more step).foldl pushPair [(step.2, step.1)] =
      [(step.2, step.1)] := by
    intro more
    induction more with
    | zero => rfl
    | succ more ih =>
        rw [List.replicate_succ, List.foldl_cons, pushPair, if_pos (by rfl)]
        exact ih
  rw [List.replicate_succ, List.foldl_cons]
  exact kept count

theorem matchesRepeatedPrefix_split {steps suffix : List (Role × Tool)} {step : Role × Tool}
    (matched : matchesRepeatedPrefix steps step suffix = true) :
    ∃ count, steps = List.replicate (count + 1) step ++ suffix := by
  simp only [matchesRepeatedPrefix, Bool.and_eq_true, decide_eq_true_eq, List.all_eq_true,
    beq_iff_eq] at matched
  obtain ⟨⟨longer, repeated⟩, rest⟩ := matched
  refine ⟨steps.length - suffix.length - 1, ?_⟩
  have start : steps.take (steps.length - suffix.length) =
      List.replicate (steps.length - suffix.length - 1 + 1) step := by
    rw [List.eq_replicate_iff]
    refine ⟨?_, repeated⟩
    rw [List.length_take]
    omega
  calc
    steps = steps.take (steps.length - suffix.length) ++ steps.drop (steps.length - suffix.length) :=
        (List.take_append_drop _ _).symm
    _ = _ := by rw [start, rest]

theorem semanticProvenance_repeated {item : EvidenceItem} {step : Role × Tool}
    {suffix : List (Role × Tool)}
    (matched : matchesRepeatedPrefix (item.provenance.map fun entry => (entry.role, entry.tool))
      step suffix = true) :
    semanticProvenance item.provenance = suffix.foldl pushPair [(step.2, step.1)] := by
  obtain ⟨count, split⟩ := matchesRepeatedPrefix_split matched
  rw [semanticProvenance_eq, split, List.foldl_append, pushPair_repeated]

theorem semanticProvenance_single {item : EvidenceItem} {step : Role × Tool}
    (matched : ((item.provenance.map fun entry => (entry.role, entry.tool)) == [step]) = true) :
    semanticProvenance item.provenance = [(step.2, step.1)] := by
  rw [semanticProvenance_eq, beq_iff_eq.mp matched]
  rfl

/-- The steps of an accepted item depend on its kind alone. -/
theorem semanticProvenance_steps {item : EvidenceItem} (matched : provenanceMatches item = true) :
    semanticProvenance item.provenance = semanticSteps item.payload := by
  rw [provenanceMatches] at matched
  cases payload : item.payload <;> simp only [payload] at matched
  case schema => exact semanticProvenance_repeated matched
  case lineagePath => exact semanticProvenance_repeated matched
  case dashboard => exact semanticProvenance_single matched
  case mlModel => exact semanticProvenance_single matched
  case queryUsage => exact semanticProvenance_repeated matched
  case owner => exact semanticProvenance_single matched
  case glossaryTerm => exact semanticProvenance_repeated matched

end Steps

section Identity

def bareProvenance (step : Tool × Role) : Provenance := ⟨⟨step.1, "", ⟨0, 0⟩, ""⟩, step.2⟩

/-- The identity of an accepted item is that of its content with one entry for each step. -/
def bareIdentity (draft : EvidenceDraft) : Value :=
  normalizedEvidenceIdentity
    { draft with provenance := (semanticSteps draft.payload).map bareProvenance }

theorem bareIdentity_eq {item : EvidenceItem} (matched : provenanceMatches item = true) :
    normalizedEvidenceIdentity item.toEvidenceDraft = bareIdentity item.toEvidenceDraft.bare := by
  have steps : semanticProvenance ((semanticSteps item.payload.bare).map bareProvenance) =
      semanticSteps item.payload := by
    cases item.payload <;> rfl
  have kind : item.payload.bare.kind = item.payload.kind := by
    cases item.payload <;> rfl
  simp only [bareIdentity, normalizedEvidenceIdentity, EvidenceDraft.bare, steps, kind,
    semanticPayload_bare, semanticProvenance_steps matched]

end Identity

section Accepted

variable {script : Script} {spelling : Spelling} {data : ImpactContextData}

/-- The loop over the items checks the bindings of each one. -/
theorem evidenceIssues_bindings {index : ℕ} {known : Invocations} {items : List EvidenceItem}
    (accepted : (evidenceIssues data index known items).1 = []) :
    ∀ item ∈ items, ∃ path, bindingIssues data.evidence item path = [] := by
  induction items generalizing index known with
  | nil => simp
  | cons item rest ih =>
      simp only [evidenceIssues, List.append_eq_nil_iff] at accepted
      obtain ⟨⟨_, bindings⟩, others⟩ := accepted
      rw [List.forall_mem_cons]
      exact ⟨⟨_, bindings⟩, ih others⟩

/-- An accepted item has the identity of its content. -/
structure Bound (script : Script) (item : EvidenceItem) : Prop where
  id : item.id = script.stableId "ev" (bareIdentity item.toEvidenceDraft.bare)
  fingerprint : item.fingerprint = script.sha256 (bareIdentity item.toEvidenceDraft.bare)
  identity : normalizedEvidenceIdentity item.toEvidenceDraft =
    bareIdentity item.toEvidenceDraft.bare
  related : item.relatedEvidenceIds = sorted item.relatedEvidenceIds

theorem accepted_bound (accepted : contextDataIssues script data = []) :
    ∀ item ∈ data.evidence, Bound script item := by
  intro item present
  simp only [contextDataIssues, List.append_eq_nil_iff] at accepted
  obtain ⟨⟨⟨⟨shape, _⟩, items⟩, _⟩, _⟩ := accepted
  obtain ⟨path, bindings⟩ := evidenceIssues_bindings items item present
  simp only [bindingIssues, List.append_eq_nil_iff, issueUnless_nil] at bindings
  obtain ⟨⟨⟨⟨matched, related⟩, _⟩, _⟩, _⟩ := bindings
  simp only [ImpactContextData.shapeIssues, List.append_eq_nil_iff, and_assoc] at shape
  obtain ⟨_, _, _, _, _, each, _⟩ := shape
  obtain ⟨place, checked⟩ := eachIssues_nil each item present
  simp only [evidenceItemIssues, List.append_eq_nil_iff, issueUnless_nil] at checked
  obtain ⟨⟨_, fingerprint⟩, id⟩ := checked
  rw [bareIdentity_eq matched] at fingerprint id
  exact ⟨id, fingerprint, bareIdentity_eq matched, related⟩

theorem accepted_order (accepted : contextDataIssues script data = []) :
    data.evidence.map (·.id) = sorted (data.evidence.map (·.id)) ∧
      (data.evidence.map (·.id)).Nodup := by
  simp only [contextDataIssues, List.append_eq_nil_iff] at accepted
  obtain ⟨⟨⟨⟨_, order⟩, _⟩, _⟩, _⟩ := accepted
  simp only [orderIssues, List.append_eq_nil_iff, issueUnless_nil] at order
  exact ⟨order.1.1.1.2, order.2⟩

end Accepted

section Meaning

/-- Two lists of evidence have the same content in some order. -/
def SameEvidence (first second : List EvidenceItem) : Prop :=
  (first.map fun item => item.toEvidenceDraft.bare).Perm
    (second.map fun item => item.toEvidenceDraft.bare)

/-- Two contexts differ at most in the data of their retrievals and in the order of their lists. -/
structure SameMeaning (first second : ImpactContextData) : Prop where
  changeId : first.changeId = second.changeId
  collectionStatus : first.collectionStatus = second.collectionStatus
  evidence : SameEvidence first.evidence second.evidence
  failures : (first.failures.map fun failure => (failure.tool, failure.code)).Perm
    (second.failures.map fun failure => (failure.tool, failure.code))

/-- Two contexts store the tools and the codes of their failures in the same order. -/
def SameFailureOrder (first second : ImpactContextData) : Prop :=
  (first.failures.map fun failure => (failure.tool, failure.code)) =
    second.failures.map fun failure => (failure.tool, failure.code)

variable {script : Script} {first second : ImpactContextData}

theorem bareIds_eq (accepted : contextDataIssues script first = []) :
    (first.evidence.map fun item => item.toEvidenceDraft.bare).map
      (fun draft => script.stableId "ev" (bareIdentity draft)) = first.evidence.map (·.id) := by
  rw [List.map_map]
  apply List.map_congr_left
  intro item present
  exact (accepted_bound accepted item present).id.symm

/-- Accepted contexts with the same content store it in the same order. -/
theorem sameEvidence_ordered (firstAccepted : contextDataIssues script first = [])
    (secondAccepted : contextDataIssues script second = [])
    (same : SameEvidence first.evidence second.evidence) :
    (first.evidence.map fun item => item.toEvidenceDraft.bare) =
      second.evidence.map fun item => item.toEvidenceDraft.bare := by
  apply eq_of_sorted (fun draft => script.stableId "ev" (bareIdentity draft)) same
  · rw [bareIds_eq firstAccepted]
    exact (accepted_order firstAccepted).1
  · rw [bareIds_eq secondAccepted]
    exact (accepted_order secondAccepted).1
  · rw [bareIds_eq secondAccepted]
    exact (accepted_order secondAccepted).2

end Meaning

end LineageGuard.Domain
