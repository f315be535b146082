import LineageGuard.Domain.Meaning
import Mathlib.Tactic

/-
This file proves what the semantic fingerprint of an impact context tells about the context.
-/

namespace LineageGuard.Domain

open Json

section Reading

variable {members others : List (String × Value)} {key : String}

theorem texts_member
    (same : canonical localeLe (.object members) = canonical localeLe (.object others))
    (single : (others.map Prod.fst).Nodup) (index : ℕ) {left right : List String}
    (isLeft : members[index]? = some (key, texts left))
    (isRight : others[index]? = some (key, texts right)) : left = right := by
  have equal := array_member same single index isLeft isRight
  rw [List.map_map, List.map_map] at equal
  have strings : canonical localeLe ∘ Value.string = Value.string := by
    funext content
    simp [canonical]
  rw [strings] at equal
  exact List.map_injective_iff.mpr (fun _ _ same => Value.string.inj same) equal

/-- The canonical items of two arrays are read one by one. -/
theorem map_canonical_inj {A B : Type} {write : A → Value} {meaning : A → B}
    (inj : ∀ left right, canonical localeLe (write left) = canonical localeLe (write right) →
      meaning left = meaning right) {first second : List A}
    (same : (first.map write).map (canonical localeLe) =
      (second.map write).map (canonical localeLe)) : first.map meaning = second.map meaning := by
  induction first generalizing second with
  | nil =>
      cases second with
      | nil => rfl
      | cons item rest => simp at same
  | cons item rest ih =>
      cases second with
      | nil => simp at same
      | cons other remaining =>
          simp only [List.map_cons, List.cons.injEq] at same ⊢
          exact ⟨inj item other same.1, ih same.2⟩

end Reading

section Words

theorem Criticality.word_inj {left right : Criticality} (same : left.word = right.word) :
    left = right := by
  cases left <;> cases right <;> first | rfl | exact absurd same (by decide)

theorem Lifecycle.word_inj {left right : Lifecycle} (same : left.word = right.word) :
    left = right := by
  cases left <;> cases right <;> first | rfl | exact absurd same (by decide)

theorem OwnershipType.word_inj {left right : OwnershipType} (same : left.word = right.word) :
    left = right := by
  cases left <;> cases right <;> first | rfl | exact absurd same (by decide)

theorem CollectionStatus.word_inj {left right : CollectionStatus} (same : left.word = right.word) :
    left = right := by
  cases left <;> cases right <;> first | rfl | exact absurd same (by decide)

theorem Tool.word_inj {left right : Tool} (same : left.word = right.word) : left = right := by
  cases left <;> cases right <;> first | rfl | exact absurd same (by decide)

theorem FailureCode.word_inj {left right : FailureCode} (same : left.word = right.word) :
    left = right := by
  cases left <;> cases right <;> first | rfl | exact absurd same (by decide)

end Words

section Payloads

theorem segment_inj {left right : LineageSegment}
    (same : canonical localeLe left.json = canonical localeLe right.json) : left = right := by
  cases left <;> cases right <;> simp only [LineageSegment.json] at same
  case field.field =>
      have source := string_member same (by simp) 1 rfl rfl
      have target := string_member same (by simp) 2 rfl rfl
      have sourceField := string_member same (by simp) 3 rfl rfl
      have targetField := string_member same (by simp) 4 rfl rfl
      rw [source, target, sourceField, targetField]
  case entity.entity =>
      rw [string_member same (by simp) 1 rfl rfl, string_member same (by simp) 2 rfl rfl]
  case field.entity =>
      have word := string_member same (by simp) 0 rfl rfl
      exact absurd word (by decide)
  case entity.field =>
      have word := string_member same (by simp) 0 rfl rfl
      exact absurd word (by decide)

theorem schemaPayload_inj {left right : SchemaPayload}
    (same : canonical localeLe left.json = canonical localeLe right.json) : left = right := by
  have urn := string_member same (by simp) 0 rfl rfl
  have path := string_member same (by simp) 1 rfl rfl
  have type := string_member same (by simp) 2 rfl rfl
  have nullable := bool_member same (by simp) 3 rfl rfl
  cases left
  cases right
  congr

theorem lineagePathPayload_inj {left right : LineagePathPayload}
    (same : canonical localeLe left.json = canonical localeLe right.json) : left = right := by
  have nodes := texts_member same (by simp) 1 rfl rfl
  have segments := array_member same (by simp) 2 rfl rfl
  have segments := map_canonical_inj (fun _ _ => segment_inj) segments
  cases left
  cases right
  simp only [List.map_id_fun', id] at segments
  congr

theorem dashboardPayload_inj {left right : DashboardPayload}
    (same : canonical localeLe left.json = canonical localeLe right.json) : left = right := by
  have urn := string_member same (by simp) 0 rfl rfl
  have platform := string_member same (by simp) 1 rfl rfl
  have lifecycle := Lifecycle.word_inj (string_member same (by simp) 2 rfl rfl)
  have classifications := texts_member same (by simp) 3 rfl rfl
  have ownerUrns := texts_member same (by simp) 5 rfl rfl
  have dataset := string_member same (by simp) 6 rfl rfl
  have field := string_member same (by simp) 7 rfl rfl
  cases left
  cases right
  congr

theorem modelPayload_inj {left right : ModelPayload}
    (same : canonical localeLe left.semantic = canonical localeLe right.semantic) :
    EvidencePayload.bare (.mlModel left) = EvidencePayload.bare (.mlModel right) := by
  have urn := string_member same (by simp [ModelPayload.members]) 0 rfl rfl
  have lifecycle := Lifecycle.word_inj
    (string_member same (by simp [ModelPayload.members]) 1 rfl rfl)
  have classifications := texts_member same (by simp [ModelPayload.members]) 2 rfl rfl
  have ownerUrns := texts_member same (by simp [ModelPayload.members]) 4 rfl rfl
  have dataset := string_member same (by simp [ModelPayload.members]) 5 rfl rfl
  have field := string_member same (by simp [ModelPayload.members]) 6 rfl rfl
  have proof := canonical_member same (by simp [ModelPayload.members])
    (List.mem_of_getElem? (i := 7) rfl) (List.mem_of_getElem? (i := 7) rfl)
  have model := string_member proof (by simp) 2 rfl rfl
  have provenDataset := string_member proof (by simp) 3 rfl rfl
  simp only [EvidencePayload.bare, TrainingDataReceipt.bare]
  cases left
  cases right
  congr

theorem queryPayload_inj {left right : QueryPayload}
    (same : canonical localeLe left.json = canonical localeLe right.json) : left = right := by
  have urn := string_member same (by simp) 0 rfl rfl
  have dataset := string_member same (by simp) 3 rfl rfl
  have schemaField := string_member same (by simp) 4 rfl rfl
  have path := string_member same (by simp) 5 rfl rfl
  have statement := string_member same (by simp) 6 rfl rfl
  cases left
  cases right
  congr

theorem ownerPayload_inj {left right : OwnerPayload}
    (same : canonical localeLe left.json = canonical localeLe right.json) : left = right := by
  have asset := string_member same (by simp) 0 rfl rfl
  have owner := string_member same (by simp) 1 rfl rfl
  have name := string_member same (by simp) 2 rfl rfl
  have type := OwnershipType.word_inj (string_member same (by simp) 3 rfl rfl)
  cases left
  cases right
  congr

theorem glossaryPayload_inj {left right : GlossaryPayload}
    (same : canonical localeLe left.json = canonical localeLe right.json) : left = right := by
  have urn := string_member same (by simp) 0 rfl rfl
  have name := string_member same (by simp) 1 rfl rfl
  have schemaField := string_member same (by simp) 2 rfl rfl
  have path := string_member same (by simp) 3 rfl rfl
  cases left
  cases right
  congr

/-- The semantic payloads of one kind tell everything but the retrieval of a receipt. -/
theorem semanticPayload_inj {left right : EvidencePayload} (kinds : left.kind = right.kind)
    (same : canonical localeLe (semanticPayload left) = canonical localeLe (semanticPayload right)) :
    left.bare = right.bare := by
  cases left <;> cases right <;> try (simp [EvidencePayload.kind] at kinds; done)
  case schema => rw [schemaPayload_inj same]
  case lineagePath => rw [lineagePathPayload_inj same]
  case dashboard => rw [dashboardPayload_inj same]
  case mlModel => exact modelPayload_inj same
  case queryUsage => rw [queryPayload_inj same]
  case owner => rw [ownerPayload_inj same]
  case glossaryTerm => rw [glossaryPayload_inj same]

end Payloads

section Identities

theorem nullable_inj {left right : Option String}
    (same : canonical localeLe (nullable left) = canonical localeLe (nullable right)) :
    left = right := by
  cases left <;> cases right <;> simp [nullable, canonical] at same
  · rfl
  · rw [same]

/-- The identity of an item tells its content. -/
theorem identity_inj {left right : EvidenceItem}
    (leftRelated : left.relatedEvidenceIds = sorted left.relatedEvidenceIds)
    (rightRelated : right.relatedEvidenceIds = sorted right.relatedEvidenceIds)
    (same : canonical localeLe (normalizedEvidenceIdentity left.toEvidenceDraft) =
      canonical localeLe (normalizedEvidenceIdentity right.toEvidenceDraft)) :
    left.toEvidenceDraft.bare = right.toEvidenceDraft.bare := by
  have kind := string_member same (by simp) 0 rfl rfl
  have sourceUrn := string_member same (by simp) 1 rfl rfl
  have targetUrn := nullable_inj (canonical_member same (by simp)
    (List.mem_of_getElem? (i := 2) rfl) (List.mem_of_getElem? (i := 2) rfl))
  have fieldPath := nullable_inj (canonical_member same (by simp)
    (List.mem_of_getElem? (i := 3) rfl) (List.mem_of_getElem? (i := 3) rfl))
  have title := string_member same (by simp) 4 rfl rfl
  have summary := string_member same (by simp) 5 rfl rfl
  have criticality := Criticality.word_inj (string_member same (by simp) 6 rfl rfl)
  have payload := semanticPayload_inj kind (canonical_member same (by simp)
    (List.mem_of_getElem? (i := 7) rfl) (List.mem_of_getElem? (i := 7) rfl))
  have related := texts_member same (by simp) 8 rfl rfl
  rw [← leftRelated, ← rightRelated] at related
  simp only [EvidenceDraft.bare, sourceUrn, targetUrn, fieldPath, title, summary, criticality,
    payload, related]

/-- An evidence reference tells both of its texts. -/
theorem reference_inj {left right : EvidenceItem}
    (same : canonical localeLe (evidenceReference left) =
      canonical localeLe (evidenceReference right)) : left.fingerprint = right.fingerprint :=
  string_member same (by simp) 1 rfl rfl

theorem failureReference_inj {left right : CollectionFailure}
    (same : canonical localeLe (failureReference left) =
      canonical localeLe (failureReference right)) :
    (left.tool, left.code) = (right.tool, right.code) := by
  have tool := Tool.word_inj (string_member same (by simp) 0 rfl rfl)
  have code := FailureCode.word_inj (string_member same (by simp) 1 rfl rfl)
  rw [tool, code]

/-- The semantic identity of a context depends on these four parts. -/
theorem semanticIdentity_congr {first second : ImpactContextData}
    (changeId : first.changeId = second.changeId)
    (collectionStatus : first.collectionStatus = second.collectionStatus)
    (evidence : first.evidence.map evidenceReference = second.evidence.map evidenceReference)
    (failures : SameFailureOrder first second) :
    impactContextSemanticIdentity first = impactContextSemanticIdentity second := by
  have references : ∀ data : ImpactContextData, data.failures.map failureReference =
      (data.failures.map fun failure => (failure.tool, failure.code)).map fun pair =>
        .object [("tool", .string pair.1.word), ("code", .string pair.2.word)] := by
    intro data
    rw [List.map_map]
    rfl
  rw [impactContextSemanticIdentity, impactContextSemanticIdentity, references, references,
    failures, changeId, collectionStatus, evidence]

theorem normalizedIdentity_plain (item : EvidenceItem) :
    Plain (normalizedEvidenceIdentity item.toEvidenceDraft) := by
  have optional : ∀ text : Option String, Plain (nullable text) := by
    intro text
    cases text <;> simp [nullable, Plain]
  have segment : ∀ segment : LineageSegment, Plain segment.json := by
    intro segment
    cases segment <;> simp [LineageSegment.json, Plain, plainMembers_iff]
  have payload : Plain (semanticPayload item.payload) := by
    cases item.payload <;>
      simp [semanticPayload, SchemaPayload.json, LineagePathPayload.json, DashboardPayload.json,
        ModelPayload.semantic, ModelPayload.members, QueryPayload.json, OwnerPayload.json,
        GlossaryPayload.json, Plain, plainMembers_iff, plainItems_iff, texts_plain, segment]
  have steps : PlainItems ((semanticProvenance item.provenance).map stepJson) := by
    rw [plainItems_iff]
    intro value present
    obtain ⟨step, _, rfl⟩ := List.mem_map.mp present
    simp [stepJson, Plain, plainMembers_iff]
  simp [normalizedEvidenceIdentity, Plain, plainMembers_iff, texts_plain, optional, payload, steps]

theorem semanticIdentity_plain (data : ImpactContextData) :
    Plain (impactContextSemanticIdentity data) := by
  simp [impactContextSemanticIdentity, resolutionMembers, canonicalImpactRequest,
    evidenceReference, failureReference, Plain, plainMembers_iff, plainItems_iff]

end Identities

section Fingerprints

variable {script : Script} {first second : ImpactContextData}

/-- These values of a context are hashed. -/
def hashed (data : ImpactContextData) : List Value :=
  impactContextSemanticIdentity data ::
    data.evidence.map fun item => normalizedEvidenceIdentity item.toEvidenceDraft

/-- No two texts of the values have the same digest. -/
def Separated (script : Script) (values : List Value) : Prop :=
  ∀ left ∈ values, ∀ right ∈ values, script.sha256 left = script.sha256 right →
    script.stableJson left = script.stableJson right

theorem hashed_plain {value : Value} (present : value ∈ hashed first) : Plain value := by
  rcases List.mem_cons.mp present with rfl | later
  · exact semanticIdentity_plain first
  · obtain ⟨item, _, rfl⟩ := List.mem_map.mp later
    exact normalizedIdentity_plain item

/-- Equal digests of separated values come from equal canonical values. -/
theorem Separated.canonical_eq (distinct : Separated script (hashed first ++ hashed second))
    {left right : Value} (isLeft : left ∈ hashed first) (isRight : right ∈ hashed second)
    (same : script.sha256 left = script.sha256 right) :
    canonical localeLe left = canonical localeLe right := by
  have texts := distinct left (List.mem_append_left _ isLeft) right
    (List.mem_append_right _ isRight) same
  rw [script.stableJson_eq (hashed_plain isLeft), script.stableJson_eq (hashed_plain isRight)]
    at texts
  exact text_inj texts

theorem fingerprints_bare (distinct : Separated script (hashed first ++ hashed second))
    (firstAccepted : contextDataIssues script first = [])
    (secondAccepted : contextDataIssues script second = [])
    (same : first.evidence.map (·.fingerprint) = second.evidence.map (·.fingerprint)) :
    SameEvidence first.evidence second.evidence := by
  have item : ∀ left ∈ first.evidence, ∀ right ∈ second.evidence,
      left.fingerprint = right.fingerprint →
        left.toEvidenceDraft.bare = right.toEvidenceDraft.bare := by
    intro left isLeft right isRight equal
    have leftBound := accepted_bound firstAccepted left isLeft
    have rightBound := accepted_bound secondAccepted right isRight
    rw [leftBound.fingerprint, ← leftBound.identity, rightBound.fingerprint,
      ← rightBound.identity] at equal
    apply identity_inj leftBound.related rightBound.related
    exact distinct.canonical_eq (List.mem_cons_of_mem _ (List.mem_map_of_mem isLeft))
      (List.mem_cons_of_mem _ (List.mem_map_of_mem isRight)) equal
  rw [SameEvidence]
  apply List.Perm.of_eq
  apply List.ext_getElem
  · simpa using congrArg List.length same
  · intro index within alsoWithin
    rw [List.length_map] at within alsoWithin
    rw [List.getElem_map, List.getElem_map]
    apply item _ (List.getElem_mem within) _ (List.getElem_mem alsoWithin)
    have equal := List.getElem_of_eq same (by simpa using within)
    rwa [List.getElem_map, List.getElem_map] at equal

/-- Contexts with one meaning and one order of failures have the same fingerprint. -/
theorem sameMeaning_fingerprint (firstAccepted : contextDataIssues script first = [])
    (secondAccepted : contextDataIssues script second = []) (same : SameMeaning first second)
    (ordered : SameFailureOrder first second) :
    computeImpactContextFingerprint script first =
      computeImpactContextFingerprint script second := by
  have references : ∀ data : ImpactContextData, contextDataIssues script data = [] →
      data.evidence.map evidenceReference =
        (data.evidence.map fun item => item.toEvidenceDraft.bare).map fun draft =>
          .object [("id", .string (script.stableId "ev" (bareIdentity draft))),
            ("fingerprint", .string (script.sha256 (bareIdentity draft)))] := by
    intro data accepted
    rw [List.map_map]
    apply List.map_congr_left
    intro item present
    have bound := accepted_bound accepted item present
    rw [evidenceReference, bound.id, bound.fingerprint]
    rfl
  rw [computeImpactContextFingerprint, computeImpactContextFingerprint,
    semanticIdentity_congr same.changeId same.collectionStatus _ ordered]
  rw [references first firstAccepted, references second secondAccepted,
    sameEvidence_ordered firstAccepted secondAccepted same.evidence]

/-- Without a collision the fingerprint tells the meaning and the order of the failures. -/
theorem fingerprint_sameMeaning (firstAccepted : contextDataIssues script first = [])
    (secondAccepted : contextDataIssues script second = [])
    (distinct : Separated script (hashed first ++ hashed second))
    (equal : computeImpactContextFingerprint script first =
      computeImpactContextFingerprint script second) :
    SameMeaning first second ∧ SameFailureOrder first second := by
  have same := distinct.canonical_eq List.mem_cons_self List.mem_cons_self equal
  have evidence := array_member same (by simp) 5 rfl rfl
  have failures := map_canonical_inj (fun _ _ => failureReference_inj)
    (array_member same (by simp) 6 rfl rfl)
  refine ⟨⟨?_, ?_, ?_, List.Perm.of_eq failures⟩, failures⟩
  · exact string_member same (by simp) 0 rfl rfl
  · exact CollectionStatus.word_inj (string_member same (by simp) 4 rfl rfl)
  · exact fingerprints_bare distinct firstAccepted secondAccepted
      (map_canonical_inj (fun _ _ => reference_inj) evidence)

/-- The semantic fingerprint tells exactly the meaning of two accepted contexts if and only if
contexts with one meaning store their failures in one order. -/
theorem semantic_fingerprint_exact (script : Script) (spelling : Spelling)
    (first second : ImpactContext) (firstAccepted : impactContextIssues script spelling first = [])
    (secondAccepted : impactContextIssues script spelling second = [])
    (distinct : Separated script
      (hashed first.toImpactContextData ++ hashed second.toImpactContextData)) :
    ((SameMeaning first.toImpactContextData second.toImpactContextData →
        computeImpactContextFingerprint script first.toImpactContextData =
          computeImpactContextFingerprint script second.toImpactContextData) ∧
      (¬ SameMeaning first.toImpactContextData second.toImpactContextData →
        computeImpactContextFingerprint script first.toImpactContextData ≠
          computeImpactContextFingerprint script second.toImpactContextData)) ↔
      (SameMeaning first.toImpactContextData second.toImpactContextData →
        SameFailureOrder first.toImpactContextData second.toImpactContextData) := by
  obtain ⟨_, _, _, _, _, firstData⟩ := impactContextIssues_nil.mp firstAccepted
  obtain ⟨_, _, _, _, _, secondData⟩ := impactContextIssues_nil.mp secondAccepted
  constructor
  · intro exact same
    exact (fingerprint_sameMeaning firstData secondData distinct (exact.1 same)).2
  · intro ordered
    refine ⟨fun same => ?_, fun different equal => ?_⟩
    · exact sameMeaning_fingerprint firstData secondData same (ordered same)
    · exact different (fingerprint_sameMeaning firstData secondData distinct equal).1

end Fingerprints

section Sample

/-- One tool has failed twice, and the identifiers of its invocations order the two codes. -/
def sampleFailures (first second : FailureCode) : ImpactContextData where
  changeId := "chg_000000000000000000000000"
  collectionOrigin := .live
  resolution := [⟨"resolution", ⟨0, 1⟩, hexText 0⟩]
  collectedAt := ⟨0, 1⟩
  collectionStatus := .partially
  evidence := []
  failures := [⟨.getEntities, "a", first, "failed"⟩, ⟨.getEntities, "b", second, "failed"⟩]

def sampleEarlier : ImpactContextData := sampleFailures .timeout .notFound

def sampleLater : ImpactContextData := sampleFailures .notFound .timeout

/-- The digest tells the first of the two contexts from every other text. -/
def samplePairScript : Script :=
  Script.probe 0 (text (canonical localeLe (impactContextSemanticIdentity sampleEarlier)))

def sampleContext (data : ImpactContextData) : ImpactContext :=
  ⟨data, computeImpactContextFingerprint samplePairScript data,
    computeImpactCollectionFingerprint samplePairScript Spelling.sample data⟩

theorem sampleFailures_data :
    contextDataIssues samplePairScript sampleEarlier = [] ∧
      contextDataIssues samplePairScript sampleLater = [] := by
  decide

theorem sampleFailures_same : SameMeaning sampleEarlier sampleLater where
  changeId := rfl
  collectionStatus := rfl
  evidence := List.Perm.refl _
  failures := List.Perm.swap _ _ _

theorem sampleFailures_unordered : ¬ SameFailureOrder sampleEarlier sampleLater := by
  rw [SameFailureOrder]
  decide

theorem sampleFailures_separated :
    Separated samplePairScript (hashed sampleEarlier ++ hashed sampleLater) := by
  have special : samplePairScript.stableJson (impactContextSemanticIdentity sampleEarlier) =
      text (canonical localeLe (impactContextSemanticIdentity sampleEarlier)) :=
    samplePairScript.stableJson_eq (semanticIdentity_plain sampleEarlier)
  have apart : samplePairScript.sha256 (impactContextSemanticIdentity sampleLater) =
        samplePairScript.sha256 (impactContextSemanticIdentity sampleEarlier) →
      samplePairScript.stableJson (impactContextSemanticIdentity sampleLater) =
        samplePairScript.stableJson (impactContextSemanticIdentity sampleEarlier) := by
    intro same
    rw [Script.sha256, Script.sha256, special] at same
    rw [special]
    exact Script.probe_special same
  intro left isLeft right isRight same
  have values : ∀ value ∈ hashed sampleEarlier ++ hashed sampleLater,
      value = impactContextSemanticIdentity sampleEarlier ∨
        value = impactContextSemanticIdentity sampleLater := by
    simp [hashed, sampleEarlier, sampleLater, sampleFailures]
  rcases values left isLeft with rfl | rfl <;> rcases values right isRight with rfl | rfl
  · rfl
  · exact (apart same.symm).symm
  · exact apart same
  · rfl

/-- Two accepted contexts that differ only in the invocations of their failures have different
fingerprints. -/
theorem failure_order_leaks :
    impactContextIssues samplePairScript Spelling.sample (sampleContext sampleEarlier) = [] ∧
    impactContextIssues samplePairScript Spelling.sample (sampleContext sampleLater) = [] ∧
    SameMeaning sampleEarlier sampleLater ∧
    computeImpactContextFingerprint samplePairScript sampleEarlier ≠
      computeImpactContextFingerprint samplePairScript sampleLater := by
  obtain ⟨earlier, later⟩ := sampleFailures_data
  refine ⟨fingerprinted_accepted rfl earlier, fingerprinted_accepted rfl later,
    sampleFailures_same, fun equal => ?_⟩
  exact sampleFailures_unordered
    (fingerprint_sameMeaning earlier later sampleFailures_separated equal).2

theorem semantic_fingerprint_exact_sample :
    ((SameMeaning sampleEarlier sampleLater →
        computeImpactContextFingerprint samplePairScript sampleEarlier =
          computeImpactContextFingerprint samplePairScript sampleLater) ∧
      (¬ SameMeaning sampleEarlier sampleLater →
        computeImpactContextFingerprint samplePairScript sampleEarlier ≠
          computeImpactContextFingerprint samplePairScript sampleLater)) ↔
      (SameMeaning sampleEarlier sampleLater → SameFailureOrder sampleEarlier sampleLater) :=
  semantic_fingerprint_exact samplePairScript Spelling.sample (sampleContext sampleEarlier)
    (sampleContext sampleLater) (fingerprinted_accepted rfl sampleFailures_data.1)
    (fingerprinted_accepted rfl sampleFailures_data.2) sampleFailures_separated

end Sample

end LineageGuard.Domain
