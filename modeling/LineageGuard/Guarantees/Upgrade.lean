import LineageGuard.Db.ContextUpgrade
import Mathlib.Tactic

/-
This file compares the fingerprint of an upgraded context with the one that the schema requires.
-/

namespace LineageGuard.Domain

open Json Db

section Keys

/-- The objects of a context whose keys the collations sort alike have these shapes. -/
inductive ContextShape
  | retrieval | fieldSegment | entitySegment | schema | lineagePath | queryUsage | glossaryTerm
  | item | liveOrigin | replayOrigin | failure | request | resolution | context

namespace ContextShape

/-- An item has at most the keys of its shape. -/
def keys : ContextShape → List String
  | .retrieval => ["source", "role", "tool", "invocationId", "retrievedAt", "responseFingerprint"]
  | .fieldSegment => ["granularity", "sourceUrn", "targetUrn", "sourceFieldPath",
      "targetFieldPath"]
  | .entitySegment => ["granularity", "sourceUrn", "targetUrn"]
  | .schema => ["schemaFieldUrn", "nativeFieldPath", "nativeType", "nullable"]
  | .lineagePath => ["direction", "nodes", "segments", "fieldLevel"]
  | .queryUsage => ["queryUrn", "source", "observationBasis", "subjectDatasetUrn",
      "subjectSchemaFieldUrn", "subjectFieldPath", "normalizedStatementFingerprint"]
  | .glossaryTerm => ["termUrn", "name", "schemaFieldUrn", "fieldPath"]
  | .item => ["id", "fingerprint", "sourceUrn", "targetUrn", "fieldPath", "title", "summary",
      "criticality", "provenance", "relatedEvidenceIds", "kind", "payload"]
  | .liveOrigin => ["mode"]
  | .replayOrigin => ["mode", "manifestFingerprint", "sourceLiveCollectionFingerprint",
      "sourceImpactContextFingerprint"]
  | .failure => ["tool", "invocationId", "code", "message"]
  | .request => ["platform", "platformInstance", "environment", "database", "schema", "dataset",
      "field"]
  | .resolution => ["requested", "datasetUrn", "schemaFieldUrn", "nativeFieldPath", "provenance"]
  | .context => ["changeId", "datasetUrn", "fieldPath", "collectionOrigin", "resolution",
      "collectedAt", "collectionStatus", "evidence", "failures"]

theorem ordered (shape : ContextShape) : Ordered shape.keys := by
  cases shape <;> decide

/-- An object of the shape agrees exactly when its members do. -/
theorem agrees (shape : ContextShape) {members : List (String × Value)}
    (named : members.map Prod.fst = shape.keys) :
    OrdersAgree (.object members) ↔ ∀ member ∈ members, OrdersAgree member.2 :=
  object_agrees shape.keys named shape.ordered

end ContextShape

end Keys

section Orders

variable (spelling : Spelling)

@[simp] theorem texts_agrees (contents : List String) : OrdersAgree (texts contents) := by
  simp [texts]

theorem retrieval_agrees (retrieval : Retrieval) (role : Role) :
    OrdersAgree (.object (retrieval.members spelling role)) := by
  rw [ContextShape.agrees .retrieval rfl]
  simp [Retrieval.members]

theorem segment_agrees (segment : LineageSegment) : OrdersAgree segment.json := by
  cases segment with
  | field source target sourceField targetField =>
      rw [LineageSegment.json, ContextShape.agrees .fieldSegment rfl]
      simp
  | entity source target =>
      rw [LineageSegment.json, ContextShape.agrees .entitySegment rfl]
      simp

/-- The collations sort the keys of these payloads alike. -/
def EvidencePayload.Portable : EvidencePayload → Prop
  | .dashboard _ | .mlModel _ | .owner _ => False
  | _ => True

/-- Exactly the payloads with both an owner and an ownership key disagree. -/
theorem payload_agrees (payload : EvidencePayload) :
    OrdersAgree (payload.json spelling) ↔ payload.Portable := by
  cases payload with
  | schema payload =>
      rw [EvidencePayload.json, SchemaPayload.json, ContextShape.agrees .schema rfl]
      simp [EvidencePayload.Portable]
  | lineagePath payload =>
      rw [EvidencePayload.json, LineagePathPayload.json, ContextShape.agrees .lineagePath rfl]
      simp [EvidencePayload.Portable, segment_agrees]
  | dashboard payload =>
      simp only [EvidencePayload.Portable, iff_false]
      exact object_disagrees ["dashboardUrn", "platform", "lifecycle", "classificationUrns",
        "ownershipObserved", "ownerUrns", "downstreamDatasetUrn", "downstreamField"] rfl
        (by decide)
  | mlModel payload =>
      simp only [EvidencePayload.Portable, iff_false]
      exact object_disagrees ["modelUrn", "lifecycle", "classificationUrns",
        "ownershipObserved", "ownerUrns", "featureDatasetUrn", "featureField",
        "trainingDataReceipt"] rfl (by decide)
  | queryUsage payload =>
      rw [EvidencePayload.json, QueryPayload.json, ContextShape.agrees .queryUsage rfl]
      simp [EvidencePayload.Portable]
  | owner payload =>
      simp only [EvidencePayload.Portable, iff_false]
      exact object_disagrees ["assetUrn", "ownerUrn", "displayName", "ownershipType"] rfl
        (by decide)
  | glossaryTerm payload =>
      rw [EvidencePayload.json, GlossaryPayload.json, ContextShape.agrees .glossaryTerm rfl]
      simp [EvidencePayload.Portable]

theorem optional_agrees (key : String) (text : Option String) :
    ∀ member ∈ optional key text, OrdersAgree member.2 := by
  cases text <;> simp [optional]

/-- An item agrees exactly when its payload does. -/
theorem item_agrees (item : EvidenceItem) :
    OrdersAgree (item.json spelling) ↔ item.payload.Portable := by
  have ordered : Ordered ((item.members spelling).map Prod.fst) := by
    apply (ContextShape.ordered .item).sublist
    cases target : item.targetUrn <;> cases field : item.fieldPath <;>
      simp [EvidenceItem.members, optional, target, field, ContextShape.keys]
  have target := optional_agrees "targetUrn" item.targetUrn
  have field := optional_agrees "fieldPath" item.fieldPath
  rw [EvidenceItem.json, object_agrees _ rfl ordered, EvidenceItem.members]
  simp only [List.forall_mem_append, List.forall_mem_cons, array_agrees, List.forall_mem_map,
    Provenance.json, retrieval_agrees, payload_agrees, string_agrees, texts_agrees,
    List.not_mem_nil, implies_true, true_and, and_true, false_implies]
  exact and_iff_right ⟨target, field⟩

theorem origin_agrees (origin : CollectionOrigin) : OrdersAgree origin.json := by
  cases origin with
  | live =>
      rw [CollectionOrigin.json, ContextShape.agrees .liveOrigin rfl]
      simp
  | verifiedReplay manifest sourceLive sourceContext =>
      rw [CollectionOrigin.json, ContextShape.agrees .replayOrigin rfl]
      simp

theorem failure_agrees (failure : CollectionFailure) : OrdersAgree failure.json := by
  rw [CollectionFailure.json, ContextShape.agrees .failure rfl]
  simp

theorem request_agrees : OrdersAgree canonicalImpactRequest := by
  rw [canonicalImpactRequest, ContextShape.agrees .request rfl]
  simp

theorem resolution_agrees (entries : List ResolutionProvenance) :
    OrdersAgree (resolutionJson (.array (entries.map (ResolutionProvenance.json spelling)))) := by
  rw [resolutionJson, ContextShape.agrees .resolution rfl]
  simp [resolutionMembers, request_agrees, ResolutionProvenance.json, retrieval_agrees]

/-- The data of a context agrees exactly when every evidence payload does. -/
theorem context_agrees (data : ImpactContextData) :
    OrdersAgree (.object (data.members spelling)) ↔
      ∀ item ∈ data.evidence, item.payload.Portable := by
  rw [ContextShape.agrees .context rfl]
  simp [ImpactContextData.members, ImpactContextData.membersWith, origin_agrees,
    resolution_agrees, item_agrees, failure_agrees]

end Orders

section Numbers

variable (spelling : Spelling)

theorem provenance_plain (entry : Provenance) : Plain (entry.json spelling) := by
  simp [Provenance.json, Retrieval.members, Plain, plainMembers_iff]

theorem resolutionEntry_plain (entry : ResolutionProvenance) : Plain (entry.json spelling) := by
  simp [ResolutionProvenance.json, Retrieval.members, Plain, plainMembers_iff]

theorem segment_plain (segment : LineageSegment) : Plain segment.json := by
  cases segment <;> simp [LineageSegment.json, Plain, plainMembers_iff]

theorem payload_plain (payload : EvidencePayload) : Plain (payload.json spelling) := by
  cases payload <;>
    simp [EvidencePayload.json, SchemaPayload.json, LineagePathPayload.json,
      DashboardPayload.json, ModelPayload.json, ModelPayload.members, TrainingDataReceipt.json,
      QueryPayload.json, OwnerPayload.json, GlossaryPayload.json, Plain, plainMembers_iff,
      plainItems_iff, texts_plain, segment_plain]

theorem item_plain (item : EvidenceItem) : Plain (item.json spelling) := by
  cases target : item.targetUrn <;> cases field : item.fieldPath <;>
    simp [EvidenceItem.json, EvidenceItem.members, optional, target, field, Plain,
      plainMembers_iff, plainItems_iff, texts_plain, payload_plain, provenance_plain]

theorem origin_plain (origin : CollectionOrigin) : Plain origin.json := by
  cases origin <;> simp [CollectionOrigin.json, Plain, plainMembers_iff]

theorem resolution_plain (entries : List ResolutionProvenance) :
    Plain (resolutionJson (.array (entries.map (ResolutionProvenance.json spelling)))) := by
  simp [resolutionJson, resolutionMembers, canonicalImpactRequest, Plain, plainMembers_iff,
    plainItems_iff, resolutionEntry_plain]

/-- A context holds no number. -/
theorem context_plain (data : ImpactContextData) : Plain (.object (data.members spelling)) := by
  simp [ImpactContextData.members, ImpactContextData.membersWith, Plain, plainMembers_iff,
    plainItems_iff, origin_plain, resolution_plain, item_plain, CollectionFailure.json]

end Numbers

section Readable

variable {script : Script} {spelling : Spelling} {data : ImpactContextData}

/-- The upgraded context passes every check that does not compare its collection fingerprint. -/
theorem upgraded_issues {fingerprint : String} (accepted : impactContextIssues script spelling
      ⟨data, fingerprint, computeImpactCollectionFingerprint script spelling data⟩ = []) :
    impactContextIssues script spelling (upgraded script spelling data fingerprint) = [] ↔
      computeImpactCollectionFingerprint script spelling data =
        sqlSha256 script (.object (data.members spelling)) := by
  rw [impactContextIssues_nil] at accepted
  obtain ⟨format, _, semantic, _, bound, rest⟩ := accepted
  rw [impactContextIssues_nil]
  constructor
  · rintro ⟨_, _, _, same, _⟩
    exact same.symm
  · intro same
    exact ⟨format, digest_fingerprint script _, semantic, same.symm, bound, rest⟩

/-- Every row of the migrated table comes from the row at its place. -/
theorem migrateContexts_get {payloads migrated : List Value} {place : ℕ} {payload : Value}
    (succeeded : migrateContexts script payloads = .ok migrated)
    (stored : payloads[place]? = some payload) :
    migrated[place]? = some (refreshFingerprint script (wrapProvenance payload)) := by
  rw [migrateContexts] at succeeded
  split at succeeded
  · cases succeeded
    rw [List.getElem?_map, stored, Option.map_some]
  · cases succeeded

/-- A legacy context that the schema accepts in its current shape stays readable exactly when none
of its evidence is a dashboard, a model or an owner. -/
theorem upgrade_readable (script : Script) (spelling : Spelling) (data : ImpactContextData)
    (entry : ResolutionProvenance) (fingerprint stored : String) (payloads migrated : List Value)
    (place : ℕ) (single : data.resolution = [entry])
    (accepted : impactContextIssues script spelling
      ⟨data, fingerprint, computeImpactCollectionFingerprint script spelling data⟩ = [])
    (present : payloads[place]? = some (legacyPayload spelling data entry fingerprint stored))
    (succeeded : migrateContexts script payloads = .ok migrated)
    (distinct : script.digest (script.stableJson (.object (data.members spelling))) =
        script.digest (canonicalJsonText (.object (data.members spelling))) →
      script.stableJson (.object (data.members spelling)) =
        canonicalJsonText (.object (data.members spelling))) :
    migrated[place]? = some (contextPayload spelling
      (upgraded script spelling data fingerprint)) ∧
    (impactContextIssues script spelling (upgraded script spelling data fingerprint) = [] ↔
      ∀ item ∈ data.evidence, item.payload.Portable) := by
  constructor
  · rw [migrateContexts_get succeeded present, migrate_legacy script spelling data entry
      fingerprint stored single]
  · rw [upgraded_issues accepted, computeImpactCollectionFingerprint,
      sha256_separates (context_plain spelling data) distinct, context_agrees]

end Readable

section Sample

def sampleStep (role : Role) (tool : Tool) (invocationId : String) : Provenance :=
  ⟨⟨tool, invocationId, ⟨0, 1⟩, hexText 0⟩, role⟩

def samplePath : EvidenceItem where
  sourceUrn := canonicalDatasetUrn
  targetUrn := some "urn:li:e"
  fieldPath := some canonicalFieldPath
  title := "path"
  summary := "path"
  criticality := .low
  provenance := [sampleStep .lineageDiscovery .getLineage "lineage",
    sampleStep .fieldPath .getLineagePathsBetween "field",
    sampleStep .entityPath .getLineagePathsBetween "entity"]
  relatedEvidenceIds := []
  payload := .lineagePath ⟨[canonicalDatasetUrn, "urn:li:d", "urn:li:e"],
    [.field canonicalDatasetUrn "urn:li:d" canonicalNativeFieldPath canonicalNativeFieldPath,
      .entity "urn:li:d" "urn:li:e"]⟩
  id := "ev_004c00000000000000000000"
  fingerprint := hexText (76 * 16 ^ 60)

def sampleDashboard : EvidenceItem where
  sourceUrn := canonicalDatasetUrn
  targetUrn := some "urn:li:e"
  fieldPath := some canonicalFieldPath
  title := "dashboard"
  summary := "dashboard"
  criticality := .high
  provenance := [sampleStep .entityDetails .getEntities "details"]
  relatedEvidenceIds := [samplePath.id]
  payload := .dashboard ⟨"urn:li:e", "looker", .production,
    [canonicalCriticalTagUrn, canonicalProductionTagUrn], [], "urn:li:d", ".customer_id"⟩
  id := "ev_004800000000000000000000"
  fingerprint := hexText (72 * 16 ^ 60)

def sampleEntry : ResolutionProvenance := ⟨"resolution", ⟨0, 1⟩, hexText 0⟩

def sampleData : ImpactContextData where
  changeId := "chg_000000000000000000000000"
  collectionOrigin := .live
  resolution := [sampleEntry]
  collectedAt := ⟨0, 1⟩
  collectionStatus := .partially
  evidence := [sampleDashboard, samplePath]
  failures := [⟨.getEntities, "model", .timeout, "timeout"⟩]

def sampleValue : Value := .object (sampleData.members Spelling.sample)

def sampleScript : Script := Script.probe 16 (canonicalJsonText sampleValue)

def sampleFingerprint : String := computeImpactContextFingerprint sampleScript sampleData

def sampleLegacy : Value :=
  legacyPayload Spelling.sample sampleData sampleEntry sampleFingerprint sampleFingerprint

/-- The probe shows a character of a text that differs from the special text. -/
theorem shown_sha256 {place : ℕ} {special : List Char} {value : Value} {char other : Char}
    (shown : ((Script.probe place special).stableJson value)[place]? = some char)
    (differs : special[place]? = some other) (apart : char ≠ other) :
    (Script.probe place special).sha256 value = hexText (char.toNat * 16 ^ 60) := by
  rw [Script.sha256]
  simp only [Script.probe] at shown ⊢
  rw [if_neg, shown, Option.elim_some]
  intro same
  rw [same, differs, Option.some.injEq] at shown
  exact apart shown.symm

theorem special_shown : (canonicalJsonText sampleValue)[16]? = some '_' := by decide

theorem shown_id {number : ℕ} {digits : List Char} {value : Value}
    (shown : sampleScript.sha256 value = hexText number)
    (written : ((List.range 64).map fun place =>
      hexDigit (number / 16 ^ (63 - place) % 16)).take 24 = digits) :
    sampleScript.stableId "ev" value = String.ofList ('e' :: 'v' :: '_' :: digits) := by
  rw [Script.stableId, shown, hexText, String.toList_ofList, written, ← String.toList_inj]
  simp only [String.toList_append, String.toList_ofList]
  rfl

theorem samplePath_digest : sampleScript.sha256
    (normalizedEvidenceIdentity samplePath.toEvidenceDraft) = samplePath.fingerprint :=
  @shown_sha256 16 _ _ 'L' _ (by decide) special_shown (by decide)

theorem sampleDashboard_digest : sampleScript.sha256
    (normalizedEvidenceIdentity sampleDashboard.toEvidenceDraft) = sampleDashboard.fingerprint :=
  @shown_sha256 16 _ _ 'H' _ (by decide) special_shown (by decide)

theorem sampleStep_issues (role : Role) (tool : Tool) {invocationId : List Char}
    (measured : 1 ≤ (invocationId.map fun char => if 0x10000 ≤ char.toNat then 2 else 1).sum ∧
      (invocationId.map fun char => if 0x10000 ≤ char.toNat then 2 else 1).sum ≤ 160)
    (path : List PathItem) :
    (sampleStep role tool (String.ofList invocationId)).issues path = [] := by
  have digest : isFingerprint (hexText 0) = true :=
    isFingerprint_of (hexText_length 0) (hexText_chars 0)
  have valid : IsoDateTime.Valid ⟨0, 1⟩ := Or.inl Nat.one_ne_zero
  simp only [sampleStep, Provenance.issues, Retrieval.issues, List.append_eq_nil_iff,
    dateIssues_nil, fingerprintIssues_nil]
  exact ⟨⟨lengthIssues_ofList measured _, valid⟩, digest⟩

/-- An item of the sample is accepted when its own parts are. -/
theorem sampleItem_issues {item : EvidenceItem} {digits : List Char} (path : List PathItem)
    (digest : sampleScript.sha256 (normalizedEvidenceIdentity item.toEvidenceDraft) =
      item.fingerprint)
    (named : sampleScript.stableId "ev" (normalizedEvidenceIdentity item.toEvidenceDraft) = item.id)
    (source : item.sourceUrn = canonicalDatasetUrn) (target : item.targetUrn = some "urn:li:e")
    (field : item.fieldPath = some canonicalFieldPath)
    (title : item.title = String.ofList digits) (summary : item.summary = String.ofList digits)
    (short : 1 ≤ (digits.map fun char => if 0x10000 ≤ char.toNat then 2 else 1).sum ∧
      (digits.map fun char => if 0x10000 ≤ char.toNat then 2 else 1).sum ≤ 240)
    (steps : ∀ entry ∈ item.provenance, ∀ place, entry.issues place = [])
    (count : 1 ≤ item.provenance.length ∧ item.provenance.length ≤ 8)
    (related : ∀ id ∈ item.relatedEvidenceIds, isPrefixedId "ev_" id = true)
    (few : item.relatedEvidenceIds.length ≤ 1)
    (payload : ∀ place, item.payload.issues place = []) :
    evidenceItemIssues sampleScript item path = [] := by
  have prefixed : isPrefixedId "ev_" item.id = true := by
    rw [← named]
    exact stableId_prefixed sampleScript "ev" _
  have fingerprint : isFingerprint item.fingerprint = true := by
    rw [← digest]
    exact digest_fingerprint sampleScript _
  have urn : ∀ path, urnIssues "urn:li:e" path = [] := fun path =>
    urnIssues_ofList path (by decide) (by decide) (by decide)
  have name : ∀ path, lengthIssues 1 500 canonicalFieldPath path = [] :=
    lengthIssues_ofList (by decide)
  have ids : eachIssues item.relatedEvidenceIds (below path "relatedEvidenceIds")
      (fun id position => issueUnless (isPrefixedId "ev_" id) .invalidFormat position) = [] :=
    eachIssues_of fun id present place => issueUnless_nil.mpr (related id present)
  have single : item.relatedEvidenceIds.Nodup := by
    match item.relatedEvidenceIds, few with
    | [], _ => exact List.nodup_nil
    | [id], _ => exact List.nodup_singleton id
  rw [evidenceItemIssues, EvidenceItem.baseIssues, source, target, field, title, summary]
  simp only [List.append_eq_nil_iff, and_assoc, Option.elim_some]
  exact ⟨issueUnless_nil.mpr prefixed, fingerprintIssues_nil.mpr fingerprint,
    (canonicalUrns_accepted _).1, urn _, name _, lengthIssues_ofList short _,
    lengthIssues_ofList ⟨short.1, short.2.trans (by decide)⟩ _, eachIssues_of steps,
    countIssues_nil.mpr count, ids, issueUnless_nil.mpr (few.trans (by decide)),
    issueUnless_nil.mpr single, payload _, issueUnless_nil.mpr digest.symm,
    issueUnless_nil.mpr named.symm⟩

theorem samplePath_payload (path : List PathItem) : samplePath.payload.issues path = [] := by
  have name : ∀ path, lengthIssues 1 500 canonicalNativeFieldPath path = [] :=
    lengthIssues_ofList (by decide)
  have dataset := fun path => (canonicalUrns_accepted path).1
  have through : ∀ path, urnIssues "urn:li:d" path = [] := fun path =>
    urnIssues_ofList path (by decide) (by decide) (by decide)
  have last : ∀ path, urnIssues "urn:li:e" path = [] := fun path =>
    urnIssues_ofList path (by decide) (by decide) (by decide)
  simp only [samplePath, EvidencePayload.issues, List.append_eq_nil_iff]
  refine ⟨⟨urnListIssues_of _ ?_ (by simp), ?_⟩, countIssues_nil.mpr (by simp)⟩
  · simp only [List.forall_mem_cons, List.not_mem_nil, false_implies, implies_true, and_true,
      dataset, through, last]
  · apply eachIssues_of
    simp only [List.forall_mem_cons, List.not_mem_nil, false_implies, implies_true, and_true,
      LineageSegment.issues, LineageSegment.sourceUrn, LineageSegment.targetUrn, dataset, through,
      last, name, List.append_nil]

theorem sampleDashboard_payload (path : List PathItem) :
    sampleDashboard.payload.issues path = [] := by
  have urn : ∀ char ∈ ['d', 'e'], ∀ path,
      urnIssues (String.ofList ['u', 'r', 'n', ':', 'l', 'i', ':', char]) path = [] := by
    intro char present path
    rcases List.mem_pair.mp present with rfl | rfl
    · exact urnIssues_ofList path (by decide) (by decide) (by decide)
    · exact urnIssues_ofList path (by decide) (by decide) (by decide)
  simp only [sampleDashboard, EvidencePayload.issues, List.append_eq_nil_iff, and_assoc]
  exact ⟨urn 'e' (by decide) _, lengthIssues_ofList (by decide) _,
    canonicalTags_eq ▸ canonicalTags_accepted _, urnListIssues_of _ (by simp) (by decide),
    urn 'd' (by decide) _, lengthIssues_ofList (by decide) _⟩

theorem samplePath_id : sampleScript.stableId "ev"
    (normalizedEvidenceIdentity samplePath.toEvidenceDraft) = samplePath.id :=
  shown_id samplePath_digest (by decide)

theorem samplePath_issues (path : List PathItem) :
    evidenceItemIssues sampleScript samplePath path = [] := by
  apply @sampleItem_issues samplePath ['p', 'a', 't', 'h'] path samplePath_digest
    samplePath_id rfl rfl rfl rfl rfl (by decide) _ (by decide)
    (by simp [samplePath]) (by decide) samplePath_payload
  simp only [samplePath, List.forall_mem_cons, List.not_mem_nil, false_implies, implies_true,
    and_true]
  exact ⟨sampleStep_issues _ _ (by decide), sampleStep_issues _ _ (by decide),
    sampleStep_issues _ _ (by decide)⟩

theorem sampleDashboard_issues (path : List PathItem) :
    evidenceItemIssues sampleScript sampleDashboard path = [] := by
  apply @sampleItem_issues sampleDashboard ['d', 'a', 's', 'h', 'b', 'o', 'a', 'r', 'd'] path
    sampleDashboard_digest (shown_id sampleDashboard_digest (by decide)) rfl rfl rfl rfl rfl
    (by decide) _ (by decide) _ (by decide) sampleDashboard_payload
  · simp only [sampleDashboard, List.forall_mem_cons, List.not_mem_nil, false_implies,
      implies_true, and_true]
    exact sampleStep_issues _ _ (by decide)
  · simp only [sampleDashboard, List.forall_mem_cons, List.not_mem_nil, false_implies,
      implies_true, and_true]
    rw [← samplePath_id]
    exact stableId_prefixed sampleScript "ev" _

theorem sample_shape : sampleData.shapeIssues sampleScript = [] := by
  have entry : ∀ path, sampleEntry.issues path = [] :=
    sampleStep_issues .resolution .search (by decide)
  have failure : ∀ path, CollectionFailure.issues ⟨.getEntities, "model", .timeout, "timeout"⟩ path =
      [] := by
    intro path
    rw [CollectionFailure.issues, List.append_eq_nil_iff]
    exact ⟨lengthIssues_ofList (by decide) _, lengthIssues_ofList (by decide) _⟩
  simp only [ImpactContextData.shapeIssues, sampleData, List.append_eq_nil_iff, and_assoc]
  refine ⟨by decide, rfl, eachIssues_of ?_, rfl,
    dateIssues_nil.mpr (Or.inl Nat.one_ne_zero), eachIssues_of ?_, rfl, eachIssues_of ?_, rfl⟩
  · simpa using entry
  · simp only [List.forall_mem_cons, List.not_mem_nil, false_implies, implies_true, and_true]
    exact ⟨sampleDashboard_issues, samplePath_issues⟩
  · simpa using failure

theorem sample_data : contextDataIssues sampleScript sampleData = [] := by
  have order : orderIssues sampleData = [] := by decide
  have items : (evidenceIssues sampleData 0 (resolutionInvocations sampleData)
      sampleData.evidence).1 = [] := by
    decide
  have failures : (eachIssues sampleData.failures [.field "failures"] fun failure path =>
      issueUnless (((evidenceIssues sampleData 0 (resolutionInvocations sampleData)
          sampleData.evidence).2.get failure.invocationId).isNone)
        (.custom "Invocation ID cannot represent both a response and a failure")
        (below path "invocationId")) = [] := by
    decide
  have status : statusIssues sampleData = [] := by decide
  simp only [contextDataIssues, sample_shape, order, items, status, failures, List.append_nil]

theorem sample_accepted : impactContextIssues sampleScript Spelling.sample ⟨sampleData,
    sampleFingerprint, computeImpactCollectionFingerprint sampleScript Spelling.sample
      sampleData⟩ = [] :=
  fingerprinted_accepted rfl sample_data

theorem sample_distinct (same : sampleScript.digest (sampleScript.stableJson sampleValue) =
    sampleScript.digest (canonicalJsonText sampleValue)) :
    sampleScript.stableJson sampleValue = canonicalJsonText sampleValue :=
  Script.probe_special same

theorem sample_migrated : migrateContexts sampleScript [sampleLegacy] =
    .ok [contextPayload Spelling.sample
      (upgraded sampleScript Spelling.sample sampleData sampleFingerprint)] :=
  migrateContexts_legacy sampleScript Spelling.sample sampleData sampleEntry sampleFingerprint
    sampleFingerprint rfl

/-- The migration stores an unreadable context for one whose evidence has a dashboard. -/
theorem upgrade_loses_context : impactContextIssues sampleScript Spelling.sample ⟨sampleData,
      sampleFingerprint, computeImpactCollectionFingerprint sampleScript Spelling.sample
        sampleData⟩ = [] ∧
    migrateContexts sampleScript [sampleLegacy] = .ok [contextPayload Spelling.sample
      (upgraded sampleScript Spelling.sample sampleData sampleFingerprint)] ∧
    impactContextIssues sampleScript Spelling.sample
      (upgraded sampleScript Spelling.sample sampleData sampleFingerprint) ≠ [] := by
  refine ⟨sample_accepted, sample_migrated, fun readable => ?_⟩
  rw [upgraded_issues sample_accepted, computeImpactCollectionFingerprint] at readable
  have agree := (sha256_separates (context_plain Spelling.sample sampleData)
    sample_distinct).mp readable
  rw [context_agrees] at agree
  exact agree sampleDashboard List.mem_cons_self

theorem upgrade_readable_sample : [contextPayload Spelling.sample
      (upgraded sampleScript Spelling.sample sampleData sampleFingerprint)][0]? =
        some (contextPayload Spelling.sample
          (upgraded sampleScript Spelling.sample sampleData sampleFingerprint)) ∧
    (impactContextIssues sampleScript Spelling.sample
        (upgraded sampleScript Spelling.sample sampleData sampleFingerprint) = [] ↔
      ∀ item ∈ sampleData.evidence, item.payload.Portable) :=
  upgrade_readable sampleScript Spelling.sample sampleData sampleEntry sampleFingerprint
    sampleFingerprint [sampleLegacy] _ 0 rfl sample_accepted rfl sample_migrated sample_distinct

end Sample

end LineageGuard.Domain
