import LineageGuard.Domain.ImpactContext
import LineageGuard.Library.JsonReader
import Mathlib.Tactic

/-
This file translates the shapes that the impact context schema reads from an untyped value.
-/

namespace LineageGuard.Domain

open Json JsonReader

/-- A date-time text is read as the instant and the spelling that write it. -/
structure DateTexts (spelling : Spelling) where
  read : String → Option IsoDateTime
  read_date : ∀ date, read (spelling.date date) = some date
  date_read : ∀ text date, read text = some date → spelling.date date = text

section Words

def criticalities : List Criticality := [.low, .medium, .high, .critical]

def roles : List Role :=
  [.resolution, .schema, .lineageDiscovery, .fieldPath, .entityPath, .entityDetails,
    .queryDiscovery, .queryDetails, .owner, .glossaryBinding, .glossaryDetails]

def tools : List Tool :=
  [.search, .getEntities, .listSchemaFields, .getLineage, .getLineagePathsBetween,
    .getDatasetQueries]

def lifecycles : List Lifecycle := [.development, .production, .retired]

def ownershipTypes : List OwnershipType := [.technicalOwner, .businessOwner]

def failureCodes : List FailureCode :=
  [.timeout, .notFound, .ambiguous, .malformedResponse, .unavailable, .toolMissing,
    .policyViolation, .responseLimit, .paginationLimit, .cursorCycle, .terminated, .schemaDrift]

def collectionStatuses : List CollectionStatus := [.complete, .partially]

theorem reads_criticality (criticality : Criticality) :
    Reads (readWord criticalities Criticality.word) (.string criticality.word) criticality := by
  apply reads_word
  cases criticality <;> decide

theorem reads_role (role : Role) : Reads (readWord roles Role.word) (.string role.word) role := by
  apply reads_word
  cases role <;> decide

theorem reads_tool (tool : Tool) : Reads (readWord tools Tool.word) (.string tool.word) tool := by
  apply reads_word
  cases tool <;> decide

theorem reads_lifecycle (lifecycle : Lifecycle) :
    Reads (readWord lifecycles Lifecycle.word) (.string lifecycle.word) lifecycle := by
  apply reads_word
  cases lifecycle <;> decide

theorem reads_ownershipType (ownership : OwnershipType) :
    Reads (readWord ownershipTypes OwnershipType.word) (.string ownership.word) ownership := by
  apply reads_word
  cases ownership <;> decide

theorem reads_failureCode (code : FailureCode) :
    Reads (readWord failureCodes FailureCode.word) (.string code.word) code := by
  apply reads_word
  cases code <;> decide

theorem reads_collectionStatus (status : CollectionStatus) :
    Reads (readWord collectionStatuses CollectionStatus.word) (.string status.word) status := by
  apply reads_word
  cases status <;> decide

theorem reads_texts (contents : List String) :
    Reads (readItems readString) (texts contents) contents :=
  reads_items fun text _ => reads_string text

end Words

section Readers

variable {spelling : Spelling} (dates : DateTexts spelling)

def readDate (value : Value) : Option IsoDateTime := (readString value).bind dates.read

/-- These are the members of every provenance entry but its role and its tool. -/
def retrievalKeys : List String :=
  ["source", "role", "tool", "invocationId", "retrievedAt", "responseFingerprint"]

/-- This is `evidenceProvenanceSchema`. -/
def readProvenance : Value → Option Provenance :=
  readObject retrievalKeys fun members => do
    field "source" (readLiteral "DATAHUB_MCP") members
    let role ← field "role" (readWord roles Role.word) members
    let tool ← field "tool" (readWord tools Tool.word) members
    let invocationId ← field "invocationId" readString members
    let retrievedAt ← field "retrievedAt" (readDate dates) members
    let responseFingerprint ← field "responseFingerprint" readString members
    pure ⟨⟨tool, invocationId, retrievedAt, responseFingerprint⟩, role⟩

/-- The provenance of a resolution extends that schema with two literals. -/
def readResolutionProvenance : Value → Option ResolutionProvenance :=
  readObject retrievalKeys fun members => do
    field "source" (readLiteral "DATAHUB_MCP") members
    field "role" (readLiteral "RESOLUTION") members
    field "tool" (readLiteral "search") members
    let invocationId ← field "invocationId" readString members
    let retrievedAt ← field "retrievedAt" (readDate dates) members
    let responseFingerprint ← field "responseFingerprint" readString members
    pure ⟨invocationId, retrievedAt, responseFingerprint⟩

/-- This is `canonicalImpactRequestSchema`. -/
def readCanonicalImpactRequest : Value → Option Unit :=
  readObject ["platform", "platformInstance", "environment", "database", "schema", "dataset",
      "field"] fun members => do
    field "platform" (readLiteral "postgres") members
    field "platformInstance" (readLiteral "lineageguard-canonical") members
    field "environment" (readLiteral "PROD") members
    field "database" (readLiteral "lineageguard") members
    field "schema" (readLiteral "commerce") members
    field "dataset" (readLiteral "orders") members
    field "field" (readLiteral "customer_id") members

/-- This is `impactResolutionSchema`. -/
def readResolution : Value → Option (List ResolutionProvenance) :=
  readObject ["requested", "datasetUrn", "schemaFieldUrn", "nativeFieldPath", "provenance"]
      fun members => do
    field "requested" readCanonicalImpactRequest members
    field "datasetUrn" (readLiteral canonicalDatasetUrn) members
    field "schemaFieldUrn" (readLiteral canonicalSchemaFieldUrn) members
    field "nativeFieldPath" (readLiteral canonicalNativeFieldPath) members
    field "provenance" (readItems (readResolutionProvenance dates)) members

def readLiveOrigin : Value → Option CollectionOrigin :=
  readObject ["mode"] fun members => do
    field "mode" (readLiteral "LIVE") members
    pure .live

def readReplayOrigin : Value → Option CollectionOrigin :=
  readObject ["mode", "manifestFingerprint", "sourceLiveCollectionFingerprint",
      "sourceImpactContextFingerprint"] fun members => do
    field "mode" (readLiteral "VERIFIED_REPLAY") members
    let manifestFingerprint ← field "manifestFingerprint" readString members
    let sourceLive ← field "sourceLiveCollectionFingerprint" readString members
    let sourceContext ← field "sourceImpactContextFingerprint" readString members
    pure (.verifiedReplay manifestFingerprint sourceLive sourceContext)

/-- This is `impactCollectionOriginSchema`. -/
def readCollectionOrigin (value : Value) : Option CollectionOrigin :=
  readLiveOrigin value <|> readReplayOrigin value

/-- This is `fieldLineageSegmentSchema`. -/
def readFieldSegment : Value → Option LineageSegment :=
  readObject ["granularity", "sourceUrn", "targetUrn", "sourceFieldPath", "targetFieldPath"]
      fun members => do
    field "granularity" (readLiteral "FIELD") members
    let sourceUrn ← field "sourceUrn" readString members
    let targetUrn ← field "targetUrn" readString members
    let sourceFieldPath ← field "sourceFieldPath" readString members
    let targetFieldPath ← field "targetFieldPath" readString members
    pure (.field sourceUrn targetUrn sourceFieldPath targetFieldPath)

/-- This is `entityLineageSegmentSchema`. -/
def readEntitySegment : Value → Option LineageSegment :=
  readObject ["granularity", "sourceUrn", "targetUrn"] fun members => do
    field "granularity" (readLiteral "ENTITY") members
    let sourceUrn ← field "sourceUrn" readString members
    let targetUrn ← field "targetUrn" readString members
    pure (.entity sourceUrn targetUrn)

/-- This is `lineageSegmentSchema`. -/
def readLineageSegment (value : Value) : Option LineageSegment :=
  readFieldSegment value <|> readEntitySegment value

def readSchemaPayload : Value → Option SchemaPayload :=
  readObject ["schemaFieldUrn", "nativeFieldPath", "nativeType", "nullable"] fun members => do
    let schemaFieldUrn ← field "schemaFieldUrn" readString members
    let nativeFieldPath ← field "nativeFieldPath" readString members
    let nativeType ← field "nativeType" readString members
    let nullable ← field "nullable" readBool members
    pure ⟨schemaFieldUrn, nativeFieldPath, nativeType, nullable⟩

def readLineagePathPayload : Value → Option LineagePathPayload :=
  readObject ["direction", "nodes", "segments", "fieldLevel"] fun members => do
    field "direction" (readLiteral "DOWNSTREAM") members
    let nodes ← field "nodes" (readItems readString) members
    let segments ← field "segments" (readItems readLineageSegment) members
    field "fieldLevel" readTrue members
    pure ⟨nodes, segments⟩

def readDashboardPayload : Value → Option DashboardPayload :=
  readObject ["dashboardUrn", "platform", "lifecycle", "classificationUrns", "ownershipObserved",
      "ownerUrns", "downstreamDatasetUrn", "downstreamField"] fun members => do
    let dashboardUrn ← field "dashboardUrn" readString members
    let platform ← field "platform" readString members
    let lifecycle ← field "lifecycle" (readWord lifecycles Lifecycle.word) members
    let classificationUrns ← field "classificationUrns" (readItems readString) members
    field "ownershipObserved" readTrue members
    let ownerUrns ← field "ownerUrns" (readItems readString) members
    let downstreamDatasetUrn ← field "downstreamDatasetUrn" readString members
    let downstreamField ← field "downstreamField" readString members
    pure ⟨dashboardUrn, platform, lifecycle, classificationUrns, ownerUrns, downstreamDatasetUrn,
      downstreamField⟩

/-- This is `trainingDataReceiptSchema`. -/
def readTrainingDataReceipt : Value → Option TrainingDataReceipt :=
  readObject ["aspectName", "credentialClass", "endpoint", "modelUrn", "provenDatasetUrn",
      "responseSha256", "retrievedAt"] fun members => do
    field "aspectName" (readLiteral "mlModelTrainingData") members
    field "credentialClass" (readLiteral "READ") members
    let endpoint ← field "endpoint" readString members
    let modelUrn ← field "modelUrn" readString members
    let provenDatasetUrn ← field "provenDatasetUrn" readString members
    let responseSha256 ← field "responseSha256" readString members
    let retrievedAt ← field "retrievedAt" (readDate dates) members
    pure ⟨endpoint, modelUrn, provenDatasetUrn, responseSha256, retrievedAt⟩

def readModelPayload : Value → Option ModelPayload :=
  readObject ["modelUrn", "lifecycle", "classificationUrns", "ownershipObserved", "ownerUrns",
      "featureDatasetUrn", "featureField", "trainingDataReceipt"] fun members => do
    let modelUrn ← field "modelUrn" readString members
    let lifecycle ← field "lifecycle" (readWord lifecycles Lifecycle.word) members
    let classificationUrns ← field "classificationUrns" (readItems readString) members
    field "ownershipObserved" readTrue members
    let ownerUrns ← field "ownerUrns" (readItems readString) members
    let featureDatasetUrn ← field "featureDatasetUrn" readString members
    let featureField ← field "featureField" readString members
    let receipt ← field "trainingDataReceipt" (readTrainingDataReceipt dates) members
    pure ⟨modelUrn, lifecycle, classificationUrns, ownerUrns, featureDatasetUrn, featureField,
      receipt⟩

def readQueryPayload : Value → Option QueryPayload :=
  readObject ["queryUrn", "source", "observationBasis", "subjectDatasetUrn",
      "subjectSchemaFieldUrn", "subjectFieldPath", "normalizedStatementFingerprint"]
      fun members => do
    let queryUrn ← field "queryUrn" readString members
    field "source" (readLiteral "SYSTEM") members
    field "observationBasis" (readLiteral "DATAHUB_QUERY_ENTITY") members
    let subjectDatasetUrn ← field "subjectDatasetUrn" readString members
    let subjectSchemaFieldUrn ← field "subjectSchemaFieldUrn" readString members
    let subjectFieldPath ← field "subjectFieldPath" readString members
    let statement ← field "normalizedStatementFingerprint" readString members
    pure ⟨queryUrn, subjectDatasetUrn, subjectSchemaFieldUrn, subjectFieldPath, statement⟩

def readOwnerPayload : Value → Option OwnerPayload :=
  readObject ["assetUrn", "ownerUrn", "displayName", "ownershipType"] fun members => do
    let assetUrn ← field "assetUrn" readString members
    let ownerUrn ← field "ownerUrn" readString members
    let displayName ← field "displayName" readString members
    let ownershipType ← field "ownershipType" (readWord ownershipTypes OwnershipType.word) members
    pure ⟨assetUrn, ownerUrn, displayName, ownershipType⟩

def readGlossaryPayload : Value → Option GlossaryPayload :=
  readObject ["termUrn", "name", "schemaFieldUrn", "fieldPath"] fun members => do
    let termUrn ← field "termUrn" readString members
    let name ← field "name" readString members
    let schemaFieldUrn ← field "schemaFieldUrn" readString members
    let fieldPath ← field "fieldPath" readString members
    pure ⟨termUrn, name, schemaFieldUrn, fieldPath⟩

/-- The kind of an item selects the reader of its payload. -/
def readPayload (kind : String) (value : Value) : Option EvidencePayload :=
  if kind = "SCHEMA" then (readSchemaPayload value).map .schema
  else if kind = "LINEAGE_PATH" then (readLineagePathPayload value).map .lineagePath
  else if kind = "DASHBOARD" then (readDashboardPayload value).map .dashboard
  else if kind = "ML_MODEL" then (readModelPayload dates value).map .mlModel
  else if kind = "QUERY_USAGE" then (readQueryPayload value).map .queryUsage
  else if kind = "OWNER" then (readOwnerPayload value).map .owner
  else if kind = "GLOSSARY_TERM" then (readGlossaryPayload value).map .glossaryTerm
  else none

/-- This is the shape of `evidenceItemSchema`. -/
def readEvidenceItem : Value → Option EvidenceItem :=
  readObject ["id", "fingerprint", "sourceUrn", "targetUrn", "fieldPath", "title", "summary",
      "criticality", "provenance", "relatedEvidenceIds", "kind", "payload"] fun members => do
    let id ← field "id" readString members
    let fingerprint ← field "fingerprint" readString members
    let sourceUrn ← field "sourceUrn" readString members
    let targetUrn ← optionalField "targetUrn" readString members
    let fieldPath ← optionalField "fieldPath" readString members
    let title ← field "title" readString members
    let summary ← field "summary" readString members
    let criticality ← field "criticality" (readWord criticalities Criticality.word) members
    let provenance ← field "provenance" (readItems (readProvenance dates)) members
    let relatedEvidenceIds ← field "relatedEvidenceIds" (readItems readString) members
    let kind ← field "kind" readString members
    let payload ← field "payload" (readPayload dates kind) members
    pure ⟨⟨sourceUrn, targetUrn, fieldPath, title, summary, criticality, provenance,
      relatedEvidenceIds, payload⟩, id, fingerprint⟩

/-- This is the shape of `impactCollectionFailureSchema`. -/
def readCollectionFailure : Value → Option CollectionFailure :=
  readObject ["tool", "invocationId", "code", "message"] fun members => do
    let tool ← field "tool" (readWord tools Tool.word) members
    let invocationId ← field "invocationId" readString members
    let code ← field "code" (readWord failureCodes FailureCode.word) members
    let message ← field "message" readString members
    pure ⟨tool, invocationId, code, message⟩

/-- This is the shape of `impactContextSchema`. -/
def readImpactContext : Value → Option ImpactContext :=
  readObject ["impactContextFingerprint", "collectionFingerprint", "changeId", "datasetUrn",
      "fieldPath", "collectionOrigin", "resolution", "collectedAt", "collectionStatus",
      "evidence", "failures"] fun members => do
    let impactContextFingerprint ← field "impactContextFingerprint" readString members
    let collectionFingerprint ← field "collectionFingerprint" readString members
    let changeId ← field "changeId" readString members
    field "datasetUrn" (readLiteral canonicalDatasetUrn) members
    field "fieldPath" (readLiteral canonicalFieldPath) members
    let collectionOrigin ← field "collectionOrigin" readCollectionOrigin members
    let resolution ← field "resolution" (readResolution dates) members
    let collectedAt ← field "collectedAt" (readDate dates) members
    let collectionStatus ← field "collectionStatus"
      (readWord collectionStatuses CollectionStatus.word) members
    let evidence ← field "evidence" (readItems (readEvidenceItem dates)) members
    let failures ← field "failures" (readItems readCollectionFailure) members
    pure ⟨⟨changeId, collectionOrigin, resolution, collectedAt, collectionStatus, evidence,
      failures⟩, impactContextFingerprint, collectionFingerprint⟩

end Readers

section Reads

variable {spelling : Spelling} (dates : DateTexts spelling)

theorem reads_date (date : IsoDateTime) :
    Reads (readDate dates) (.string (spelling.date date)) date := by
  intro value same
  rw [same_string same, readDate, readString, Option.bind_some, dates.read_date]

theorem reads_provenance (entry : Provenance) :
    Reads (readProvenance dates) (entry.json spelling) entry := by
  refine reads_record rfl (by decide) fun members agrees => ?_
  refine bind_reads (agrees.field rfl (reads_literal _)) ?_
  refine bind_reads (agrees.field rfl (reads_role _)) ?_
  refine bind_reads (agrees.field rfl (reads_tool _)) ?_
  refine bind_reads (agrees.field rfl (reads_string _)) ?_
  refine bind_reads (agrees.field rfl (reads_date dates _)) ?_
  refine bind_reads (agrees.field rfl (reads_string _)) ?_
  rfl

theorem reads_resolutionProvenance (entry : ResolutionProvenance) :
    Reads (readResolutionProvenance dates) (entry.json spelling) entry := by
  refine reads_record rfl (by decide) fun members agrees => ?_
  refine bind_reads (agrees.field rfl (reads_literal _)) ?_
  refine bind_reads (agrees.field rfl (reads_literal _)) ?_
  refine bind_reads (agrees.field rfl (reads_literal _)) ?_
  refine bind_reads (agrees.field rfl (reads_string _)) ?_
  refine bind_reads (agrees.field rfl (reads_date dates _)) ?_
  refine bind_reads (agrees.field rfl (reads_string _)) ?_
  rfl

theorem reads_request : Reads readCanonicalImpactRequest canonicalImpactRequest () := by
  refine reads_record rfl (by decide) fun members agrees => ?_
  refine bind_reads (agrees.field rfl (reads_literal _)) ?_
  refine bind_reads (agrees.field rfl (reads_literal _)) ?_
  refine bind_reads (agrees.field rfl (reads_literal _)) ?_
  refine bind_reads (agrees.field rfl (reads_literal _)) ?_
  refine bind_reads (agrees.field rfl (reads_literal _)) ?_
  refine bind_reads (agrees.field rfl (reads_literal _)) ?_
  exact agrees.field rfl (reads_literal _)

theorem reads_resolution (entries : List ResolutionProvenance) :
    Reads (readResolution dates)
      (resolutionJson (.array (entries.map (ResolutionProvenance.json spelling)))) entries := by
  refine reads_record rfl (by decide) fun members agrees => ?_
  refine bind_reads (agrees.field rfl reads_request) ?_
  refine bind_reads (agrees.field rfl (reads_literal _)) ?_
  refine bind_reads (agrees.field rfl (reads_literal _)) ?_
  refine bind_reads (agrees.field rfl (reads_literal _)) ?_
  exact agrees.field rfl (reads_items fun entry _ => reads_resolutionProvenance dates entry)

theorem reads_origin (origin : CollectionOrigin) :
    Reads readCollectionOrigin origin.json origin := by
  intro value same
  cases origin with
  | live =>
      have read : Reads readLiveOrigin CollectionOrigin.live.json .live := by
        refine reads_record rfl (by decide) fun members agrees => ?_
        refine bind_reads (agrees.field rfl (reads_literal _)) ?_
        rfl
      rw [readCollectionOrigin, read value same]
      rfl
  | verifiedReplay manifest sourceLive sourceContext =>
      have refused : readLiveOrigin value = none :=
        refuses_tag (by simp) rfl (by decide) same
      have read : Reads readReplayOrigin
          (CollectionOrigin.verifiedReplay manifest sourceLive sourceContext).json
          (.verifiedReplay manifest sourceLive sourceContext) := by
        refine reads_record rfl (by decide) fun members agrees => ?_
        refine bind_reads (agrees.field rfl (reads_literal _)) ?_
        refine bind_reads (agrees.field rfl (reads_string _)) ?_
        refine bind_reads (agrees.field rfl (reads_string _)) ?_
        refine bind_reads (agrees.field rfl (reads_string _)) ?_
        rfl
      rw [readCollectionOrigin, refused]
      exact read value same

theorem reads_segment (segment : LineageSegment) :
    Reads readLineageSegment segment.json segment := by
  intro value same
  cases segment with
  | field source target sourceField targetField =>
      have read : Reads readFieldSegment
          (LineageSegment.field source target sourceField targetField).json
          (.field source target sourceField targetField) := by
        refine reads_record rfl (by decide) fun members agrees => ?_
        refine bind_reads (agrees.field rfl (reads_literal _)) ?_
        refine bind_reads (agrees.field rfl (reads_string _)) ?_
        refine bind_reads (agrees.field rfl (reads_string _)) ?_
        refine bind_reads (agrees.field rfl (reads_string _)) ?_
        refine bind_reads (agrees.field rfl (reads_string _)) ?_
        rfl
      rw [readLineageSegment, read value same]
      rfl
  | entity source target =>
      have refused : readFieldSegment value = none :=
        refuses_tag (by simp) rfl (by decide) same
      have read : Reads readEntitySegment (LineageSegment.entity source target).json
          (.entity source target) := by
        refine reads_record rfl (by decide) fun members agrees => ?_
        refine bind_reads (agrees.field rfl (reads_literal _)) ?_
        refine bind_reads (agrees.field rfl (reads_string _)) ?_
        refine bind_reads (agrees.field rfl (reads_string _)) ?_
        rfl
      rw [readLineageSegment, refused]
      exact read value same

theorem reads_schema (payload : SchemaPayload) :
    Reads readSchemaPayload payload.json payload := by
  refine reads_record rfl (by decide) fun members agrees => ?_
  refine bind_reads (agrees.field rfl (reads_string _)) ?_
  refine bind_reads (agrees.field rfl (reads_string _)) ?_
  refine bind_reads (agrees.field rfl (reads_string _)) ?_
  refine bind_reads (agrees.field rfl (reads_bool _)) ?_
  rfl

theorem reads_lineagePath (payload : LineagePathPayload) :
    Reads readLineagePathPayload payload.json payload := by
  refine reads_record rfl (by decide) fun members agrees => ?_
  refine bind_reads (agrees.field rfl (reads_literal _)) ?_
  refine bind_reads (agrees.field rfl (reads_texts _)) ?_
  refine bind_reads (agrees.field rfl (reads_items fun segment _ => reads_segment segment)) ?_
  refine bind_reads (agrees.field rfl (reads_true)) ?_
  rfl

theorem reads_dashboard (payload : DashboardPayload) :
    Reads readDashboardPayload payload.json payload := by
  refine reads_record rfl (by decide) fun members agrees => ?_
  refine bind_reads (agrees.field rfl (reads_string _)) ?_
  refine bind_reads (agrees.field rfl (reads_string _)) ?_
  refine bind_reads (agrees.field rfl (reads_lifecycle _)) ?_
  refine bind_reads (agrees.field rfl (reads_texts _)) ?_
  refine bind_reads (agrees.field rfl (reads_true)) ?_
  refine bind_reads (agrees.field rfl (reads_texts _)) ?_
  refine bind_reads (agrees.field rfl (reads_string _)) ?_
  refine bind_reads (agrees.field rfl (reads_string _)) ?_
  rfl

theorem reads_receipt (receipt : TrainingDataReceipt) :
    Reads (readTrainingDataReceipt dates) (receipt.json spelling) receipt := by
  refine reads_record rfl (by decide) fun members agrees => ?_
  refine bind_reads (agrees.field rfl (reads_literal _)) ?_
  refine bind_reads (agrees.field rfl (reads_literal _)) ?_
  refine bind_reads (agrees.field rfl (reads_string _)) ?_
  refine bind_reads (agrees.field rfl (reads_string _)) ?_
  refine bind_reads (agrees.field rfl (reads_string _)) ?_
  refine bind_reads (agrees.field rfl (reads_string _)) ?_
  refine bind_reads (agrees.field rfl (reads_date dates _)) ?_
  rfl

theorem reads_model (payload : ModelPayload) :
    Reads (readModelPayload dates) (payload.json spelling) payload := by
  refine reads_record rfl (by decide) fun members agrees => ?_
  refine bind_reads (agrees.field rfl (reads_string _)) ?_
  refine bind_reads (agrees.field rfl (reads_lifecycle _)) ?_
  refine bind_reads (agrees.field rfl (reads_texts _)) ?_
  refine bind_reads (agrees.field rfl (reads_true)) ?_
  refine bind_reads (agrees.field rfl (reads_texts _)) ?_
  refine bind_reads (agrees.field rfl (reads_string _)) ?_
  refine bind_reads (agrees.field rfl (reads_string _)) ?_
  refine bind_reads (agrees.field rfl (reads_receipt dates _)) ?_
  rfl

theorem reads_query (payload : QueryPayload) :
    Reads readQueryPayload payload.json payload := by
  refine reads_record rfl (by decide) fun members agrees => ?_
  refine bind_reads (agrees.field rfl (reads_string _)) ?_
  refine bind_reads (agrees.field rfl (reads_literal _)) ?_
  refine bind_reads (agrees.field rfl (reads_literal _)) ?_
  refine bind_reads (agrees.field rfl (reads_string _)) ?_
  refine bind_reads (agrees.field rfl (reads_string _)) ?_
  refine bind_reads (agrees.field rfl (reads_string _)) ?_
  refine bind_reads (agrees.field rfl (reads_string _)) ?_
  rfl

theorem reads_owner (payload : OwnerPayload) :
    Reads readOwnerPayload payload.json payload := by
  refine reads_record rfl (by decide) fun members agrees => ?_
  refine bind_reads (agrees.field rfl (reads_string _)) ?_
  refine bind_reads (agrees.field rfl (reads_string _)) ?_
  refine bind_reads (agrees.field rfl (reads_string _)) ?_
  refine bind_reads (agrees.field rfl (reads_ownershipType _)) ?_
  rfl

theorem reads_glossary (payload : GlossaryPayload) :
    Reads readGlossaryPayload payload.json payload := by
  refine reads_record rfl (by decide) fun members agrees => ?_
  refine bind_reads (agrees.field rfl (reads_string _)) ?_
  refine bind_reads (agrees.field rfl (reads_string _)) ?_
  refine bind_reads (agrees.field rfl (reads_string _)) ?_
  refine bind_reads (agrees.field rfl (reads_string _)) ?_
  rfl

theorem reads_payload (payload : EvidencePayload) :
    Reads (readPayload dates payload.kind) (payload.json spelling) payload := by
  intro value same
  cases payload with
  | schema payload =>
      simp only [readPayload, EvidencePayload.kind, reduceIte, String.reduceEq]
      rw [reads_schema payload value same]
      rfl
  | lineagePath payload =>
      simp only [readPayload, EvidencePayload.kind, reduceIte, String.reduceEq]
      rw [reads_lineagePath payload value same]
      rfl
  | dashboard payload =>
      simp only [readPayload, EvidencePayload.kind, reduceIte, String.reduceEq]
      rw [reads_dashboard payload value same]
      rfl
  | mlModel payload =>
      simp only [readPayload, EvidencePayload.kind, reduceIte, String.reduceEq]
      rw [reads_model dates payload value same]
      rfl
  | queryUsage payload =>
      simp only [readPayload, EvidencePayload.kind, reduceIte, String.reduceEq]
      rw [reads_query payload value same]
      rfl
  | owner payload =>
      simp only [readPayload, EvidencePayload.kind, reduceIte, String.reduceEq]
      rw [reads_owner payload value same]
      rfl
  | glossaryTerm payload =>
      simp only [readPayload, EvidencePayload.kind, reduceIte, String.reduceEq]
      rw [reads_glossary payload value same]
      rfl

theorem item_keys (spelling : Spelling) (item : EvidenceItem) :
    ((item.members spelling).map Prod.fst).Sublist ["id", "fingerprint", "sourceUrn",
      "targetUrn", "fieldPath", "title", "summary", "criticality", "provenance",
      "relatedEvidenceIds", "kind", "payload"] := by
  cases target : item.targetUrn <;> cases path : item.fieldPath <;>
    simp [EvidenceItem.members, optional, target, path]

/-- The two optional members are found exactly when they are defined. -/
theorem item_optional (spelling : Spelling) (item : EvidenceItem) :
    (item.members spelling).lookup "targetUrn" = item.targetUrn.map .string ∧
      (item.members spelling).lookup "fieldPath" = item.fieldPath.map .string := by
  cases target : item.targetUrn <;> cases path : item.fieldPath <;>
    simp [EvidenceItem.members, optional, target, path, List.lookup_cons]

theorem reads_item (item : EvidenceItem) :
    Reads (readEvidenceItem dates) (item.json spelling) item := by
  have keys := item_keys spelling item
  refine reads_object (keys.nodup (by decide)) (fun key present => keys.subset present) ?_
  intro members agrees
  obtain ⟨isTarget, isPath⟩ := item_optional spelling item
  have target := agrees.optional isTarget fun text _ => reads_string text
  have path := agrees.optional isPath fun text _ => reads_string text
  obtain ⟨⟨sourceUrn, targetUrn, fieldPath, _, _, _, _, _, _⟩, _, _⟩ := item
  cases targetUrn <;> cases fieldPath
  all_goals
    refine bind_reads (agrees.field rfl (reads_string _)) ?_
    refine bind_reads (agrees.field rfl (reads_string _)) ?_
    refine bind_reads (agrees.field rfl (reads_string _)) ?_
    refine bind_reads target ?_
    refine bind_reads path ?_
    refine bind_reads (agrees.field rfl (reads_string _)) ?_
    refine bind_reads (agrees.field rfl (reads_string _)) ?_
    refine bind_reads (agrees.field rfl (reads_criticality _)) ?_
    refine bind_reads
      (agrees.field rfl (reads_items fun entry _ => reads_provenance dates entry)) ?_
    refine bind_reads (agrees.field rfl (reads_texts _)) ?_
    refine bind_reads (agrees.field rfl (reads_string _)) ?_
    refine bind_reads (agrees.field rfl (reads_payload dates _)) ?_
    rfl

theorem reads_failure (failure : CollectionFailure) :
    Reads readCollectionFailure failure.json failure := by
  refine reads_record rfl (by decide) fun members agrees => ?_
  refine bind_reads (agrees.field rfl (reads_tool _)) ?_
  refine bind_reads (agrees.field rfl (reads_string _)) ?_
  refine bind_reads (agrees.field rfl (reads_failureCode _)) ?_
  refine bind_reads (agrees.field rfl (reads_string _)) ?_
  rfl

/-- The schema reads a context from every value that is the same as its own. -/
theorem reads_context (context : ImpactContext) :
    Reads (readImpactContext dates) (context.json spelling) context := by
  refine reads_record rfl (by decide) fun members agrees => ?_
  refine bind_reads (agrees.field rfl (reads_string _)) ?_
  refine bind_reads (agrees.field rfl (reads_string _)) ?_
  refine bind_reads (agrees.field rfl (reads_string _)) ?_
  refine bind_reads (agrees.field rfl (reads_literal _)) ?_
  refine bind_reads (agrees.field rfl (reads_literal _)) ?_
  refine bind_reads (agrees.field rfl (reads_origin _)) ?_
  refine bind_reads (agrees.field rfl (reads_resolution dates _)) ?_
  refine bind_reads (agrees.field rfl (reads_date dates _)) ?_
  refine bind_reads (agrees.field rfl (reads_collectionStatus _)) ?_
  refine bind_reads (agrees.field rfl (reads_items fun item _ => reads_item dates item)) ?_
  refine bind_reads (agrees.field rfl (reads_items fun failure _ => reads_failure failure)) ?_
  rfl

end Reads

end LineageGuard.Domain
