import LineageGuard.Domain.Hash
import LineageGuard.Domain.Run
import Mathlib.Tactic

/-
This file translates the evidence schema and the semantic identity of an evidence item.
-/

namespace LineageGuard.Domain

open Json

section Canonical

def canonicalDatasetUrn : String :=
  "urn:li:dataset:(urn:li:dataPlatform:postgres,lineageguard-canonical.lineageguard.commerce.orders,PROD)"

def canonicalFieldPath : String := "commerce.orders.customer_id"

def canonicalNativeFieldPath : String := "customer_id"

def canonicalSchemaFieldUrn : String :=
  "urn:li:schemaField:(" ++ canonicalDatasetUrn ++ "," ++ canonicalNativeFieldPath ++ ")"

def canonicalAnalyticsStagingUrn : String :=
  "urn:li:dataset:(urn:li:dataPlatform:postgres,lineageguard-canonical.lineageguard.analytics.stg_orders,PROD)"

def canonicalAnalyticsRevenueUrn : String :=
  "urn:li:dataset:(urn:li:dataPlatform:postgres,lineageguard-canonical.lineageguard.analytics.customer_revenue,PROD)"

def canonicalFraudFeaturesUrn : String :=
  "urn:li:dataset:(urn:li:dataPlatform:postgres,lineageguard-canonical.lineageguard.fraud.customer_features,PROD)"

def canonicalDashboardUrn : String :=
  "urn:li:dashboard:(looker,lineageguard-canonical.finance-revenue-dashboard)"

def canonicalFraudModelUrn : String :=
  "urn:li:mlModel:(urn:li:dataPlatform:mlflow,lineageguard-canonical.fraud-model-v3,PROD)"

def canonicalFinanceOwnerUrn : String :=
  "urn:li:corpGroup:lineageguard-canonical.finance-analytics"

def canonicalRiskOwnerUrn : String := "urn:li:corpGroup:lineageguard-canonical.risk-ml"

def canonicalCriticalTagUrn : String := "urn:li:tag:lineageguard-canonical.Critical"

def canonicalProductionTagUrn : String := "urn:li:tag:lineageguard-canonical.Production"

def canonicalGlossaryTermUrn : String :=
  "urn:li:glossaryTerm:lineageguard-canonical.CustomerIdentifier"

def canonicalQueryUrn : String :=
  "urn:li:query:lineageguard-canonical.system.e4bbe7075754d05de68f76ff0a9b127532e044da8ab0a357bce7e0d41f7ad22c"

def canonicalQuerySubjectFieldUrn : String :=
  "urn:li:schemaField:(" ++ canonicalAnalyticsRevenueUrn ++ "," ++ canonicalNativeFieldPath ++ ")"

def canonicalQueryStatementFingerprint : String :=
  "64e7b3dc02cac7ee25acb65562fa7c075f08abc48310bf8dd16d0c9f6ef45638"

end Canonical

inductive Criticality
  | low | medium | high | critical
  deriving DecidableEq

def Criticality.word : Criticality → String
  | .low => "LOW"
  | .medium => "MEDIUM"
  | .high => "HIGH"
  | .critical => "CRITICAL"

inductive Role
  | resolution | schema | lineageDiscovery | fieldPath | entityPath | entityDetails
  | queryDiscovery | queryDetails | owner | glossaryBinding | glossaryDetails
  deriving DecidableEq

def Role.word : Role → String
  | .resolution => "RESOLUTION"
  | .schema => "SCHEMA"
  | .lineageDiscovery => "LINEAGE_DISCOVERY"
  | .fieldPath => "FIELD_PATH"
  | .entityPath => "ENTITY_PATH"
  | .entityDetails => "ENTITY_DETAILS"
  | .queryDiscovery => "QUERY_DISCOVERY"
  | .queryDetails => "QUERY_DETAILS"
  | .owner => "OWNER"
  | .glossaryBinding => "GLOSSARY_BINDING"
  | .glossaryDetails => "GLOSSARY_DETAILS"

inductive Tool
  | search | getEntities | listSchemaFields | getLineage | getLineagePathsBetween
  | getDatasetQueries
  deriving DecidableEq

def Tool.word : Tool → String
  | .search => "search"
  | .getEntities => "get_entities"
  | .listSchemaFields => "list_schema_fields"
  | .getLineage => "get_lineage"
  | .getLineagePathsBetween => "get_lineage_paths_between"
  | .getDatasetQueries => "get_dataset_queries"

/-- The source of every retrieval is the literal `DATAHUB_MCP`. -/
structure Retrieval where
  tool : Tool
  invocationId : String
  retrievedAt : IsoDateTime
  responseFingerprint : String
  deriving DecidableEq

structure Provenance extends Retrieval where
  role : Role
  deriving DecidableEq

inductive LineageSegment
  | field (sourceUrn targetUrn sourceFieldPath targetFieldPath : String)
  | entity (sourceUrn targetUrn : String)
  deriving DecidableEq

def LineageSegment.sourceUrn : LineageSegment → String
  | .field source .. => source
  | .entity source _ => source

def LineageSegment.targetUrn : LineageSegment → String
  | .field _ target .. => target
  | .entity _ target => target

def LineageSegment.isField : LineageSegment → Bool
  | .field .. => true
  | .entity .. => false

inductive Lifecycle
  | development | production | retired
  deriving DecidableEq

def Lifecycle.word : Lifecycle → String
  | .development => "DEVELOPMENT"
  | .production => "PRODUCTION"
  | .retired => "RETIRED"

inductive OwnershipType
  | technicalOwner | businessOwner
  deriving DecidableEq

def OwnershipType.word : OwnershipType → String
  | .technicalOwner => "TECHNICAL_OWNER"
  | .businessOwner => "BUSINESS_OWNER"

structure SchemaPayload where
  schemaFieldUrn : String
  nativeFieldPath : String
  nativeType : String
  nullable : Bool
  deriving DecidableEq

structure LineagePathPayload where
  nodes : List String
  segments : List LineageSegment
  deriving DecidableEq

structure DashboardPayload where
  dashboardUrn : String
  platform : String
  lifecycle : Lifecycle
  classificationUrns : List String
  ownerUrns : List String
  downstreamDatasetUrn : String
  downstreamField : String
  deriving DecidableEq

structure TrainingDataReceipt where
  endpoint : String
  modelUrn : String
  provenDatasetUrn : String
  responseSha256 : String
  retrievedAt : IsoDateTime
  deriving DecidableEq

structure ModelPayload where
  modelUrn : String
  lifecycle : Lifecycle
  classificationUrns : List String
  ownerUrns : List String
  featureDatasetUrn : String
  featureField : String
  trainingDataReceipt : TrainingDataReceipt
  deriving DecidableEq

structure QueryPayload where
  queryUrn : String
  subjectDatasetUrn : String
  subjectSchemaFieldUrn : String
  subjectFieldPath : String
  normalizedStatementFingerprint : String
  deriving DecidableEq

structure OwnerPayload where
  assetUrn : String
  ownerUrn : String
  displayName : String
  ownershipType : OwnershipType
  deriving DecidableEq

structure GlossaryPayload where
  termUrn : String
  name : String
  schemaFieldUrn : String
  fieldPath : String
  deriving DecidableEq

/-- The kind of an item selects its payload. -/
inductive EvidencePayload
  | schema (payload : SchemaPayload)
  | lineagePath (payload : LineagePathPayload)
  | dashboard (payload : DashboardPayload)
  | mlModel (payload : ModelPayload)
  | queryUsage (payload : QueryPayload)
  | owner (payload : OwnerPayload)
  | glossaryTerm (payload : GlossaryPayload)
  deriving DecidableEq

def EvidencePayload.kind : EvidencePayload → String
  | .schema _ => "SCHEMA"
  | .lineagePath _ => "LINEAGE_PATH"
  | .dashboard _ => "DASHBOARD"
  | .mlModel _ => "ML_MODEL"
  | .queryUsage _ => "QUERY_USAGE"
  | .owner _ => "OWNER"
  | .glossaryTerm _ => "GLOSSARY_TERM"

structure EvidenceDraft where
  sourceUrn : String
  targetUrn : Option String
  fieldPath : Option String
  title : String
  summary : String
  criticality : Criticality
  provenance : List Provenance
  relatedEvidenceIds : List String
  payload : EvidencePayload
  deriving DecidableEq

structure EvidenceItem extends EvidenceDraft where
  id : String
  fingerprint : String
  deriving DecidableEq

section Values

/-- An optional member is left out of its object when it is undefined. -/
def optional (key : String) (text : Option String) : List (String × Value) :=
  (text.map fun content => (key, .string content)).toList

/-- A missing text is written as null. -/
def nullable (text : Option String) : Value := text.elim .null .string

def texts (contents : List String) : Value := .array (contents.map .string)

theorem texts_plain (contents : List String) : Plain (texts contents) := by
  simp [texts, Plain, plainItems_iff]

variable (spelling : Spelling)

def Retrieval.members (retrieval : Retrieval) (role : Role) : List (String × Value) :=
  [("source", .string "DATAHUB_MCP"), ("role", .string role.word),
    ("tool", .string retrieval.tool.word), ("invocationId", .string retrieval.invocationId),
    ("retrievedAt", .string (spelling.date retrieval.retrievedAt)),
    ("responseFingerprint", .string retrieval.responseFingerprint)]

def Provenance.json (entry : Provenance) : Value :=
  .object (entry.toRetrieval.members spelling entry.role)

def LineageSegment.json : LineageSegment → Value
  | .field source target sourceField targetField =>
      .object [("granularity", .string "FIELD"), ("sourceUrn", .string source),
        ("targetUrn", .string target), ("sourceFieldPath", .string sourceField),
        ("targetFieldPath", .string targetField)]
  | .entity source target =>
      .object [("granularity", .string "ENTITY"), ("sourceUrn", .string source),
        ("targetUrn", .string target)]

def SchemaPayload.json (payload : SchemaPayload) : Value :=
  .object [("schemaFieldUrn", .string payload.schemaFieldUrn),
    ("nativeFieldPath", .string payload.nativeFieldPath),
    ("nativeType", .string payload.nativeType), ("nullable", .bool payload.nullable)]

def LineagePathPayload.json (payload : LineagePathPayload) : Value :=
  .object [("direction", .string "DOWNSTREAM"), ("nodes", texts payload.nodes),
    ("segments", .array (payload.segments.map LineageSegment.json)), ("fieldLevel", .bool true)]

def DashboardPayload.json (payload : DashboardPayload) : Value :=
  .object [("dashboardUrn", .string payload.dashboardUrn), ("platform", .string payload.platform),
    ("lifecycle", .string payload.lifecycle.word),
    ("classificationUrns", texts payload.classificationUrns), ("ownershipObserved", .bool true),
    ("ownerUrns", texts payload.ownerUrns),
    ("downstreamDatasetUrn", .string payload.downstreamDatasetUrn),
    ("downstreamField", .string payload.downstreamField)]

def TrainingDataReceipt.json (receipt : TrainingDataReceipt) : Value :=
  .object [("aspectName", .string "mlModelTrainingData"), ("credentialClass", .string "READ"),
    ("endpoint", .string receipt.endpoint), ("modelUrn", .string receipt.modelUrn),
    ("provenDatasetUrn", .string receipt.provenDatasetUrn),
    ("responseSha256", .string receipt.responseSha256),
    ("retrievedAt", .string (spelling.date receipt.retrievedAt))]

/-- These are the members that a model's payload shares with its semantic payload. -/
def ModelPayload.members (payload : ModelPayload) : List (String × Value) :=
  [("modelUrn", .string payload.modelUrn), ("lifecycle", .string payload.lifecycle.word),
    ("classificationUrns", texts payload.classificationUrns), ("ownershipObserved", .bool true),
    ("ownerUrns", texts payload.ownerUrns),
    ("featureDatasetUrn", .string payload.featureDatasetUrn),
    ("featureField", .string payload.featureField)]

def ModelPayload.json (payload : ModelPayload) : Value :=
  .object (payload.members ++ [("trainingDataReceipt", payload.trainingDataReceipt.json spelling)])

def QueryPayload.json (payload : QueryPayload) : Value :=
  .object [("queryUrn", .string payload.queryUrn), ("source", .string "SYSTEM"),
    ("observationBasis", .string "DATAHUB_QUERY_ENTITY"),
    ("subjectDatasetUrn", .string payload.subjectDatasetUrn),
    ("subjectSchemaFieldUrn", .string payload.subjectSchemaFieldUrn),
    ("subjectFieldPath", .string payload.subjectFieldPath),
    ("normalizedStatementFingerprint", .string payload.normalizedStatementFingerprint)]

def OwnerPayload.json (payload : OwnerPayload) : Value :=
  .object [("assetUrn", .string payload.assetUrn), ("ownerUrn", .string payload.ownerUrn),
    ("displayName", .string payload.displayName),
    ("ownershipType", .string payload.ownershipType.word)]

def GlossaryPayload.json (payload : GlossaryPayload) : Value :=
  .object [("termUrn", .string payload.termUrn), ("name", .string payload.name),
    ("schemaFieldUrn", .string payload.schemaFieldUrn), ("fieldPath", .string payload.fieldPath)]

def EvidencePayload.json : EvidencePayload → Value
  | .schema payload => payload.json
  | .lineagePath payload => payload.json
  | .dashboard payload => payload.json
  | .mlModel payload => payload.json spelling
  | .queryUsage payload => payload.json
  | .owner payload => payload.json
  | .glossaryTerm payload => payload.json

def EvidenceItem.members (item : EvidenceItem) : List (String × Value) :=
  [("id", .string item.id), ("fingerprint", .string item.fingerprint),
    ("sourceUrn", .string item.sourceUrn)] ++
  optional "targetUrn" item.targetUrn ++ optional "fieldPath" item.fieldPath ++
  [("title", .string item.title), ("summary", .string item.summary),
    ("criticality", .string item.criticality.word),
    ("provenance", .array (item.provenance.map (Provenance.json spelling))),
    ("relatedEvidenceIds", texts item.relatedEvidenceIds),
    ("kind", .string item.payload.kind), ("payload", item.payload.json spelling)]

def EvidenceItem.json (item : EvidenceItem) : Value := .object (item.members spelling)

end Values

section Identity

/-- A model's receipt is reduced to the relationship that it proves. -/
def ModelPayload.semantic (payload : ModelPayload) : Value :=
  .object (payload.members ++ [("trainingDataProof", .object
    [("aspectName", .string "mlModelTrainingData"), ("credentialClass", .string "READ"),
      ("modelUrn", .string payload.trainingDataReceipt.modelUrn),
      ("provenDatasetUrn", .string payload.trainingDataReceipt.provenDatasetUrn)])])

def semanticPayload : EvidencePayload → Value
  | .schema payload => payload.json
  | .lineagePath payload => payload.json
  | .dashboard payload => payload.json
  | .mlModel payload => payload.semantic
  | .queryUsage payload => payload.json
  | .owner payload => payload.json
  | .glossaryTerm payload => payload.json

/-- A step that repeats the tool and the role of the step before it is dropped. -/
def pushStep (steps : List (Tool × Role)) (entry : Provenance) : List (Tool × Role) :=
  if steps.getLast? = some (entry.tool, entry.role) then steps
  else steps ++ [(entry.tool, entry.role)]

def semanticProvenance (provenance : List Provenance) : List (Tool × Role) :=
  provenance.foldl pushStep []

def stepJson (step : Tool × Role) : Value :=
  .object [("source", .string "DATAHUB_MCP"), ("tool", .string step.1.word),
    ("role", .string step.2.word)]

def normalizedEvidenceIdentity (item : EvidenceDraft) : Value :=
  .object [("kind", .string item.payload.kind), ("sourceUrn", .string item.sourceUrn),
    ("targetUrn", nullable item.targetUrn), ("fieldPath", nullable item.fieldPath),
    ("title", .string item.title), ("summary", .string item.summary),
    ("criticality", .string item.criticality.word), ("payload", semanticPayload item.payload),
    ("relatedEvidenceIds", texts (sorted item.relatedEvidenceIds)),
    ("provenance", .array ((semanticProvenance item.provenance).map stepJson))]

/-- The identity of an item is the digest of its semantic identity. -/
def createEvidence (script : Script) (draft : EvidenceDraft) : EvidenceItem where
  toEvidenceDraft := draft
  id := script.stableId "ev" (normalizedEvidenceIdentity draft)
  fingerprint := script.sha256 (normalizedEvidenceIdentity draft)

end Identity

section Issues

/-- This is the path of a field of the value at the path. -/
def below (path : List PathItem) (field : String) : List PathItem := path ++ [.field field]

def lengthIssues (least most : ℕ) (text : String) (path : List PathItem) : List Issue :=
  issueUnless (least ≤ utf16Length text) .tooSmall path ++
    issueUnless (utf16Length text ≤ most) .tooBig path

theorem lengthIssues_nil {least most : ℕ} {text : String} {path : List PathItem} :
    lengthIssues least most text path = [] ↔ least ≤ utf16Length text ∧ utf16Length text ≤ most := by
  rw [lengthIssues, List.append_eq_nil_iff, issueUnless_nil, issueUnless_nil]

/-- A literal text is measured character by character. -/
theorem utf16Length_ofList (chars : List Char) : utf16Length (String.ofList chars) =
    (chars.map fun char => if 0x10000 ≤ char.toNat then 2 else 1).sum := by
  rw [utf16Length, String.toList_ofList]

def urnIssues (urn : String) (path : List PathItem) : List Issue :=
  lengthIssues 8 1000 urn path ++
    issueUnless ("urn:li:".toList.isPrefixOf urn.toList) .invalidFormat path

theorem urnIssues_ofList {chars : List Char} (path : List PathItem)
    (least : 8 ≤ (chars.map fun char => if 0x10000 ≤ char.toNat then 2 else 1).sum)
    (most : (chars.map fun char => if 0x10000 ≤ char.toNat then 2 else 1).sum ≤ 1000)
    (start : ['u', 'r', 'n', ':', 'l', 'i', ':'].isPrefixOf chars = true) :
    urnIssues (String.ofList chars) path = [] := by
  have word : "urn:li:".toList = ['u', 'r', 'n', ':', 'l', 'i', ':'] := String.toList_ofList
  simp only [urnIssues, lengthIssues, utf16Length_ofList, String.toList_ofList, word,
    List.append_eq_nil_iff, issueUnless_nil]
  exact ⟨⟨least, most⟩, start⟩

theorem lengthIssues_ofList {chars : List Char} {least most : ℕ}
    (measured : least ≤ (chars.map fun char => if 0x10000 ≤ char.toNat then 2 else 1).sum ∧
      (chars.map fun char => if 0x10000 ≤ char.toNat then 2 else 1).sum ≤ most)
    (path : List PathItem) : lengthIssues least most (String.ofList chars) path = [] := by
  rw [lengthIssues_nil, utf16Length_ofList]
  exact measured

def isHex (count : ℕ) (text : List Char) : Bool :=
  text.length == count && text.all fun char => "0123456789abcdef".toList.contains char

def isFingerprint (text : String) : Bool := isHex 64 text.toList

/-- Sixty-four hexadecimal digits are a fingerprint. -/
theorem isFingerprint_of {text : String} (long : text.length = 64)
    (digits : ∀ char ∈ text.toList, char ∈ "0123456789abcdef".toList) :
    isFingerprint text = true := by
  rw [isFingerprint, isHex, Bool.and_eq_true, List.all_eq_true, beq_iff_eq, String.length_toList]
  refine ⟨long, fun char present => ?_⟩
  rw [List.contains_iff_mem]
  exact digits char present

/-- A digest is a fingerprint. -/
theorem digest_fingerprint (script : Script) (text : List Char) :
    isFingerprint (script.digest text) = true :=
  isFingerprint_of (script.digest_length text) (script.digest_chars text)

def isPrefixedId (start : String) (text : String) : Bool :=
  text.toList.take start.toList.length == start.toList &&
    isHex 24 (text.toList.drop start.toList.length)

/-- An identifier starts with its prefix and twenty-four digits of a digest. -/
theorem stableId_prefixed (script : Script) (start : String) (value : Value) :
    isPrefixedId (start ++ "_") (script.stableId start value) = true := by
  have long : (script.sha256 value).toList.length = 64 := by
    rw [String.length_toList]
    exact script.digest_length _
  simp only [isPrefixedId, Script.stableId, String.toList_append, String.toList_ofList,
    List.take_left', List.drop_left', BEq.rfl, Bool.true_and, isHex, List.length_take, long,
    Bool.and_eq_true, List.all_eq_true, List.contains_iff_mem]
  refine ⟨rfl, fun char present => ?_⟩
  exact script.digest_chars _ char (List.mem_of_mem_take present)

def fingerprintIssues (text : String) (path : List PathItem) : List Issue :=
  issueUnless (isFingerprint text) .invalidFormat path

theorem fingerprintIssues_nil {text : String} {path : List PathItem} :
    fingerprintIssues text path = [] ↔ isFingerprint text = true := issueUnless_nil

def dateIssues (date : IsoDateTime) (path : List PathItem) : List Issue :=
  issueUnless date.Valid .invalidFormat path

theorem dateIssues_nil {date : IsoDateTime} {path : List PathItem} :
    dateIssues date path = [] ↔ date.Valid := issueUnless_nil

def countIssues {A : Type} (least most : ℕ) (items : List A) (path : List PathItem) :
    List Issue :=
  issueUnless (least ≤ items.length) .tooSmall path ++
    issueUnless (items.length ≤ most) .tooBig path

theorem countIssues_nil {A : Type} {least most : ℕ} {items : List A} {path : List PathItem} :
    countIssues least most items path = [] ↔ least ≤ items.length ∧ items.length ≤ most := by
  rw [countIssues, List.append_eq_nil_iff, issueUnless_nil, issueUnless_nil]

/-- Every item is checked at its own position. -/
def eachIssues {A : Type} (items : List A) (path : List PathItem)
    (check : A → List PathItem → List Issue) : List Issue :=
  items.zipIdx.flatMap fun (item, index) => check item (path ++ [.index index])

/-- The checks of an accepted list are accepted at their positions. -/
theorem eachIssues_nil {A : Type} {items : List A} {path : List PathItem}
    {check : A → List PathItem → List Issue} (accepted : eachIssues items path check = []) :
    ∀ item ∈ items, ∃ place, check item place = [] := by
  intro item present
  obtain ⟨index, within, found⟩ := List.getElem_of_mem present
  rw [eachIssues, List.flatMap_eq_nil_iff] at accepted
  have placed : (items[index], index) ∈ items.zipIdx :=
    List.mem_zipIdx_iff_getElem?.mpr (List.getElem?_eq_getElem within)
  rw [← found]
  exact ⟨_, accepted _ placed⟩

theorem eachIssues_of {A : Type} {items : List A} {path : List PathItem}
    {check : A → List PathItem → List Issue} (each : ∀ item ∈ items, ∀ place, check item place = []) :
    eachIssues items path check = [] := by
  rw [eachIssues, List.flatMap_eq_nil_iff]
  intro found present
  exact each found.1 (List.fst_mem_of_mem_zipIdx present) _

def Retrieval.issues (retrieval : Retrieval) (path : List PathItem) : List Issue :=
  lengthIssues 1 160 retrieval.invocationId (below path "invocationId") ++
  dateIssues retrieval.retrievedAt (below path "retrievedAt") ++
  fingerprintIssues retrieval.responseFingerprint (below path "responseFingerprint")

def Provenance.issues (entry : Provenance) (path : List PathItem) : List Issue :=
  entry.toRetrieval.issues path

def LineageSegment.issues (segment : LineageSegment) (path : List PathItem) : List Issue :=
  urnIssues segment.sourceUrn (below path "sourceUrn") ++
  urnIssues segment.targetUrn (below path "targetUrn") ++
  match segment with
  | .field _ _ source target =>
      lengthIssues 1 500 source (below path "sourceFieldPath") ++
      lengthIssues 1 500 target (below path "targetFieldPath")
  | .entity .. => []

/-- A list of names holds between some least number of them and twenty. -/
def urnListIssues (least : ℕ) (urns : List String) (path : List PathItem) : List Issue :=
  eachIssues urns path urnIssues ++ countIssues least 20 urns path

theorem urnListIssues_of {least : ℕ} {urns : List String} (path : List PathItem)
    (each : ∀ urn ∈ urns, ∀ place, urnIssues urn place = [])
    (count : least ≤ urns.length ∧ urns.length ≤ 20) : urnListIssues least urns path = [] := by
  rw [urnListIssues, List.append_eq_nil_iff]
  exact ⟨eachIssues_of each, countIssues_nil.mpr count⟩

/-- The names of the canonical scenario are accepted. -/
theorem canonicalUrns_accepted (path : List PathItem) :
    urnIssues canonicalDatasetUrn path = [] ∧ urnIssues canonicalSchemaFieldUrn path = [] ∧
    urnIssues canonicalAnalyticsStagingUrn path = [] ∧
    urnIssues canonicalAnalyticsRevenueUrn path = [] ∧
    urnIssues canonicalFraudFeaturesUrn path = [] ∧ urnIssues canonicalDashboardUrn path = [] ∧
    urnIssues canonicalFraudModelUrn path = [] ∧ urnIssues canonicalCriticalTagUrn path = [] ∧
    urnIssues canonicalProductionTagUrn path = [] ∧ urnIssues canonicalGlossaryTermUrn path = [] ∧
    urnIssues canonicalQueryUrn path = [] ∧ urnIssues canonicalQuerySubjectFieldUrn path = [] := by
  have field : ∀ dataset : List Char,
      (dataset.map fun char => if 0x10000 ≤ char.toNat then 2 else 1).sum ≤ 900 →
      urnIssues ("urn:li:schemaField:(" ++ String.ofList dataset ++ "," ++
        canonicalNativeFieldPath ++ ")") path = [] := by
    intro dataset short
    show urnIssues (String.ofList _ ++ String.ofList dataset ++ String.ofList _ ++
      String.ofList _ ++ String.ofList _) path = []
    simp only [← String.ofList_append]
    apply urnIssues_ofList
    · simp only [List.map_append, List.sum_append]
      simp
    · simp only [List.map_append, List.sum_append]
      simp
      omega
    · rfl
  refine ⟨?_, field _ (by decide), ?_, ?_, ?_, ?_, ?_, ?_, ?_, ?_, ?_, field _ (by decide)⟩ <;>
    exact urnIssues_ofList path (by decide) (by decide) (by decide)

def TrainingDataReceipt.issues (receipt : TrainingDataReceipt) (path : List PathItem) :
    List Issue :=
  lengthIssues 1 2048 receipt.endpoint (below path "endpoint") ++
  urnIssues receipt.modelUrn (below path "modelUrn") ++
  urnIssues receipt.provenDatasetUrn (below path "provenDatasetUrn") ++
  fingerprintIssues receipt.responseSha256 (below path "responseSha256") ++
  dateIssues receipt.retrievedAt (below path "retrievedAt")

def EvidencePayload.issues (path : List PathItem) : EvidencePayload → List Issue
  | .schema payload =>
      urnIssues payload.schemaFieldUrn (below path "schemaFieldUrn") ++
      lengthIssues 1 500 payload.nativeFieldPath (below path "nativeFieldPath") ++
      lengthIssues 1 80 payload.nativeType (below path "nativeType")
  | .lineagePath payload =>
      urnListIssues 2 payload.nodes (below path "nodes") ++
      eachIssues payload.segments (below path "segments") LineageSegment.issues ++
      countIssues 1 19 payload.segments (below path "segments")
  | .dashboard payload =>
      urnIssues payload.dashboardUrn (below path "dashboardUrn") ++
      lengthIssues 1 80 payload.platform (below path "platform") ++
      urnListIssues 1 payload.classificationUrns (below path "classificationUrns") ++
      urnListIssues 0 payload.ownerUrns (below path "ownerUrns") ++
      urnIssues payload.downstreamDatasetUrn (below path "downstreamDatasetUrn") ++
      lengthIssues 1 500 payload.downstreamField (below path "downstreamField")
  | .mlModel payload =>
      urnIssues payload.modelUrn (below path "modelUrn") ++
      urnListIssues 1 payload.classificationUrns (below path "classificationUrns") ++
      urnListIssues 0 payload.ownerUrns (below path "ownerUrns") ++
      urnIssues payload.featureDatasetUrn (below path "featureDatasetUrn") ++
      lengthIssues 1 500 payload.featureField (below path "featureField") ++
      payload.trainingDataReceipt.issues (below path "trainingDataReceipt")
  | .queryUsage payload =>
      urnIssues payload.queryUrn (below path "queryUrn") ++
      urnIssues payload.subjectDatasetUrn (below path "subjectDatasetUrn") ++
      urnIssues payload.subjectSchemaFieldUrn (below path "subjectSchemaFieldUrn") ++
      lengthIssues 1 500 payload.subjectFieldPath (below path "subjectFieldPath") ++
      fingerprintIssues payload.normalizedStatementFingerprint
        (below path "normalizedStatementFingerprint")
  | .owner payload =>
      urnIssues payload.assetUrn (below path "assetUrn") ++
      urnIssues payload.ownerUrn (below path "ownerUrn") ++
      lengthIssues 1 240 payload.displayName (below path "displayName")
  | .glossaryTerm payload =>
      urnIssues payload.termUrn (below path "termUrn") ++
      lengthIssues 1 240 payload.name (below path "name") ++
      urnIssues payload.schemaFieldUrn (below path "schemaFieldUrn") ++
      lengthIssues 1 500 payload.fieldPath (below path "fieldPath")

/-- These are the checks of the shape that every kind of evidence shares. -/
def EvidenceItem.baseIssues (item : EvidenceItem) (path : List PathItem) : List Issue :=
  issueUnless (isPrefixedId "ev_" item.id) .invalidFormat (below path "id") ++
  fingerprintIssues item.fingerprint (below path "fingerprint") ++
  urnIssues item.sourceUrn (below path "sourceUrn") ++
  (item.targetUrn.elim [] fun urn => urnIssues urn (below path "targetUrn")) ++
  (item.fieldPath.elim [] fun name => lengthIssues 1 500 name (below path "fieldPath")) ++
  lengthIssues 1 240 item.title (below path "title") ++
  lengthIssues 1 1000 item.summary (below path "summary") ++
  eachIssues item.provenance (below path "provenance") Provenance.issues ++
  countIssues 1 8 item.provenance (below path "provenance") ++
  eachIssues item.relatedEvidenceIds (below path "relatedEvidenceIds")
    (fun id position => issueUnless (isPrefixedId "ev_" id) .invalidFormat position) ++
  issueUnless (item.relatedEvidenceIds.length ≤ 20) .tooBig
    (below path "relatedEvidenceIds") ++
  issueUnless item.relatedEvidenceIds.Nodup (.custom "Related evidence IDs must be unique")
    (below path "relatedEvidenceIds")

/-- These are the issues that `evidenceItemSchema` reports. -/
def evidenceItemIssues (script : Script) (item : EvidenceItem) (path : List PathItem) :
    List Issue :=
  item.baseIssues path ++ item.payload.issues (below path "payload") ++
  issueUnless (item.fingerprint = script.sha256 (normalizedEvidenceIdentity item.toEvidenceDraft))
    (.custom "Evidence fingerprint is invalid") (below path "fingerprint") ++
  issueUnless (item.id = script.stableId "ev" (normalizedEvidenceIdentity item.toEvidenceDraft))
    (.custom "Evidence ID is invalid") (below path "id")

end Issues

end LineageGuard.Domain
