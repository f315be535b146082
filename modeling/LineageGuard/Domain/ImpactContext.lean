import LineageGuard.Domain.Evidence
import Mathlib.Tactic

/-
This file translates the impact context schema and its two fingerprints.
-/

namespace LineageGuard.Domain

open Json

inductive CollectionOrigin
  | live
  | verifiedReplay (manifestFingerprint sourceLiveCollectionFingerprint
      sourceImpactContextFingerprint : String)
  deriving DecidableEq

/-- The tool and the role of a resolution are literals. -/
structure ResolutionProvenance where
  invocationId : String
  retrievedAt : IsoDateTime
  responseFingerprint : String
  deriving DecidableEq

def ResolutionProvenance.toRetrieval (entry : ResolutionProvenance) : Retrieval :=
  ⟨.search, entry.invocationId, entry.retrievedAt, entry.responseFingerprint⟩

inductive FailureCode
  | timeout | notFound | ambiguous | malformedResponse | unavailable | toolMissing
  | policyViolation | responseLimit | paginationLimit | cursorCycle | terminated | schemaDrift
  deriving DecidableEq

def FailureCode.word : FailureCode → String
  | .timeout => "TIMEOUT"
  | .notFound => "NOT_FOUND"
  | .ambiguous => "AMBIGUOUS"
  | .malformedResponse => "MALFORMED_RESPONSE"
  | .unavailable => "UNAVAILABLE"
  | .toolMissing => "TOOL_MISSING"
  | .policyViolation => "POLICY_VIOLATION"
  | .responseLimit => "RESPONSE_LIMIT"
  | .paginationLimit => "PAGINATION_LIMIT"
  | .cursorCycle => "CURSOR_CYCLE"
  | .terminated => "TERMINATED"
  | .schemaDrift => "SCHEMA_DRIFT"

structure CollectionFailure where
  tool : Tool
  invocationId : String
  code : FailureCode
  message : String
  deriving DecidableEq

inductive CollectionStatus
  | complete | partially
  deriving DecidableEq

def CollectionStatus.word : CollectionStatus → String
  | .complete => "COMPLETE"
  | .partially => "PARTIAL"

/-- The request, the dataset and the field of a context are literals. -/
structure ImpactContextData where
  changeId : String
  collectionOrigin : CollectionOrigin
  resolution : List ResolutionProvenance
  collectedAt : IsoDateTime
  collectionStatus : CollectionStatus
  evidence : List EvidenceItem
  failures : List CollectionFailure
  deriving DecidableEq

structure ImpactContext extends ImpactContextData where
  impactContextFingerprint : String
  collectionFingerprint : String
  deriving DecidableEq

section Values

variable (spelling : Spelling)

def canonicalImpactRequest : Value :=
  .object [("platform", .string "postgres"), ("platformInstance", .string "lineageguard-canonical"),
    ("environment", .string "PROD"), ("database", .string "lineageguard"),
    ("schema", .string "commerce"), ("dataset", .string "orders"),
    ("field", .string "customer_id")]

def CollectionOrigin.json : CollectionOrigin → Value
  | .live => .object [("mode", .string "LIVE")]
  | .verifiedReplay manifest sourceLive sourceContext =>
      .object [("mode", .string "VERIFIED_REPLAY"), ("manifestFingerprint", .string manifest),
        ("sourceLiveCollectionFingerprint", .string sourceLive),
        ("sourceImpactContextFingerprint", .string sourceContext)]

def ResolutionProvenance.json (entry : ResolutionProvenance) : Value :=
  .object (entry.toRetrieval.members spelling .resolution)

/-- These are the members of a resolution besides its provenance. -/
def resolutionMembers : List (String × Value) :=
  [("requested", canonicalImpactRequest), ("datasetUrn", .string canonicalDatasetUrn),
    ("schemaFieldUrn", .string canonicalSchemaFieldUrn),
    ("nativeFieldPath", .string canonicalNativeFieldPath)]

def resolutionJson (provenance : Value) : Value :=
  .object (resolutionMembers ++ [("provenance", provenance)])

def CollectionFailure.json (failure : CollectionFailure) : Value :=
  .object [("tool", .string failure.tool.word), ("invocationId", .string failure.invocationId),
    ("code", .string failure.code.word), ("message", .string failure.message)]

/-- The shape of the provenance is the one part that an upgrade of a context changes. -/
def ImpactContextData.membersWith (data : ImpactContextData) (provenance : Value) :
    List (String × Value) :=
  [("changeId", .string data.changeId), ("datasetUrn", .string canonicalDatasetUrn),
    ("fieldPath", .string canonicalFieldPath), ("collectionOrigin", data.collectionOrigin.json),
    ("resolution", resolutionJson provenance),
    ("collectedAt", .string (spelling.date data.collectedAt)),
    ("collectionStatus", .string data.collectionStatus.word),
    ("evidence", .array (data.evidence.map (EvidenceItem.json spelling))),
    ("failures", .array (data.failures.map CollectionFailure.json))]

def ImpactContextData.members (data : ImpactContextData) : List (String × Value) :=
  data.membersWith spelling (.array (data.resolution.map (ResolutionProvenance.json spelling)))

def ImpactContext.json (context : ImpactContext) : Value :=
  .object ([("impactContextFingerprint", .string context.impactContextFingerprint),
    ("collectionFingerprint", .string context.collectionFingerprint)] ++
    context.toImpactContextData.members spelling)

end Values

section Fingerprints

variable (script : Script)

def evidenceReference (item : EvidenceItem) : Value :=
  .object [("id", .string item.id), ("fingerprint", .string item.fingerprint)]

def failureReference (failure : CollectionFailure) : Value :=
  .object [("tool", .string failure.tool.word), ("code", .string failure.code.word)]

def impactContextSemanticIdentity (context : ImpactContextData) : Value :=
  .object [("changeId", .string context.changeId), ("datasetUrn", .string canonicalDatasetUrn),
    ("fieldPath", .string canonicalFieldPath), ("resolution", .object resolutionMembers),
    ("collectionStatus", .string context.collectionStatus.word),
    ("evidence", .array (context.evidence.map evidenceReference)),
    ("failures", .array (context.failures.map failureReference))]

def computeImpactContextFingerprint (context : ImpactContextData) : String :=
  script.sha256 (impactContextSemanticIdentity context)

def computeImpactCollectionFingerprint (spelling : Spelling) (context : ImpactContextData) :
    String :=
  script.sha256 (.object (context.members spelling))

end Fingerprints

section Shapes

def ResolutionProvenance.issues (entry : ResolutionProvenance) (path : List PathItem) :
    List Issue := entry.toRetrieval.issues path

def CollectionFailure.issues (failure : CollectionFailure) (path : List PathItem) : List Issue :=
  lengthIssues 1 160 failure.invocationId (below path "invocationId") ++
  lengthIssues 1 500 failure.message (below path "message")

def CollectionOrigin.issues (path : List PathItem) : CollectionOrigin → List Issue
  | .live => []
  | .verifiedReplay manifest sourceLive sourceContext =>
      fingerprintIssues manifest (below path "manifestFingerprint") ++
      fingerprintIssues sourceLive (below path "sourceLiveCollectionFingerprint") ++
      fingerprintIssues sourceContext (below path "sourceImpactContextFingerprint")

/-- These are the checks of the fields of a context besides its two fingerprints. -/
def ImpactContextData.shapeIssues (script : Script) (data : ImpactContextData) : List Issue :=
  issueUnless (isPrefixedId "chg_" data.changeId) .invalidFormat [.field "changeId"] ++
  data.collectionOrigin.issues [.field "collectionOrigin"] ++
  eachIssues data.resolution [.field "resolution", .field "provenance"]
    ResolutionProvenance.issues ++
  countIssues 1 8 data.resolution [.field "resolution", .field "provenance"] ++
  dateIssues data.collectedAt [.field "collectedAt"] ++
  eachIssues data.evidence [.field "evidence"] (evidenceItemIssues script) ++
  issueUnless (data.evidence.length ≤ 200) .tooBig [.field "evidence"] ++
  eachIssues data.failures [.field "failures"] CollectionFailure.issues ++
  issueUnless (data.failures.length ≤ 20) .tooBig [.field "failures"]

end Shapes

section Order

def resolutionKey (entry : ResolutionProvenance) : String :=
  entry.toRetrieval.tool.word ++ "\x00" ++ entry.invocationId

/-- Failures are ordered by this key. -/
def failureKey (failure : CollectionFailure) : String :=
  failure.tool.word ++ "\x00" ++ failure.invocationId ++ "\x00" ++ failure.code.word ++ "\x00" ++
    failure.message

/-- The retrievals of a resolution follow each other and precede the collection. -/
def resolutionIssues (collected : ℕ) : ℕ → Option ℕ → List ResolutionProvenance → List Issue
  | _, _, [] => []
  | index, previous, entry :: rest =>
      issueUnless (∀ time ∈ previous, time ≤ entry.retrievedAt.time)
        (.custom "Resolution provenance must follow pagination chronology")
        [.field "resolution", .field "provenance", .index index, .field "retrievedAt"] ++
      issueUnless (entry.retrievedAt.time ≤ collected)
        (.custom "Resolution cannot be retrieved after context collection")
        [.field "resolution", .field "provenance", .index index, .field "retrievedAt"] ++
      resolutionIssues collected (index + 1) (some entry.retrievedAt.time) rest

def orderIssues (data : ImpactContextData) : List Issue :=
  issueUnless ((data.resolution.map resolutionKey).Nodup)
    (.custom "Resolution provenance entries must be unique")
    [.field "resolution", .field "provenance"] ++
  resolutionIssues data.collectedAt.time 0 none data.resolution ++
  issueUnless (data.evidence.map (·.id) = sorted (data.evidence.map (·.id)))
    (.custom "Evidence must use canonical ID order") [.field "evidence"] ++
  issueUnless ((data.failures.map (·.invocationId)).Nodup)
    (.custom "Collection failure invocation IDs must be unique") [.field "failures"] ++
  issueUnless (data.failures.map failureKey = sorted (data.failures.map failureKey))
    (.custom "Collection failures must use canonical order") [.field "failures"] ++
  issueUnless ((data.evidence.map (·.id)).Nodup) (.custom "Evidence IDs must be unique")
    [.field "evidence"]

end Order

section Provenance

/-- This map holds one retrieval for each invocation, and the last entry is the newest. -/
abbrev Invocations : Type := List (String × Retrieval)

def Invocations.get (known : Invocations) (invocationId : String) : Option Retrieval :=
  known.lookup invocationId

def Invocations.set (known : Invocations) (retrieval : Retrieval) : Invocations :=
  (retrieval.invocationId, retrieval) :: known

/-- The loop over the provenance of one item carries the time of the previous entry and the map. -/
def provenanceIssues (collected : ℕ) (path : List PathItem) :
    ℕ → Option ℕ → Invocations → List Provenance → List Issue × Invocations
  | _, _, known, [] => ([], known)
  | index, previous, known, entry :: rest =>
      let place := path ++ [.field "provenance", .index index]
      let contradicts := (known.get entry.invocationId).any (· ≠ entry.toRetrieval)
      let (issues, final) := provenanceIssues collected path (index + 1)
        (some entry.retrievedAt.time)
        (if contradicts then known else known.set entry.toRetrieval) rest
      (issueUnless (entry.retrievedAt.time ≤ collected)
          (.custom "Evidence cannot be retrieved after context collection")
          (below place "retrievedAt") ++
        issueUnless (∀ time ∈ previous, time ≤ entry.retrievedAt.time)
          (.custom "Evidence provenance must follow collection chronology")
          (below place "retrievedAt") ++
        issueUnless (contradicts = false)
          (.custom "Invocation ID has contradictory raw-response provenance")
          (below place "invocationId") ++ issues, final)

/-- The steps repeat one step and end with the suffix. -/
def matchesRepeatedPrefix (steps : List (Role × Tool)) (step : Role × Tool)
    (suffix : List (Role × Tool)) : Bool :=
  decide (suffix.length < steps.length) &&
    (steps.take (steps.length - suffix.length)).all (· == step) &&
    steps.drop (steps.length - suffix.length) == suffix

def provenanceMatches (item : EvidenceItem) : Bool :=
  let steps := item.provenance.map fun entry => (entry.role, entry.tool)
  match item.payload with
  | .schema _ => matchesRepeatedPrefix steps (.schema, .listSchemaFields) []
  | .lineagePath _ => matchesRepeatedPrefix steps (.lineageDiscovery, .getLineage)
      [(.fieldPath, .getLineagePathsBetween), (.entityPath, .getLineagePathsBetween)]
  | .dashboard _ => steps == [(.entityDetails, .getEntities)]
  | .mlModel _ => steps == [(.entityDetails, .getEntities)]
  | .queryUsage _ => matchesRepeatedPrefix steps (.queryDiscovery, .getDatasetQueries)
      [(.queryDetails, .getEntities)]
  | .owner _ => steps == [(.owner, .getEntities)]
  | .glossaryTerm _ => matchesRepeatedPrefix steps (.glossaryBinding, .listSchemaFields)
      [(.glossaryDetails, .getEntities)]

end Provenance

section Bindings

/-- The last item with an identifier stands for it in the map. -/
def byId (evidence : List EvidenceItem) (id : String) : Option EvidenceItem :=
  evidence.reverse.find? fun item => item.id = id

theorem byId_mem {evidence : List EvidenceItem} (single : (evidence.map (·.id)).Nodup)
    {item : EvidenceItem} (isItem : item ∈ evidence) : byId evidence item.id = some item := by
  rw [byId]
  cases found : evidence.reverse.find? fun other => other.id = item.id with
  | none =>
      rw [List.find?_eq_none] at found
      simpa using found item (List.mem_reverse.mpr isItem)
  | some other =>
      have same : other.id = item.id := by simpa using List.find?_some found
      rw [List.inj_on_of_nodup_map single
        (List.mem_reverse.mp (List.mem_of_find?_eq_some found)) isItem same]

/-- An item with exactly one related identifier has a related item. -/
def related (evidence : List EvidenceItem) (item : EvidenceItem) : Option EvidenceItem :=
  match item.relatedEvidenceIds with
  | [id] => byId evidence id
  | _ => none

def segmentsMatchNodes (nodes : List String) (segments : List LineageSegment) : Bool :=
  segments.zipIdx.all fun (segment, index) =>
    nodes[index]? == some segment.sourceUrn && nodes[index + 1]? == some segment.targetUrn

def fieldAfterEntity (segments : List LineageSegment) : Bool :=
  (segments.dropWhile LineageSegment.isField).any LineageSegment.isField

def schemaMatches (item : EvidenceItem) (payload : SchemaPayload) : Prop :=
  item.targetUrn.getD "" = "" ∧ item.relatedEvidenceIds = [] ∧
  payload.schemaFieldUrn = canonicalSchemaFieldUrn ∧
  payload.nativeFieldPath = canonicalNativeFieldPath

instance (item : EvidenceItem) (payload : SchemaPayload) :
    Decidable (schemaMatches item payload) := inferInstanceAs (Decidable (_ ∧ _))

/-- The first field segment starts at the requested field. -/
def startsAtField (segments : List LineageSegment) : Bool :=
  match segments.find? LineageSegment.isField with
  | some (.field source _ sourceField _) =>
      source == canonicalDatasetUrn && sourceField == canonicalNativeFieldPath
  | _ => false

def pathMatches (item : EvidenceItem) (payload : LineagePathPayload) : Prop :=
  payload.nodes.head? = some canonicalDatasetUrn ∧ payload.nodes.getLast? = item.targetUrn ∧
  payload.nodes.length = payload.segments.length + 1 ∧
  segmentsMatchNodes payload.nodes payload.segments ∧ startsAtField payload.segments ∧
  fieldAfterEntity payload.segments = false ∧ item.relatedEvidenceIds = []

instance (item : EvidenceItem) (payload : LineagePathPayload) :
    Decidable (pathMatches item payload) := inferInstanceAs (Decidable (_ ∧ _))

def reachesField (segments : List LineageSegment) (target fieldPath : String) : Bool :=
  segments.any fun
    | .field _ found _ foundField => found == target && foundField == fieldPath
    | .entity .. => false

def linksEntity (segments : List LineageSegment) (source target : String) : Bool :=
  segments.any fun
    | .field .. => false
    | .entity foundSource foundTarget => foundSource == source && foundTarget == target

/-- The related path leads through the downstream dataset to the asset. -/
def pathReaches (evidence : List EvidenceItem) (item : EvidenceItem) (assetUrn datasetUrn : String) :
    Bool :=
  match related evidence item with
  | some path =>
      match path.payload with
      | .lineagePath payload => path.targetUrn == some assetUrn &&
          reachesField payload.segments datasetUrn canonicalNativeFieldPath &&
          linksEntity payload.segments datasetUrn assetUrn
      | _ => false
  | none => false

/-- A dashboard and a model are bound to their path by the same conditions. -/
def assetMatches (evidence : List EvidenceItem) (item : EvidenceItem) (assetUrn : String)
    (lifecycle : Lifecycle) (classificationUrns ownerUrns : List String)
    (datasetUrn fieldName : String) : Prop :=
  item.targetUrn = some assetUrn ∧ lifecycle = .production ∧ classificationUrns.Nodup ∧
  classificationUrns = sorted classificationUrns ∧
  canonicalCriticalTagUrn ∈ classificationUrns ∧
  canonicalProductionTagUrn ∈ classificationUrns ∧ ownerUrns.Nodup ∧
  ownerUrns = sorted ownerUrns ∧ ".customer_id".toList.isSuffixOf fieldName.toList = true ∧
  pathReaches evidence item assetUrn datasetUrn = true

instance (evidence : List EvidenceItem) (item : EvidenceItem) (assetUrn : String)
    (lifecycle : Lifecycle) (classificationUrns ownerUrns : List String)
    (datasetUrn fieldName : String) : Decidable (assetMatches evidence item assetUrn lifecycle
      classificationUrns ownerUrns datasetUrn fieldName) := inferInstanceAs (Decidable (_ ∧ _))

def queryMatches (evidence : List EvidenceItem) (item : EvidenceItem) (payload : QueryPayload) :
    Bool :=
  item.targetUrn == some payload.queryUrn &&
  payload.subjectSchemaFieldUrn == "urn:li:schemaField:(" ++ payload.subjectDatasetUrn ++ "," ++
    payload.subjectFieldPath ++ ")" &&
  match related evidence item with
  | some path =>
      match path.payload with
      | .lineagePath found =>
          reachesField found.segments payload.subjectDatasetUrn payload.subjectFieldPath
      | _ => false
  | none => false

def glossaryMatches (item : EvidenceItem) (payload : GlossaryPayload) : Prop :=
  item.targetUrn = some payload.termUrn ∧ payload.schemaFieldUrn = canonicalSchemaFieldUrn ∧
  payload.fieldPath = canonicalFieldPath ∧ item.relatedEvidenceIds = []

instance (item : EvidenceItem) (payload : GlossaryPayload) :
    Decidable (glossaryMatches item payload) := inferInstanceAs (Decidable (_ ∧ _))

def ownsRelatedAsset (evidence : List EvidenceItem) (item : EvidenceItem)
    (payload : OwnerPayload) : Bool :=
  match related evidence item with
  | some asset =>
      match asset.payload with
      | .dashboard found =>
          found.dashboardUrn == payload.assetUrn && found.ownerUrns.contains payload.ownerUrn
      | .mlModel found =>
          found.modelUrn == payload.assetUrn && found.ownerUrns.contains payload.ownerUrn
      | .queryUsage found => found.subjectDatasetUrn == payload.assetUrn
      | _ => false
  | none => false

def ownerMatches (evidence : List EvidenceItem) (item : EvidenceItem) (payload : OwnerPayload) :
    Prop :=
  item.sourceUrn = payload.assetUrn ∧ item.targetUrn = some payload.ownerUrn ∧
  ownsRelatedAsset evidence item payload = true

instance (evidence : List EvidenceItem) (item : EvidenceItem) (payload : OwnerPayload) :
    Decidable (ownerMatches evidence item payload) := inferInstanceAs (Decidable (_ ∧ _))

/-- The receipt of a model repeats the relationship of its payload. -/
def receiptMatches (payload : ModelPayload) : Prop :=
  payload.trainingDataReceipt.modelUrn = payload.modelUrn ∧
  payload.trainingDataReceipt.provenDatasetUrn = payload.featureDatasetUrn

instance (payload : ModelPayload) : Decidable (receiptMatches payload) :=
  inferInstanceAs (Decidable (_ ∧ _))

/-- These are the checks that each kind of evidence has of its own. -/
def kindIssues (evidence : List EvidenceItem) (item : EvidenceItem) (path : List PathItem) :
    List Issue :=
  match item.payload with
  | .schema payload => issueUnless (schemaMatches item payload)
      (.custom "Schema evidence does not match the resolved source field") path
  | .lineagePath payload => issueUnless (pathMatches item payload)
      (.custom "Lineage path segments do not prove the resolved downstream path") path
  | .dashboard payload => issueUnless (assetMatches evidence item payload.dashboardUrn
        payload.lifecycle payload.classificationUrns payload.ownerUrns
        payload.downstreamDatasetUrn payload.downstreamField)
      (.custom "Dashboard evidence is not linked to a matching field lineage path") path
  | .mlModel payload => issueUnless (assetMatches evidence item payload.modelUrn
        payload.lifecycle payload.classificationUrns payload.ownerUrns payload.featureDatasetUrn
        payload.featureField)
      (.custom "ML model evidence is not linked to a matching field lineage path") path ++
      issueUnless (receiptMatches payload)
        (.custom "ML model training data receipt does not match the model/feature relationship")
        (path ++ [.field "payload", .field "trainingDataReceipt"])
  | .queryUsage payload => issueUnless (queryMatches evidence item payload)
      (.custom "Query evidence does not match its DataHub query subject") path
  | .glossaryTerm payload => issueUnless (glossaryMatches item payload)
      (.custom "Glossary evidence does not match the requested field") path
  | .owner payload => issueUnless (ownerMatches evidence item payload)
      (.custom "Owner evidence does not match its related critical asset") path

def EvidencePayload.isOwner : EvidencePayload → Bool
  | .owner _ => true
  | _ => false

/-- These are the checks of one item after those of its provenance entries. -/
def bindingIssues (evidence : List EvidenceItem) (item : EvidenceItem) (path : List PathItem) :
    List Issue :=
  issueUnless (provenanceMatches item)
    (.custom "Evidence provenance does not match its semantic collection steps")
    (below path "provenance") ++
  issueUnless (item.relatedEvidenceIds = sorted item.relatedEvidenceIds)
    (.custom "Related evidence IDs must use canonical order") (below path "relatedEvidenceIds") ++
  (item.relatedEvidenceIds.flatMap fun id => issueUnless ((byId evidence id).isSome)
    (.custom ("Dangling related evidence id: " ++ id)) (below path "relatedEvidenceIds")) ++
  issueUnless (item.payload.isOwner ∨ (item.sourceUrn = canonicalDatasetUrn ∧
      item.fieldPath = some canonicalFieldPath))
    (.custom "Evidence is not bound to the requested dataset field") path ++
  kindIssues evidence item path

/-- The loop over the items carries the map of the invocations. -/
def evidenceIssues (data : ImpactContextData) :
    ℕ → Invocations → List EvidenceItem → List Issue × Invocations
  | _, known, [] => ([], known)
  | index, known, item :: rest =>
      let path := [.field "evidence", .index index]
      let resolved := data.resolution.getLast?.map (·.retrievedAt.time)
      let (issues, next) :=
        provenanceIssues data.collectedAt.time path 0 resolved known item.provenance
      let (others, final) := evidenceIssues data (index + 1) next rest
      (issueUnless ((item.provenance.map (·.invocationId)).Nodup)
          (.custom "Evidence provenance invocation IDs must be unique") (below path "provenance") ++
        issues ++ bindingIssues data.evidence item path ++ others, final)

/-- The map starts with the retrievals of the resolution. -/
def resolutionInvocations (data : ImpactContextData) : Invocations :=
  data.resolution.foldl (fun known entry => known.set entry.toRetrieval) []

end Bindings

section Completeness

/-- The evidence holds one item of the kind that the selection reads, and it is as required. -/
def only {A : Type} (required : A → Bool) : List A → Bool
  | [found] => required found
  | _ => false

def schemas (evidence : List EvidenceItem) : List SchemaPayload :=
  evidence.filterMap fun item => match item.payload with
    | .schema payload => some payload
    | _ => none

def paths (evidence : List EvidenceItem) : List (Option String × LineagePathPayload) :=
  evidence.filterMap fun item => match item.payload with
    | .lineagePath payload => some (item.targetUrn, payload)
    | _ => none

def dashboards (evidence : List EvidenceItem) : List (Criticality × DashboardPayload) :=
  evidence.filterMap fun item => match item.payload with
    | .dashboard payload => some (item.criticality, payload)
    | _ => none

def models (evidence : List EvidenceItem) : List (Criticality × ModelPayload) :=
  evidence.filterMap fun item => match item.payload with
    | .mlModel payload => some (item.criticality, payload)
    | _ => none

def queries (evidence : List EvidenceItem) : List (Criticality × QueryPayload) :=
  evidence.filterMap fun item => match item.payload with
    | .queryUsage payload => some (item.criticality, payload)
    | _ => none

def glossaries (evidence : List EvidenceItem) : List (Criticality × GlossaryPayload) :=
  evidence.filterMap fun item => match item.payload with
    | .glossaryTerm payload => some (item.criticality, payload)
    | _ => none

def owners (evidence : List EvidenceItem) : List OwnerPayload :=
  evidence.filterMap fun item => match item.payload with
    | .owner payload => some payload
    | _ => none

/-- The canonical path leads over two datasets to an asset. -/
def canonicalNodes (through asset : String) : List String :=
  [canonicalDatasetUrn, canonicalAnalyticsStagingUrn, through, asset]

def canonicalSegments (through asset : String) : List LineageSegment :=
  [.field canonicalDatasetUrn canonicalAnalyticsStagingUrn canonicalNativeFieldPath
      canonicalNativeFieldPath,
    .field canonicalAnalyticsStagingUrn through canonicalNativeFieldPath canonicalNativeFieldPath,
    .entity through asset]

/-- The first path to the asset is the canonical one. -/
def hasCanonicalPath (evidence : List EvidenceItem) (through asset : String) : Bool :=
  match (paths evidence).find? fun path => path.1 == some asset with
  | some (_, payload) => payload.nodes == canonicalNodes through asset &&
      payload.segments == canonicalSegments through asset
  | none => false

def ownerKey (assetUrn ownerUrn : String) : String := assetUrn ++ "\x00" ++ ownerUrn

def ownerKeys (evidence : List EvidenceItem) : List String :=
  ((owners evidence).map fun owner => ownerKey owner.assetUrn owner.ownerUrn).dedup

def declaredOwnerKeys (evidence : List EvidenceItem) : List String :=
  (((dashboards evidence).head?.elim [] fun found => found.2.ownerUrns.map
      (ownerKey canonicalDashboardUrn)) ++
    ((models evidence).head?.elim [] fun found => found.2.ownerUrns.map
      (ownerKey canonicalFraudModelUrn)) ++
    ((owners evidence).filter fun owner => owner.assetUrn == canonicalAnalyticsRevenueUrn).map
      fun owner => ownerKey canonicalAnalyticsRevenueUrn owner.ownerUrn).dedup

def canonicalTags : List String := sorted [canonicalCriticalTagUrn, canonicalProductionTagUrn]

theorem canonicalTags_eq : canonicalTags = [canonicalCriticalTagUrn, canonicalProductionTagUrn] := by
  decide

theorem canonicalTags_accepted (path : List PathItem) : urnListIssues 1 canonicalTags path = [] := by
  rw [canonicalTags_eq]
  apply urnListIssues_of path _ (by decide)
  simp only [List.forall_mem_cons, List.not_mem_nil, false_implies, implies_true, and_true,
    canonicalUrns_accepted]

theorem canonicalTags_apart : canonicalCriticalTagUrn ≠ canonicalProductionTagUrn := by
  rw [canonicalCriticalTagUrn, canonicalProductionTagUrn, ne_eq, String.ofList_inj]
  decide

theorem canonicalUrns_apart : canonicalDashboardUrn ≠ canonicalFraudModelUrn := by
  rw [canonicalDashboardUrn, canonicalFraudModelUrn, ne_eq, String.ofList_inj]
  decide

theorem canonicalPath_accepted {through asset : String}
    (throughAccepted : ∀ path, urnIssues through path = [])
    (assetAccepted : ∀ path, urnIssues asset path = []) (path : List PathItem) :
    (EvidencePayload.lineagePath
      ⟨canonicalNodes through asset, canonicalSegments through asset⟩).issues path = [] := by
  have name : ∀ path, lengthIssues 1 500 canonicalNativeFieldPath path = [] :=
    lengthIssues_ofList (by decide)
  simp only [EvidencePayload.issues, List.append_eq_nil_iff]
  refine ⟨⟨urnListIssues_of _ ?_ (by simp [canonicalNodes]), ?_⟩,
    countIssues_nil.mpr (by simp [canonicalSegments])⟩
  · simp only [canonicalNodes, List.forall_mem_cons, List.not_mem_nil, false_implies, implies_true,
      and_true, canonicalUrns_accepted, throughAccepted, assetAccepted]
  · apply eachIssues_of
    simp only [canonicalSegments, List.forall_mem_cons, List.not_mem_nil, false_implies,
      implies_true, and_true, LineageSegment.issues, LineageSegment.sourceUrn,
      LineageSegment.targetUrn, canonicalUrns_accepted, throughAccepted, assetAccepted, name,
      List.append_nil]

def isCanonicalOwner (owner : OwnerPayload) : Bool :=
  (owner.assetUrn == canonicalDashboardUrn && owner.ownerUrn == canonicalFinanceOwnerUrn &&
    owner.displayName == "Finance Analytics") ||
  (owner.assetUrn == canonicalFraudModelUrn && owner.ownerUrn == canonicalRiskOwnerUrn &&
    owner.displayName == "Risk ML") ||
  (owner.assetUrn == canonicalAnalyticsRevenueUrn && owner.ownerUrn == canonicalFinanceOwnerUrn &&
    owner.displayName == "Finance Analytics")

def isCanonicalDashboard (found : Criticality × DashboardPayload) : Bool :=
  found.2.dashboardUrn == canonicalDashboardUrn &&
  found.2.downstreamDatasetUrn == canonicalAnalyticsRevenueUrn &&
  found.2.downstreamField == "analytics.customer_revenue.customer_id" &&
  found.2.platform == "looker" && found.2.classificationUrns == canonicalTags &&
  [[], [canonicalFinanceOwnerUrn]].contains found.2.ownerUrns && found.1 == .critical

def isCanonicalModel (found : Criticality × ModelPayload) : Bool :=
  found.2.modelUrn == canonicalFraudModelUrn &&
  found.2.featureDatasetUrn == canonicalFraudFeaturesUrn &&
  found.2.featureField == "fraud.customer_features.customer_id" &&
  found.2.lifecycle == .production && found.2.classificationUrns == canonicalTags &&
  [[], [canonicalRiskOwnerUrn]].contains found.2.ownerUrns && found.1 == .critical &&
  found.2.trainingDataReceipt.modelUrn == canonicalFraudModelUrn &&
  found.2.trainingDataReceipt.provenDatasetUrn == canonicalFraudFeaturesUrn

def isCanonicalQuery (found : Criticality × QueryPayload) : Bool :=
  found.2.queryUrn == canonicalQueryUrn &&
  found.2.subjectDatasetUrn == canonicalAnalyticsRevenueUrn &&
  found.2.subjectSchemaFieldUrn == canonicalQuerySubjectFieldUrn &&
  found.2.subjectFieldPath == canonicalNativeFieldPath &&
  found.2.normalizedStatementFingerprint == canonicalQueryStatementFingerprint &&
  found.1 == .high

def isCanonicalGlossary (found : Criticality × GlossaryPayload) : Bool :=
  found.2.termUrn == canonicalGlossaryTermUrn &&
  found.2.schemaFieldUrn == canonicalSchemaFieldUrn && found.2.name == "Customer Identifier" &&
  found.1 == .high

def isCanonicalSchema (payload : SchemaPayload) : Bool :=
  payload.schemaFieldUrn == canonicalSchemaFieldUrn &&
  payload.nativeFieldPath == canonicalNativeFieldPath && payload.nativeType == "uuid" &&
  payload.nullable == false

def isCanonicalEvidence (evidence : List EvidenceItem) : Bool :=
  only isCanonicalSchema (schemas evidence) && (paths evidence).length == 2 &&
  hasCanonicalPath evidence canonicalAnalyticsRevenueUrn canonicalDashboardUrn &&
  hasCanonicalPath evidence canonicalFraudFeaturesUrn canonicalFraudModelUrn &&
  only isCanonicalDashboard (dashboards evidence) && only isCanonicalModel (models evidence) &&
  only isCanonicalQuery (queries evidence) && only isCanonicalGlossary (glossaries evidence) &&
  decide ((owners evidence).length ≤ 3) &&
  (ownerKeys evidence).length == (owners evidence).length &&
  (ownerKeys evidence).length == (declaredOwnerKeys evidence).length &&
  (ownerKeys evidence).all (fun key => (declaredOwnerKeys evidence).contains key) &&
  (owners evidence).all isCanonicalOwner

def statusIssues (data : ImpactContextData) : List Issue :=
  match data.collectionStatus with
  | .complete =>
      issueUnless (data.failures = []) (.custom "Complete context cannot contain failures")
        [.field "failures"] ++
      issueUnless (isCanonicalEvidence data.evidence)
        (.custom "Complete canonical context is missing required collected evidence")
        [.field "evidence"]
  | .partially => issueUnless (data.failures ≠ [])
      (.custom "Partial context must describe at least one failure") [.field "failures"]

end Completeness

section Context

/-- A replay keeps the fingerprint of the context that it replays. -/
def replayBound (impactContextFingerprint : String) : CollectionOrigin → Bool
  | .live => true
  | .verifiedReplay _ _ source => source == impactContextFingerprint

/-- These checks depend on the two fingerprints of a context. -/
def contextFingerprintIssues (script : Script) (spelling : Spelling) (context : ImpactContext) :
    List Issue :=
  fingerprintIssues context.impactContextFingerprint [.field "impactContextFingerprint"] ++
  fingerprintIssues context.collectionFingerprint [.field "collectionFingerprint"] ++
  issueUnless (context.impactContextFingerprint =
      computeImpactContextFingerprint script context.toImpactContextData)
    (.custom "Impact context fingerprint is invalid") [.field "impactContextFingerprint"] ++
  issueUnless (context.collectionFingerprint =
      computeImpactCollectionFingerprint script spelling context.toImpactContextData)
    (.custom "Impact collection fingerprint is invalid") [.field "collectionFingerprint"] ++
  issueUnless (replayBound context.impactContextFingerprint context.collectionOrigin)
    (.custom "Replay manifest is not bound to the preserved semantic context")
    [.field "collectionOrigin", .field "sourceImpactContextFingerprint"]

/-- These checks read the data of a context alone. -/
def contextDataIssues (script : Script) (data : ImpactContextData) : List Issue :=
  let (items, invocations) := evidenceIssues data 0 (resolutionInvocations data) data.evidence
  data.shapeIssues script ++ orderIssues data ++ items ++ statusIssues data ++
  eachIssues data.failures [.field "failures"] fun failure path =>
    issueUnless ((invocations.get failure.invocationId).isNone)
      (.custom "Invocation ID cannot represent both a response and a failure")
      (below path "invocationId")

/-- These are the issues that `impactContextSchema` reports. -/
def impactContextIssues (script : Script) (spelling : Spelling) (context : ImpactContext) :
    List Issue :=
  contextFingerprintIssues script spelling context ++
    contextDataIssues script context.toImpactContextData

/-- The schema accepts a context when its fingerprints and its data pass their checks. -/
theorem impactContextIssues_nil {script : Script} {spelling : Spelling} {context : ImpactContext} :
    impactContextIssues script spelling context = [] ↔
      isFingerprint context.impactContextFingerprint = true ∧
      isFingerprint context.collectionFingerprint = true ∧
      context.impactContextFingerprint =
        computeImpactContextFingerprint script context.toImpactContextData ∧
      context.collectionFingerprint =
        computeImpactCollectionFingerprint script spelling context.toImpactContextData ∧
      replayBound context.impactContextFingerprint context.collectionOrigin = true ∧
      contextDataIssues script context.toImpactContextData = [] := by
  simp only [impactContextIssues, contextFingerprintIssues, fingerprintIssues,
    List.append_eq_nil_iff, issueUnless_nil, and_assoc]

/-- A context with its own fingerprints is accepted when its data is. -/
theorem fingerprinted_accepted {script : Script} {spelling : Spelling} {data : ImpactContextData}
    (bound : replayBound (computeImpactContextFingerprint script data) data.collectionOrigin = true)
    (rest : contextDataIssues script data = []) :
    impactContextIssues script spelling ⟨data, computeImpactContextFingerprint script data,
      computeImpactCollectionFingerprint script spelling data⟩ = [] := by
  rw [impactContextIssues_nil]
  exact ⟨digest_fingerprint script _, digest_fingerprint script _, rfl, rfl, bound, rest⟩

end Context

end LineageGuard.Domain
