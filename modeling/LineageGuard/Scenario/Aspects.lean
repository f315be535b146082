import LineageGuard.Scenario.Lineage
import LineageGuard.Scenario.TargetAttestation
import Mathlib.Tactic

/-
This file translates the aspects that the seed plans and the marker that they carry.
-/

namespace LineageGuard.Scenario

open Attempt

section Aspects

/-- The seed writes to entities of these kinds. -/
inductive EntityKind
  | corpGroup | dashboard | dataset | domain | glossaryTerm | mlModel | query | tag | schemaField
  deriving DecidableEq

inductive AspectClass
  | corpGroupInfo | tagProperties | domainProperties | glossaryTermInfo | glossaryTerms
  | dashboardInfo | mlModelProperties | trainingData | ownership | globalTags | domains
  | upstreamLineage | status | schemaMetadata | datasetProperties | queryProperties
  | querySubjects | dataPlatformInstance | queryUsageStatistics
  deriving DecidableEq

def AspectClass.aspectName : AspectClass → String
  | .corpGroupInfo => "corpGroupInfo"
  | .tagProperties => "tagProperties"
  | .domainProperties => "domainProperties"
  | .glossaryTermInfo => "glossaryTermInfo"
  | .glossaryTerms => "glossaryTerms"
  | .dashboardInfo => "dashboardInfo"
  | .mlModelProperties => "mlModelProperties"
  | .trainingData => "mlModelTrainingData"
  | .ownership => "ownership"
  | .globalTags => "globalTags"
  | .domains => "domains"
  | .upstreamLineage => "upstreamLineage"
  | .status => "status"
  | .schemaMetadata => "schemaMetadata"
  | .datasetProperties => "datasetProperties"
  | .queryProperties => "queryProperties"
  | .querySubjects => "querySubjects"
  | .dataPlatformInstance => "dataPlatformInstance"
  | .queryUsageStatistics => "queryUsageStatistics"

/-- A map of texts lists its entries. -/
abbrev Properties := List (String × String)

deriving instance DecidableEq for UpstreamClass, FineGrainedLineageClass, UpstreamLineageClass

/-- An aspect has these contents, and a missing description or map is none. -/
inductive AspectContent (Extra : Type)
  | corpGroupInfo (displayName description : Option String)
  | tagProperties (name : String) (description : Option String)
  | domainProperties (name : String) (description : Option String)
      (customProperties : Option Properties)
  | glossaryTermInfo (name : Option String) (definition termSource : String)
      (customProperties : Option Properties)
  | glossaryTerms (terms : List (String × Option String))
  | dashboardInfo (title description : String) (datasets : List String)
      (customProperties : Option Properties)
  | mlModelProperties (name description type : Option String)
      (customProperties : Option Properties)
  | trainingData (datasets : List (String × Option String))
  | ownership (owners : List (String × OwnershipType))
  | globalTags (tags : List String)
  | domains (domains : List String)
  | upstreamLineage (lineage : UpstreamLineageClass Extra Extra)
  | status (removed : Bool)
  | schemaMetadata (fieldPaths : List String)
  | datasetProperties (customProperties : Option Properties)
  | queryProperties (statement : String) (system : Bool) (customProperties : Option Properties)
  | querySubjects (entities : List String)
  | dataPlatformInstance (platform : String) (target : Option String)
  | queryUsageStatistics (timestampMillis : ℤ) (queryCount : Option ℤ)
  deriving DecidableEq

variable {Extra : Type}

def AspectContent.aspectType : AspectContent Extra → AspectClass
  | .corpGroupInfo .. => .corpGroupInfo
  | .tagProperties .. => .tagProperties
  | .domainProperties .. => .domainProperties
  | .glossaryTermInfo .. => .glossaryTermInfo
  | .glossaryTerms .. => .glossaryTerms
  | .dashboardInfo .. => .dashboardInfo
  | .mlModelProperties .. => .mlModelProperties
  | .trainingData .. => .trainingData
  | .ownership .. => .ownership
  | .globalTags .. => .globalTags
  | .domains .. => .domains
  | .upstreamLineage .. => .upstreamLineage
  | .status .. => .status
  | .schemaMetadata .. => .schemaMetadata
  | .datasetProperties .. => .datasetProperties
  | .queryProperties .. => .queryProperties
  | .querySubjects .. => .querySubjects
  | .dataPlatformInstance .. => .dataPlatformInstance
  | .queryUsageStatistics .. => .queryUsageStatistics

/-- The members that no check reads by themselves are the extra ones. -/
structure Aspect (Extra : Type) where
  content : AspectContent Extra
  extra : Extra
  deriving DecidableEq

def Aspect.aspectType (aspect : Aspect Extra) : AspectClass := aspect.content.aspectType

def Aspect.lineage (aspect : Aspect Extra) : Option (UpstreamLineageClass Extra Extra) :=
  match aspect.content with
  | .upstreamLineage lineage => some lineage
  | _ => none

def Aspect.removed (aspect : Aspect Extra) : Option Bool :=
  match aspect.content with
  | .status removed => some removed
  | _ => none

def Aspect.fieldPaths (aspect : Aspect Extra) : List String :=
  match aspect.content with
  | .schemaMetadata fieldPaths => fieldPaths
  | _ => []

def Aspect.customProperties (aspect : Aspect Extra) : Properties :=
  match aspect.content with
  | .domainProperties _ _ found | .glossaryTermInfo _ _ _ found | .dashboardInfo _ _ _ found
  | .mlModelProperties _ _ _ found | .datasetProperties found | .queryProperties _ _ found =>
      found.getD []
  | _ => []

structure Proposal (Extra : Type) where
  entityUrn : String
  entityKind : EntityKind
  aspect : Aspect Extra
  deriving DecidableEq

structure PlannedUpsert (Extra : Type) where
  proposal : Proposal Extra
  idempotencyKey : String
  deriving DecidableEq

def PlannedUpsert.urn (upsert : PlannedUpsert Extra) : String := upsert.proposal.entityUrn

def PlannedUpsert.aspect (upsert : PlannedUpsert Extra) : Aspect Extra := upsert.proposal.aspect

def PlannedUpsert.aspectName (upsert : PlannedUpsert Extra) : String :=
  upsert.aspect.aspectType.aspectName

/-- The package of DataHub fills in the extra members and writes a proposal as a text, and the
language hashes texts. -/
structure Sdk (Extra : Type) extends LineageSdk Extra Extra where
  platform : Target.Platform
  planned : AspectClass → Extra
  seedDigest : Proposal Extra → String
  queryDigest : Proposal Extra → String

end Aspects

section Markers

variable {Extra : Type}

def scenarioMarkerKey : String := "lineageguard.scenario"

def scenarioMarkerValue : String := "canonical-customer-id-rename"

def ownershipNonceKey : String := "lineageguard.ownershipNonce"

def markerProperties (ownershipNonce : String) : Properties :=
  [(scenarioMarkerKey, scenarioMarkerValue), (ownershipNonceKey, ownershipNonce)]

def markerText (ownershipNonce : String) : String :=
  "[" ++ scenarioMarkerKey ++ "=" ++ scenarioMarkerValue ++ ";" ++ ownershipNonceKey ++ "=" ++
    ownershipNonce ++ "]"

/-- A field of a schema has no aspect for the marker. -/
def markerAspect : EntityKind → Option AspectClass
  | .corpGroup => some .corpGroupInfo
  | .dashboard => some .dashboardInfo
  | .dataset => some .datasetProperties
  | .domain => some .domainProperties
  | .glossaryTerm => some .glossaryTermInfo
  | .mlModel => some .mlModelProperties
  | .query => some .queryProperties
  | .tag => some .tagProperties
  | .schemaField => none

/-- A group and a tag carry the marker in the description. -/
def hasMarker (ownershipNonce : String) (aspect : Aspect Extra) : Bool :=
  match aspect.content with
  | .corpGroupInfo _ description | .tagProperties _ description =>
      decide ((markerText ownershipNonce).toList <:+: (description.getD "").toList)
  | _ =>
      decide (aspect.customProperties.lookup scenarioMarkerKey = some scenarioMarkerValue) &&
        decide (aspect.customProperties.lookup ownershipNonceKey = some ownershipNonce)

end Markers

section Plan

variable {Extra : Type} (sdk : Sdk Extra) (graph : ExpectedGraph) (ownershipNonce : String)

def actorUrn : String := "urn:li:corpuser:lineageguard"

def upsert (urn : String) (kind : EntityKind) (content : AspectContent Extra) :
    PlannedUpsert Extra :=
  let proposal : Proposal Extra := ⟨urn, kind, ⟨content, sdk.planned content.aspectType⟩⟩
  ⟨proposal, sdk.seedDigest proposal⟩

def entityName : EntityType → EntityKind
  | .dataset => .dataset
  | .dashboard => .dashboard
  | .mlmodel => .mlModel

def ownerUpsert (owner : Owner) : PlannedUpsert Extra :=
  upsert sdk owner.urn .corpGroup (.corpGroupInfo (some owner.displayName)
    (some ("Canonical owner group: " ++ owner.displayName ++ ". " ++ markerText ownershipNonce)))

def tagUpsert (tag : Tag) : PlannedUpsert Extra :=
  upsert sdk tag.urn .tag (.tagProperties tag.displayName
    (some (tag.description ++ " " ++ markerText ownershipNonce)))

def domainUpsert (domain : Domain) : PlannedUpsert Extra :=
  upsert sdk domain.urn .domain (.domainProperties domain.displayName (some domain.description)
    (some (markerProperties ownershipNonce)))

def termInfoUpsert : PlannedUpsert Extra :=
  upsert sdk graph.sourceField.glossaryTermUrn .glossaryTerm
    (.glossaryTermInfo (some "Customer Identifier")
      "Stable identifier that joins customer activity across controlled systems." "INTERNAL"
      (some (markerProperties ownershipNonce)))

def glossaryTermsUpsert : PlannedUpsert Extra :=
  upsert sdk graph.sourceField.schemaFieldUrn .schemaField
    (.glossaryTerms [(graph.sourceField.glossaryTermUrn, some actorUrn)])

def requiredUrn (logicalKey : String) : Except String String :=
  present (urnOf graph logicalKey) "StopIteration"

/-- The dashboard and the model come with properties of their own. -/
def nodeProperties (node : GraphNode) : Except String (List (PlannedUpsert Extra)) :=
  match node.entityType with
  | .dashboard => do
      let revenueUrn ← requiredUrn graph "analytics.customer_revenue"
      return [upsert sdk node.urn .dashboard (.dashboardInfo node.name
        "Finance revenue monitoring and monthly close dashboard." [revenueUrn]
        (some (markerProperties ownershipNonce)))]
  | .mlmodel => do
      let featureUrn ← requiredUrn graph "fraud.customer_features"
      return [upsert sdk node.urn .mlModel (.mlModelProperties (some node.name)
          (some "Production fraud scoring model using customer order features.")
          (some "classification") (some (markerProperties ownershipNonce))),
        upsert sdk node.urn .mlModel (.trainingData
          [(featureUrn, some "Customer order behavior features for fraud scoring.")])]
  | .dataset => return []

def ownershipUpserts (node : GraphNode) : Except String (List (PlannedUpsert Extra)) :=
  if node.ownerUrns = [] then return []
  else do
    let ownerType ← present node.ownershipType ("OWNERSHIP_TYPE_REQUIRED:" ++ node.logicalKey)
    return [upsert sdk node.urn (entityName node.entityType)
      (.ownership (node.ownerUrns.map fun urn => (urn, ownerType)))]

def tagUpserts (node : GraphNode) : List (PlannedUpsert Extra) :=
  if node.tagUrns = [] then []
  else [upsert sdk node.urn (entityName node.entityType) (.globalTags node.tagUrns)]

def domainUpserts (node : GraphNode) : List (PlannedUpsert Extra) :=
  (node.domainUrn.map fun urn =>
    upsert sdk node.urn (entityName node.entityType) (.domains [urn])).toList

def nodeAspects (node : GraphNode) : Except String (List (PlannedUpsert Extra)) := do
  let properties ← nodeProperties sdk graph ownershipNonce node
  let ownership ← ownershipUpserts sdk node
  return properties ++ ownership ++ tagUpserts sdk node ++ domainUpserts sdk node

/-- These upserts do not depend on the live lineage. -/
def entityUpserts : Except String (List (PlannedUpsert Extra)) := do
  let nodes ← graph.nodes.mapM (nodeAspects sdk graph ownershipNonce)
  return graph.owners.map (ownerUpsert sdk ownershipNonce) ++
    graph.tags.map (tagUpsert sdk ownershipNonce) ++
    graph.domains.map (domainUpsert sdk ownershipNonce) ++
    [termInfoUpsert sdk graph ownershipNonce, glossaryTermsUpsert sdk graph] ++ nodes.flatten

/-- The last node of a URN gives its type. -/
def nodeType (urn : String) : Option EntityType :=
  ((graph.nodes.reverse.find? fun node => node.urn = urn).map (·.entityType))

def isDataset (urn : String) : Except String Bool := do
  let type ← present (nodeType graph urn) ("KeyError:" ++ urn)
  return type = .dataset

def lineageDownstreams : Except String (List String) := do
  let groups ← edgesByDownstream graph
  return (groups.map Prod.fst).insertionSort (· ≤ ·)

def lineageUpsert (urn : String) (lineage : UpstreamLineageClass Extra Extra) :
    PlannedUpsert Extra :=
  upsert sdk urn .dataset (.upstreamLineage lineage)

def seededKinds (upserts : List (PlannedUpsert Extra)) : List (String × EntityKind) :=
  OrderedMap.ofList ((upserts.filter fun upsert =>
      graph.ownedUrns.contains upsert.urn && upsert.proposal.entityKind ≠ .domain).map
    fun upsert => (upsert.urn, upsert.proposal.entityKind))

def statusUpserts (upserts : List (PlannedUpsert Extra)) : List (PlannedUpsert Extra) :=
  (KeyedOrder.sortBy Prod.fst (seededKinds graph upserts)).map fun entry =>
    upsert sdk entry.1 entry.2 (.status false)

/-- Every owned entity but the domain is restored, and no upsert is planned twice. -/
def finishPlan (upserts : List (PlannedUpsert Extra)) : Except String (List (PlannedUpsert Extra)) := do
  let plan := upserts ++ statusUpserts sdk graph upserts
  require (plan.map (·.idempotencyKey)).Nodup "DUPLICATE_METADATA_UPSERT"
  return plan

/-- The lineage of a dataset is planned, and other entities have none. -/
def offlineLineage (urn : String) : Except String (List (PlannedUpsert Extra)) := do
  if ← isDataset graph urn then
    let lineage ← lineageAspect sdk.toLineageSdk graph urn
    return [lineageUpsert sdk urn lineage]
  else return []

/-- The plan without a reader takes the canonical lineage. -/
def offlineSeedPlan : Except String (List (PlannedUpsert Extra)) := do
  let entities ← entityUpserts sdk graph ownershipNonce
  let downstreams ← lineageDownstreams graph
  let lineage ← downstreams.mapM (offlineLineage sdk graph)
  finishPlan sdk graph (entities ++ lineage.flatten)

/-- The upserts of an entity have one hash. -/
def entityProposalHash (operations : List (PlannedUpsert Extra)) : String :=
  sdk.platform.sha256
    ("\n".intercalate ((operations.map (·.idempotencyKey)).insertionSort (· ≤ ·)))

def byEntity (plan : List (PlannedUpsert Extra)) :
    List ((String × EntityKind) × List (PlannedUpsert Extra)) :=
  OrderedMap.group (plan.map fun upsert => ((upsert.urn, upsert.proposal.entityKind), upsert))

end Plan

end LineageGuard.Scenario
