import LineageGuard.Library.Attempt
import Mathlib.Data.String.Basic
import Mathlib.Tactic

/-
This file translates the expected graph and the checks of its loader.
-/

namespace LineageGuard.Scenario

open Attempt

section Data

inductive EntityType
  | dataset | dashboard | mlmodel
  deriving DecidableEq

inductive Granularity
  | field | entity
  deriving DecidableEq

inductive OwnershipType
  | businessOwner | technicalOwner
  deriving DecidableEq

structure SourceField where
  logicalKey : String
  datasetUrn : String
  fieldPath : String
  schemaFieldUrn : String
  glossaryTermUrn : String
  deriving DecidableEq

structure Owner where
  logicalKey : String
  urn : String
  displayName : String
  deriving DecidableEq

structure Tag where
  logicalKey : String
  urn : String
  displayName : String
  description : String
  deriving DecidableEq

structure Domain where
  logicalKey : String
  urn : String
  displayName : String
  description : String
  deriving DecidableEq

structure GraphNode where
  logicalKey : String
  urn : String
  entityType : EntityType
  name : String
  ownerUrns : List String
  ownershipType : Option OwnershipType
  tagUrns : List String
  domainUrn : Option String
  schemaFields : List String
  deriving DecidableEq

structure LineageEdge where
  logicalKey : String
  upstreamUrn : String
  downstreamUrn : String
  upstreamType : EntityType
  downstreamType : EntityType
  granularity : Granularity
  upstreamFieldPath : Option String
  downstreamFieldPath : Option String
  deriving DecidableEq

structure QueryEvidence where
  logicalKey : String
  queryUrn : String
  marker : String
  sqlPath : String
  datasetUrn : String
  fieldPath : String
  sha256 : String
  deriving DecidableEq

structure ExpectedGraph where
  schemaVersion : ℕ
  scenarioId : String
  environment : String
  platformInstance : String
  sourceField : SourceField
  owners : List Owner
  tags : List Tag
  domains : List Domain
  nodes : List GraphNode
  edges : List LineageEdge
  queryEvidence : List QueryEvidence
  impactCards : List String
  lineageIntermediates : List String
  deriving DecidableEq

/-- The elements of a set come sorted and once each. -/
def sortedSet (elements : List String) : List String :=
  (elements.insertionSort (· ≤ ·)).dedup

@[simp] theorem mem_sortedSet {elements : List String} {element : String} :
    element ∈ sortedSet elements ↔ element ∈ elements := by
  rw [sortedSet, List.mem_dedup, List.mem_insertionSort]

/-- The sets of both lists are equal. -/
def sameElements {Element : Type} [DecidableEq Element] (first second : List Element) : Bool :=
  first.all (fun element => second.contains element) &&
    second.all fun element => first.contains element

theorem sameElements_iff {Element : Type} [DecidableEq Element] {first second : List Element} :
    sameElements first second = true ↔ ∀ element, element ∈ first ↔ element ∈ second := by
  rw [sameElements, Bool.and_eq_true, List.all_eq_true, List.all_eq_true]
  simp only [List.contains_iff_mem]
  constructor
  · rintro ⟨forth, back⟩ element
    exact ⟨forth element, back element⟩
  · intro same
    exact ⟨fun element => (same element).mp, fun element => (same element).mpr⟩

/-- The last entry of a key wins. -/
def dictOf {Value : Type} (entries : List (String × Value)) : List (String × Value) :=
  entries.pwFilter fun first second => first.1 ≠ second.1

namespace ExpectedGraph

/-- Every canonical entity of the graph has its URN here. -/
def managedSet (graph : ExpectedGraph) : List String :=
  graph.sourceField.glossaryTermUrn :: (graph.owners.map (·.urn) ++ graph.tags.map (·.urn) ++
    graph.domains.map (·.urn) ++ graph.nodes.map (·.urn) ++ graph.queryEvidence.map (·.queryUrn))

def managedUrns (graph : ExpectedGraph) : List String := sortedSet graph.managedSet

def datasetUrns (graph : ExpectedGraph) : List String :=
  (graph.nodes.filter fun node => node.entityType = .dataset).map (·.urn)

def connectorDatasetUrns (graph : ExpectedGraph) : List String := sortedSet graph.datasetUrns

def ownedUrns (graph : ExpectedGraph) : List String :=
  sortedSet (graph.managedUrns.filter fun urn => !graph.connectorDatasetUrns.contains urn)

def allowedMutationUrns (graph : ExpectedGraph) : List String :=
  sortedSet (graph.sourceField.schemaFieldUrn :: graph.managedUrns)

end ExpectedGraph

end Data

section Constants

def canonicalPrefix : String := "lineageguard-canonical"

def canonicalQuerySha256 : String :=
  "e4bbe7075754d05de68f76ff0a9b127532e044da8ab0a357bce7e0d41f7ad22c"

def canonicalLiveQueryUrn : String :=
  "urn:li:query:" ++ canonicalPrefix ++ ".system." ++ canonicalQuerySha256

def canonicalSchemaFields : List (String × List String) :=
  [("commerce.orders", ["order_id", "customer_id", "order_total", "ordered_at"]),
    ("analytics.stg_orders", ["order_id", "customer_id", "order_total", "ordered_at"]),
    ("analytics.customer_revenue", ["customer_id", "lifetime_revenue"]),
    ("fraud.customer_features", ["customer_id", "order_count", "max_order_total"]),
    ("finance.revenue-dashboard", []), ("fraud.model-v3", [])]

structure EdgeSpec where
  logicalKey : String
  upstreamKey : String
  downstreamKey : String
  granularity : Granularity
  upstreamFieldPath : Option String
  downstreamFieldPath : Option String
  deriving DecidableEq

def canonicalEdgeSpecs : List EdgeSpec :=
  [⟨"orders.customer_id->stg_orders.customer_id", "commerce.orders", "analytics.stg_orders",
      .field, some "customer_id", some "customer_id"⟩,
    ⟨"stg_orders.customer_id->customer_revenue.customer_id", "analytics.stg_orders",
      "analytics.customer_revenue", .field, some "customer_id", some "customer_id"⟩,
    ⟨"stg_orders.customer_id->customer_features.customer_id", "analytics.stg_orders",
      "fraud.customer_features", .field, some "customer_id", some "customer_id"⟩,
    ⟨"customer_revenue->finance-dashboard", "analytics.customer_revenue",
      "finance.revenue-dashboard", .entity, none, none⟩,
    ⟨"customer_features->fraud-model-v3", "fraud.customer_features", "fraud.model-v3", .entity,
      none, none⟩]

def canonicalImpactCards : List String :=
  ["analytics.customer_revenue", "finance.revenue-dashboard", "fraud.model-v3",
    "query.finance-monthly-close"]

def canonicalIntermediates : List String := ["analytics.stg_orders", "fraud.customer_features"]

def canonicalEntityTypes : List (String × EntityType) :=
  [("commerce.orders", .dataset), ("analytics.stg_orders", .dataset),
    ("analytics.customer_revenue", .dataset), ("fraud.customer_features", .dataset),
    ("finance.revenue-dashboard", .dashboard), ("fraud.model-v3", .mlmodel)]

def glossaryTermUrn : String := "urn:li:glossaryTerm:lineageguard-canonical.CustomerIdentifier"

def dashboardUrn : String :=
  "urn:li:dashboard:(looker,lineageguard-canonical.finance-revenue-dashboard)"

def modelUrn : String :=
  "urn:li:mlModel:(urn:li:dataPlatform:mlflow,lineageguard-canonical.fraud-model-v3,PROD)"

def groupUrn (name : String) : String := "urn:li:corpGroup:" ++ canonicalPrefix ++ "." ++ name

def tagUrn (name : String) : String := "urn:li:tag:" ++ canonicalPrefix ++ "." ++ name

def domainUrn : String := "urn:li:domain:" ++ canonicalPrefix ++ ".commerce-analytics"

def canonicalNonDatasetUrns : List String :=
  [groupUrn "finance-analytics", groupUrn "risk-ml", groupUrn "commerce-data-platform",
    dashboardUrn, glossaryTermUrn, modelUrn, canonicalLiveQueryUrn, tagUrn "Critical",
    tagUrn "Production", tagUrn "Reviewed", tagUrn "Warehouse", tagUrn "AnalyticalDataProduct",
    tagUrn "CdcDerived", domainUrn]

def canonicalOwnerSpecs : List Owner :=
  [⟨"team.finance-analytics", groupUrn "finance-analytics", "Finance Analytics"⟩,
    ⟨"team.risk-ml", groupUrn "risk-ml", "Risk ML"⟩,
    ⟨"team.commerce-data-platform", groupUrn "commerce-data-platform", "Commerce Data Platform"⟩]

def canonicalTagSpecs : List Tag :=
  [⟨"critical", tagUrn "Critical", "Critical", "LineageGuard critical asset classification."⟩,
    ⟨"production", tagUrn "Production", "Production",
      "LineageGuard production asset classification."⟩,
    ⟨"reviewed", tagUrn "Reviewed", "Reviewed",
      "LineageGuard review status: a validated migration decision was written back through the approved effect gate."⟩,
    ⟨"warehouse", tagUrn "Warehouse", "warehouse",
      "Analytical warehouse asset, downstream of the ingestion boundary from operational systems."⟩,
    ⟨"analytical-data-product", tagUrn "AnalyticalDataProduct", "analytical-data-product",
      "A managed analytical data product, not an operational service database."⟩,
    ⟨"cdc-derived", tagUrn "CdcDerived", "cdc-derived",
      "Populated from an upstream operational system via change-data-capture or event ingestion."⟩]

def canonicalDomainSpecs : List Domain :=
  [⟨"commerce-analytics", domainUrn, "Commerce Analytics",
    "Analytical data-platform domain for commerce data products derived from operational systems via CDC/event ingestion. Excludes operational (OLTP) service databases."⟩]

structure NodeSemantics where
  logicalKey : String
  name : String
  ownerUrns : List String
  ownershipType : Option OwnershipType
  tagUrns : List String
  domainUrn : Option String
  deriving DecidableEq

def GraphNode.semantics (node : GraphNode) : NodeSemantics :=
  ⟨node.logicalKey, node.name, node.ownerUrns, node.ownershipType, node.tagUrns, node.domainUrn⟩

def canonicalNodeSemantics : List NodeSemantics :=
  [⟨"commerce.orders", "orders", [groupUrn "commerce-data-platform"], some .technicalOwner,
      [tagUrn "Warehouse", tagUrn "AnalyticalDataProduct", tagUrn "CdcDerived"], some domainUrn⟩,
    ⟨"analytics.stg_orders", "stg_orders", [], none, [], none⟩,
    ⟨"analytics.customer_revenue", "customer_revenue", [groupUrn "finance-analytics"],
      some .technicalOwner, [tagUrn "Critical"], none⟩,
    ⟨"fraud.customer_features", "customer_features", [groupUrn "risk-ml"], some .technicalOwner,
      [tagUrn "Production"], none⟩,
    ⟨"finance.revenue-dashboard", "Finance Revenue Dashboard", [groupUrn "finance-analytics"],
      some .businessOwner, [tagUrn "Critical", tagUrn "Production"], none⟩,
    ⟨"fraud.model-v3", "Fraud Model v3", [groupUrn "risk-ml"], some .technicalOwner,
      [tagUrn "Critical", tagUrn "Production"], none⟩]

def datasetUrn (logicalKey : String) : String :=
  "urn:li:dataset:(urn:li:dataPlatform:postgres," ++ canonicalPrefix ++ ".lineageguard." ++
    logicalKey ++ ",PROD)"

def canonicalDatasetUrns : List String :=
  (canonicalEntityTypes.filter fun entry => entry.2 = .dataset).map fun entry => datasetUrn entry.1

end Constants

section Loader

variable (graph : ExpectedGraph)

/-- The identifiers of the items are pairwise distinct. -/
def unique (identifiers : List String) (context : String) : Except String Unit :=
  require identifiers.Nodup (context ++ " contains duplicate identifiers")

def validateNode (node : GraphNode) : Except String Unit := do
  require (canonicalSchemaFields.lookup node.logicalKey = some node.schemaFields)
    ("node " ++ node.logicalKey ++ " schemaFields mismatch")
  require (node.ownerUrns ⊆ graph.owners.map (·.urn))
    ("node " ++ node.logicalKey ++ " references an unknown owner")
  require (node.tagUrns ⊆ graph.tags.map (·.urn))
    ("node " ++ node.logicalKey ++ " references an unknown tag")

def nodeByUrn (urn : String) : Option GraphNode := graph.nodes.find? fun node => node.urn = urn

def validateEdge (edge : LineageEdge) : Except String Unit := do
  let upstream ← present (nodeByUrn graph edge.upstreamUrn)
    ("edge " ++ edge.logicalKey ++ " references an unknown node")
  let downstream ← present (nodeByUrn graph edge.downstreamUrn)
    ("edge " ++ edge.logicalKey ++ " references an unknown node")
  require (upstream.entityType = edge.upstreamType ∧ downstream.entityType = edge.downstreamType)
    ("edge " ++ edge.logicalKey ++ " entity type does not match its node")

def validateReferences : Except String Unit := do
  graph.nodes.forM (validateNode graph)
  graph.edges.forM (validateEdge graph)
  require (graph.sourceField.datasetUrn ∈ graph.nodes.map (·.urn))
    "sourceField datasetUrn is not present in nodes"
  let logicalKeys := graph.nodes.map (·.logicalKey) ++ graph.queryEvidence.map (·.logicalKey)
  require (graph.impactCards ⊆ logicalKeys) "impactCards references an unknown logical key"
  require (graph.lineageIntermediates ⊆ logicalKeys)
    "lineageIntermediates references an unknown logical key"

def urnOf (logicalKey : String) : Option String :=
  (graph.nodes.find? fun node => node.logicalKey = logicalKey).map (·.urn)

def edgeSpec (edge : LineageEdge) : Option EdgeSpec := do
  let upstream ← nodeByUrn graph edge.upstreamUrn
  let downstream ← nodeByUrn graph edge.downstreamUrn
  return ⟨edge.logicalKey, upstream.logicalKey, downstream.logicalKey, edge.granularity,
    edge.upstreamFieldPath, edge.downstreamFieldPath⟩

def validateQuery (query : QueryEvidence) : Except String Unit := do
  require (query.sha256 = canonicalQuerySha256) "canonical query digest mismatch"
  require (query.queryUrn = canonicalLiveQueryUrn) "canonical live query URN mismatch"
  require ((query.logicalKey, query.marker, query.sqlPath, query.fieldPath) =
      ("query.finance-monthly-close", "lineageguard:finance-monthly-close",
        "walkthrough/warehouse/queries/finance-monthly-close.sql", "customer_id"))
    "canonical query logical mapping mismatch"
  require (urnOf graph "analytics.customer_revenue" = some query.datasetUrn)
    "canonical query subject mismatch"

/-- The graph of the manifest has no freedom besides its order and the ends of its URNs. -/
def validateCanonicalAllowlist : Except String Unit := do
  require (graph.scenarioId = "canonical-customer-id-rename")
    "scenarioId is not the immutable canonical scenario"
  require (graph.platformInstance = canonicalPrefix ∧ graph.environment = "PROD")
    "canonical target identity mismatch"
  require (sameElements (dictOf (graph.nodes.map fun node => (node.logicalKey, node.entityType)))
    canonicalEntityTypes) "canonical node/type allowlist mismatch"
  require (sameElements graph.datasetUrns canonicalDatasetUrns)
    "canonical dataset URN allowlist mismatch"
  let ordersUrn ← present (urnOf graph "commerce.orders") "StopIteration"
  require (graph.sourceField = ⟨"commerce.orders.customer_id", ordersUrn, "customer_id",
      "urn:li:schemaField:(" ++ ordersUrn ++ ",customer_id)", glossaryTermUrn⟩)
    "canonical source field allowlist mismatch"
  require (sameElements (graph.managedSet.filter fun urn => !graph.datasetUrns.contains urn)
    canonicalNonDatasetUrns) "canonical non-dataset URN allowlist mismatch"
  require (sameElements graph.owners canonicalOwnerSpecs)
    "canonical owner logical/name mapping mismatch"
  require (sameElements graph.tags canonicalTagSpecs) "canonical tag logical/name mapping mismatch"
  require (sameElements graph.domains canonicalDomainSpecs)
    "canonical domain logical/name mapping mismatch"
  require (sameElements (graph.nodes.map GraphNode.semantics) canonicalNodeSemantics)
    "canonical node name/owner/tag mapping mismatch"
  let query ← present (if graph.queryEvidence.length = 1 then graph.queryEvidence.head? else none)
    "canonical query evidence count must equal one"
  validateQuery graph query
  require (sameElements (graph.edges.map (edgeSpec graph)) (canonicalEdgeSpecs.map some))
    "canonical edge allowlist mismatch"
  require (graph.impactCards = canonicalImpactCards) "canonical impact outcomes mismatch"
  require (graph.lineageIntermediates = canonicalIntermediates)
    "canonical intermediate outcomes mismatch"

def loadExpectedGraph : Except String Unit := do
  require (graph.schemaVersion = 1) "schemaVersion must equal 1"
  unique (graph.owners.map (·.urn)) "owners"
  unique (graph.tags.map (·.urn)) "tags"
  unique (graph.domains.map (·.urn)) "domains"
  unique (graph.nodes.map (·.urn)) "nodes"
  unique (graph.edges.map (·.logicalKey)) "edges"
  unique (graph.queryEvidence.map (·.logicalKey)) "queryEvidence"
  graph.nodes.forM fun node =>
    require (∀ urn ∈ node.domainUrn, urn ∈ graph.domains.map (·.urn))
      ("node " ++ node.logicalKey ++ " references an unknown domain")
  validateReferences graph
  validateCanonicalAllowlist graph

/-- The loader returns no other graph. -/
def Loaded : Prop := loadExpectedGraph graph = .ok ()

end Loader

section Manifest

def ordersNode : GraphNode :=
  ⟨"commerce.orders", datasetUrn "commerce.orders", .dataset, "orders",
    [groupUrn "commerce-data-platform"], some .technicalOwner,
    [tagUrn "Warehouse", tagUrn "AnalyticalDataProduct", tagUrn "CdcDerived"], some domainUrn,
    ["order_id", "customer_id", "order_total", "ordered_at"]⟩

def stagingNode : GraphNode :=
  ⟨"analytics.stg_orders", datasetUrn "analytics.stg_orders", .dataset, "stg_orders", [], none, [],
    none, ["order_id", "customer_id", "order_total", "ordered_at"]⟩

def revenueNode : GraphNode :=
  ⟨"analytics.customer_revenue", datasetUrn "analytics.customer_revenue", .dataset,
    "customer_revenue", [groupUrn "finance-analytics"], some .technicalOwner, [tagUrn "Critical"],
    none, ["customer_id", "lifetime_revenue"]⟩

def featuresNode : GraphNode :=
  ⟨"fraud.customer_features", datasetUrn "fraud.customer_features", .dataset, "customer_features",
    [groupUrn "risk-ml"], some .technicalOwner, [tagUrn "Production"], none,
    ["customer_id", "order_count", "max_order_total"]⟩

def dashboardNode : GraphNode :=
  ⟨"finance.revenue-dashboard", dashboardUrn, .dashboard, "Finance Revenue Dashboard",
    [groupUrn "finance-analytics"], some .businessOwner, [tagUrn "Critical", tagUrn "Production"],
    none, []⟩

def modelNode : GraphNode :=
  ⟨"fraud.model-v3", modelUrn, .mlmodel, "Fraud Model v3", [groupUrn "risk-ml"],
    some .technicalOwner, [tagUrn "Critical", tagUrn "Production"], none, []⟩

def fieldEdge (logicalKey : String) (upstream downstream : GraphNode) : LineageEdge :=
  ⟨logicalKey, upstream.urn, downstream.urn, .dataset, .dataset, .field, some "customer_id",
    some "customer_id"⟩

def entityEdge (logicalKey : String) (upstream downstream : GraphNode) : LineageEdge :=
  ⟨logicalKey, upstream.urn, downstream.urn, upstream.entityType, downstream.entityType, .entity,
    none, none⟩

/-- The checked manifest of the walkthrough holds this graph. -/
def canonicalGraph : ExpectedGraph where
  schemaVersion := 1
  scenarioId := "canonical-customer-id-rename"
  environment := "PROD"
  platformInstance := canonicalPrefix
  sourceField := ⟨"commerce.orders.customer_id", ordersNode.urn, "customer_id",
    "urn:li:schemaField:(" ++ ordersNode.urn ++ ",customer_id)", glossaryTermUrn⟩
  owners := canonicalOwnerSpecs
  tags := canonicalTagSpecs
  domains := canonicalDomainSpecs
  nodes := [ordersNode, stagingNode, revenueNode, featuresNode, dashboardNode, modelNode]
  edges := [fieldEdge "orders.customer_id->stg_orders.customer_id" ordersNode stagingNode,
    fieldEdge "stg_orders.customer_id->customer_revenue.customer_id" stagingNode revenueNode,
    fieldEdge "stg_orders.customer_id->customer_features.customer_id" stagingNode featuresNode,
    entityEdge "customer_revenue->finance-dashboard" revenueNode dashboardNode,
    entityEdge "customer_features->fraud-model-v3" featuresNode modelNode]
  queryEvidence := [⟨"query.finance-monthly-close", canonicalLiveQueryUrn,
    "lineageguard:finance-monthly-close",
    "walkthrough/warehouse/queries/finance-monthly-close.sql", revenueNode.urn, "customer_id",
    canonicalQuerySha256⟩]
  impactCards := canonicalImpactCards
  lineageIntermediates := canonicalIntermediates

theorem canonicalGraph_referenced : validateReferences canonicalGraph = .ok () := by
  have nodes : canonicalGraph.nodes.forM (validateNode canonicalGraph) = .ok () := by
    decide
  have edges : canonicalGraph.edges.forM (validateEdge canonicalGraph) = .ok () := by
    decide
  rw [validateReferences, nodes, edges]
  decide

theorem canonicalGraph_allowed : validateCanonicalAllowlist canonicalGraph = .ok () := by
  simp only [validateCanonicalAllowlist, bind_ok, require_ok, present_ok, exists_const]
  refine ⟨rfl, ⟨rfl, rfl⟩, ?_, ?_, ordersNode.urn, ?_, ?_, ?_, ?_, ?_, ?_, ?_,
    ⟨"query.finance-monthly-close", canonicalLiveQueryUrn, "lineageguard:finance-monthly-close",
      "walkthrough/warehouse/queries/finance-monthly-close.sql", revenueNode.urn, "customer_id",
      canonicalQuerySha256⟩, rfl, (), ?_, ?_, rfl, rfl⟩
  all_goals decide +kernel

theorem canonicalGraph_loaded : Loaded canonicalGraph := by
  have domains : (canonicalGraph.nodes.forM fun node =>
      require (∀ urn ∈ node.domainUrn, urn ∈ canonicalGraph.domains.map (·.urn))
        ("node " ++ node.logicalKey ++ " references an unknown domain")) = .ok () := by
    decide
  simp only [Loaded, loadExpectedGraph, unique, bind_ok, require_ok, exists_const]
  refine ⟨rfl, ?_, ?_, ?_, ?_, ?_, ?_, (), domains, (), canonicalGraph_referenced,
    canonicalGraph_allowed⟩
  all_goals decide

end Manifest

section Facts

variable {graph : ExpectedGraph}

theorem Loaded.canonical (loaded : Loaded graph) : validateCanonicalAllowlist graph = .ok () := by
  simp only [Loaded, loadExpectedGraph, bind_ok] at loaded
  obtain ⟨_, _, _, _, _, _, _, _, _, _, _, _, _, _, _, _, _, _, canonical⟩ := loaded
  exact canonical

theorem Loaded.datasets (loaded : Loaded graph) (urn : String) :
    urn ∈ graph.datasetUrns ↔ urn ∈ canonicalDatasetUrns := by
  have canonical := loaded.canonical
  simp only [validateCanonicalAllowlist, bind_ok, require_ok, exists_const] at canonical
  exact sameElements_iff.mp canonical.2.2.2.1 urn

theorem Loaded.sourceField (loaded : Loaded graph) : ∃ ordersUrn, graph.sourceField =
    ⟨"commerce.orders.customer_id", ordersUrn, "customer_id",
      "urn:li:schemaField:(" ++ ordersUrn ++ ",customer_id)", glossaryTermUrn⟩ := by
  have canonical := loaded.canonical
  simp only [validateCanonicalAllowlist, bind_ok, require_ok, exists_const] at canonical
  obtain ⟨_, _, _, _, ordersUrn, _, same, _⟩ := canonical
  exact ⟨ordersUrn, same⟩

theorem Loaded.managed (loaded : Loaded graph) {urn : String} (managed : urn ∈ graph.managedUrns) :
    urn ∈ canonicalDatasetUrns ∨ urn ∈ canonicalNonDatasetUrns := by
  have canonical := loaded.canonical
  simp only [validateCanonicalAllowlist, bind_ok, require_ok, exists_const] at canonical
  obtain ⟨_, _, _, _, _, _, _, others, _⟩ := canonical
  by_cases dataset : urn ∈ graph.datasetUrns
  · exact Or.inl ((loaded.datasets urn).mp dataset)
  · refine Or.inr ((sameElements_iff.mp others urn).mp (List.mem_filter.mpr
      ⟨mem_sortedSet.mp managed, ?_⟩))
    simpa using dataset

/-- The canonical URNs start with these texts. -/
def canonicalStarts : List String :=
  ["urn:li:dataset:", "urn:li:corpGroup:", "urn:li:dashboard:", "urn:li:glossaryTerm:",
    "urn:li:mlModel:", "urn:li:query:", "urn:li:tag:", "urn:li:domain:"]

theorem starts_append (first rest : String) : first.toList <+: (first ++ rest).toList := by
  rw [String.toList_append]
  exact List.prefix_append _ _

theorem datasetUrn_starts (logicalKey : String) :
    "urn:li:dataset:".toList <+: (datasetUrn logicalKey).toList := by
  have first : "urn:li:dataset:".toList <+:
      "urn:li:dataset:(urn:li:dataPlatform:postgres,".toList := by decide
  exact (first.trans (starts_append _ _)).trans
    (((starts_append _ _).trans (starts_append _ _)).trans (starts_append _ _))

theorem nonDataset_starts {urn : String} (canonical : urn ∈ canonicalNonDatasetUrns) :
    ∃ start ∈ canonicalStarts, start.toList <+: urn.toList := by
  have group : ∀ name, "urn:li:corpGroup:".toList <+: (groupUrn name).toList := fun name =>
    ((starts_append _ _).trans (starts_append _ _)).trans (starts_append _ _)
  have tag : ∀ name, "urn:li:tag:".toList <+: (tagUrn name).toList := fun name =>
    ((starts_append _ _).trans (starts_append _ _)).trans (starts_append _ _)
  have query : "urn:li:query:".toList <+: canonicalLiveQueryUrn.toList :=
    ((starts_append _ _).trans (starts_append _ _)).trans (starts_append _ _)
  have domain : "urn:li:domain:".toList <+: domainUrn.toList :=
    (starts_append _ _).trans (starts_append _ _)
  simp only [canonicalNonDatasetUrns, List.mem_cons, List.not_mem_nil, or_false] at canonical
  rcases canonical with rfl | rfl | rfl | rfl | rfl | rfl | rfl | rfl | rfl | rfl | rfl | rfl | rfl |
    rfl
  · exact ⟨_, by decide, group _⟩
  · exact ⟨_, by decide, group _⟩
  · exact ⟨_, by decide, group _⟩
  · exact ⟨"urn:li:dashboard:", by decide, by decide⟩
  · exact ⟨"urn:li:glossaryTerm:", by decide, by decide⟩
  · exact ⟨"urn:li:mlModel:", by decide, by decide⟩
  · exact ⟨_, by decide, query⟩
  · exact ⟨_, by decide, tag _⟩
  · exact ⟨_, by decide, tag _⟩
  · exact ⟨_, by decide, tag _⟩
  · exact ⟨_, by decide, tag _⟩
  · exact ⟨_, by decide, tag _⟩
  · exact ⟨_, by decide, tag _⟩
  · exact ⟨_, by decide, domain⟩

theorem Loaded.allowed_starts (loaded : Loaded graph) {urn : String}
    (allowed : urn ∈ graph.allowedMutationUrns) :
    ∃ start ∈ "urn:li:schemaField:" :: canonicalStarts, start.toList <+: urn.toList := by
  rw [ExpectedGraph.allowedMutationUrns, mem_sortedSet] at allowed
  rcases List.mem_cons.mp allowed with rfl | managed
  · obtain ⟨ordersUrn, same⟩ := loaded.sourceField
    refine ⟨_, List.mem_cons_self, '(' :: (ordersUrn.toList ++ ",customer_id)".toList), ?_⟩
    rw [same, String.toList_append, String.toList_append]
    rfl
  · rcases loaded.managed managed with dataset | other
    · obtain ⟨entry, _, rfl⟩ := List.mem_map.mp dataset
      exact ⟨"urn:li:dataset:", by decide, datasetUrn_starts entry.1⟩
    · obtain ⟨start, isStart, starts⟩ := nonDataset_starts other
      exact ⟨start, List.mem_cons_of_mem _ isStart, starts⟩

end Facts

end LineageGuard.Scenario
