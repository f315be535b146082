import LineageGuard.Library.KeyedOrder
import LineageGuard.Scenario.Graph
import Mathlib.Tactic

/-
This file translates the lineage plan and the reconciliation of the lineage of a dataset.
-/

namespace LineageGuard.Scenario

open Attempt

section Plan

variable (graph : ExpectedGraph)

/-- The plan takes no edge of a dataset to itself and no field edge without its fields. -/
def checkEdge (edge : LineageEdge) : Except String Unit := do
  require (edge.upstreamUrn ≠ edge.downstreamUrn) ("SELF_REFERENTIAL_EDGE:" ++ edge.logicalKey)
  require (edge.granularity = .field →
      edge.upstreamFieldPath.isSome ∧ edge.downstreamFieldPath.isSome)
    ("FIELD_PATH_REQUIRED:" ++ edge.logicalKey)

def byDownstream (edges : List LineageEdge) : List (String × List LineageEdge) :=
  OrderedMap.group (edges.map fun edge => (edge.downstreamUrn, edge))

def buildLineagePlan : Except String (List LineageEdge) := do
  graph.edges.forM checkEdge
  let groups := KeyedOrder.sortBy Prod.fst (byDownstream graph.edges)
  return groups.flatMap fun entry => KeyedOrder.sortBy LineageEdge.logicalKey entry.2

def edgesByDownstream : Except String (List (String × List LineageEdge)) :=
  byDownstream <$> buildLineagePlan graph

end Plan

section Aspects

variable {UpstreamExtra FineExtra : Type}

/-- The audit stamp and the other optional members are the extra ones. -/
structure UpstreamClass (UpstreamExtra : Type) where
  dataset : String
  type : String
  extra : UpstreamExtra

/-- The confidence score and the query are the extra members. -/
structure FineGrainedLineageClass (FineExtra : Type) where
  upstreamType : String
  downstreamType : String
  upstreams : Option (List String)
  downstreams : Option (List String)
  transformOperation : Option String
  extra : FineExtra

structure UpstreamLineageClass (UpstreamExtra FineExtra : Type) where
  upstreams : List (UpstreamClass UpstreamExtra)
  fineGrainedLineages : Option (List (FineGrainedLineageClass FineExtra))

/-- The package of DataHub makes the URNs of fields and fills in the extra members, and the
language shows a list of texts. -/
structure LineageSdk (UpstreamExtra FineExtra : Type) where
  makeSchemaFieldUrn : String → String → String
  showTexts : List String → String
  upstreamExtra : UpstreamExtra
  fullConfidence : FineExtra

variable (sdk : LineageSdk UpstreamExtra FineExtra)

def canonicalUpstream (edge : LineageEdge) : UpstreamClass UpstreamExtra :=
  ⟨edge.upstreamUrn, "TRANSFORMED", sdk.upstreamExtra⟩

def canonicalFineGrained (edge : LineageEdge) : FineGrainedLineageClass FineExtra where
  upstreamType := "FIELD_SET"
  downstreamType := "FIELD"
  upstreams := some [sdk.makeSchemaFieldUrn edge.upstreamUrn (edge.upstreamFieldPath.getD "")]
  downstreams :=
    some [sdk.makeSchemaFieldUrn edge.downstreamUrn (edge.downstreamFieldPath.getD "")]
  transformOperation := some "IDENTITY"
  extra := sdk.fullConfidence

/-- An empty list counts as none. -/
def orNone {Item : Type} (items : List Item) : Option (List Item) :=
  if items.isEmpty then none else some items

def lineageAspect (graph : ExpectedGraph) (downstreamUrn : String) :
    Except String (UpstreamLineageClass UpstreamExtra FineExtra) := do
  let edges ← present ((← edgesByDownstream graph).lookup downstreamUrn)
    ("KeyError:" ++ downstreamUrn)
  return ⟨edges.map (canonicalUpstream sdk), orNone ((edges.filter fun edge =>
    edge.granularity = .field).map (canonicalFineGrained sdk))⟩

end Aspects

section Siblings

/-- The last line end of a text does not count. -/
def withoutFinalLineEnd (text : List Char) : List Char :=
  if text.getLast? = some '\n' then text.dropLast else text

/-- The text between the two ends is not empty and has no line end. -/
def between (first last text : List Char) : Option (List Char) :=
  let whole := withoutFinalLineEnd text
  if first <+: whole ∧ last <:+ whole then
    let middle := (whole.drop first.length).take (whole.length - first.length - last.length)
    if middle ≠ [] ∧ '\n' ∉ middle ∧ first.length + last.length ≤ whole.length then some middle
    else none
  else none

def expectedDbtSiblingUrn (downstreamUrn : String) : Option String :=
  (between "urn:li:dataset:(urn:li:dataPlatform:postgres,".toList ",PROD)".toList
    downstreamUrn.toList).map fun ending =>
      "urn:li:dataset:(urn:li:dataPlatform:dbt," ++ String.ofList ending ++ ",PROD)"

/-- The dataset stands before the last comma, and a field and a bracket follow it. -/
def datasetUrnFromSchemaFieldUrn (schemaFieldUrn : String) : Option String :=
  let start := "urn:li:schemaField:(".toList
  let text := schemaFieldUrn.toList
  if start <+: text then
    let reversed := (text.drop start.length).reverse
    let field := withoutFinalLineEnd (reversed.takeWhile (· ≠ ',')).reverse
    match reversed.dropWhile (· ≠ ',') with
    | ',' :: dataset =>
        if dataset ≠ [] ∧ '\n' ∉ dataset ∧ 2 ≤ field.length ∧ field.getLast? = some ')' then
          some (String.ofList dataset.reverse)
        else none
    | _ => none
  else none

variable {UpstreamExtra FineExtra : Type}

def isExpectedDbtSiblingUpstream (upstream : UpstreamClass UpstreamExtra)
    (downstreamUrn : String) : Prop :=
  expectedDbtSiblingUrn downstreamUrn = some upstream.dataset ∧ upstream.type = "COPY"

instance (upstream : UpstreamClass UpstreamExtra) (downstreamUrn : String) :
    Decidable (isExpectedDbtSiblingUpstream upstream downstreamUrn) :=
  inferInstanceAs (Decidable (_ ∧ _))

/-- A missing dataset is no expected one. -/
def isSiblingField (schemaFieldUrn downstreamUrn : String) : Prop :=
  ∃ dataset, datasetUrnFromSchemaFieldUrn schemaFieldUrn = some dataset ∧
    expectedDbtSiblingUrn downstreamUrn = some dataset

instance (schemaFieldUrn downstreamUrn : String) :
    Decidable (isSiblingField schemaFieldUrn downstreamUrn) :=
  decidable_of_iff ((datasetUrnFromSchemaFieldUrn schemaFieldUrn).any (fun dataset =>
      decide (expectedDbtSiblingUrn downstreamUrn = some dataset)) = true) (by
    rw [Option.any_eq_true]
    simp only [decide_eq_true_eq]
    rfl)

end Siblings

section Reconciliation

variable {UpstreamExtra FineExtra : Type} (sdk : LineageSdk UpstreamExtra FineExtra)

def upstreamSortKey (upstream : UpstreamClass UpstreamExtra) : List String :=
  [upstream.dataset, upstream.type]

/-- A missing operation is written as the text of the empty value. -/
def fineGrainedSortKey (fineGrained : FineGrainedLineageClass FineExtra) : List String :=
  fineGrained.upstreamType :: fineGrained.downstreamType ::
    fineGrained.transformOperation.getD "None" ::
    ((fineGrained.upstreams.getD []).insertionSort (· ≤ ·) ++
      (fineGrained.downstreams.getD []).insertionSort (· ≤ ·))

def currentUpstreams (current : Option (UpstreamLineageClass UpstreamExtra FineExtra)) :
    List (UpstreamClass UpstreamExtra) := (current.map (·.upstreams)).getD []

def currentFineGrained (current : Option (UpstreamLineageClass UpstreamExtra FineExtra)) :
    List (FineGrainedLineageClass FineExtra) := (current.bind (·.fineGrainedLineages)).getD []

/-- The upstream keeps its place unless it is superseded or raises. -/
def keptUpstreams (canonical : List (UpstreamClass UpstreamExtra)) (downstreamUrn : String) :
    List (UpstreamClass UpstreamExtra) → Except String (List (UpstreamClass UpstreamExtra))
  | [] => pure []
  | upstream :: rest =>
      if upstream.dataset ∈ canonical.map (·.dataset) then
        keptUpstreams canonical downstreamUrn rest
      else if isExpectedDbtSiblingUpstream upstream downstreamUrn then do
        let kept ← keptUpstreams canonical downstreamUrn rest
        return upstream :: kept
      else throw ("LINEAGE_FOREIGN_EDGE_REJECTED:" ++ downstreamUrn ++ ":" ++ upstream.dataset)

def keptFineGrained (canonical fineGrained : List (FineGrainedLineageClass FineExtra)) :
    List (FineGrainedLineageClass FineExtra) :=
  fineGrained.filter fun item => fineGrainedSortKey item ∉ canonical.map fineGrainedSortKey

def checkFineGrained (downstreamUrn : String) (item : FineGrainedLineageClass FineExtra) :
    Except String Unit :=
  require (∀ urn ∈ item.upstreams.getD [], isSiblingField urn downstreamUrn)
    ("LINEAGE_FOREIGN_FIELD_EDGE_REJECTED:" ++ downstreamUrn ++ ":" ++
      sdk.showTexts ((item.upstreams.getD []).insertionSort (· ≤ ·)))

def reconcileLineageAspect (graph : ExpectedGraph) (downstreamUrn : String)
    (current : Option (UpstreamLineageClass UpstreamExtra FineExtra)) :
    Except String (UpstreamLineageClass UpstreamExtra FineExtra) := do
  let canonical ← lineageAspect sdk graph downstreamUrn
  let preserved ← keptUpstreams canonical.upstreams downstreamUrn (currentUpstreams current)
  let canonicalFine := canonical.fineGrainedLineages.getD []
  let preservedFine := keptFineGrained canonicalFine (currentFineGrained current)
  preservedFine.forM (checkFineGrained sdk downstreamUrn)
  return ⟨KeyedOrder.orderBy upstreamSortKey (preserved ++ canonical.upstreams),
    orNone (KeyedOrder.orderBy fineGrainedSortKey (preservedFine ++ canonicalFine))⟩

end Reconciliation

end LineageGuard.Scenario
