import LineageGuard.Domain.Risk
import Mathlib.Tactic

/-
This file translates the derivation of the impact consumers of a context.
-/

namespace LineageGuard.Domain

open Attempt

section Consumers

inductive ImpactConsumerKind
  | dataModel | dashboard | mlConsumer | unmanagedQuery
  deriving DecidableEq

def ImpactConsumerKind.word : ImpactConsumerKind → String
  | .dataModel => "DATA_MODEL"
  | .dashboard => "DASHBOARD"
  | .mlConsumer => "ML_CONSUMER"
  | .unmanagedQuery => "UNMANAGED_QUERY"

def canonicalConsumerKinds : List ImpactConsumerKind :=
  [.dataModel, .dashboard, .mlConsumer, .unmanagedQuery]

/-- Two kinds of consumers have a member of their own. -/
inductive ConsumerDetail
  | dataModel (lineagePath : List String)
  | dashboard
  | mlConsumer (featureDatasetUrn : String)
  | unmanagedQuery
  deriving DecidableEq

def ConsumerDetail.kind : ConsumerDetail → ImpactConsumerKind
  | .dataModel _ => .dataModel
  | .dashboard => .dashboard
  | .mlConsumer _ => .mlConsumer
  | .unmanagedQuery => .unmanagedQuery

structure ImpactConsumer where
  detail : ConsumerDetail
  title : String
  entityUrn : String
  evidenceIds : List String
  owners : List String
  deriving DecidableEq

def ImpactConsumer.kind (consumer : ImpactConsumer) : ImpactConsumerKind := consumer.detail.kind

end Consumers

section Derivation

def includes (text part : String) : Bool :=
  text.toList.tails.any fun rest => part.toList.isPrefixOf rest

def isIntermediateNode (urn : String) : Bool := includes urn "stg_orders" || includes urn ".stg_"

def isWordChar (char : Char) : Bool := char.isAlphanum || char = '_'

/-- The name stands before the last comma, and a word and a bracket follow it. -/
def extractDatasetName (urn : String) : String :=
  match urn.toList.reverse with
  | ')' :: rest =>
      match rest.dropWhile isWordChar with
      | ',' :: before =>
          let name := before.takeWhile (· ≠ ',')
          if rest.takeWhile isWordChar ≠ [] ∧ name ≠ [] ∧ name.length < before.length then
            String.ofList name.reverse
          else urn
      | _ => urn
  | _ => urn

/-- The loops carry the names that they have seen and the consumers that they have found. -/
structure Derivation where
  seenUrns : List String
  consumers : List ImpactConsumer

/-- A name that was seen before gives no further consumer. -/
def Derivation.push (found : Derivation) (consumer : ImpactConsumer) (alsoSeen : List String) :
    Derivation :=
  if found.seenUrns.contains consumer.entityUrn then found
  else ⟨alsoSeen ++ consumer.entityUrn :: found.seenUrns, found.consumers ++ [consumer]⟩

def featureDatasetUrns (evidence : List EvidenceItem) : List String :=
  evidence.filterMap fun item => match item.payload with
    | .mlModel payload => some payload.featureDatasetUrn
    | _ => none

/-- A later node of a path is a consumer unless one of these conditions excludes it. -/
def pushNode (evidence : List EvidenceItem) (item : EvidenceItem) (nodes : List String)
    (found : Derivation) (urn : String) : Derivation :=
  if urn = "" || !includes urn "urn:li:dataset:" || urn = canonicalDatasetUrn ||
      isIntermediateNode urn || (featureDatasetUrns evidence).contains urn then found
  else found.push ⟨.dataModel nodes, extractDatasetName urn, urn, [item.id], []⟩ []

def pushDataModels (evidence : List EvidenceItem) (found : Derivation) (item : EvidenceItem) :
    Derivation :=
  match item.payload with
  | .lineagePath payload => (payload.nodes.drop 1).foldl (pushNode evidence item payload.nodes) found
  | _ => found

def pushDashboard (found : Derivation) (item : EvidenceItem) : Derivation :=
  match item.payload with
  | .dashboard payload =>
      found.push ⟨.dashboard, item.title, payload.dashboardUrn, [item.id], payload.ownerUrns⟩ []
  | _ => found

/-- The dataset of a model counts as seen with the model. -/
def pushModel (found : Derivation) (item : EvidenceItem) : Derivation :=
  match item.payload with
  | .mlModel payload =>
      found.push ⟨.mlConsumer payload.featureDatasetUrn, item.title, payload.modelUrn, [item.id],
        payload.ownerUrns⟩ [payload.featureDatasetUrn]
  | _ => found

def pushQuery (found : Derivation) (item : EvidenceItem) : Derivation :=
  match item.payload with
  | .queryUsage payload =>
      found.push ⟨.unmanagedQuery, item.title, payload.queryUrn, [item.id], []⟩ []
  | _ => found

def deriveImpactConsumers (evidence : List EvidenceItem) : List ImpactConsumer :=
  let models := evidence.foldl (pushDataModels evidence) ⟨[], []⟩
  let dashboards := evidence.foldl pushDashboard models
  let learned := evidence.foldl pushModel dashboards
  (evidence.foldl pushQuery learned).consumers

def quoted (script : Script) (contents : List String) : String :=
  String.ofList (script.stringify (texts contents))

def assertExactlyFourConsumers (script : Script) (consumers : List ImpactConsumer) :
    Except DomainFailure Unit := do
  require (consumers.length = canonicalConsumerKinds.length)
    (.message ("IMPACT_CARD_COUNT_MISMATCH: expected " ++ toString canonicalConsumerKinds.length ++
      ", got " ++ toString consumers.length))
  require (consumers.map (·.kind) = canonicalConsumerKinds)
    (.message ("IMPACT_CARD_ORDER_MISMATCH: got " ++
      quoted script (consumers.map fun consumer => consumer.kind.word)))
  require (consumers.map (·.entityUrn)).Nodup
    (.message ("IMPACT_CARD_DUPLICATE_URN: got " ++ quoted script (consumers.map (·.entityUrn))))
  match consumers.find? fun consumer => consumer.evidenceIds = [] with
  | some unevidenced =>
      throw (.message ("IMPACT_CARD_WITHOUT_EVIDENCE: " ++ unevidenced.kind.word))
  | none => return ()

end Derivation

end LineageGuard.Domain
