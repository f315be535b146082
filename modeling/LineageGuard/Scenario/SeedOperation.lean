import LineageGuard.Scenario.Operations
import Mathlib.Tactic

/-
This file translates the seed of the catalog and the reconciliation of an interrupted seed.
-/

namespace LineageGuard.Operations

open Attempt Dialogue Scenario

variable {Real Extra : Type} (setting : Setting Real Extra)

section Planning

/-- The last place after a comma is the field without its closing brackets. -/
def fieldPathOf (urn : String) : String :=
  let last := (urn.toList.reverse.takeWhile (· ≠ ',')).reverse
  String.ofList (last.reverse.dropWhile (· = ')')).reverse

/-- A field of a schema exists when its dataset lists it. -/
def connectorEntityExists (urn : String) : Remote Real Extra Bool := do
  if ← entityExists urn then return true
  else
    match datasetUrnFromSchemaFieldUrn urn with
    | none => return false
    | some datasetUrn => do
        let schema ← getAspect datasetUrn .schemaMetadata
        return schema.any fun found => found.fieldPaths.contains (fieldPathOf urn)

/-- The lineage of a dataset joins the canonical lineage and the live one. -/
def liveLineage (urn : String) : Remote Real Extra (List (PlannedUpsert Extra)) := do
  if ← attempt (isDataset setting.graph urn) then
    let current ← getAspect urn .upstreamLineage
    let lineage ← attempt (reconcileLineageAspect setting.sdk.toLineageSdk setting.graph urn
      (current.bind Aspect.lineage))
    return [lineageUpsert setting.sdk urn lineage]
  else return []

def buildSeedPlan (ownershipNonce : String) : Remote Real Extra (List (PlannedUpsert Extra)) := do
  let entities ← attempt (entityUpserts setting.sdk setting.graph ownershipNonce)
  let downstreams ← attempt (lineageDownstreams setting.graph)
  let lineage ← downstreams.mapM (liveLineage setting)
  attempt (finishPlan setting.sdk setting.graph (entities ++ lineage.flatten))

end Planning

section Checks

variable [DecidableEq Extra]

/-- A removed entity may be restored. -/
def isRestored (expected current : Aspect Extra) : Prop :=
  expected.removed = some false ∧ current.removed = some true

instance (expected current : Aspect Extra) : Decidable (isRestored expected current) :=
  inferInstanceAs (Decidable (_ ∧ _))

def isLineage (aspect : Aspect Extra) : Bool := aspect.lineage.isSome

def readAspect (operation : PlannedUpsert Extra) : Remote Real Extra (Option (Aspect Extra)) :=
  getAspect operation.urn operation.aspect.aspectType

/-- The check stops at the first aspect that differs. -/
def allExact : List (PlannedUpsert Extra) → Remote Real Extra Bool
  | [] => pure true
  | operation :: rest => do
      let current ← readAspect operation
      if current = some operation.aspect then allExact rest else return false

/-- The seed binds its receipts to these values. -/
structure SeedBinding (Real : Type) where
  nonce : String
  metrics : Entries Real

variable (binding : SeedBinding Real)

def seedDraft (operation : PlannedUpsert Extra) (status : ReceiptStatus) (detailCode : String)
    (marks : Entries Real) : Draft Real :=
  operationDraft setting binding.nonce "seed" operation status detailCode (binding.metrics ++ marks)

def refuseSeed {Value : Type} (operation : PlannedUpsert Extra) (detailCode error : String) :
    Remote Real Extra Value :=
  refuse (seedDraft setting binding operation .reconciliationRequired detailCode []) error

/-- The lineage was checked when it was planned. -/
def checkOverlay (operation : PlannedUpsert Extra) : Remote Real Extra Unit :=
  if isLineage operation.aspect then pure ()
  else do
    let current ← readAspect operation
    if current.any (· ≠ operation.aspect) then
      refuseSeed setting binding operation "CONNECTOR_OVERLAY_CONFLICT"
        ("CONNECTOR_OVERLAY_CONFLICT:" ++ operation.urn ++ ":" ++ operation.aspectName)
    else return ()

def checkDrift (operation : PlannedUpsert Extra) : Remote Real Extra Unit := do
  let current ← readAspect operation
  if current.any fun found => found ≠ operation.aspect ∧ ¬ isRestored operation.aspect found then
    refuseSeed setting binding operation "OWNED_ASPECT_DRIFT"
      ("OWNED_ASPECT_DRIFT:" ++ operation.urn ++ ":" ++ operation.aspectName)
  else return ()

/-- These entities were exact before the seed, and those belong to the scenario. -/
structure Standing where
  preexistingExact : List String
  owned : List String

/-- The connectors publish these entities. -/
def connectorReferences : List String :=
  setting.graph.sourceField.schemaFieldUrn :: setting.graph.connectorDatasetUrns

/-- The seed reads the creations of its own scenario and owner. -/
def createdBy (nonce : String) (receipts : List (OperationReceipt Real)) (urn : String) :
    Option (OperationReceipt Real) :=
  ((creationsOf receipts urn).filter fun receipt =>
    receipt.scenarioId = setting.graph.scenarioId && receipt.ownershipNonce = nonce).getLast?

/-- The marker is read only after a creation with the hash of the plan. -/
def isOwned (receipts : List (OperationReceipt Real)) (urn : String) (kind : EntityKind)
    (operations : List (PlannedUpsert Extra)) : Remote Real Extra Bool :=
  match createdBy setting binding.nonce receipts urn with
  | some creation =>
      if creation.proposalHash = entityProposalHash setting.sdk operations then
        entityHasScenarioMarker binding.nonce urn kind
      else return false
  | none => return false

/-- The group of an entity has a first operation. -/
def refuseEntity {Value : Type} (operations : List (PlannedUpsert Extra)) (detailCode error : String) :
    Remote Real Extra Value :=
  match operations with
  | operation :: _ => refuseSeed setting binding operation detailCode error
  | [] => Program.fail "IndexError"

def checkConnector (urn : String) (operations : List (PlannedUpsert Extra)) :
    Remote Real Extra Unit := do
  if ← connectorEntityExists urn then operations.forM (checkOverlay setting binding)
  else
    refuseEntity setting binding operations "CONNECTOR_ENTITY_REQUIRED"
      ("CONNECTOR_ENTITY_REQUIRED:" ++ urn)

def checkExisting (receipts : List (OperationReceipt Real)) (standing : Standing) (urn : String)
    (kind : EntityKind) (operations : List (PlannedUpsert Extra)) :
    Remote Real Extra Standing := do
  if ← allExact operations then
    return { standing with preexistingExact := urn :: standing.preexistingExact }
  else if ← isOwned setting binding receipts urn kind operations then do
    operations.forM (checkDrift setting binding)
    return { standing with owned := urn :: standing.owned }
  else
    refuseEntity setting binding operations "EXISTING_ENTITY_NOT_OWNED"
      ("EXISTING_ENTITY_NOT_OWNED:" ++ urn)

def checkEntity (receipts : List (OperationReceipt Real)) (standing : Standing)
    (group : (String × EntityKind) × List (PlannedUpsert Extra)) : Remote Real Extra Standing := do
  let ((urn, kind), operations) := group
  if urn ∈ connectorReferences setting then do
    checkConnector setting binding urn operations
    return standing
  else if ← entityExists urn then
    checkExisting setting binding receipts standing urn kind operations
  else return standing

end Checks

section Emission

variable [DecidableEq Extra] (binding : SeedBinding Real)

structure SeedProgress where
  emitted : ℕ
  skipped : ℕ
  owned : List String

/-- An effect that raises leaves a failure behind. -/
def emitOrFail (kind : String) (operation : PlannedUpsert Extra) (failure : String → Draft Real) :
    Remote Real Extra Unit := do
  match ← Program.perform (.emit kind operation) with
  | .ok _ => return ()
  | .error error => refuse (failure error) error

/-- The first aspect of a new entity records its creation. -/
def recordCreation (plan : List (PlannedUpsert Extra)) (standing : Standing) (owned : List String)
    (operation : PlannedUpsert Extra) : Remote Real Extra (List String) :=
  if operation.urn ∉ connectorReferences setting ∧ operation.urn ∉ standing.preexistingExact ∧
      operation.urn ∉ owned then do
    let operations := ((byEntity plan).lookup (operation.urn, operation.proposal.entityKind)).getD []
    record (creationDraft setting binding.nonce operation.urn
      (entityProposalHash setting.sdk operations) (binding.metrics ++ marked "ABSENT" "CREATED"))
    return operation.urn :: owned
  else return owned

def emitUpsert (plan : List (PlannedUpsert Extra)) (standing : Standing) (progress : SeedProgress)
    (operation : PlannedUpsert Extra) : Remote Real Extra SeedProgress := do
  let current ← readAspect operation
  if current = some operation.aspect then do
    record (seedDraft setting binding operation .skipped "ASPECT_SKIPPED_EXACT"
      (marked "EXACT" "UNCHANGED"))
    return { progress with skipped := progress.skipped + 1 }
  else do
    emitOrFail "seed" operation fun error =>
      seedDraft setting binding operation .failure error (marked "MISSING" "FAILED")
    record (seedDraft setting binding operation .success
      (if operation.urn ∈ progress.owned then "ASPECT_RECONCILED" else "ASPECT_EMITTED")
      (marked "MISSING" "EMITTED"))
    let owned ← recordCreation setting binding plan standing progress.owned operation
    return ⟨progress.emitted + 1, progress.skipped, owned⟩

def applySeedPlan (plan : List (PlannedUpsert Extra)) : Remote Real Extra SeedProgress := do
  plan.forM fun operation =>
    record (seedDraft setting binding operation .planned "OPERATION_PLANNED"
      (marked "UNKNOWN" "PLANNED"))
  let receipts ← ask .readAll
  let standing ← (byEntity plan).foldlM (checkEntity setting binding receipts) ⟨[], []⟩
  plan.foldlM (emitUpsert setting binding plan standing) ⟨0, 0, standing.owned⟩

end Emission

section Seed

variable [DecidableEq Real] [DecidableEq Extra] (binding : TargetBinding)

def seedProvenance (repository : Repository Real) (plan : QueryExecutionPlan) : Provenance Real :=
  ⟨setting.graph.scenarioId, binding, repository.dbtProjectSha256, repository.artifactMetrics,
    repository.snapshotFingerprint, plan.normalizedFingerprint⟩

def seedMetadataUnderLock : Remote Real Extra SeedProgress := do
  let repository ← ask .repository
  let receipts ← ask .readAll
  let _ ← attempt (firstQuery setting)
  let query ← ask .queryPlan
  attempt (requireIngestionPrerequisites setting.sdk.platform.sha256 receipts
    (seedProvenance setting binding repository query))
  let plan ← buildSeedPlan setting binding.ownershipNonce
  applySeedPlan setting ⟨binding.ownershipNonce, bindingMetrics setting binding repository⟩ plan

def seedMetadata : Remote Real Extra SeedProgress :=
  scenarioOperation setting.graph.scenarioId "seed" false fun _ => do
    attestBoth setting binding
    ask .openEmitter
    seedMetadataUnderLock setting binding

end Seed

section Reconciliation

variable [DecidableEq Extra]

/-- The live aspect tells whether the pending operation was applied. -/
inductive Finding
  | applied | notApplied | conflict
  deriving DecidableEq

def findAspect (expected : Aspect Extra) (current : Option (Aspect Extra)) : Finding :=
  match current with
  | none => .notApplied
  | some found =>
      if found = expected then .applied
      else if isRestored expected found ∨ isLineage expected = true then .notApplied
      else .conflict

/-- The operation of a pending receipt has its entity and aspect and key. -/
def operationOf (plan : List (PlannedUpsert Extra)) (pending : OperationReceipt Real) :
    Option (PlannedUpsert Extra) :=
  plan.reverse.find? fun operation => pending.entityUrn = some operation.urn ∧
    pending.aspectName = some operation.aspectName ∧
    pending.idempotencyKey = operation.idempotencyKey

structure Reconciled where
  appliedAfterFailure : List String
  count : ℕ

variable [DecidableEq Real] (binding : SeedBinding Real)

def reconcileSeedReceipt (plan : List (PlannedUpsert Extra)) (progress : Reconciled)
    (pending : OperationReceipt Real) : Remote Real Extra Reconciled := do
  let operation ← attempt (present (operationOf plan pending) "SEED_RECONCILIATION_PLAN_MISMATCH")
  attempt (require (provenanceMatches pending binding.metrics)
    "SEED_RECONCILIATION_PROVENANCE_MISMATCH")
  let current ← readAspect operation
  match findAspect operation.aspect current with
  | .applied => do
      closePending setting binding.nonce "seed" pending "LIVE_RECONCILED_APPLIED" "EXACT"
        binding.metrics
      return ⟨if pending.status = .failure then operation.urn :: progress.appliedAfterFailure
        else progress.appliedAfterFailure, progress.count + 1⟩
  | .notApplied => do
      closePending setting binding.nonce "seed" pending "LIVE_RECONCILED_NOT_APPLIED" "ABSENT"
        binding.metrics
      return { progress with count := progress.count + 1 }
  | .conflict =>
      refuse (pendingDraft setting binding.nonce "seed" pending .reconciliationRequired
          "LIVE_RECONCILIATION_CONFLICT" binding.metrics)
        ("SEED_LIVE_RECONCILIATION_CONFLICT:" ++ operation.urn)

/-- An entity whose emission failed but arrived gets its creation. -/
def reconcileCreation (applied : List String) (receipts : List (OperationReceipt Real))
    (group : (String × EntityKind) × List (PlannedUpsert Extra)) : Remote Real Extra Unit := do
  let ((urn, kind), operations) := group
  if urn ∈ applied ∧ setting.graph.ownedUrns.contains urn ∧ creationsOf receipts urn = [] then
    if ← entityExists urn then
      if ← entityHasScenarioMarker binding.nonce urn kind then
        record (creationDraft setting binding.nonce urn (entityProposalHash setting.sdk operations)
          (binding.metrics ++ marked "LIVE" "RECONCILED_CREATED"))

def reconcileSeedUnderLock (plan : List (PlannedUpsert Extra)) (target : TargetBinding)
    (pending : List (OperationReceipt Real)) : Remote Real Extra ℕ := do
  attestBoth setting target
  attempt (require (∀ receipt ∈ pending, receipt.operationKind = "seed")
    "SEED_RECONCILIATION_FOREIGN_OPERATION")
  attempt (require (pending ≠ []) "SEED_RECONCILIATION_NOT_REQUIRED")
  let reconciled ← pending.foldlM (reconcileSeedReceipt setting binding plan) ⟨[], 0⟩
  let receipts ← ask .readAll
  (byEntity plan).forM (reconcileCreation setting binding reconciled.appliedAfterFailure receipts)
  return reconciled.count

def reconcileSeedMetadata (target : TargetBinding) : Remote Real Extra ℕ := do
  let repository ← ask .repository
  let plan ← buildSeedPlan setting target.ownershipNonce
  scenarioOperation setting.graph.scenarioId "seed-reconcile" true
    (reconcileSeedUnderLock setting
      ⟨target.ownershipNonce, bindingMetrics setting target repository⟩ plan target)

end Reconciliation

end LineageGuard.Operations
