import LineageGuard.Scenario.SeedOperation
import Mathlib.Tactic

/-
This file translates the reset that deletes what the scenario created, and its reconciliation.
-/

namespace LineageGuard.Operations

open Attempt Dialogue Scenario

variable {Real Extra : Type} (setting : Setting Real Extra)

section Plan

/-- The beginning of a URN names the kind of the entity. -/
def kindPrefixes : List (String × EntityKind) :=
  [("urn:li:corpGroup:", .corpGroup), ("urn:li:dashboard:", .dashboard),
    ("urn:li:dataset:", .dataset), ("urn:li:domain:", .domain),
    ("urn:li:glossaryTerm:", .glossaryTerm), ("urn:li:mlModel:", .mlModel),
    ("urn:li:query:", .query), ("urn:li:tag:", .tag)]

def entityTypeFromUrn (urn : String) : Except String EntityKind :=
  present ((kindPrefixes.find? fun entry => entry.1.toList <+: urn.toList).map (·.2))
    "RESET_ENTITY_TYPE_DENIED"

/-- The environment of the command gives these values. -/
structure ResetGate where
  environmentGate : Option String
  platformInstance : Option String

structure ResetPlan where
  targets : List ResetTarget
  binding : TargetBinding

def ResetPlan.urns (plan : ResetPlan) : List String := plan.targets.map (·.urn)

def expectedHash (plan : List (PlannedUpsert Extra)) (urn : String) : Option String :=
  let operations := plan.filter fun operation => operation.urn = urn
  if operations = [] then none else some (entityProposalHash setting.sdk operations)

def queryAspectNames : List String :=
  ["queryProperties", "querySubjects", "dataPlatformInstance", "status"]

def isQueryEmission (urn : String) (receipt : OperationReceipt Real) : Bool :=
  receipt.entityUrn = some urn && receipt.operationKind = "ingest-query" &&
    receipt.status = .success && receipt.aspectName.any queryAspectNames.contains

/-- The first emission of each aspect of the query counts. -/
def firstAspectKeys (receipts : List (OperationReceipt Real)) (urn : String) : List String :=
  queryAspectNames.filterMap fun name =>
    (receipts.find? fun receipt =>
      isQueryEmission urn receipt && receipt.aspectName = some name).map (·.idempotencyKey)

def checkProposal (plan : List (PlannedUpsert Extra)) (receipts : List (OperationReceipt Real))
    (urn proposalHash : String) : Except String Unit :=
  match expectedHash setting plan urn with
  | some expected => require (proposalHash = expected) "CREATION_PROPOSAL_MISMATCH"
  | none =>
      let aspectKeys := (firstAspectKeys receipts urn).insertionSort (· ≤ ·)
      require (aspectKeys ≠ [] ∧
        proposalHash = setting.sdk.platform.sha256 ("\n".intercalate aspectKeys))
        "CREATION_PROPOSAL_MISMATCH"

variable [DecidableEq Real] [DecidableEq Extra]

/-- A creation is of an owned entity and bound to the owner and the target and the plan. -/
def checkCreation (plan : List (PlannedUpsert Extra)) (receipts : List (OperationReceipt Real))
    (binding : TargetBinding) (receipt : OperationReceipt Real) : Except String String := do
  let urn ← present (receipt.entityUrn.filter setting.graph.ownedUrns.contains)
    "RECEIPT_TARGET_OUTSIDE_ALLOWLIST"
  require (receipt.ownershipNonce = binding.ownershipNonce) "RECEIPT_OWNERSHIP_MISMATCH"
  require (receiptHasRegistryBinding setting.sdk.platform.sha256 receipt binding)
    "CREATION_REGISTRY_BINDING_MISMATCH"
  require (receipt.metrics.Binds (targetEntries binding)) "CREATION_TARGET_MISMATCH"
  checkProposal setting plan receipts urn receipt.proposalHash
  return urn

def scenarioCreations (receipts : List (OperationReceipt Real)) : List (OperationReceipt Real) :=
  receipts.filter fun receipt =>
    receipt.scenarioId = setting.graph.scenarioId && isCreation receipt

/-- The last creation of a URN gives the hash of its target. -/
def resetTarget (binding : TargetBinding) (created : List (String × OperationReceipt Real))
    (urn : String) : Except String ResetTarget := do
  let kind ← entityTypeFromUrn urn
  let creation ← present (created.lookup urn) ("KeyError:" ++ urn)
  return ⟨urn, kind,
    setting.sdk.platform.sha256 ("reset:" ++ setting.graph.scenarioId ++ ":" ++ urn),
    binding.ownershipNonce, creation.proposalHash⟩

def isDomainUrn (urn : String) : Bool := decide ("urn:li:domain:".toList <+: urn.toList)

def buildResetPlan (gate : ResetGate) (creationReceipts : List (OperationReceipt Real))
    (binding : TargetBinding) : Except String ResetPlan := do
  require (gate.environmentGate = some "canonical") "CANONICAL_ENV_REQUIRED"
  require (gate.platformInstance = some setting.graph.platformInstance) "PLATFORM_INSTANCE_MISMATCH"
  let plan ← offlineSeedPlan setting.sdk setting.graph binding.ownershipNonce
  let creations := scenarioCreations setting creationReceipts
  let urns ← creations.mapM (checkCreation setting plan creationReceipts binding)
  let created := OrderedMap.ofList (urns.zip creations)
  require (created ≠ []) "CREATION_RECEIPTS_REQUIRED"
  let sorted := ((created.map Prod.fst).insertionSort (· ≤ ·)).reverse
  let targets ← (sorted.filter fun urn => !isDomainUrn urn).mapM (resetTarget setting binding created)
  return ⟨targets, binding⟩

end Plan

section Reset

def resetMetrics (plan : ResetPlan) (target : ResetTarget) : Entries Real :=
  datahubTargetMetrics setting.sdk.platform.sha256
    { plan.binding with ownershipNonce := target.ownershipNonce }

def isRemoved (aspect : Option (Aspect Extra)) : Bool :=
  aspect.any fun found => found.removed = some true

/-- The marker is read only from an entity that exists. -/
def isMarked (target : ResetTarget) : Remote Real Extra Bool := do
  if ← entityExists target.urn then
    entityHasScenarioMarker target.ownershipNonce target.urn target.entityKind
  else return false

def deleteTarget (metrics : Entries Real) (target : ResetTarget) : Remote Real Extra Unit := do
  match ← Program.perform (.delete target) with
  | .ok _ => record (resetDraft setting target .success "SOFT_DELETED"
      (metrics ++ marked "OWNED" "SOFT_DELETED"))
  | .error error => refuse (resetDraft setting target .failure error
      (metrics ++ marked "OWNED" "FAILED")) error

/-- A target is deleted only when the server shows the marker of the owner. -/
def executeTarget (plan : ResetPlan) (deleted : List String) (target : ResetTarget) :
    Remote Real Extra (List String) := do
  let metrics := resetMetrics setting plan target
  record (resetDraft setting target .planned "OPERATION_PLANNED"
    (metrics ++ marked "UNKNOWN" "PLANNED"))
  let status ← getAspect target.urn .status
  if isRemoved status then do
    record (resetDraft setting target .skipped "ALREADY_DELETED"
      (metrics ++ marked "ABSENT" "UNCHANGED"))
    return deleted
  else if ← isMarked target then do
    deleteTarget setting metrics target
    return deleted ++ [target.urn]
  else
    refuse (resetDraft setting target .reconciliationRequired "SERVER_MARKER_REQUIRED" metrics)
      ("SERVER_MARKER_REQUIRED:" ++ target.urn)

def executeReset (plan : ResetPlan) : Remote Real Extra (List String) :=
  scenarioOperation setting.graph.scenarioId "reset" false fun _ => do
    attestBoth setting plan.binding
    ask .openDeleter
    plan.targets.foldlM (executeTarget setting plan) []

variable [DecidableEq Real] [DecidableEq Extra]

/-- The receipts are read before the operation takes the lock. -/
def reset (gate : ResetGate) (binding : TargetBinding) : Remote Real Extra (List String) := do
  let receipts ← ask .readEarlier
  let plan ← attempt (buildResetPlan setting gate receipts binding)
  executeReset setting plan

end Reset

section Reconciliation

variable [DecidableEq Real]

/-- The last target of a key is the one that the pending receipt must match. -/
def targetOf (plan : ResetPlan) (pending : OperationReceipt Real) : Option ResetTarget :=
  (plan.targets.reverse.find? fun target => target.idempotencyKey = pending.idempotencyKey).filter
    fun target => pending.entityUrn = some target.urn && pending.proposalHash = target.proposalHash

def findRemoval (target : ResetTarget) : Remote Real Extra Finding := do
  let status ← getAspect target.urn .status
  if isRemoved status then return .applied
  else if ← isMarked target then return .notApplied
  else return .conflict

def closeReset (target : ResetTarget) (pending : OperationReceipt Real) (detailCode after : String)
    (metrics : Entries Real) : Remote Real Extra Unit :=
  record (resetDraft setting target .skipped detailCode
    (metrics ++ marked pending.status.value after))

def reconcileTarget (plan : ResetPlan) (count : ℕ) (pending : OperationReceipt Real) :
    Remote Real Extra ℕ := do
  let target ← attempt (present (targetOf plan pending) "RESET_RECONCILIATION_PLAN_MISMATCH")
  let metrics := resetMetrics setting plan target
  attempt (require (provenanceMatches pending metrics) "RESET_RECONCILIATION_PROVENANCE_MISMATCH")
  match ← findRemoval target with
  | .applied => do
      closeReset setting target pending "LIVE_RECONCILED_APPLIED" "SOFT_DELETED" metrics
      return count + 1
  | .notApplied => do
      closeReset setting target pending "LIVE_RECONCILED_NOT_APPLIED" "OWNED" metrics
      return count + 1
  | .conflict =>
      refuse (resetDraft setting target .reconciliationRequired "LIVE_RECONCILIATION_CONFLICT"
        metrics) ("RESET_LIVE_RECONCILIATION_CONFLICT:" ++ target.urn)

def reconcileResetUnderLock (plan : ResetPlan) (pending : List (OperationReceipt Real)) :
    Remote Real Extra ℕ := do
  attestBoth setting plan.binding
  attempt (require (∀ receipt ∈ pending, receipt.operationKind = "reset")
    "RESET_RECONCILIATION_FOREIGN_OPERATION")
  attempt (require (pending ≠ []) "RESET_RECONCILIATION_NOT_REQUIRED")
  pending.foldlM (reconcileTarget setting plan) 0

variable [DecidableEq Extra]

def reconcileReset (gate : ResetGate) (binding : TargetBinding) : Remote Real Extra ℕ := do
  let receipts ← ask .readEarlier
  let plan ← attempt (buildResetPlan setting gate receipts binding)
  scenarioOperation setting.graph.scenarioId "reset-reconcile" true (reconcileResetUnderLock setting plan)

end Reconciliation

end LineageGuard.Operations
