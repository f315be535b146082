import LineageGuard.Library.Sessions
import LineageGuard.Scenario.Aspects
import LineageGuard.Scenario.Provenance
import Mathlib.Tactic

/-
This file translates the operations that send effects to the live catalog and record them.
-/

namespace LineageGuard.Operations

open Attempt Dialogue Interleaving Scenario Target

section Calls

/-- These functions of the language read and show metrics and timestamps. -/
structure Language (Real : Type) where
  toInt : MetricValue Real → Except String ℤ
  toFloat : MetricValue Real → Except String Real
  negative : Real → Bool
  nonzero : Real → Bool
  text : MetricValue Real → String
  timestampMillis : String → Except String ℤ

/-- The operations of one scenario share these values. -/
structure Setting (Real Extra : Type) where
  sdk : Sdk Extra
  runtime : Runtime Real
  language : Language Real
  graph : ExpectedGraph

/-- A receipt gets its time and its hashes when it is appended. -/
structure Draft (Real : Type) where
  scenarioId : String
  operationKind : String
  entityUrn : Option String
  aspectName : Option String
  idempotencyKey : String
  status : ReceiptStatus
  detailCode : String
  proposalHash : String
  ownershipNonce : String
  metrics : Entries Real

/-- The verified files of the repository give these values. -/
structure Repository (Real : Type) where
  artifactMetrics : Metrics Real
  dbtProjectSha256 : String
  snapshotFingerprint : String

structure QueryExecutionPlan where
  normalizedFingerprint : String
  statement : String

structure ResetTarget where
  urn : String
  entityKind : EntityKind
  idempotencyKey : String
  ownershipNonce : String
  proposalHash : String

inductive Call (Real Extra : Type)
  | lock
  | readAll
  | readEarlier
  | append (draft : Draft Real)
  | attestTarget
  | registryRow
  | repository
  | queryPlan
  | openEmitter
  | openDeleter
  | exists (urn : String)
  | aspect (urn : String) (aspectType : AspectClass)
  | usage (urn : String)
  | emit (kind : String) (upsert : PlannedUpsert Extra)
  | delete (target : ResetTarget)
  | run (command : String)

variable {Real Extra : Type}

/-- The usage statistics list timestamps with counts. -/
def Answer : Call Real Extra → Type
  | .lock => Unit
  | .readAll => List (OperationReceipt Real)
  | .readEarlier => List (OperationReceipt Real)
  | .append _ => Unit
  | .attestTarget => TargetInstanceBinding
  | .registryRow => Option (List String)
  | .repository => Repository Real
  | .queryPlan => QueryExecutionPlan
  | .openEmitter => Unit
  | .openDeleter => Unit
  | .exists _ => Bool
  | .aspect _ _ => Option (Aspect Extra)
  | .usage _ => List (ℤ × Option ℤ)
  | .emit _ _ => Unit
  | .delete _ => Unit
  | .run _ => Except String (Entries Real)

/-- Every call may raise. -/
abbrev Reply (call : Call Real Extra) : Type := Except String (Answer call)

abbrev Remote (Real Extra Value : Type) := Program (Call Real Extra) Reply String Value

def attempt {Value : Type} (result : Except String Value) : Remote Real Extra Value := .done result

def ask (call : Call Real Extra) : Remote Real Extra (Answer call) :=
  Program.perform call >>= attempt

def entityExists (urn : String) : Remote Real Extra Bool := ask (.exists urn)

def getAspect (urn : String) (aspectType : AspectClass) :
    Remote Real Extra (Option (Aspect Extra)) := ask (.aspect urn aspectType)

def record (draft : Draft Real) : Remote Real Extra Unit := ask (.append draft)

/-- The operation records why it stops and raises. -/
def refuse {Value : Type} (draft : Draft Real) (error : String) : Remote Real Extra Value := do
  record draft
  Program.fail error

end Calls

section Drafts

variable {Real Extra : Type} (setting : Setting Real Extra)

def Draft.key (draft : Draft Real) : OperationKey :=
  ⟨draft.operationKind, draft.entityUrn, draft.aspectName, draft.idempotencyKey⟩

/-- A missing proposal is the idempotency key. -/
def Draft.receipt (draft : Draft Real) (recordedAt : String) : OperationReceipt Real where
  scenarioId := draft.scenarioId
  operationKind := draft.operationKind
  entityUrn := draft.entityUrn
  aspectName := draft.aspectName
  idempotencyKey := draft.idempotencyKey
  status := draft.status
  detailCode := draft.detailCode
  recordedAt := recordedAt
  proposalHash := if draft.proposalHash = "" then draft.idempotencyKey else draft.proposalHash
  ownershipNonce := draft.ownershipNonce
  metrics := Metrics.ofList draft.metrics
  previousHash := ""
  recordHash := ""

def marked (before after : String) : Entries Real :=
  [("beforeStatus", .str before), ("afterStatus", .str after)]

def operationDraft (nonce kind : String) (operation : PlannedUpsert Extra) (status : ReceiptStatus)
    (detailCode : String) (metrics : Entries Real) : Draft Real where
  scenarioId := setting.graph.scenarioId
  operationKind := kind
  entityUrn := some operation.urn
  aspectName := some operation.aspectName
  idempotencyKey := operation.idempotencyKey
  status := status
  detailCode := detailCode
  proposalHash := operation.idempotencyKey
  ownershipNonce := nonce
  metrics := metrics

def creationDraft (nonce urn proposalHash : String) (metrics : Entries Real) : Draft Real where
  scenarioId := setting.graph.scenarioId
  operationKind := "entity"
  entityUrn := some urn
  aspectName := none
  idempotencyKey := setting.sdk.platform.sha256 ("entity:" ++ setting.graph.scenarioId ++ ":" ++ urn)
  status := .success
  detailCode := "ENTITY_CREATED"
  proposalHash := proposalHash
  ownershipNonce := nonce
  metrics := metrics

def resetDraft (target : ResetTarget) (status : ReceiptStatus) (detailCode : String)
    (metrics : Entries Real) : Draft Real where
  scenarioId := setting.graph.scenarioId
  operationKind := "reset"
  entityUrn := some target.urn
  aspectName := none
  idempotencyKey := target.idempotencyKey
  status := status
  detailCode := detailCode
  proposalHash := target.proposalHash
  ownershipNonce := target.ownershipNonce
  metrics := metrics

/-- The resolution keeps the identity of the pending receipt. -/
def pendingDraft (nonce kind : String) (pending : OperationReceipt Real) (status : ReceiptStatus)
    (detailCode : String) (metrics : Entries Real) : Draft Real where
  scenarioId := setting.graph.scenarioId
  operationKind := kind
  entityUrn := pending.entityUrn
  aspectName := pending.aspectName
  idempotencyKey := pending.idempotencyKey
  status := status
  detailCode := detailCode
  proposalHash := pending.proposalHash
  ownershipNonce := nonce
  metrics := metrics

/-- A pending operation is closed by what the live state shows. -/
def closePending (nonce kind : String) (pending : OperationReceipt Real) (detailCode after : String)
    (metrics : Entries Real) : Remote Real Extra Unit :=
  record (pendingDraft setting nonce kind pending .skipped detailCode
    (metrics ++ marked pending.status.value after))

/-- A receipt tells that the scenario created the entity. -/
def isCreation (receipt : OperationReceipt Real) : Bool :=
  receipt.operationKind = "entity" && receipt.status = .success &&
    receipt.detailCode = "ENTITY_CREATED"

/-- The last creation of a URN comes last. -/
def creationsOf (receipts : List (OperationReceipt Real)) (urn : String) :
    List (OperationReceipt Real) :=
  receipts.filter fun receipt => isCreation receipt && receipt.entityUrn = some urn

end Drafts

section Guards

variable {Real Extra : Type} (setting : Setting Real Extra)

def readUnresolved (scenarioId : String) : Remote Real Extra (List (OperationReceipt Real)) := do
  let receipts ← ask .readAll
  return unresolved scenarioId receipts

/-- The owner lock is held from the first check to the last receipt. -/
def scenarioOperation {Value : Type} (scenarioId kind : String) (reconciliation : Bool)
    (body : List (OperationReceipt Real) → Remote Real Extra Value) : Remote Real Extra Value := do
  ask .lock
  let pending ← readUnresolved scenarioId
  attempt (require (pending = [] ∨ reconciliation = true)
    ("SCENARIO_RECONCILIATION_REQUIRED:" ++ operationNames pending))
  let value ← body pending
  let remaining ← readUnresolved scenarioId
  attempt (require (remaining = [])
    ((if reconciliation then "SCENARIO_RECONCILIATION_INCOMPLETE:"
      else "SCENARIO_OPERATION_LEFT_UNRESOLVED:") ++ kind))
  return value

def requireCurrentTarget (binding : TargetBinding) : Remote Real Extra Unit := do
  let observed ← ask .attestTarget
  attempt (require (observed.liveInstanceId.val = binding.targetAttestation)
    "TARGET_INSTANCE_BINDING_CHANGED")
  attempt (require (Target.targetFingerprint setting.sdk.platform observed =
    binding.targetFingerprint) "TARGET_INSTANCE_BINDING_CHANGED")

def canonicalScenarioId : String := "canonical-customer-id-rename"

/-- The row of the registry has three columns. -/
def checkRegistryRow (binding : TargetBinding) : Option (List String) → Except String Unit
  | some [scenarioId, ownershipNonce, warehouseTargetFingerprint] => do
      require (scenarioId = canonicalScenarioId) "WAREHOUSE_SCENARIO_ID_MISMATCH"
      require (ownershipNonce = binding.ownershipNonce) "WAREHOUSE_OWNERSHIP_MISMATCH"
      require (warehouseTargetFingerprint = binding.warehouseTargetFingerprint)
        "WAREHOUSE_TARGET_FINGERPRINT_MISMATCH"
  | _ => throw "WAREHOUSE_SCENARIO_REGISTRY_REQUIRED"

def attestScenarioRegistry (binding : TargetBinding) : Remote Real Extra Unit := do
  let row ← ask .registryRow
  attempt (checkRegistryRow binding row)

/-- A command attests the target and the registry before it does anything else. -/
def attestBoth (binding : TargetBinding) : Remote Real Extra Unit := do
  requireCurrentTarget setting binding
  attestScenarioRegistry binding

/-- The metrics bind a receipt to the target and to the files. -/
def bindingMetrics (binding : TargetBinding) (repository : Repository Real) : Entries Real :=
  datahubTargetMetrics setting.sdk.platform.sha256 binding ++ repository.artifactMetrics.entries ++
    [("dbtProjectFingerprint", .str repository.dbtProjectSha256),
      ("ingestionSnapshotFingerprint", .str repository.snapshotFingerprint)]

def firstQuery : Except String QueryEvidence := present setting.graph.queryEvidence.head? "IndexError"

/-- An aspect is read with its marker. -/
def entityHasScenarioMarker (nonce urn : String) (kind : EntityKind) :
    Remote Real Extra Bool := do
  let aspectType ← attempt (present (markerAspect kind) "KeyError")
  let aspect ← getAspect urn aspectType
  return aspect.any (hasMarker nonce)

/-- The pending receipt has every expected metric. -/
def provenanceMatches [DecidableEq Real] (pending : OperationReceipt Real) (metrics : Entries Real) : Prop :=
  pending.metrics.Binds (Metrics.ofList metrics).entries

instance [DecidableEq Real] (pending : OperationReceipt Real) (metrics : Entries Real) :
    Decidable (provenanceMatches pending metrics) :=
  inferInstanceAs (Decidable (Metrics.Binds _ _))

end Guards

end LineageGuard.Operations
