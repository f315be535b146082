import LineageGuard.Scenario.Receipts
import Mathlib.Tactic

/-
This file translates the provenance that the seed requires of the earlier receipts.
-/

namespace LineageGuard.Scenario

open Attempt Latest

section Bindings

/-- One command attests these values before it touches the target. -/
structure TargetBinding where
  ownershipNonce : String
  warehouseTargetFingerprint : String
  targetAttestation : String
  targetFingerprint : String
  deriving DecidableEq

variable {Real : Type} (sha256 : String → String)

def registryBindingMetrics (ownershipNonce warehouseTargetFingerprint : String) : Entries Real :=
  [("registryNonceFingerprint", .str (sha256 ownershipNonce)),
    ("warehouseTargetFingerprint", .str warehouseTargetFingerprint),
    ("registryAttested", .str "true")]

def targetEntries (binding : TargetBinding) : Entries Real :=
  [("targetAttestation", .str binding.targetAttestation),
    ("targetFingerprint", .str binding.targetFingerprint)]

def datahubTargetMetrics (binding : TargetBinding) : Entries Real :=
  registryBindingMetrics sha256 binding.ownershipNonce binding.warehouseTargetFingerprint ++
    targetEntries binding

variable [DecidableEq Real]

def receiptHasRegistryBinding (receipt : OperationReceipt Real) (binding : TargetBinding) : Prop :=
  receipt.ownershipNonce = binding.ownershipNonce ∧ receipt.metrics.Binds
    (registryBindingMetrics sha256 binding.ownershipNonce binding.warehouseTargetFingerprint)

instance (receipt : OperationReceipt Real) (binding : TargetBinding) :
    Decidable (receiptHasRegistryBinding sha256 receipt binding) :=
  inferInstanceAs (Decidable (_ ∧ _))

end Bindings

section Warehouse

variable {Real : Type} [DecidableEq Real] (sha256 : String → String)
variable (receipts : List (OperationReceipt Real)) (scenarioId : String) (binding : TargetBinding)

def isWarehouseReceipt (receipt : OperationReceipt Real) : Bool :=
  receipt.scenarioId = scenarioId && receipt.operationKind = "warehouse" &&
    receipt.entityUrn = none && receipt.aspectName = some "canonical-schema"

/-- The index of the receipt comes with it. -/
def latestWarehouseReceipt : Except String (ResolvedOperationReceipt Real) := do
  let expected ← present (latest (isWarehouseReceipt scenarioId) receipts)
    "WAREHOUSE_RECEIPT_REQUIRED"
  let resolved ← resolveLatestExactOperation receipts
    ⟨scenarioId, "warehouse", none, some "canonical-schema", expected.2.idempotencyKey,
      expected.2.proposalHash⟩
    [(.success, "WAREHOUSE_READY")] "WAREHOUSE_RECEIPT"
  require (receiptHasRegistryBinding sha256 resolved.2 binding)
    "WAREHOUSE_RECEIPT_BINDING_MISMATCH"
  return resolved

end Warehouse

section Builds

def recipeDigests : List (String × String) :=
  [("walkthrough/metadata/postgres-ingestion.yml",
      "839660f8e446b4d864583c6fb01c21157c3f513ba419ab058da20d5948442c82"),
    ("walkthrough/metadata/dbt-ingestion.yml",
      "53d74a2f471bc2561b604bb60141729370cba1ce8dc0d9c84e05f9f1e5a605eb")]

variable {Real : Type} [DecidableEq Real] (sha256 : String → String)

def dbtBuildCommandFingerprint : String :=
  sha256 "dbt-build-v1|build|canonical-project|fresh-target|no-partial-parse"

def dbtDocsCommandFingerprint : String :=
  sha256 "dbt-build-v1|docs-generate|canonical-project|same-fresh-target|no-partial-parse"

def dbtArtifactVerificationFingerprint : String :=
  sha256 "dbt-build-v1|verify-and-publish|manifest|run-results|catalog"

/-- A missing receipt has its own error. -/
def renamed {Value : Type} (result : Except String Value) (missing other : String) :
    Except String Value :=
  result.mapError fun code => if "_MISSING".toList <:+ code.toList then missing else other

variable (receipts : List (OperationReceipt Real)) (scenarioId : String) (binding : TargetBinding)
variable (dbtProjectSha256 : String) (artifactMetrics : Metrics Real)

def dbtIdentity (aspect digest : String) : ExactOperationIdentity :=
  ⟨scenarioId, "dbt-build", none, some aspect, digest, dbtProjectSha256⟩

def expectedBuildMetrics : Metrics Real :=
  artifactMetrics.insert "dbtProjectFingerprint" (.str dbtProjectSha256)

def isDbtReceipt (receipt : OperationReceipt Real) : Bool :=
  receipt.scenarioId = scenarioId && receipt.operationKind = "dbt-build"

/-- The command ran before the artifacts were verified. -/
def dbtCommand (artifactIndex : ℕ) (aspect digest : String) : Except String ℕ := do
  let command ← renamed (resolveLatestExactOperation receipts
      (dbtIdentity scenarioId dbtProjectSha256 aspect digest)
      [(.success, "DBT_COMMAND_SUCCEEDED")] "DBT_COMMAND_RECEIPT")
    ("DBT_COMMAND_RECEIPT_REQUIRED:" ++ aspect) ("DBT_COMMAND_RECEIPT_NOT_CURRENT:" ++ aspect)
  require (command.1 < artifactIndex ∧ receiptHasRegistryBinding sha256 command.2 binding)
    ("DBT_COMMAND_RECEIPT_NOT_CURRENT:" ++ aspect)
  return command.1

def requireDbtBuildProvenance : Except String (ResolvedOperationReceipt Real) := do
  let artifact ← renamed (resolveLatestExactOperation receipts
      (dbtIdentity scenarioId dbtProjectSha256 "artifact-set"
        (dbtArtifactVerificationFingerprint sha256))
      [(.success, "DBT_ARTIFACTS_VERIFIED")] "DBT_BUILD_RECEIPT")
    "DBT_BUILD_RECEIPT_REQUIRED" "DBT_BUILD_RECEIPT_NOT_CURRENT"
  require (receiptHasRegistryBinding sha256 artifact.2 binding ∧
      artifact.2.metrics.Binds (expectedBuildMetrics dbtProjectSha256 artifactMetrics).entries)
    "DBT_BUILD_RECEIPT_BINDING_MISMATCH"
  require ((latest (isDbtReceipt scenarioId) receipts).map (·.1) = some artifact.1)
    "DBT_BUILD_RECEIPT_NOT_CURRENT"
  let build ← dbtCommand sha256 receipts scenarioId binding dbtProjectSha256 artifact.1 "build"
    (dbtBuildCommandFingerprint sha256)
  let docs ← dbtCommand sha256 receipts scenarioId binding dbtProjectSha256 artifact.1
    "docs-generate" (dbtDocsCommandFingerprint sha256)
  require (build < docs) "DBT_COMMAND_ORDER_INVALID"
  let warehouse ← latestWarehouseReceipt sha256 receipts scenarioId binding
  require (warehouse.1 < build) "DBT_WAREHOUSE_ORDER_INVALID"
  return artifact

end Builds

section Prerequisites

/-- These values fix the provenance that a command requires. -/
structure Provenance (Real : Type) where
  scenarioId : String
  binding : TargetBinding
  dbtProjectSha256 : String
  artifactMetrics : Metrics Real
  snapshotFingerprint : String
  queryFingerprint : String

variable {Real : Type} [DecidableEq Real] (sha256 : String → String)
variable (receipts : List (OperationReceipt Real)) (provenance : Provenance Real)

/-- A missing value is written as a dash, and so is an empty one. -/
def orDash (text : Option String) : String :=
  match text with
  | some text => if text = "" then "-" else text
  | none => "-"

def operationName (receipt : OperationReceipt Real) : String :=
  receipt.operationKind ++ ":" ++ orDash receipt.entityUrn ++ ":" ++ orDash receipt.aspectName

def operationNames (receipts : List (OperationReceipt Real)) : String :=
  ",".intercalate ((receipts.map operationName).insertionSort (· ≤ ·))

def reconciliationFailures : List String :=
  let pending := unresolved provenance.scenarioId receipts
  if pending = [] then [] else ["SCENARIO_RECONCILIATION_REQUIRED:" ++ operationNames pending]

/-- The index of a value, or the failure. -/
def indexOf (result : Except String (ResolvedOperationReceipt Real)) : Option ℕ :=
  match result with
  | .ok resolved => some resolved.1
  | .error _ => none

def failureOf (result : Except String (ResolvedOperationReceipt Real)) : List String :=
  match result with
  | .ok _ => []
  | .error failure => [failure]

def warehouseOf : Except String (ResolvedOperationReceipt Real) :=
  latestWarehouseReceipt sha256 receipts provenance.scenarioId provenance.binding

def buildOf : Except String (ResolvedOperationReceipt Real) :=
  requireDbtBuildProvenance sha256 receipts provenance.scenarioId provenance.binding
    provenance.dbtProjectSha256 provenance.artifactMetrics

def queryOf : Except String (ResolvedOperationReceipt Real) :=
  resolveLatestExactOperation receipts
    ⟨provenance.scenarioId, "query", none, some "pg_stat_statements", provenance.queryFingerprint,
      provenance.queryFingerprint⟩
    [(.success, "PG_STAT_OBSERVED")] "PG_STAT_RECEIPT"

/-- The same failure is listed once. -/
def buildFailures (earlier : List String) : List String :=
  (failureOf (buildOf sha256 receipts provenance)).filter fun failure => failure ∉ earlier

def queryFailures (dbtIndex : Option ℕ) : List String :=
  match queryOf receipts provenance with
  | .ok query =>
      (if receiptHasRegistryBinding sha256 query.2 provenance.binding then []
        else ["PG_STAT_RECEIPT_BINDING_INVALID"]) ++
      (if ∃ index ∈ dbtIndex, index < query.1 then []
        else ["PG_STAT_RECEIPT_PRECEDES_CURRENT_DBT_ARTIFACTS"])
  | .error code =>
      if "_MISSING".toList <:+ code.toList then ["PG_STAT_RECEIPT_MISSING"]
      else ["PG_STAT_RECEIPT_NOT_CURRENT"]

def isIngestReceipt (relative : String) (receipt : OperationReceipt Real) : Bool :=
  receipt.scenarioId = provenance.scenarioId && receipt.operationKind = "ingest" &&
    receipt.aspectName = some relative

def expectedIngestMetrics : Metrics Real :=
  (provenance.artifactMetrics.insert "dbtProjectFingerprint"
    (.str provenance.dbtProjectSha256)).insert "ingestionSnapshotFingerprint"
      (.str provenance.snapshotFingerprint)

/-- The latest ingest of a recipe succeeded for this target and these artifacts. -/
def recipeIndex (relative digest : String) : Except String ℕ := do
  let last ← present (latest (isIngestReceipt provenance relative) receipts)
    ("INGEST_PREREQUISITE_MISSING:" ++ relative)
  require (last.2.idempotencyKey = digest ∧ last.2.proposalHash = digest)
    ("INGEST_PREREQUISITE_DIGEST_MISMATCH:" ++ relative)
  let resolved ← (resolveLatestExactOperation receipts
      ⟨provenance.scenarioId, "ingest", none, some relative, digest, digest⟩
      [(.success, "INGESTED")] "INGEST_PREREQUISITE").mapError
    fun _ => "INGEST_PREREQUISITE_NOT_CURRENT:" ++ relative
  require (resolved.2.metrics.Binds (targetEntries provenance.binding))
    ("INGEST_PREREQUISITE_TARGET_MISMATCH:" ++ relative)
  require (receiptHasRegistryBinding sha256 resolved.2 provenance.binding ∧
      resolved.2.metrics.Binds (expectedIngestMetrics provenance).entries)
    ("INGEST_PREREQUISITE_PROVENANCE_MISMATCH:" ++ relative)
  return resolved.1

def recipeFailure (result : Except String ℕ) : List String :=
  match result with
  | .ok _ => []
  | .error failure => [failure]

/-- A later ingest follows each earlier step. -/
def orderFailures (warehouse dbt query postgres ingested : Option ℕ) : List String :=
  (if ∀ first ∈ postgres, ∃ index ∈ query, index < first then []
    else ["POSTGRES_INGEST_PRECEDES_QUERY"]) ++
  (if ∀ first ∈ postgres, ∀ second ∈ ingested, first < second then []
    else ["INGEST_PREREQUISITE_ORDER_INVALID"]) ++
  (if ∀ index ∈ postgres.toList ++ ingested.toList, ∃ build ∈ dbt, build < index ∧
      ∃ ready ∈ warehouse, ready < build then []
    else ["INGEST_PREREQUISITE_PROVENANCE_ORDER_INVALID"])

def isSeedSuccess (receipt : OperationReceipt Real) : Bool :=
  receipt.scenarioId = provenance.scenarioId && receipt.operationKind = "seed" &&
    ([ReceiptStatus.success, .skipped].contains receipt.status &&
      (decide (receipt.metrics.Binds (targetEntries provenance.binding)) &&
        decide (receiptHasRegistryBinding sha256 receipt provenance.binding)))

def seedFailures (postgres ingested : Option ℕ) : List String :=
  match postgres, ingested with
  | some first, some second =>
      match latest (isSeedSuccess sha256 provenance) receipts with
      | none => ["METADATA_SEED_RECEIPT_MISSING"]
      | some seeded => if max first second < seeded.1 then [] else ["METADATA_SEED_ORDER_INVALID"]
  | _, _ => []

def recipePath (place : ℕ) : String := ((recipeDigests[place]?).map (·.1)).getD ""

def recipeDigest (place : ℕ) : String := ((recipeDigests[place]?).map (·.2)).getD ""

def ingestionPrerequisiteFailures (requireSeedAfter : Bool) : List String :=
  let pending := reconciliationFailures receipts provenance
  let warehouse := warehouseOf sha256 receipts provenance
  let early := pending ++ failureOf warehouse
  let dbt := indexOf (buildOf sha256 receipts provenance)
  let postgres := recipeIndex sha256 receipts provenance (recipePath 0) (recipeDigest 0)
  let ingested := recipeIndex sha256 receipts provenance (recipePath 1) (recipeDigest 1)
  early ++ buildFailures sha256 receipts provenance early ++
    queryFailures sha256 receipts provenance dbt ++ recipeFailure postgres ++
    recipeFailure ingested ++
    orderFailures (indexOf warehouse) dbt (indexOf (queryOf receipts provenance)) postgres.toOption
      ingested.toOption ++
    (if requireSeedAfter then seedFailures sha256 receipts provenance postgres.toOption
      ingested.toOption else [])

def requireIngestionPrerequisites : Except String Unit :=
  let failures := ingestionPrerequisiteFailures sha256 receipts provenance false
  require (failures = []) (";".intercalate failures)

end Prerequisites

end LineageGuard.Scenario
