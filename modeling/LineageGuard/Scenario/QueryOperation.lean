import LineageGuard.Scenario.ResetOperation
import Mathlib.Tactic

/-
This file translates the upsert of the observed query and its reconciliation.
-/

namespace LineageGuard.Operations

open Attempt Dialogue Scenario Latest

variable {Real Extra : Type} (setting : Setting Real Extra)

section Observation

def requiredMetrics : List String :=
  ["queryId", "executionCount", "totalExecTimeMs", "normalizedFingerprint", "statementSha256",
    "databaseId", "userId"]

/-- An empty value counts as none. -/
def truthy : Option (MetricValue Real) → Bool
  | some (.int value) => decide (value ≠ 0)
  | some (.float value) => setting.language.nonzero value
  | some (.str value) => decide (value ≠ "")
  | none => false

variable [DecidableEq Real]

def checkObservation (binding : TargetBinding) (query : QueryEvidence)
    (receipt : OperationReceipt Real) : Except String Unit := do
  let metrics := receipt.metrics
  require (∀ name ∈ requiredMetrics, (metrics.get name).isSome) "PG_STAT_RECEIPT_INCOMPLETE"
  require (metrics.get "normalizedFingerprint" = some (.str receipt.idempotencyKey))
    "PG_STAT_FINGERPRINT_MISMATCH"
  require (metrics.get "statementSha256" = some (.str query.sha256))
    "PG_STAT_STATEMENT_DIGEST_MISMATCH"
  let count ← setting.language.toInt ((metrics.get "executionCount").getD (.int 0))
  require (1 ≤ count) "PG_STAT_COUNT_INVALID"
  let time ← setting.language.toFloat ((metrics.get "totalExecTimeMs").getD (.int (-1)))
  require (setting.language.negative time = false) "PG_STAT_TIME_INVALID"
  require (truthy setting (metrics.get "databaseId") = true ∧
    truthy setting (metrics.get "userId") = true) "PG_STAT_PRINCIPAL_BINDING_INVALID"
  require (receiptHasRegistryBinding setting.sdk.platform.sha256 receipt binding)
    "PG_STAT_REGISTRY_BINDING_INVALID"

/-- A missing receipt has its own error. -/
def required {Value : Type} (result : Except String Value) (missing : String) :
    Except String Value :=
  result.mapError fun code => if "_MISSING".toList <:+ code.toList then missing else code

def latestPgStatReceipt (plan : QueryExecutionPlan) (query : QueryEvidence)
    (receipts : List (OperationReceipt Real)) (binding : TargetBinding) (afterIndex : ℕ) :
    Except String (ResolvedOperationReceipt Real) := do
  let fingerprint := plan.normalizedFingerprint
  let resolved ← required (resolveLatestExactOperation receipts
      ⟨setting.graph.scenarioId, "query", none, some "pg_stat_statements", fingerprint, fingerprint⟩
      [(.success, "PG_STAT_OBSERVED")] "PG_STAT_RECEIPT") "PG_STAT_RECEIPT_REQUIRED"
  require (afterIndex < resolved.1) "PG_STAT_RECEIPT_PRECEDES_CURRENT_DBT_ARTIFACTS"
  checkObservation setting binding query resolved.2
  return resolved

/-- The metrics of an upsert name the observation that it publishes. -/
def evidenceMetrics (receipt : OperationReceipt Real) (recipe : String) :
    Except String (Entries Real) := do
  let queryId ← present (receipt.metrics.get "queryId") "KeyError:queryId"
  let executionCount ← present (receipt.metrics.get "executionCount") "KeyError:executionCount"
  let count ← setting.language.toInt executionCount
  let totalExecTimeMs ← present (receipt.metrics.get "totalExecTimeMs") "KeyError:totalExecTimeMs"
  let time ← setting.language.toFloat totalExecTimeMs
  return [("queryFingerprint", .str receipt.idempotencyKey),
    ("pgStatQueryId", .str (setting.language.text queryId)), ("executionCount", .int count),
    ("totalExecTimeMs", .float time), ("observationTimestamp", .str receipt.recordedAt),
    ("recipeFingerprint", .str recipe)]

def ingestOf (receipts : List (OperationReceipt Real)) :
    Except String (ResolvedOperationReceipt Real) :=
  resolveLatestExactOperation receipts
    ⟨setting.graph.scenarioId, "ingest", none, some (recipePath 0), recipeDigest 0, recipeDigest 0⟩
    [(.success, "INGESTED")] "POSTGRES_INGEST_RECEIPT"

end Observation

section Plan

variable (ownershipNonce : String)

def queryUpsert (urn : String) (content : AspectContent Extra) : PlannedUpsert Extra :=
  let proposal : Proposal Extra := ⟨urn, .query, ⟨content, setting.sdk.planned content.aspectType⟩⟩
  ⟨proposal, setting.sdk.queryDigest proposal⟩

/-- These aspects of the query do not change with the observation. -/
def stableUpserts (query : QueryEvidence) (execution : QueryExecutionPlan) :
    List (PlannedUpsert Extra) :=
  [queryUpsert setting query.queryUrn (.queryProperties execution.statement true
      (some (markerProperties ownershipNonce ++
        [("lineageguard.queryFingerprint", execution.normalizedFingerprint)]))),
    queryUpsert setting query.queryUrn (.querySubjects
      [query.datasetUrn, setting.sdk.makeSchemaFieldUrn query.datasetUrn query.fieldPath]),
    queryUpsert setting query.queryUrn (.dataPlatformInstance "urn:li:dataPlatform:postgres"
      (some (setting.sdk.platform.makeDataplatformInstanceUrn "postgres"
        setting.graph.platformInstance))),
    queryUpsert setting query.queryUrn (.status false)]

/-- The usage comes after the stable aspects. -/
structure LiveQueryPlan (Extra : Type) where
  stable : List (PlannedUpsert Extra)
  usage : PlannedUpsert Extra
  timestampMillis : ℤ
  count : ℤ
  isUsage : usage.aspect.content = .queryUsageStatistics timestampMillis (some count)

def LiveQueryPlan.upserts (plan : LiveQueryPlan Extra) : List (PlannedUpsert Extra) :=
  plan.stable ++ [plan.usage]

def buildLiveQueryPlan (query : QueryEvidence) (execution : QueryExecutionPlan)
    (receipt : OperationReceipt Real) : Except String (LiveQueryPlan Extra) := do
  require (receipt.idempotencyKey = execution.normalizedFingerprint) "PG_STAT_FINGERPRINT_MISMATCH"
  let timestampMillis ← setting.language.timestampMillis receipt.recordedAt
  let executionCount ← present (receipt.metrics.get "executionCount") "KeyError:executionCount"
  let count ← setting.language.toInt executionCount
  return ⟨stableUpserts setting ownershipNonce query execution,
    queryUpsert setting query.queryUrn (.queryUsageStatistics timestampMillis (some count)),
    timestampMillis, count, rfl⟩

end Plan

section Emission

variable [DecidableEq Extra]

/-- The operation binds its receipts to these values. -/
structure QueryBinding (Real : Type) where
  nonce : String
  metrics : Entries Real
  evidence : Entries Real

variable (binding : QueryBinding Real)

def queryDraft (operation : PlannedUpsert Extra) (status : ReceiptStatus) (detailCode : String)
    (marks : Entries Real) : Draft Real :=
  operationDraft setting binding.nonce "ingest-query" operation status detailCode
    (binding.metrics ++ binding.evidence ++ marks)

def refuseQuery {Value : Type} (operation : PlannedUpsert Extra) (detailCode error : String) :
    Remote Real Extra Value :=
  refuse (queryDraft setting binding operation .reconciliationRequired detailCode []) error

/-- The last creation of the query counts. -/
def queryCreation (receipts : List (OperationReceipt Real)) (urn : String) :
    Option (OperationReceipt Real) := (creationsOf receipts urn).getLast?

def isSystemQuery (aspect : Aspect Extra) : Bool :=
  match aspect.content with
  | .queryProperties _ system _ => system
  | _ => false

/-- An existing query belongs to the owner and has the planned properties. -/
def ownsQuery (plan : LiveQueryPlan Extra) (creation : Option (OperationReceipt Real))
    (properties : Option (Aspect Extra)) : Bool :=
  creation.any (fun receipt => receipt.ownershipNonce = binding.nonce &&
      receipt.proposalHash = entityProposalHash setting.sdk plan.stable) &&
    properties.any fun found => isSystemQuery found &&
      decide (some found = plan.stable.head?.map (·.aspect))

def checkStable (operation : PlannedUpsert Extra) : Remote Real Extra Unit := do
  let current ← readAspect operation
  if current.any fun found => found ≠ operation.aspect ∧ ¬ isRestored operation.aspect found then
    refuseQuery setting binding operation "STATIC_ASPECT_DRIFT"
      ("LIVE_QUERY_STATIC_ASPECT_DRIFT:" ++ operation.aspectName)
  else return ()

def refuseFirst {Value : Type} (operations : List (PlannedUpsert Extra)) (detailCode error : String) :
    Remote Real Extra Value :=
  match operations with
  | operation :: _ => refuseQuery setting binding operation detailCode error
  | [] => Program.fail "IndexError"

def checkExistingQuery (plan : LiveQueryPlan Extra) (creation : Option (OperationReceipt Real))
    (properties : Option (Aspect Extra)) : Remote Real Extra Unit :=
  if ownsQuery setting binding plan creation properties then
    plan.stable.forM (checkStable setting binding)
  else
    refuseFirst setting binding plan.stable "EXISTING_ENTITY_NOT_OWNED"
      "LIVE_QUERY_EXISTING_ENTITY_NOT_OWNED"

/-- The observation with the last timestamp comes first among equals. -/
def latestUsage : List (ℤ × Option ℤ) → Option (ℤ × Option ℤ)
  | [] => none
  | first :: rest => some (rest.foldl (fun last next => if last.1 < next.1 then next else last) first)

/-- A usage is new, or it is there already, or a later one is there. -/
def findUsage (plan : LiveQueryPlan Extra) (observed : List (ℤ × Option ℤ)) : Finding :=
  match latestUsage observed with
  | none => .notApplied
  | some (timestamp, count) =>
      if timestamp = plan.timestampMillis ∧ count.getD 0 = plan.count then .applied
      else if plan.timestampMillis ≤ timestamp ∨ plan.count < count.getD 0 then .conflict
      else .notApplied

def emitQueryUpsert (operation : PlannedUpsert Extra) : Remote Real Extra Unit := do
  emitOrFail "ingest-query" operation fun error =>
    queryDraft setting binding operation .failure error (marked "MISSING" "FAILED")
  record (queryDraft setting binding operation .success "LIVE_QUERY_EMITTED"
    (marked "MISSING" "EMITTED"))

def skipQueryUpsert (operation : PlannedUpsert Extra) : Remote Real Extra Unit :=
  record (queryDraft setting binding operation .skipped "ASPECT_SKIPPED_EXACT"
    (marked "EXACT" "UNCHANGED"))

structure QueryProgress where
  existed : Bool
  emitted : ℕ

/-- Only the emission of the first aspect creates the query. -/
def emitStable (plan : LiveQueryPlan Extra) (progress : QueryProgress)
    (entry : PlannedUpsert Extra × ℕ) : Remote Real Extra QueryProgress := do
  let (operation, index) := entry
  let current ← readAspect operation
  if current = some operation.aspect then do
    skipQueryUpsert setting binding operation
    return progress
  else do
    emitQueryUpsert setting binding operation
    if progress.existed = false ∧ index = 0 then do
      record (creationDraft setting binding.nonce operation.urn
        (entityProposalHash setting.sdk plan.stable) (binding.metrics ++ marked "ABSENT" "CREATED"))
      return ⟨true, progress.emitted + 1⟩
    else return { progress with emitted := progress.emitted + 1 }

def emitUsage (plan : LiveQueryPlan Extra) (progress : QueryProgress) : Remote Real Extra ℕ := do
  let observed ← ask (.usage plan.usage.urn)
  match findUsage plan observed with
  | .applied => do
      skipQueryUpsert setting binding plan.usage
      return progress.emitted
  | .notApplied => do
      emitQueryUpsert setting binding plan.usage
      return progress.emitted + 1
  | .conflict =>
      refuseQuery setting binding plan.usage "OBSERVATION_NOT_MONOTONIC"
        "LIVE_QUERY_OBSERVATION_NOT_MONOTONIC"

def applyQueryPlan (query : QueryEvidence) (plan : LiveQueryPlan Extra)
    (receipts : List (OperationReceipt Real)) : Remote Real Extra ℕ := do
  plan.upserts.forM fun operation =>
    record (queryDraft setting binding operation .planned "OPERATION_PLANNED"
      (marked "UNKNOWN" "PLANNED"))
  let properties ← getAspect query.queryUrn .queryProperties
  let found ← entityExists query.queryUrn
  let existed := found || properties.isSome
  if existed then
    checkExistingQuery setting binding plan (queryCreation receipts query.queryUrn) properties
  let progress ← plan.stable.zipIdx.foldlM (emitStable setting binding plan) ⟨existed, 0⟩
  emitUsage setting binding plan progress

end Emission

section Operation

variable [DecidableEq Real] [DecidableEq Extra] (target : TargetBinding)

/-- The receipts prove the build and the observation and the ingestion of the dataset. -/
structure Observed (Real : Type) where
  query : QueryEvidence
  observation : ResolvedOperationReceipt Real
  metrics : Entries Real
  ingested : ResolvedOperationReceipt Real

/-- The error of a missing ingestion may have its own name. -/
def observe (repository : Repository Real) (receipts : List (OperationReceipt Real))
    (missing : String) : Remote Real Extra (Observed Real) := do
  let artifacts ← attempt (requireDbtBuildProvenance setting.sdk.platform.sha256 receipts
    setting.graph.scenarioId target repository.dbtProjectSha256 repository.artifactMetrics)
  let query ← attempt (firstQuery setting)
  let execution ← ask .queryPlan
  let observation ← attempt
    (latestPgStatReceipt setting execution query receipts target artifacts.1)
  let ingested ← attempt (required (ingestOf setting receipts) missing)
  return ⟨query, observation, bindingMetrics setting target repository, ingested⟩

/-- The upsert checks the binding of the ingestion before its place. -/
def checkIngest (observed : Observed Real) : Except String Unit := do
  require (receiptHasRegistryBinding setting.sdk.platform.sha256 observed.ingested.2 target ∧
      observed.ingested.2.metrics.Binds (targetEntries target) ∧
      provenanceMatches observed.ingested.2 observed.metrics)
    "POSTGRES_INGEST_RECEIPT_BINDING_MISMATCH"
  require (observed.observation.1 < observed.ingested.1) "POSTGRES_INGEST_PRECEDES_QUERY"

/-- The file of the query is read again for the plan. -/
def planObserved (observed : Observed Real) : Remote Real Extra (LiveQueryPlan Extra) := do
  let execution ← ask .queryPlan
  attempt (buildLiveQueryPlan setting target.ownershipNonce observed.query execution
    observed.observation.2)

def queryBinding (observed : Observed Real) : Except String (QueryBinding Real) := do
  let evidence ← evidenceMetrics setting observed.observation.2 (recipeDigest 0)
  return ⟨target.ownershipNonce, observed.metrics, evidence⟩

def emitLiveQueryUnderLock : Remote Real Extra ℕ := do
  let receipts ← ask .readAll
  let repository ← ask .repository
  let observed ← observe setting target repository receipts "POSTGRES_INGEST_RECEIPT_REQUIRED"
  attempt (checkIngest setting target observed)
  let plan ← planObserved setting target observed
  let binding ← attempt (queryBinding setting target observed)
  applyQueryPlan setting binding observed.query plan receipts

def emitLiveQueryEvidence : Remote Real Extra ℕ :=
  scenarioOperation setting.graph.scenarioId "ingest-query" false fun _ => do
    attestBoth setting target
    ask .openEmitter
    emitLiveQueryUnderLock setting target

end Operation

section Reconciliation

variable [DecidableEq Real] [DecidableEq Extra] (binding : QueryBinding Real)

/-- The usage was applied when it is among the observed ones, and none is safe before it. -/
def findObserved (timestampMillis count : ℤ) (observed : List (ℤ × Option ℤ)) : Finding :=
  if ∃ found ∈ observed, found.1 = timestampMillis ∧ found.2.getD 0 = count then .applied
  else if ∀ found ∈ observed, found.1 < timestampMillis then .notApplied
  else .conflict

/-- The usage is a series of observations, and every other aspect has one value. -/
def findPending (plan : LiveQueryPlan Extra) (operation : PlannedUpsert Extra) :
    Remote Real Extra Finding :=
  if operation.aspect.aspectType = .queryUsageStatistics then do
    let observed ← ask (.usage operation.urn)
    return findObserved plan.timestampMillis plan.count observed
  else do
    let current ← readAspect operation
    return findAspect operation.aspect current

structure QueryReconciled where
  propertiesApplied : Bool
  count : ℕ

def closeQuery (pending : OperationReceipt Real) (detailCode after : String) :
    Remote Real Extra Unit :=
  closePending setting binding.nonce "ingest-query" pending detailCode after
    (binding.metrics ++ binding.evidence)

def reconcileQueryReceipt (plan : LiveQueryPlan Extra) (progress : QueryReconciled)
    (pending : OperationReceipt Real) : Remote Real Extra QueryReconciled := do
  let operation ← attempt (present (operationOf plan.upserts pending)
    "LIVE_QUERY_RECONCILIATION_PLAN_MISMATCH")
  attempt (require (provenanceMatches pending (binding.metrics ++ binding.evidence))
    "LIVE_QUERY_RECONCILIATION_PROVENANCE_MISMATCH")
  match ← findPending plan operation with
  | .applied => do
      closeQuery setting binding pending "LIVE_RECONCILED_APPLIED" "EXACT"
      return ⟨progress.propertiesApplied ||
        (pending.status = .failure && operation.aspectName = "queryProperties"), progress.count + 1⟩
  | .notApplied => do
      closeQuery setting binding pending "LIVE_RECONCILED_NOT_APPLIED" "ABSENT"
      return { progress with count := progress.count + 1 }
  | .conflict =>
      refuse (pendingDraft setting binding.nonce "ingest-query" pending .reconciliationRequired
        "LIVE_RECONCILIATION_CONFLICT" binding.metrics) "LIVE_QUERY_RECONCILIATION_CONFLICT"

def reconcileQueryCreation (query : QueryEvidence) (plan : LiveQueryPlan Extra)
    (propertiesApplied : Bool) : Remote Real Extra Unit := do
  let receipts ← ask .readAll
  let properties ← getAspect query.queryUrn .queryProperties
  if creationsOf receipts query.queryUrn = [] ∧ propertiesApplied = true ∧ properties.isSome ∧
      properties = plan.stable.head?.map (·.aspect) then
    record (creationDraft setting binding.nonce query.queryUrn
      (entityProposalHash setting.sdk plan.stable)
      (binding.metrics ++ marked "LIVE" "RECONCILED_CREATED"))

def reconcileQueryUnderLock (target : TargetBinding) (query : QueryEvidence)
    (plan : LiveQueryPlan Extra) (pending : List (OperationReceipt Real)) :
    Remote Real Extra ℕ := do
  attestBoth setting target
  attempt (require (∀ receipt ∈ pending, receipt.operationKind = "ingest-query")
    "LIVE_QUERY_RECONCILIATION_FOREIGN_OPERATION")
  attempt (require (pending ≠ []) "LIVE_QUERY_RECONCILIATION_NOT_REQUIRED")
  let reconciled ← pending.foldlM (reconcileQueryReceipt setting binding plan) ⟨false, 0⟩
  reconcileQueryCreation setting binding query plan reconciled.propertiesApplied
  return reconciled.count

/-- The reconciliation checks the place of the ingestion before its binding. -/
def checkPendingIngest (observed : Observed Real) : Except String Unit := do
  require (observed.observation.1 < observed.ingested.1) "POSTGRES_INGEST_PRECEDES_QUERY"
  require (provenanceMatches observed.ingested.2 observed.metrics)
    "POSTGRES_INGEST_RECEIPT_BINDING_MISMATCH"

def reconcileLiveQueryEvidence (target : TargetBinding) : Remote Real Extra ℕ := do
  let receipts ← ask .readEarlier
  let repository ← ask .repository
  let observed ← observe setting target repository receipts "POSTGRES_INGEST_RECEIPT_MISSING"
  attempt (checkPendingIngest observed)
  let plan ← planObserved setting target observed
  let binding ← attempt (queryBinding setting target observed)
  scenarioOperation setting.graph.scenarioId "ingest-query-reconcile" true
    (reconcileQueryUnderLock setting binding target observed.query plan)

end Reconciliation

end LineageGuard.Operations
