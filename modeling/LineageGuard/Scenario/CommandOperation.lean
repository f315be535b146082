import LineageGuard.Scenario.QueryOperation
import Mathlib.Tactic

/-
This file translates the commands that run a tool and record it, and the world they run in.
-/

namespace LineageGuard.Operations

open Attempt Dialogue Interleaving Sessions Scenario Target

section Commands

variable {Real Extra : Type} (setting : Setting Real Extra)

/-- A command records these values with every status. -/
structure CommandIdentity where
  scenarioId : String
  kind : String
  aspectName : String
  idempotencyKey : String
  proposalHash : String
  nonce : String

def commandDraft (identity : CommandIdentity) (status : ReceiptStatus) (detailCode : String)
    (metrics : Entries Real) : Draft Real where
  scenarioId := identity.scenarioId
  operationKind := identity.kind
  entityUrn := none
  aspectName := some identity.aspectName
  idempotencyKey := identity.idempotencyKey
  status := status
  detailCode := detailCode
  proposalHash := identity.proposalHash
  ownershipNonce := identity.nonce
  metrics := metrics

/-- The command is planned and run, and its success or its failure is recorded. -/
def runCommand (identity : CommandIdentity) (command success : String) (planned : Entries Real)
    (finish : Entries Real → Entries Real) : Remote Real Extra Unit := do
  record (commandDraft identity .planned "OPERATION_PLANNED" planned)
  match ← ask (.run command) with
  | .ok observed => record (commandDraft identity .success success (finish observed))
  | .error failure => refuse (commandDraft identity .failure failure planned) failure

def registryMetrics (binding : TargetBinding) : Entries Real :=
  registryBindingMetrics setting.sdk.platform.sha256 binding.ownershipNonce
    binding.warehouseTargetFingerprint

def warehouseSeed (binding : TargetBinding) (planFingerprint : String) : Remote Real Extra Unit :=
  scenarioOperation canonicalScenarioId "warehouse" false fun _ =>
    runCommand ⟨canonicalScenarioId, "warehouse", "canonical-schema", planFingerprint,
        planFingerprint, binding.ownershipNonce⟩ "warehouse" "WAREHOUSE_READY"
      (registryMetrics setting binding ++ [("registryAttested", .str "pending")])
      fun _ => registryMetrics setting binding

variable [DecidableEq Real]

/-- The artifacts are verified after both commands and give their metrics. -/
def dbtBuild (binding : TargetBinding) (projectFingerprint : String) : Remote Real Extra Unit :=
  scenarioOperation canonicalScenarioId "dbt-build" false fun _ => do
    let metrics := registryMetrics setting binding ++
      [("dbtProjectFingerprint", .str projectFingerprint)]
    let identity (aspect digest : String) : CommandIdentity :=
      ⟨canonicalScenarioId, "dbt-build", aspect, digest, projectFingerprint, binding.ownershipNonce⟩
    attestScenarioRegistry binding
    let receipts ← ask .readAll
    let _ ← attempt (latestWarehouseReceipt setting.sdk.platform.sha256 receipts
      canonicalScenarioId binding)
    runCommand (identity "build" (dbtBuildCommandFingerprint setting.sdk.platform.sha256)) "build"
      "DBT_COMMAND_SUCCEEDED" metrics fun _ => metrics
    runCommand (identity "docs-generate" (dbtDocsCommandFingerprint setting.sdk.platform.sha256))
      "docs-generate" "DBT_COMMAND_SUCCEEDED" metrics fun _ => metrics
    runCommand (identity "artifact-set"
        (dbtArtifactVerificationFingerprint setting.sdk.platform.sha256)) "verify"
      "DBT_ARTIFACTS_VERIFIED" metrics fun artifacts => metrics ++ artifacts

/-- The observed query gives the metrics of its receipt. -/
def runQuery (binding : TargetBinding) : Remote Real Extra Unit := do
  let plan ← ask .queryPlan
  scenarioOperation setting.graph.scenarioId "query" false fun _ => do
    attestScenarioRegistry binding
    let receipts ← ask .readAll
    let _ ← attempt (latestWarehouseReceipt setting.sdk.platform.sha256 receipts
      setting.graph.scenarioId binding)
    let repository ← ask .repository
    let again ← ask .readAll
    let _ ← attempt (requireDbtBuildProvenance setting.sdk.platform.sha256 again
      setting.graph.scenarioId binding repository.dbtProjectSha256 repository.artifactMetrics)
    runCommand ⟨setting.graph.scenarioId, "query", "pg_stat_statements",
        plan.normalizedFingerprint, plan.normalizedFingerprint, binding.ownershipNonce⟩ "query"
      "PG_STAT_OBSERVED" (registryMetrics setting binding)
      fun observed => registryMetrics setting binding ++ observed

/-- The first recipe needs the observed query. -/
def ingestRecipe (binding : TargetBinding) (place : ℕ) : Remote Real Extra Unit := do
  let repository ← ask .repository
  scenarioOperation canonicalScenarioId "ingest" false fun _ => do
    requireCurrentTarget setting binding
    attestScenarioRegistry binding
    let receipts ← ask .readAll
    let artifacts ← attempt (requireDbtBuildProvenance setting.sdk.platform.sha256 receipts
      canonicalScenarioId binding repository.dbtProjectSha256 repository.artifactMetrics)
    if place = 0 then do
      let query ← attempt (firstQuery setting)
      let plan ← ask .queryPlan
      let _ ← attempt (latestPgStatReceipt setting plan query receipts binding artifacts.1)
    let metrics := bindingMetrics setting binding repository
    runCommand ⟨canonicalScenarioId, "ingest", recipePath place, recipeDigest place,
        recipeDigest place, binding.ownershipNonce⟩ "ingest" "INGESTED" metrics fun _ => metrics

end Commands

section Tasks

variable {Real Extra : Type} [DecidableEq Real] [DecidableEq Extra] (setting : Setting Real Extra)

/-- Every command of the owner is one of these. -/
inductive Task
  | warehouse (planFingerprint : String)
  | dbtBuild (projectFingerprint : String)
  | query
  | ingest (place : ℕ)
  | emitQuery
  | reconcileQuery
  | seed
  | reconcileSeed
  | reset (gate : ResetGate)
  | reconcileReset (gate : ResetGate)

/-- The configuration of a command gives the values that its target must show. -/
structure Command where
  warehouseTargetFingerprint : String
  targetAttestation : String
  targetFingerprint : String
  task : Task

/-- The nonce comes from the store of the receipts. -/
def Command.binding (command : Command) : TargetBinding :=
  ⟨setting.runtime.nonce, command.warehouseTargetFingerprint, command.targetAttestation,
    command.targetFingerprint⟩

/-- The result of a command is printed. -/
inductive Outcome
  | done
  | counted (count : ℕ)
  | seeded (emitted skipped : ℕ)
  | deleted (urns : List String)

def commandProgram (command : Command) : Remote Real Extra Outcome :=
  let binding := command.binding setting
  match command.task with
  | .warehouse planFingerprint => do
      warehouseSeed setting binding planFingerprint
      return .done
  | .dbtBuild projectFingerprint => do
      dbtBuild setting binding projectFingerprint
      return .done
  | .query => do
      runQuery setting binding
      return .done
  | .ingest place => do
      ingestRecipe setting binding place
      return .done
  | .emitQuery => do
      let emitted ← emitLiveQueryEvidence setting binding
      return .counted emitted
  | .reconcileQuery => do
      let reconciled ← reconcileLiveQueryEvidence setting binding
      return .counted reconciled
  | .seed => do
      let progress ← seedMetadata setting binding
      return .seeded progress.emitted progress.skipped
  | .reconcileSeed => do
      let reconciled ← reconcileSeedMetadata setting binding
      return .counted reconciled
  | .reset gate => do
      let deleted ← reset setting gate binding
      return .deleted deleted
  | .reconcileReset gate => do
      let reconciled ← reconcileReset setting gate binding
      return .counted reconciled

end Tasks

section Worlds

variable {Real Extra : Type}

/-- The trace lists every call of every command with its reply. -/
structure World (Real Extra : Type) where
  file : Option Bytes
  trace : List (Exchange (Call Real Extra) Reply)

/-- No command ran before. -/
def World.empty : World Real Extra := ⟨none, []⟩

/-- The clock writes short timestamps. -/
abbrev Timestamp := { text : String // text.length ≤ 4096 }

/-- The clock and the disk and everything outside the log are free. -/
structure Choice (Real Extra : Type) where
  now : Timestamp
  disk : Disk
  earlier : ℕ
  outside : (call : Call Real Extra) → Reply call

variable (runtime : Runtime Real)

/-- The log only grows, so an earlier reader saw the beginning of it. -/
def answer (choice : Choice Real Extra) (file : Option Bytes) :
    (call : Call Real Extra) → Reply call × Option Bytes
  | .readAll => (Scenario.readAll runtime file, file)
  | .readEarlier => ((Scenario.readAll runtime file).map (·.take choice.earlier), file)
  | .append draft =>
      let appended := Scenario.append runtime choice.disk file (draft.receipt choice.now.val)
      (appended.1.map fun _ => (), appended.2)
  | call => (choice.outside call, file)

def respond (choice : Choice Real Extra) (world : World Real Extra) (call : Call Real Extra) :
    Reply call × World Real Extra :=
  let answered := answer runtime choice world.file call
  (answered.1, ⟨answered.2, world.trace ++ [⟨call, answered.1⟩]⟩)

/-- Commands take the lock one after another, and nothing else writes the log. -/
def commands : Semantics (World Real Extra) (Choice Real Extra) Empty (Call Real Extra) Reply :=
  ⟨fun _ => respond runtime, fun change => nomatch change⟩

variable [DecidableEq Real] [DecidableEq Extra] (setting : Setting Real Extra)

/-- Commands follow one another, and each may be killed at any call. -/
abbrev Reached : World Real Extra → Prop :=
  History (commands setting.runtime) (commandProgram setting) World.empty

end Worlds

end LineageGuard.Operations
