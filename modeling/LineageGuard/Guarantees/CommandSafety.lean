import LineageGuard.Guarantees.BootstrapRecovery
import LineageGuard.Guarantees.LineageReconciliation
import LineageGuard.Guarantees.QuerySafety
import LineageGuard.Guarantees.ReceiptIntegrity
import Mathlib.Tactic

/-
This file proves what holds in every world that the commands reach, wherever they stop.
-/

namespace LineageGuard.Operations

open Attempt Dialogue Interleaving Sessions Scenario

variable {Real Extra : Type} [DecidableEq Extra] {setting : Setting Real Extra}

section Commands

variable {credit : Finset OperationKey} {known : Set String}

/-- The kinds of the commands that run a tool have no live effect. -/
def toolKinds : List String := ["warehouse", "dbt-build", "query", "ingest"]

theorem recordTool_spec (documented : Documented setting.runtime) {identity : CommandIdentity}
    {status : ReceiptStatus} {detailCode : String} {metrics : Entries Real}
    (tool : identity.kind ∈ toolKinds) :
    Spec setting (Owed setting ∅ credit known)
      (record (commandDraft identity status detailCode metrics))
      (fun _ => Owed setting ∅ credit known) := by
  have apart : ∀ kind ∈ toolKinds, kind ∉ liveReconciliationKinds ∧ kind ≠ "entity" := by decide
  exact record_other documented (apart identity.kind tool).1 (apart identity.kind tool).2

theorem runCommand_spec (documented : Documented setting.runtime) {identity : CommandIdentity}
    {command success : String} {planned : Entries Real} {finish : Entries Real → Entries Real}
    (tool : identity.kind ∈ toolKinds) :
    Spec setting (Owed setting ∅ credit known)
      (runCommand identity command success planned finish)
      (fun _ => Owed setting ∅ credit known) := by
  refine (recordTool_spec documented tool).bind fun _ => (ask_kept rfl).bind fun result => ?_
  cases result with
  | ok observed => exact recordTool_spec documented tool
  | error failure => exact (recordTool_spec documented tool).bind fun _ => Triple.fail

theorem warehouseSeed_spec (documented : Documented setting.runtime) (binding : TargetBinding)
    (planFingerprint : String) :
    Spec setting (Owed setting ∅ ∅ known) (warehouseSeed setting binding planFingerprint)
      (fun _ => Owed setting ∅ ∅ ∅) := by
  have tool : "warehouse" ∈ toolKinds := by decide
  exact scenarioOperation_spec documented fun pending =>
    (runCommand_spec documented tool).ends fun _ world => Owed.settled

variable [DecidableEq Real]

theorem dbtBuild_spec (documented : Documented setting.runtime) (binding : TargetBinding)
    (projectFingerprint : String) :
    Spec setting (Owed setting ∅ ∅ known) (dbtBuild setting binding projectFingerprint)
      (fun _ => Owed setting ∅ ∅ ∅) := by
  have tool : "dbt-build" ∈ toolKinds := by decide
  refine scenarioOperation_spec documented fun pending => (attestRegistry_spec binding).bind
    fun _ => (ask_kept rfl).bind fun receipts => (attempt_spec fun _ _ _ => id).bind fun _ => ?_
  exact (runCommand_spec documented tool).bind fun _ => (runCommand_spec documented tool).bind
    fun _ => (runCommand_spec documented tool).ends fun _ world => Owed.settled

theorem runQuery_spec (documented : Documented setting.runtime) (binding : TargetBinding) :
    Spec setting (Owed setting ∅ ∅ known) (runQuery setting binding)
      (fun _ => Owed setting ∅ ∅ ∅) := by
  have tool : "query" ∈ toolKinds := by decide
  refine (ask_kept rfl).bind fun plan => scenarioOperation_spec documented fun pending =>
    (attestRegistry_spec binding).bind fun _ => (ask_kept rfl).bind fun receipts => ?_
  refine (attempt_spec fun _ _ _ => id).bind fun _ => (ask_kept rfl).bind fun repository =>
    (ask_kept rfl).bind fun again => (attempt_spec fun _ _ _ => id).bind fun _ => ?_
  exact (runCommand_spec documented tool).ends fun _ world => Owed.settled

theorem ingestRecipe_spec (documented : Documented setting.runtime) (binding : TargetBinding)
    (place : ℕ) :
    Spec setting (Owed setting ∅ ∅ known) (ingestRecipe setting binding place)
      (fun _ => Owed setting ∅ ∅ ∅) := by
  have tool : "ingest" ∈ toolKinds := by decide
  refine (ask_kept rfl).bind fun repository => scenarioOperation_spec documented fun pending =>
    (currentTarget_spec binding).bind fun _ => (attestRegistry_spec binding).bind fun _ => ?_
  refine (ask_kept rfl).bind fun receipts => (attempt_spec fun _ _ _ => id).bind
    fun artifacts => ?_
  dsimp only
  split
  · refine (attempt_spec fun _ _ _ => id).bind fun query => (ask_kept rfl).bind fun plan =>
      (attempt_spec fun _ _ _ => id).bind fun _ => ?_
    exact (runCommand_spec documented tool).ends fun _ world => Owed.settled
  · exact (runCommand_spec documented tool).ends fun _ world => Owed.settled

/-- Every command keeps the ledger. -/
theorem commandProgram_spec (documented : Documented setting.runtime) (command : Command) :
    Spec setting (Owed setting ∅ ∅ ∅) (commandProgram setting command)
      (fun _ => Owed setting ∅ ∅ ∅) := by
  unfold commandProgram
  dsimp only
  cases command.task with
  | warehouse planFingerprint =>
      exact (warehouseSeed_spec documented _ planFingerprint).bind fun _ => Triple.pure fun _ => id
  | dbtBuild projectFingerprint =>
      exact (dbtBuild_spec documented _ projectFingerprint).bind fun _ => Triple.pure fun _ => id
  | query => exact (runQuery_spec documented _).bind fun _ => Triple.pure fun _ => id
  | ingest place => exact (ingestRecipe_spec documented _ place).bind fun _ => Triple.pure fun _ => id
  | emitQuery => exact (emitLiveQueryEvidence_spec documented rfl).bind fun _ => Triple.pure fun _ => id
  | reconcileQuery =>
      exact (reconcileLiveQueryEvidence_spec documented _).bind fun _ => Triple.pure fun _ => id
  | seed => exact (seedMetadata_spec documented rfl).bind fun _ => Triple.pure fun _ => id
  | reconcileSeed =>
      exact (reconcileSeedMetadata_spec documented _).bind fun _ => Triple.pure fun _ => id
  | reset gate => exact (reset_spec documented gate rfl).bind fun _ => Triple.pure fun _ => id
  | reconcileReset gate =>
      exact (reconcileReset_spec documented gate _).bind fun _ => Triple.pure fun _ => id

/-- The ledger holds in every world that the commands reach. -/
theorem reached_owed (documented : Documented setting.runtime) {world : World Real Extra}
    (reached : Reached setting world) : Owed setting ∅ ∅ ∅ world :=
  History.keeps Owed.empty
    (fun command _ owed => (commandProgram_spec documented command _ owed).mono fun _ _ _ => trivial)
    (fun change => nomatch change) reached

end Commands

section Sample

def sampleLanguage : Language Unit where
  toInt value := if let .int found := value then .ok found else .error "ValueError"
  toFloat _ := .ok ()
  negative _ := false
  nonzero _ := true
  text _ := ""
  timestampMillis _ := .ok 1767225600000

def sampleSetting : Setting Unit Unit where
  sdk := ⟨sampleSdk, Target.samplePlatform, fun _ => (), fun _ => Target.sampleFingerprint,
    fun _ => Target.sampleFingerprint⟩
  runtime := sampleRuntime
  language := sampleLanguage
  graph := canonicalGraph

def sampleCommand : Command :=
  ⟨Target.sampleFingerprint, Target.sampleIdentity, Target.sampleFingerprint, .seed⟩

def sampleWorld : World Unit Unit := ⟨none, [⟨.lock, .error "SCENARIO_OPERATION_LOCKED"⟩]⟩

/-- Another command holds the lock. -/
theorem sampleSession (world : World Unit Unit) :
    Session (commands sampleSetting.runtime) (commandProgram sampleSetting sampleCommand) world
      ⟨world.file, world.trace ++ [⟨.lock, .error "SCENARIO_OPERATION_LOCKED"⟩]⟩ := by
  have short : "2026-01-01T00:00:00Z".length ≤ 4096 := by decide
  exact ⟨_, .ask ⟨⟨_, short⟩, .complete, 0, fun _ => .error "SCENARIO_OPERATION_LOCKED"⟩
    (.refl _ _)⟩

theorem sampleWorld_reached : Reached sampleSetting sampleWorld :=
  .session sampleCommand .start (sampleSession World.empty)

end Sample

section Guarantees

variable [DecidableEq Real] {world : World Real Extra} {log : List (OperationReceipt Real)}

theorem reached_ledger (documented : Documented setting.runtime) (reached : Reached setting world)
    (read : Scenario.readAll setting.runtime world.file = .ok log) :
    Ledger setting log world.trace ∅ ∅ ∅ := by
  obtain ⟨held, isHeld, ledger⟩ := reached_owed documented reached
  rw [isHeld.reads documented read]
  exact ledger

/-- The log leaves each effect unresolved, or it was closed after the effect was sent. -/
def Answered (scenarioId : String) (log : List (OperationReceipt Real))
    (trace : List (Entry Real Extra)) : Prop :=
  ∀ past entry future key, trace = past ++ entry :: future → effectOf entry = some key →
    Pending scenarioId log key ∨ Closed log future key

/-- This holds of every call of the trace and of the calls before it. -/
def Always (holds : List (Entry Real Extra) → Call Real Extra → Prop)
    (trace : List (Entry Real Extra)) : Prop :=
  ∀ past entry future, trace = past ++ entry :: future → holds past entry.call

/-- Whenever the scenario wrote to the entity before, it was absent or carried the marker. -/
def Originated (setting : Setting Real Extra) (past : List (Entry Real Extra)) (urn : String) :
    Prop :=
  ∀ earlier entry later kind upsert, past = earlier ++ entry :: later →
    entry.call = .emit kind upsert → upsert.urn = urn →
    Absent earlier urn ∨ Marked setting.runtime.nonce earlier urn

end Guarantees

end LineageGuard.Operations
