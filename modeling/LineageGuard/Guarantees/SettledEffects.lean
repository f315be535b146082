import LineageGuard.Guarantees.CommandSafety
import Mathlib.Tactic

/-
This file proves that no command sends an effect while an earlier effect is unresolved.
-/

namespace LineageGuard.Operations

open Attempt Dialogue Interleaving Sessions Scenario

variable {Real Extra : Type} {setting : Setting Real Extra}

section Silence

variable {kinds : List String}

/-- The call changes nothing in the catalog and records only operations of these kinds. -/
def Within (kinds : List String) : Call Real Extra → Prop
  | .emit _ _ | .delete _ => False
  | .append draft => draft.operationKind ∈ kinds
  | _ => True

/-- The program never changes the catalog. -/
abbrev Silent {Value : Type} (kinds : List String) (program : Remote Real Extra Value) : Prop :=
  Only (Within kinds) program

theorem attempt_silent {Value : Type} {result : Except String Value} :
    Silent kinds (attempt result : Remote Real Extra Value) := trivial

theorem quiet_within {call : Call Real Extra} (quiet : isQuiet call = true) : Within kinds call := by
  cases call <;> first | exact trivial | exact nomatch quiet

theorem ask_silent {call : Call Real Extra} (quiet : isQuiet call = true) :
    Silent kinds (ask call) := (Only.perform (quiet_within quiet)).bind fun _ => attempt_silent

theorem record_silent {draft : Draft Real} (inside : draft.operationKind ∈ kinds) :
    Silent kinds (record draft : Remote Real Extra Unit) :=
  Only.bind (Only.perform inside) fun _ => attempt_silent

theorem refuse_silent {Value : Type} {draft : Draft Real} {error : String}
    (inside : draft.operationKind ∈ kinds) :
    Silent kinds (refuse draft error : Remote Real Extra Value) :=
  (record_silent inside).bind fun _ => Only.fail

theorem scenarioOperation_silent {Value : Type} {scenarioId kind : String} {reconciliation : Bool}
    {body : List (OperationReceipt Real) → Remote Real Extra Value}
    (silent : ∀ pending, Silent kinds (body pending)) :
    Silent kinds (scenarioOperation scenarioId kind reconciliation body) := by
  have reads : Silent kinds (readUnresolved scenarioId : Remote Real Extra _) :=
    (ask_silent rfl).bind fun _ => Only.pure
  exact (ask_silent rfl).bind fun _ => reads.bind fun pending => attempt_silent.bind fun _ =>
    (silent pending).bind fun value => reads.bind fun _ => attempt_silent.bind fun _ => Only.pure

theorem attestRegistry_silent (binding : TargetBinding) :
    Silent kinds (attestScenarioRegistry binding : Remote Real Extra _) :=
  (ask_silent rfl).bind fun _ => attempt_silent

theorem currentTarget_silent (binding : TargetBinding) :
    Silent kinds (requireCurrentTarget setting binding) :=
  (ask_silent rfl).bind fun _ => attempt_silent.bind fun _ => attempt_silent

theorem attestBoth_silent (binding : TargetBinding) : Silent kinds (attestBoth setting binding) :=
  (currentTarget_silent binding).bind fun _ => attestRegistry_silent binding

theorem marker_silent (nonce urn : String) (kind : EntityKind) :
    Silent kinds (entityHasScenarioMarker nonce urn kind : Remote Real Extra _) :=
  attempt_silent.bind fun _ => (ask_silent rfl).bind fun _ => Only.pure

theorem buildSeedPlan_silent (nonce : String) : Silent kinds (buildSeedPlan setting nonce) := by
  refine attempt_silent.bind fun _ => attempt_silent.bind fun downstreams =>
    (Only.mapM downstreams fun urn => attempt_silent.bind fun found => ?_).bind fun _ => attempt_silent
  split
  · exact (ask_silent rfl).bind fun _ => attempt_silent.bind fun _ => Only.pure
  · exact Only.pure

end Silence

section Reconciliations

variable [DecidableEq Real] [DecidableEq Extra]

theorem reconcileSeed_silent (target : TargetBinding) :
    Silent ["seed", "entity"] (reconcileSeedMetadata setting target) := by
  refine (ask_silent rfl).bind fun repository => (buildSeedPlan_silent _).bind fun plan =>
    scenarioOperation_silent fun pending => (attestBoth_silent target).bind fun _ =>
      attempt_silent.bind fun _ => attempt_silent.bind fun _ => ?_
  refine (Only.foldlM pending _ fun progress receipt => attempt_silent.bind fun operation =>
    attempt_silent.bind fun _ => (ask_silent rfl).bind fun current => ?_).bind
      fun reconciled => (ask_silent rfl).bind fun receipts =>
        (Only.forM (byEntity plan) fun group => ?_).bind fun _ => Only.pure
  · split
    · exact (record_silent List.mem_cons_self).bind fun _ => Only.pure
    · exact (record_silent List.mem_cons_self).bind fun _ => Only.pure
    · exact refuse_silent List.mem_cons_self
  · obtain ⟨⟨urn, kind⟩, operations⟩ := group
    unfold reconcileCreation
    dsimp only
    split
    · refine (ask_silent rfl).bind fun found => ?_
      split
      · refine (marker_silent _ urn kind).bind fun marked => ?_
        split
        · exact record_silent (List.mem_cons_of_mem _ List.mem_cons_self)
        · exact Only.pure
      · exact Only.pure
    · exact Only.pure

omit [DecidableEq Real] [DecidableEq Extra] in
theorem findRemoval_silent {kinds : List String} (target : ResetTarget) :
    Silent kinds (findRemoval target : Remote Real Extra _) := by
  refine (ask_silent rfl).bind fun status => ?_
  split
  · exact Only.pure
  · refine Only.bind ((ask_silent rfl).bind fun found => ?_) fun marked => ?_
    · split
      · exact marker_silent _ _ _
      · exact Only.pure
    · split
      · exact Only.pure
      · exact Only.pure

omit [DecidableEq Extra] in
theorem reconcileReset_silent (gate : ResetGate) (binding : TargetBinding) :
    Silent ["reset"] (reconcileReset setting gate binding) := by
  refine (ask_silent rfl).bind fun receipts => attempt_silent.bind fun plan =>
    scenarioOperation_silent fun pending => (attestBoth_silent _).bind fun _ =>
      attempt_silent.bind fun _ => attempt_silent.bind fun _ => Only.foldlM pending _ ?_
  intro count receipt
  refine attempt_silent.bind fun target => attempt_silent.bind fun _ =>
    (findRemoval_silent target).bind fun found => ?_
  cases found with
  | applied => exact (record_silent List.mem_cons_self).bind fun _ => Only.pure
  | notApplied => exact (record_silent List.mem_cons_self).bind fun _ => Only.pure
  | conflict => exact refuse_silent List.mem_cons_self

theorem reconcileQuery_silent (target : TargetBinding) :
    Silent ["ingest-query", "entity"] (reconcileLiveQueryEvidence setting target) := by
  refine (ask_silent rfl).bind fun receipts => (ask_silent rfl).bind fun repository =>
    Only.bind (attempt_silent.bind fun _ => attempt_silent.bind fun _ => (ask_silent rfl).bind
      fun _ => attempt_silent.bind fun _ => attempt_silent.bind fun _ => Only.pure)
    fun observed => attempt_silent.bind fun _ => ?_
  refine Only.bind ((ask_silent rfl).bind fun _ => attempt_silent) fun plan =>
    attempt_silent.bind fun binding => scenarioOperation_silent fun pending =>
      (attestBoth_silent target).bind fun _ => attempt_silent.bind fun _ => attempt_silent.bind
        fun _ => ?_
  refine (Only.foldlM pending _ fun progress receipt => attempt_silent.bind fun operation =>
    attempt_silent.bind fun _ => Only.bind ?_ fun found => ?_).bind fun reconciled => Only.bind ?_
      fun _ => Only.pure
  · unfold findPending
    split
    · exact (ask_silent rfl).bind fun _ => Only.pure
    · exact (ask_silent rfl).bind fun _ => Only.pure
  · cases found with
    | applied => exact (record_silent List.mem_cons_self).bind fun _ => Only.pure
    | notApplied => exact (record_silent List.mem_cons_self).bind fun _ => Only.pure
    | conflict => exact refuse_silent List.mem_cons_self
  · refine (ask_silent rfl).bind fun _ => (ask_silent rfl).bind fun _ => ?_
    split
    · exact record_silent (List.mem_cons_of_mem _ List.mem_cons_self)
    · exact Only.pure

end Reconciliations

section Tools

variable {identity : CommandIdentity}

theorem runCommand_silent {command success : String} {planned : Entries Real}
    {finish : Entries Real → Entries Real} (tool : identity.kind ∈ toolKinds) :
    Silent toolKinds (runCommand identity command success planned finish : Remote Real Extra _) := by
  refine (record_silent tool).bind fun _ => (ask_silent rfl).bind fun result => ?_
  cases result with
  | ok observed => exact record_silent tool
  | error failure => exact refuse_silent tool

theorem warehouseSeed_silent (binding : TargetBinding) (planFingerprint : String) :
    Silent toolKinds (warehouseSeed setting binding planFingerprint) := by
  have tool : "warehouse" ∈ toolKinds := by decide
  exact scenarioOperation_silent fun _ => runCommand_silent tool

variable [DecidableEq Real]

theorem dbtBuild_silent (binding : TargetBinding) (projectFingerprint : String) :
    Silent toolKinds (dbtBuild setting binding projectFingerprint) := by
  have tool : "dbt-build" ∈ toolKinds := by decide
  exact scenarioOperation_silent fun _ => (attestRegistry_silent binding).bind fun _ =>
    (ask_silent rfl).bind fun _ => attempt_silent.bind fun _ => (runCommand_silent tool).bind fun _ =>
      (runCommand_silent tool).bind fun _ => runCommand_silent tool

theorem runQuery_silent (binding : TargetBinding) :
    Silent toolKinds (runQuery setting binding) := by
  have tool : "query" ∈ toolKinds := by decide
  exact (ask_silent rfl).bind fun _ => scenarioOperation_silent fun _ =>
    (attestRegistry_silent binding).bind fun _ => (ask_silent rfl).bind fun _ =>
      attempt_silent.bind fun _ => (ask_silent rfl).bind fun _ => (ask_silent rfl).bind fun _ =>
        attempt_silent.bind fun _ => runCommand_silent tool

theorem ingestRecipe_silent (binding : TargetBinding) (place : ℕ) :
    Silent toolKinds (ingestRecipe setting binding place) := by
  have tool : "ingest" ∈ toolKinds := by decide
  refine (ask_silent rfl).bind fun _ => scenarioOperation_silent fun _ =>
    (currentTarget_silent binding).bind fun _ => (attestRegistry_silent binding).bind fun _ =>
      (ask_silent rfl).bind fun _ => attempt_silent.bind fun _ => ?_
  dsimp only
  split
  · exact attempt_silent.bind fun _ => (ask_silent rfl).bind fun _ => attempt_silent.bind fun _ =>
      runCommand_silent tool
  · exact runCommand_silent tool

end Tools

section Blocking

variable {sent : List OperationKey} {file : Option Bytes} {call : Call Real Extra}

/-- The effects and the log stay the same. -/
def Unmoved (sent : List OperationKey) (file : Option Bytes) (world : World Real Extra) : Prop :=
  effects world.trace = sent ∧ world.file = file

theorem within_effects {kinds : List String} {trace : List (Entry Real Extra)}
    (within : Within kinds call) (reply : Reply call) :
    effects (trace ++ [⟨call, reply⟩]) = effects trace := by
  have none : effectOf (⟨call, reply⟩ : Entry Real Extra) = none := by
    cases call <;> first | rfl | exact within.elim
  rw [effects_concat, none, Option.toList_none, List.append_nil]

theorem unmoved_quiet {runtime : Runtime Real} {world : World Real Extra}
    (quiet : isQuiet call = true) (choice : Choice Real Extra) (unmoved : Unmoved sent file world) :
    Unmoved sent file (respond runtime choice world call).2 := by
  refine ⟨?_, ?_⟩
  · rw [← unmoved.1]
    exact within_effects (@quiet_within Real Extra [] call quiet) _
  · rw [← unmoved.2]
    exact answer_quiet runtime choice world.file quiet

/-- The program moves nothing wherever it stops. -/
abbrev Stays {Value : Type} (runtime : Runtime Real) (sent : List OperationKey)
    (file : Option Bytes) (program : Remote Real Extra Value)
    (after : Value → World Real Extra → Prop) : Prop :=
  Triple (commands runtime) (Unmoved sent file) (Unmoved sent file) program after

variable {runtime : Runtime Real}

/-- A quiet call moves nothing. -/
theorem ask_unmoved (quiet : isQuiet call = true) :
    Stays runtime sent file (ask call) (fun _ => Unmoved sent file) := by
  refine Triple.through (fun _ => Unmoved sent file) (Triple.perform fun world unmoved choice => ?_)
    fun reply => Triple.done fun _ _ _ => id
  have later : Unmoved sent file (respond runtime choice world call).2 :=
    unmoved_quiet quiet choice unmoved
  exact ⟨later, later⟩

/-- The unresolved receipts are read from the log. -/
theorem readUnresolved_unmoved (scenarioId : String) :
    Stays runtime sent file (readUnresolved scenarioId : Remote Real Extra _)
      (fun pending _ => ∃ log, Scenario.readAll runtime file = .ok log ∧
        pending = unresolved scenarioId log) := by
  refine Triple.through (fun receipts _ => Scenario.readAll runtime file = .ok receipts) ?_
    fun receipts => Triple.pure fun world isLog => ⟨receipts, isLog, rfl⟩
  refine Triple.through (fun reply _ => Scenario.readAll runtime file = reply)
    (Triple.perform fun world unmoved choice => ?_) fun reply => Triple.done fun receipts same _ isLog =>
      isLog.trans same
  have later := @unmoved_quiet Real Extra sent file .readAll runtime world rfl choice unmoved
  refine ⟨later, ?_⟩
  rw [← unmoved.2]
  rfl

/-- An operation stops before its body while the log is unreadable or has an unresolved receipt. -/
theorem scenarioOperation_blocked {Value : Type} {scenarioId kind : String}
    {body : List (OperationReceipt Real) → Remote Real Extra Value}
    (blocked : ∀ log, Scenario.readAll runtime file = .ok log → unresolved scenarioId log ≠ []) :
    Stays runtime sent file (scenarioOperation scenarioId kind false body) (fun _ _ => True) := by
  refine (ask_unmoved rfl).bind fun _ => (readUnresolved_unmoved scenarioId).bind fun pending =>
    Triple.choose fun log => Triple.given fun isLog => ?_
  refine Triple.through (fun _ _ => False) (Triple.done fun _ isDone world isPending => ?_)
    fun _ world impossible => impossible.elim
  rcases require_ok.mp isDone with none | reconciles
  · exact blocked log isLog (isPending.symm.trans none)
  · exact nomatch reconciles

variable [DecidableEq Real] [DecidableEq Extra]

/-- These commands send effects. -/
def Task.sends : Task → Bool
  | .emitQuery | .seed | .reset _ => true
  | _ => false

/-- A command that sends an effect stops before it. -/
theorem command_stays {command : Command} (sends : command.task.sends = true)
    (blocked : ∀ log, Scenario.readAll setting.runtime file = .ok log →
      unresolved setting.graph.scenarioId log ≠ []) :
    Stays setting.runtime sent file (commandProgram setting command) (fun _ _ => True) := by
  obtain ⟨warehouse, attestation, fingerprint, task⟩ := command
  cases task with
  | emitQuery => exact (scenarioOperation_blocked blocked).bind fun _ => Triple.pure fun _ => id
  | seed => exact (scenarioOperation_blocked blocked).bind fun _ => Triple.pure fun _ => id
  | reset gate =>
      exact ((ask_unmoved rfl).bind fun receipts => (Triple.done fun _ _ _ => id).bind fun plan =>
        scenarioOperation_blocked blocked).bind fun _ => Triple.pure fun _ => id
  | _ => exact nomatch sends

/-- The other commands record these kinds of operations. -/
def Task.kinds : Task → List String
  | .reconcileSeed => ["seed", "entity"]
  | .reconcileReset _ => ["reset"]
  | .reconcileQuery => ["ingest-query", "entity"]
  | _ => toolKinds

/-- The other commands never change the catalog. -/
theorem command_silent {command : Command} (tools : command.task.sends = false) :
    Silent command.task.kinds (commandProgram setting command) := by
  obtain ⟨warehouse, attestation, fingerprint, task⟩ := command
  cases task with
  | warehouse planFingerprint => exact (warehouseSeed_silent _ _).bind fun _ => Only.pure
  | dbtBuild projectFingerprint => exact (dbtBuild_silent _ _).bind fun _ => Only.pure
  | query => exact (runQuery_silent _).bind fun _ => Only.pure
  | ingest place => exact (ingestRecipe_silent _ _).bind fun _ => Only.pure
  | reconcileQuery => exact (reconcileQuery_silent _).bind fun _ => Only.pure
  | reconcileSeed => exact (reconcileSeed_silent _).bind fun _ => Only.pure
  | reconcileReset gate => exact (reconcileReset_silent _ _).bind fun _ => Only.pure
  | _ => exact nomatch tools

/-- No command changes the catalog while the log is unreadable or has an unresolved receipt. -/
theorem command_blocked {command : Command} {world after : World Real Extra}
    (blocked : ∀ log, Scenario.readAll setting.runtime world.file = .ok log →
      unresolved setting.graph.scenarioId log ≠ [])
    (runs : Session (commands setting.runtime) (commandProgram setting command) world after) :
    effects after.trace = effects world.trace := by
  cases sends : command.task.sends with
  | true =>
      have keeps := command_stays sends blocked world ⟨rfl, rfl⟩
      exact (keeps.session ⟨rfl, rfl⟩ runs).1
  | false =>
      have kept : ∀ call : Call Real Extra, Within command.task.kinds call → ∀ choice,
          ∀ later : World Real Extra, effects later.trace = effects world.trace →
          effects ((commands setting.runtime).respond 0 choice later call).2.trace =
            effects world.trace := by
        intro call within choice later same
        rw [← same]
        exact within_effects within _
      exact ((command_silent sends).keeps kept rfl).session rfl runs

end Blocking

section Guarantees

/-- The log closed every effect after it was sent. -/
def Settled (log : List (OperationReceipt Real)) (trace : List (Entry Real Extra)) : Prop :=
  ∀ past entry future key, trace = past ++ entry :: future → effectOf entry = some key →
    Closed log future key

variable [DecidableEq Real] [DecidableEq Extra] {world after : World Real Extra}

end Guarantees

end LineageGuard.Operations
