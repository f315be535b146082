import LineageGuard.Guarantees.SettledEffects
import Mathlib.Tactic

/-
This file proves that a conflict of the observed query blocks the scenario for ever.
-/

namespace LineageGuard.Operations

open Attempt Dialogue Interleaving Sessions Scenario

section Keys

variable {Real : Type} {entries : Entries Real} {key other : String} {value found : MetricValue Real}

theorem lookup_insertEntry : (insertEntry key value entries).lookup other =
    if other = key then some value else entries.lookup other := by
  induction entries with
  | nil =>
      rw [insertEntry, List.lookup_cons, List.lookup_nil]
      by_cases same : other = key
      · rw [beq_iff_eq.mpr same, if_pos same]
      · rw [beq_eq_false_iff_ne.mpr same, if_neg same]
  | cons entry rest ih =>
      obtain ⟨first, old⟩ := entry
      rw [insertEntry]
      by_cases before : key < first
      · rw [if_pos before, List.lookup_cons]
        by_cases same : other = key
        · rw [beq_iff_eq.mpr same, if_pos same]
        · rw [beq_eq_false_iff_ne.mpr same, if_neg same]
      rw [if_neg before]
      by_cases isFirst : key = first
      · rw [if_pos isFirst, List.lookup_cons, List.lookup_cons, ← isFirst]
        by_cases same : other = key
        · rw [beq_iff_eq.mpr same, if_pos same]
        · rw [beq_eq_false_iff_ne.mpr same, if_neg same]
      · rw [if_neg isFirst, List.lookup_cons, List.lookup_cons, ih]
        by_cases same : other = key
        · rw [same, beq_eq_false_iff_ne.mpr isFirst]
        · rw [if_neg same, if_neg same]

theorem get_insert (metrics : Metrics Real) : (metrics.insert key value).get other =
    if other = key then some value else metrics.get other := lookup_insertEntry

/-- The metrics of a list have the keys of the list. -/
theorem get_ofList : ((Metrics.ofList entries).get key).isSome = true ↔
    key ∈ entries.map Prod.fst := by
  have grows : ∀ (entries : Entries Real) (metrics : Metrics Real),
      ((metrics.update entries).get key).isSome = true ↔
        (metrics.get key).isSome = true ∨ key ∈ entries.map Prod.fst := by
    intro entries
    induction entries with
    | nil => exact fun metrics => (or_iff_left List.not_mem_nil).symm
    | cons entry rest ih =>
        intro metrics
        refine (ih (metrics.insert entry.1 entry.2)).trans ?_
        rw [get_insert, List.map_cons, List.mem_cons]
        by_cases same : key = entry.1
        · simp [same]
        · simp [same]
  exact (grows entries Metrics.empty).trans (or_iff_right nofun)

end Keys

variable {Real Extra : Type} {setting : Setting Real Extra}

section Provenance

/-- A receipt without the query of the evidence does not match the provenance of an upsert. -/
theorem provenance_refused [DecidableEq Real] {binding : TargetBinding} {observed : Observed Real}
    {query : QueryBinding Real} {receipt : OperationReceipt Real}
    (bound : queryBinding setting binding observed = .ok query)
    (bare : receipt.metrics.get "queryFingerprint" = none) :
    ¬ provenanceMatches receipt (query.metrics ++ query.evidence) := by
  intro binds
  have named : "queryFingerprint" ∈ (query.metrics ++ query.evidence).map Prod.fst := by
    simp only [queryBinding, evidenceMetrics, bind_ok, present_ok, pure_ok] at bound
    obtain ⟨evidence, ⟨_, _, _, _, _, _, _, _, _, _, rfl⟩, rfl⟩ := bound
    rw [List.map_append]
    exact List.mem_append_right _ List.mem_cons_self
  rw [← get_ofList, Option.isSome_iff_exists] at named
  obtain ⟨value, isValue⟩ := named
  obtain ⟨before, after, split, _⟩ := List.lookup_eq_some_iff.mp isValue
  have bindsValue := binds ("queryFingerprint", value) (by
    rw [split]
    exact List.mem_append_right _ List.mem_cons_self)
  rw [bare] at bindsValue
  cases bindsValue

/-- The receipt of a conflict has no other metrics than those of the target and the files. -/
theorem conflict_bare {binding : TargetBinding} {repository : Repository Real}
    (artifacts : repository.artifactMetrics.get "queryFingerprint" = none) :
    (Metrics.ofList (bindingMetrics setting binding repository)).get "queryFingerprint" = none := by
  rw [← Option.not_isSome_iff_eq_none, get_ofList, bindingMetrics, List.map_append,
    List.map_append, List.mem_append, List.mem_append]
  have absent : "queryFingerprint" ∉ repository.artifactMetrics.entries.map Prod.fst :=
    OrderedMap.lookup_none.mp artifacts
  rintro ((target | artifact) | file)
  · simp [datahubTargetMetrics, registryBindingMetrics, targetEntries] at target
  · exact absent artifact
  · simp at file

end Provenance

section Jams

variable {sent : List OperationKey} {receipt : OperationReceipt Real} {world : World Real Extra}

/-- No more effects were sent, and the log leaves the operation of the receipt unresolved. -/
def Jammed (setting : Setting Real Extra) (sent : List OperationKey)
    (receipt : OperationReceipt Real) (world : World Real Extra) : Prop :=
  effects world.trace = sent ∧ ∃ log, Held setting.runtime world.file log ∧
    receipt ∈ unresolved setting.graph.scenarioId log

theorem Jammed.blocked (documented : Documented setting.runtime)
    (jammed : Jammed setting sent receipt world) {log : List (OperationReceipt Real)}
    (read : Scenario.readAll setting.runtime world.file = .ok log) :
    receipt ∈ unresolved setting.graph.scenarioId log := by
  obtain ⟨_, held, isHeld, stuck⟩ := jammed
  rw [isHeld.reads documented read]
  exact stuck

theorem Jammed.quiet {call : Call Real Extra} (jammed : Jammed setting sent receipt world)
    (quiet : isQuiet call = true) (choice : Choice Real Extra) :
    Jammed setting sent receipt (respond setting.runtime choice world call).2 := by
  obtain ⟨same, log, held, stuck⟩ := jammed
  have unmoved : Unmoved sent world.file (respond setting.runtime choice world call).2 :=
    unmoved_quiet quiet choice ⟨same, rfl⟩
  exact ⟨unmoved.1, log, by rw [unmoved.2]; exact held, stuck⟩

/-- The record of another operation leaves the receipt where it is. -/
theorem Jammed.append (documented : Documented setting.runtime) {draft : Draft Real}
    (jammed : Jammed setting sent receipt world) (apart : draft.key ≠ receipt.key)
    (choice : Choice Real Extra) :
    Jammed setting sent receipt (respond setting.runtime choice world (.append draft)).2 := by
  obtain ⟨same, log, held, stuck⟩ := jammed
  refine ⟨?_, ?_⟩
  · rw [← same]
    exact @within_effects Real Extra (.append draft) [draft.operationKind] _ List.mem_cons_self _
  rcases held.append documented choice.disk
    (show (draft.receipt choice.now.val).recordedAt.length ≤ 4096 from choice.now.property) with
    ⟨record, contents, added⟩ | ⟨_, kept⟩
  · refine ⟨log ++ [record], added, unresolved_kept stuck ?_⟩
    rw [(record_of contents).key]
    exact apart
  · exact ⟨log, kept, stuck⟩

end Jams

section Calls

variable {sent : List OperationKey} {receipt : OperationReceipt Real}

/-- The program leaves the receipt unresolved wherever it stops. -/
abbrev Jams {Value : Type} (setting : Setting Real Extra) (sent : List OperationKey)
    (receipt : OperationReceipt Real) (before : World Real Extra → Prop)
    (program : Remote Real Extra Value) (after : Value → World Real Extra → Prop) : Prop :=
  Triple (commands setting.runtime) (Jammed setting sent receipt) before program after

theorem ask_jammed {call : Call Real Extra} (quiet : isQuiet call = true) :
    Jams setting sent receipt (Jammed setting sent receipt) (ask call)
      (fun _ => Jammed setting sent receipt) := by
  refine Triple.through (fun _ => Jammed setting sent receipt)
    (Triple.perform fun world jammed choice => ?_) fun reply => Triple.done fun _ _ _ => id
  have later := jammed.quiet quiet choice
  exact ⟨later, later⟩

theorem attempt_jammed {Value : Type} {result : Except String Value} :
    Jams setting sent receipt (Jammed setting sent receipt) (attempt result)
      (fun value world => result = .ok value ∧ Jammed setting sent receipt world) :=
  Triple.done fun _ isValue _ jammed => ⟨isValue, jammed⟩

theorem record_jammed (documented : Documented setting.runtime) {draft : Draft Real}
    (apart : draft.key ≠ receipt.key) :
    Jams setting sent receipt (Jammed setting sent receipt) (record draft)
      (fun _ => Jammed setting sent receipt) := by
  refine Triple.through (fun _ => Jammed setting sent receipt)
    (Triple.perform fun world jammed choice => ?_) fun reply => Triple.done fun _ _ _ => id
  have later := jammed.append documented apart choice
  exact ⟨later, later⟩

/-- The receipt is one of the pending ones and the only one of its operation. -/
structure Awaits (receipt : OperationReceipt Real) (pending : List (OperationReceipt Real)) :
    Prop where
  present : receipt ∈ pending
  single : ∀ other ∈ pending, other.key = receipt.key → other = receipt

theorem unresolved_awaits {scenarioId : String} {log : List (OperationReceipt Real)}
    (stuck : receipt ∈ unresolved scenarioId log) : Awaits receipt (unresolved scenarioId log) := by
  refine ⟨stuck, fun other present same => ?_⟩
  obtain ⟨⟨place, isOther⟩, _⟩ := mem_unresolved.mp present
  obtain ⟨⟨index, isReceipt⟩, _⟩ := mem_unresolved.mp stuck
  rw [same, isReceipt, Option.some.injEq, Prod.mk.injEq] at isOther
  exact isOther.2.symm

theorem readUnresolved_jammed (documented : Documented setting.runtime) :
    Jams setting sent receipt (Jammed setting sent receipt)
      (readUnresolved setting.graph.scenarioId)
      (fun pending world => Awaits receipt pending ∧ Jammed setting sent receipt world) := by
  refine Triple.through (fun receipts world => receipt ∈ unresolved setting.graph.scenarioId receipts ∧
    Jammed setting sent receipt world) ?_
    fun receipts => Triple.pure fun world holds => ⟨unresolved_awaits holds.1, holds.2⟩
  refine Triple.through (fun reply world => (∀ receipts, reply = .ok receipts →
      receipt ∈ unresolved setting.graph.scenarioId receipts) ∧ Jammed setting sent receipt world)
    (Triple.perform fun world jammed choice => ?_)
    fun reply => Triple.done fun receipts isReply world holds => ⟨holds.1 receipts isReply, holds.2⟩
  have later := @Jammed.quiet Real Extra setting sent receipt world .readAll jammed rfl choice
  exact ⟨later, fun receipts read => jammed.blocked documented read, later⟩

theorem attestBoth_jammed (target : TargetBinding) :
    Jams setting sent receipt (Jammed setting sent receipt) (attestBoth setting target)
      (fun _ => Jammed setting sent receipt) := by
  refine Triple.through (fun _ => Jammed setting sent receipt) ?_ fun _ => ?_
  · refine (ask_jammed rfl).bind fun _ => attempt_jammed.bind fun _ => Triple.given fun _ => ?_
    exact attempt_jammed.ends fun _ _ => And.right
  · exact (ask_jammed rfl).bind fun _ => attempt_jammed.ends fun _ _ => And.right

end Calls

section Reconciliation

variable [DecidableEq Real] [DecidableEq Extra] {sent : List OperationKey}
variable {receipt : OperationReceipt Real}

/-- The reconciliation stops at the receipt. -/
theorem reconcileReceipt_jammed (documented : Documented setting.runtime)
    {binding : QueryBinding Real} {plan : LiveQueryPlan Extra}
    (refused : ¬ provenanceMatches receipt (binding.metrics ++ binding.evidence))
    {pending : OperationReceipt Real} (kind : pending.operationKind = "ingest-query")
    (single : pending.key = receipt.key → pending = receipt)
    (progress : QueryReconciled) (rest : List (OperationReceipt Real)) :
    Jams setting sent receipt
      (fun world => receipt ∈ pending :: rest ∧ Jammed setting sent receipt world)
      (reconcileQueryReceipt setting binding plan progress pending)
      (fun _ world => receipt ∈ rest ∧ Jammed setting sent receipt world) := by
  refine Triple.given fun present => attempt_jammed.bind fun operation => Triple.given fun _ =>
    attempt_jammed.bind fun _ => Triple.given fun matched => ?_
  have apart : pending.key ≠ receipt.key := by
    intro same
    rw [single same] at matched
    exact refused (require_ok.mp matched)
  have later : receipt ∈ rest := by
    rcases List.mem_cons.mp present with here | later
    · exact absurd (by rw [here]) apart
    · exact later
  have other : ∀ status detailCode metrics, (pendingDraft setting binding.nonce "ingest-query" pending
      status detailCode metrics : Draft Real).key ≠ receipt.key := by
    intro status detailCode metrics same
    refine apart (Eq.trans ?_ same)
    rw [OperationReceipt.key, kind]
    rfl
  refine Triple.through (fun _ => Jammed setting sent receipt) ?_ fun found => ?_
  · unfold findPending
    split
    · exact (ask_jammed rfl).bind fun _ => Triple.pure fun _ => id
    · exact (ask_jammed rfl).bind fun _ => Triple.pure fun _ => id
  · cases found with
    | applied =>
        exact (record_jammed documented (other _ _ _)).bind fun _ =>
          Triple.pure fun _ jammed => ⟨later, jammed⟩
    | notApplied =>
        exact (record_jammed documented (other _ _ _)).bind fun _ =>
          Triple.pure fun _ jammed => ⟨later, jammed⟩
    | conflict =>
        exact (record_jammed documented (other _ _ _)).bind fun _ => Triple.fail

theorem underLock_jammed (documented : Documented setting.runtime) {binding : QueryBinding Real}
    {plan : LiveQueryPlan Extra} {target : TargetBinding} {query : QueryEvidence}
    (refused : ¬ provenanceMatches receipt (binding.metrics ++ binding.evidence))
    {pending : List (OperationReceipt Real)} (awaits : Awaits receipt pending) :
    Jams setting sent receipt (Jammed setting sent receipt)
      (reconcileQueryUnderLock setting binding target query plan pending) (fun _ _ => False) := by
  refine (attestBoth_jammed target).bind fun _ => attempt_jammed.bind fun _ =>
    Triple.given fun kinds => attempt_jammed.bind fun _ => Triple.given fun _ => ?_
  have folded : Jams setting sent receipt
      (fun world => receipt ∈ pending ∧ Jammed setting sent receipt world)
      (pending.foldlM (reconcileQueryReceipt setting binding plan) ⟨false, 0⟩)
      (fun _ world => receipt ∈ ([] : List (OperationReceipt Real)) ∧
        Jammed setting sent receipt world) :=
    Triple.foldlM (fun rest _ world => receipt ∈ rest ∧ Jammed setting sent receipt world) pending _
      fun progress item rest present => reconcileReceipt_jammed documented refused
        (require_ok.mp kinds item present) (awaits.single item present) progress rest
  refine Triple.through (fun _ _ => False)
    (folded.weaken (fun world jammed => ⟨awaits.present, jammed⟩) fun _ _ stuck => nomatch stuck.1) ?_
  exact fun _ _ impossible => impossible.elim

/-- The reconciliation of the query never closes the operation. -/
theorem reconcileQuery_jammed (documented : Documented setting.runtime)
    (bare : receipt.metrics.get "queryFingerprint" = none) (target : TargetBinding) :
    Jams setting sent receipt (Jammed setting sent receipt)
      (reconcileLiveQueryEvidence setting target) (fun _ _ => True) := by
  refine (ask_jammed rfl).bind fun receipts => (ask_jammed rfl).bind fun repository =>
    Triple.through (fun _ => Jammed setting sent receipt) ?_ fun observed =>
      attempt_jammed.bind fun _ => Triple.given fun _ =>
        Triple.through (fun _ => Jammed setting sent receipt) ?_ fun plan =>
          attempt_jammed.bind fun binding => Triple.given fun bound => ?_
  · refine attempt_jammed.bind fun artifacts => Triple.given fun _ => attempt_jammed.bind
      fun query => Triple.given fun _ => (ask_jammed rfl).bind fun execution => ?_
    exact attempt_jammed.bind fun observation => Triple.given fun _ => attempt_jammed.bind
      fun ingested => Triple.given fun _ => Triple.pure fun _ => id
  · exact (ask_jammed rfl).bind fun execution => attempt_jammed.ends fun _ _ => And.right
  refine (ask_jammed rfl).bind fun _ => (readUnresolved_jammed documented).bind fun pending =>
    Triple.given fun awaits => attempt_jammed.bind fun _ => Triple.given fun _ => ?_
  refine Triple.through (fun _ _ => False)
    (underLock_jammed documented (provenance_refused bound bare) awaits) ?_
  exact fun _ _ impossible => impossible.elim

end Reconciliation

section Commands

variable [DecidableEq Real] [DecidableEq Extra] {sent : List OperationKey}
variable {receipt : OperationReceipt Real} {world after : World Real Extra}

theorem kinds_other {task : Task} (other : task ≠ .reconcileQuery) :
    "ingest-query" ∉ task.kinds := by
  cases task with
  | reconcileQuery => exact absurd rfl other
  | reconcileSeed => exact (by decide : "ingest-query" ∉ ["seed", "entity"])
  | reconcileReset gate => exact (by decide : "ingest-query" ∉ ["reset"])
  | _ => exact (by decide : "ingest-query" ∉ toolKinds)

/-- No command sends an effect or resolves the operation. -/
theorem jammed_session (documented : Documented setting.runtime)
    (kind : receipt.operationKind = "ingest-query")
    (bare : receipt.metrics.get "queryFingerprint" = none) {command : Command}
    (jammed : Jammed setting sent receipt world)
    (runs : Session (commands setting.runtime) (commandProgram setting command) world after) :
    Jammed setting sent receipt after := by
  cases sends : command.task.sends with
  | true =>
      have blocked : ∀ log, Scenario.readAll setting.runtime world.file = .ok log →
          unresolved setting.graph.scenarioId log ≠ [] := fun log read =>
        List.ne_nil_of_mem (jammed.blocked documented read)
      have keeps := command_stays sends blocked world ⟨jammed.1, rfl⟩
      obtain ⟨same, file⟩ := keeps.session ⟨jammed.1, rfl⟩ runs
      obtain ⟨_, log, held, stuck⟩ := jammed
      exact ⟨same, log, by rw [file]; exact held, stuck⟩
  | false =>
      by_cases query : command.task = .reconcileQuery
      · obtain ⟨warehouse, attestation, fingerprint, task⟩ := command
        subst query
        have keeps : Jams setting sent receipt (Jammed setting sent receipt)
            (commandProgram setting ⟨warehouse, attestation, fingerprint, .reconcileQuery⟩)
            (fun _ _ => True) :=
          (reconcileQuery_jammed documented bare _).bind fun _ => Triple.pure fun _ => id
        exact (keeps world jammed).session jammed runs
      · have apart : "ingest-query" ∉ command.task.kinds :=
          kinds_other query
        have kept : ∀ call : Call Real Extra, Within command.task.kinds call → ∀ choice,
            ∀ later : World Real Extra, Jammed setting sent receipt later →
            Jammed setting sent receipt
              ((commands setting.runtime).respond 0 choice later call).2 := by
          intro call within choice later stuck
          cases call with
          | append draft =>
              refine stuck.append documented (fun same => apart ?_) choice
              rw [← kind, show receipt.operationKind = draft.operationKind from
                (congrArg OperationKey.operationKind same).symm]
              exact within
          | emit kind upsert => exact within.elim
          | delete target => exact within.elim
          | _ => exact stuck.quiet rfl choice
        exact ((command_silent sends).keeps kept jammed).session jammed runs

/-- Nothing is sent and no command resolves the operation of a conflict, whatever follows. -/
theorem conflict_never_resolved (documented : Documented setting.runtime)
    {log : List (OperationReceipt Real)} (held : Held setting.runtime world.file log)
    (isOpen : receipt ∈ unresolved setting.graph.scenarioId log)
    (kind : receipt.operationKind = "ingest-query") {binding : TargetBinding}
    {repository : Repository Real}
    (recorded : receipt.metrics = Metrics.ofList (bindingMetrics setting binding repository))
    (artifacts : repository.artifactMetrics.get "queryFingerprint" = none)
    (later : History (commands setting.runtime) (commandProgram setting) world after) :
    effects after.trace = effects world.trace ∧
      ∀ found, Scenario.readAll setting.runtime after.file = .ok found →
        receipt ∈ unresolved setting.graph.scenarioId found := by
  have bare : receipt.metrics.get "queryFingerprint" = none := by
    rw [recorded]
    exact conflict_bare artifacts
  have jammed : Jammed setting (effects world.trace) receipt after := by
    induction later with
    | start => exact ⟨rfl, log, held, isOpen⟩
    | session command earlier runs ih => exact jammed_session documented kind bare ih runs
    | change change earlier ih => exact nomatch change
  exact ⟨jammed.1, fun found read => jammed.blocked documented read⟩

end Commands

section Sample

def sampleTarget : TargetBinding := ⟨sampleRuntime.nonce, "", "", ""⟩

def sampleRepository : Repository Unit := ⟨Metrics.empty, "", ""⟩

def conflictReceipt : OperationReceipt Unit :=
  { sampleReceipt .reconciliationRequired 6 with
    operationKind := "ingest-query"
    detailCode := "LIVE_RECONCILIATION_CONFLICT"
    metrics := Metrics.ofList (bindingMetrics sampleSetting sampleTarget sampleRepository) }

def conflictRecord : OperationReceipt Unit :=
  { bind sampleRuntime [] conflictReceipt with
    recordHash := sampleHmac (payload sampleRuntime (bind sampleRuntime [] conflictReceipt)) }

theorem conflict_checked : FieldsChecked sampleRuntime (bind sampleRuntime [] conflictReceipt) where
  scenario := rfl
  operation := (by decide : fullmatch isLowerOrDash 2 32 "ingest-query" = true)
  detail := (by decide : fullmatch isDetailChar 2 128 "LIVE_RECONCILIATION_CONFLICT" = true)
  idempotency := replicate_digest (by decide)
  proposal := replicate_digest (by decide)
  nonce := replicate_digest (by decide)
  previous := Or.inl rfl
  record := Or.inl rfl
  timestamp := ⟨_, sampleTime_timestamp 6⟩
  count := by decide
  metrics := by decide

/-- The log holds the conflict alone. -/
theorem conflict_held : Held sampleRuntime (some (recordBytes sampleRuntime conflictRecord))
    [conflictRecord] := by
  have prepared : prepare sampleRuntime none conflictReceipt = .ok conflictRecord :=
    prepare_start rfl conflict_checked (by decide) rfl (by decide +kernel)
  exact .written (Written.empty.append sampleRuntime_documented prepared (by decide))

theorem conflict_open :
    conflictRecord ∈ unresolved sampleSetting.graph.scenarioId ([] ++ [conflictRecord]) :=
  unresolved_append_open (by decide) (by decide)

def conflictWorld : World Unit Unit := ⟨some (recordBytes sampleRuntime conflictRecord), []⟩

theorem conflict_never_resolved_sample :
    effects conflictWorld.trace = effects conflictWorld.trace ∧
      ∀ found, Scenario.readAll sampleSetting.runtime conflictWorld.file = .ok found →
        conflictRecord ∈ unresolved sampleSetting.graph.scenarioId found := by
  have held : Held sampleSetting.runtime conflictWorld.file [conflictRecord] := conflict_held
  have recorded : conflictRecord.metrics =
      Metrics.ofList (bindingMetrics sampleSetting sampleTarget sampleRepository) := rfl
  exact conflict_never_resolved sampleRuntime_documented held conflict_open rfl recorded rfl .start

end Sample

end LineageGuard.Operations
