import LineageGuard.Guarantees.EffectLedger
import Mathlib.Tactic

/-
This file proves what each call of a command does to the ledger.
-/

namespace LineageGuard.Operations

open Attempt Dialogue Interleaving Sessions Scenario

variable {Real Extra : Type} [DecidableEq Extra]

section Worlds

variable (setting : Setting Real Extra)

/-- The ledger holds for the log of the file and the trace of the world. -/
def Owed (due credit : Finset OperationKey) (known : Set String) (world : World Real Extra) : Prop :=
  ∃ log, Held setting.runtime world.file log ∧ Ledger setting log world.trace due credit known

/-- The world also ended with this call. -/
def OwedAt (due credit : Finset OperationKey) (known : Set String) (last : Entry Real Extra)
    (world : World Real Extra) : Prop :=
  Owed setting due credit known world ∧ world.trace.getLast? = some last

/-- The program keeps the ledger at every call. -/
abbrev Spec {Value : Type} (before : World Real Extra → Prop) (program : Remote Real Extra Value)
    (after : Value → World Real Extra → Prop) : Prop :=
  Triple (commands setting.runtime) (Owed setting ∅ ∅ ∅) before program after

variable {setting} {due credit : Finset OperationKey} {known : Set String}
  {world : World Real Extra}

/-- What the trace shows once it shows from then on. -/
theorem Spec.keep {Value : Type} {before : World Real Extra → Prop}
    {program : Remote Real Extra Value} {after : Value → World Real Extra → Prop}
    {fact : List (Entry Real Extra) → Prop} (spec : Spec setting before program after)
    (stable : ∀ trace, fact trace → ∀ more, fact (trace ++ more))
    (starts : ∀ world, before world → fact world.trace) :
    Spec setting before program (fun value world => fact world.trace ∧ after value world) :=
  Triple.frame (fun _ world _ holds => stable world.trace holds _) starts spec

theorem Owed.empty : Owed setting ∅ ∅ ∅ World.empty := ⟨[], Held.empty, Ledger.empty⟩

theorem Owed.weaken {less fewer : Finset OperationKey} {part : Set String}
    (owed : Owed setting due credit known world) (dues : less ⊆ due) (credits : fewer ⊆ credit)
    (parts : part ⊆ known) : Owed setting less fewer part world := by
  obtain ⟨log, held, ledger⟩ := owed
  exact ⟨log, held, ledger.weaken dues credits parts⟩

theorem Owed.settled (owed : Owed setting due credit known world) : Owed setting ∅ ∅ ∅ world :=
  owed.weaken (Finset.empty_subset _) (Finset.empty_subset _) (Set.empty_subset _)

end Worlds

section Calls

variable {setting : Setting Real Extra} {due credit : Finset OperationKey} {known : Set String}

/-- The call is neither an append nor an effect. -/
def isQuiet : Call Real Extra → Bool
  | .append _ => false
  | .emit _ _ => false
  | .delete _ => false
  | _ => true

omit [DecidableEq Extra] in
theorem answer_quiet (runtime : Runtime Real) (choice : Choice Real Extra) (file : Option Bytes)
    {call : Call Real Extra} (quiet : isQuiet call = true) :
    (answer runtime choice file call).2 = file := by
  cases call <;> first | rfl | exact nomatch quiet

theorem Owed.quiet {world : World Real Extra} {call : Call Real Extra} {file : Option Bytes}
    (owed : Owed setting due credit known world) (quiet : isQuiet call = true) (reply : Reply call)
    (same : file = world.file) : Owed setting due credit known ⟨file, world.trace ++ [⟨call, reply⟩]⟩ := by
  obtain ⟨log, held, ledger⟩ := owed
  refine ⟨log, by rw [same]; exact held, ledger.extend ?_ ?_⟩
  · cases call <;> first | rfl | exact nomatch quiet
  · cases call <;> first | exact trivial | exact nomatch quiet

/-- A quiet call keeps the ledger and is the last one after it. -/
theorem ask_quiet {call : Call Real Extra} (quiet : isQuiet call = true) :
    Spec setting (Owed setting due credit known) (ask call)
      (fun reply => OwedAt setting due credit known ⟨call, .ok reply⟩) := by
  refine Triple.through (fun reply => OwedAt setting due credit known ⟨call, reply⟩)
    (Triple.perform fun world owed choice => ?_) fun reply => Triple.done fun value isValue => ?_
  · have later := owed.quiet quiet (answer setting.runtime choice world.file call).1
      (answer_quiet setting.runtime choice world.file quiet)
    exact ⟨later.settled, later, List.getLast?_concat⟩
  · intro world owed
    rw [← isValue]
    exact owed

theorem ask_kept {call : Call Real Extra} (quiet : isQuiet call = true) :
    Spec setting (Owed setting due credit known) (ask call)
      (fun _ => Owed setting due credit known) :=
  (ask_quiet quiet).ends fun _ _ => And.left

/-- The receipts show that an emission to these entities was sent. -/
def shownBy (receipts : List (OperationReceipt Real)) : Set String :=
  {urn | ∃ receipt ∈ receipts, receipt.entityUrn = some urn ∧ (isCreation receipt = true ∨
    (receipt.status = .failure ∧ receipt.operationKind ∈ ["seed", "ingest-query"]))}

omit [DecidableEq Extra] in
/-- An effect of an emission names its entity. -/
theorem emitted_effect {trace : List (Entry Real Extra)} {key : OperationKey} {urn : String}
    (present : key ∈ effects trace) (kind : key.operationKind ≠ "reset")
    (isUrn : key.entityUrn = some urn) : Emitted trace urn := by
  obtain ⟨entry, inside, isEffect⟩ := List.mem_filterMap.mp present
  rw [effectOf] at isEffect
  split at isEffect
  · next emitKind upsert isCall =>
      rw [Option.some.injEq] at isEffect
      rw [← isEffect, upsertKey, Option.some.injEq] at isUrn
      exact ⟨entry, inside, emitKind, upsert, isCall, isUrn⟩
  · next target isCall =>
      rw [Option.some.injEq] at isEffect
      rw [← isEffect] at kind
      exact absurd rfl kind
  · cases isEffect

theorem Ledger.shown {log receipts : List (OperationReceipt Real)} {trace : List (Entry Real Extra)}
    (ledger : Ledger setting log trace due credit known) (within : ∀ receipt ∈ receipts, receipt ∈ log)
    {urn : String} (shown : urn ∈ shownBy receipts) : Emitted trace urn := by
  obtain ⟨receipt, present, isUrn, creation | ⟨failure, kind⟩⟩ := shown
  · exact ledger.created receipt (within receipt present) creation urn isUrn
  · have live : IsLive receipt.key := by
      simp only [List.mem_cons, List.not_mem_nil, or_false] at kind
      rcases kind with isKind | isKind
      · simp [IsLive, OperationReceipt.key, isKind, liveReconciliationKinds]
      · simp [IsLive, OperationReceipt.key, isKind, liveReconciliationKinds]
    refine emitted_effect (ledger.failed receipt (within receipt present) failure live) ?_ isUrn
    intro isReset
    rw [show receipt.operationKind = "reset" from isReset] at kind
    exact absurd kind (by decide)

theorem Owed.shown {world : World Real Extra} {receipts found : List (OperationReceipt Real)}
    (documented : Documented setting.runtime) (owed : Owed setting due credit known world)
    (read : Scenario.readAll setting.runtime world.file = .ok found)
    (within : ∀ receipt ∈ receipts, receipt ∈ found) :
    Owed setting due credit (known ∪ shownBy receipts) world := by
  obtain ⟨log, held, ledger⟩ := owed
  have isLog := held.reads documented read
  rw [isLog] at within
  refine ⟨log, held, { ledger with known := fun urn inside => ?_ }⟩
  rcases inside with earlier | now
  · exact ledger.known urn earlier
  · exact ledger.shown within now

/-- The creations and the failures of the log show what was emitted. -/
theorem read_all (documented : Documented setting.runtime) :
    Spec setting (Owed setting due credit known) (ask .readAll)
      (fun receipts => Owed setting due credit (known ∪ shownBy receipts)) := by
  refine Triple.through (fun reply world => Owed setting due credit known world ∧
    Scenario.readAll setting.runtime world.file = reply)
    (Triple.perform fun world owed choice => ?_) fun reply => Triple.done fun receipts isReceipts => ?_
  · have later := @Owed.quiet Real Extra _ setting due credit known world .readAll world.file owed
      rfl (Scenario.readAll setting.runtime world.file) rfl
    exact ⟨later.settled, later, rfl⟩
  · intro world holds
    rw [isReceipts] at holds
    exact holds.1.shown documented holds.2 fun receipt => id

theorem read_earlier (documented : Documented setting.runtime) :
    Spec setting (Owed setting due credit known) (ask .readEarlier)
      (fun receipts => Owed setting due credit (known ∪ shownBy receipts)) := by
  refine Triple.through (fun reply world => Owed setting due credit known world ∧
    ∃ count, (Scenario.readAll setting.runtime world.file).map (·.take count) = reply)
    (Triple.perform fun world owed choice => ?_) fun reply => Triple.done fun receipts isReceipts => ?_
  · have later := @Owed.quiet Real Extra _ setting due credit known world .readEarlier world.file
      owed rfl ((Scenario.readAll setting.runtime world.file).map (·.take choice.earlier)) rfl
    exact ⟨later.settled, later, choice.earlier, rfl⟩
  · intro world holds
    obtain ⟨owed, count, isReply⟩ := holds
    rw [isReceipts] at isReply
    cases read : Scenario.readAll setting.runtime world.file with
    | error error => rw [read] at isReply; exact nomatch isReply
    | ok found =>
        rw [read] at isReply
        have taken : found.take count = receipts := Except.ok.inj isReply
        refine owed.shown documented read fun receipt present => ?_
        rw [← taken] at present
        exact List.mem_of_mem_take present

end Calls

section Appends

variable {setting : Setting Real Extra} {due credit later rest : Finset OperationKey}
variable {known : Set String} {draft : Draft Real}

omit [DecidableEq Extra] in
theorem record_of {recordedAt : String} {receipt : OperationReceipt Real}
    (contents : receipt.unlinked =
      ((draft.receipt recordedAt).filled setting.runtime.nonce).unlinked) :
    RecordOf draft receipt :=
  ⟨congrArg OperationReceipt.scenarioId contents, congrArg OperationReceipt.key contents,
    congrArg OperationReceipt.status contents, congrArg OperationReceipt.detailCode contents⟩

/-- A permitted draft is recorded, or the append raises and the ledger stays. -/
theorem record_permitted (documented : Documented setting.runtime)
    {before : World Real Extra → Prop} {part : Set String}
    (permits : ∀ world, before world → ∃ due credit known, Owed setting due credit known world ∧
      Permitted setting world.trace due credit known draft later rest ∧ part ⊆ known) :
    Spec setting before (record draft) (fun _ => Owed setting later rest part) := by
  refine Triple.through (fun reply world => ∀ value, reply = .ok value →
    Owed setting later rest part world) (Triple.perform fun world holds choice => ?_)
    fun reply => Triple.done fun value isValue world ends => ends value isValue
  obtain ⟨due, credit, known, ⟨log, held, ledger⟩, permitted, parts⟩ := permits world holds
  have justified : ∀ reply, Justified setting world.trace ⟨.append draft, reply⟩ :=
    fun reply => permitted.grounded
  rcases held.append documented choice.disk
    (show (draft.receipt choice.now.val).recordedAt.length ≤ 4096 from choice.now.property) with
    ⟨receipt, contents, added⟩ | ⟨⟨error, raised⟩, same⟩
  · have grown : ∀ reply, Owed setting later rest part
        ⟨(Scenario.append setting.runtime choice.disk world.file (draft.receipt choice.now.val)).2,
          world.trace ++ [⟨.append draft, reply⟩]⟩ := fun reply =>
      ⟨log ++ [receipt], added, (ledger.append rfl (record_of contents) permitted).weaken
        subset_rfl subset_rfl parts⟩
    exact ⟨(grown _).settled, fun value _ => grown _⟩
  · refine ⟨?_, fun value isValue => ?_⟩
    · exact Owed.settled ⟨log, same, ledger.extend rfl (justified _)⟩
    · change (Scenario.append setting.runtime choice.disk world.file
        (draft.receipt choice.now.val)).1.map (fun _ => ()) = .ok value at isValue
      rw [raised] at isValue
      exact nomatch isValue

/-- A planned effect is due. -/
theorem record_planned (documented : Documented setting.runtime) (live : IsLive draft.key)
    (scenario : draft.scenarioId = setting.graph.scenarioId) (planned : draft.status = .planned) :
    Spec setting (Owed setting due credit known) (record draft)
      (fun _ => Owed setting (insert draft.key due) credit known) := by
  refine record_permitted documented fun world owed => ⟨due, credit, known, owed, ?_, subset_rfl⟩
  refine ⟨fun _ => scenario, ?_, ?_, ?_, subset_rfl, ?_, ?_⟩
  · exact fun _ skipped => nomatch planned.symm.trans skipped
  · exact fun failure => nomatch planned.symm.trans failure
  · exact fun success => nomatch planned.symm.trans success
  · exact fun _ success => nomatch planned.symm.trans success
  · intro key inside
    by_cases isKey : key = draft.key
    · rw [isKey]
      exact Or.inr ⟨rfl, live, by rw [planned]; decide, Or.inr planned⟩
    · exact Or.inl ⟨Finset.mem_of_mem_insert_of_ne inside isKey, isKey⟩

/-- A grounded skip closes an operation. -/
theorem record_skipped (documented : Documented setting.runtime) {last : Entry Real Extra}
    (scenario : draft.scenarioId = setting.graph.scenarioId) (skipped : draft.status = .skipped)
    (grounded : Grounded draft last) :
    Spec setting (OwedAt setting due credit known last) (record draft)
      (fun _ => Owed setting (due.erase draft.key) credit known) := by
  refine record_permitted documented fun world owed =>
    ⟨due, credit, known, owed.1, ?_, subset_rfl⟩
  refine ⟨fun _ => scenario, fun _ _ => ⟨last, owed.2, grounded⟩, ?_, ?_, subset_rfl, ?_, ?_⟩
  · exact fun failure => nomatch skipped.symm.trans failure
  · exact fun success => nomatch skipped.symm.trans success
  · exact fun _ success => nomatch skipped.symm.trans success
  · intro key inside
    exact Or.inl ⟨Finset.mem_of_mem_erase inside, Finset.ne_of_mem_erase inside⟩

/-- A receipt that asks for reconciliation keeps what is due. -/
theorem record_required (documented : Documented setting.runtime) (live : IsLive draft.key)
    (scenario : draft.scenarioId = setting.graph.scenarioId)
    (required : draft.status = .reconciliationRequired) :
    Spec setting (Owed setting due credit known) (record draft)
      (fun _ => Owed setting due credit known) := by
  refine record_permitted documented fun world owed => ⟨due, credit, known, owed, ?_, subset_rfl⟩
  refine ⟨fun _ => scenario, ?_, ?_, ?_, subset_rfl, ?_, ?_⟩
  · exact fun _ skipped => nomatch required.symm.trans skipped
  · exact fun failure => nomatch required.symm.trans failure
  · exact fun success => nomatch required.symm.trans success
  · exact fun _ success => nomatch required.symm.trans success
  · intro key inside
    by_cases isKey : key = draft.key
    · rw [isKey] at inside ⊢
      exact Or.inr ⟨rfl, live, by rw [required]; decide, Or.inl inside⟩
    · exact Or.inl ⟨inside, isKey⟩

/-- A credited effect was sent. -/
theorem Ledger.credited {log : List (OperationReceipt Real)} {trace : List (Entry Real Extra)}
    {key : OperationKey} (ledger : Ledger setting log trace due credit known) (live : IsLive key)
    (inside : key ∈ credit) : key ∈ effects trace := by
  have bound := ledger.success key live
  rw [if_pos inside] at bound
  exact List.count_pos_iff.mp (by omega)

/-- A failure of a sent effect keeps what is due. -/
theorem record_failed (documented : Documented setting.runtime) (live : IsLive draft.key)
    (scenario : draft.scenarioId = setting.graph.scenarioId) (failed : draft.status = .failure)
    (credited : draft.key ∈ credit) :
    Spec setting (Owed setting due credit known) (record draft)
      (fun _ => Owed setting due credit known) := by
  refine record_permitted documented fun world owed => ⟨due, credit, known, owed, ?_, subset_rfl⟩
  obtain ⟨log, _, ledger⟩ := owed
  refine ⟨fun _ => scenario, ?_, fun _ _ => ledger.credited live credited, ?_, subset_rfl, ?_, ?_⟩
  · exact fun _ skipped => nomatch failed.symm.trans skipped
  · exact fun success => nomatch failed.symm.trans success
  · exact fun _ success => nomatch failed.symm.trans success
  · intro key inside
    by_cases isKey : key = draft.key
    · rw [isKey] at inside ⊢
      exact Or.inr ⟨rfl, live, by rw [failed]; decide, Or.inl inside⟩
    · exact Or.inl ⟨inside, isKey⟩

/-- A success takes its credit. -/
theorem record_success (documented : Documented setting.runtime)
    (scenario : draft.scenarioId = setting.graph.scenarioId) (success : draft.status = .success)
    (live : IsLive draft.key) (credited : draft.key ∈ credit) (sent : draft.key ∉ due) :
    Spec setting (Owed setting due credit known) (record draft)
      (fun _ => Owed setting due (credit.erase draft.key) known) := by
  refine record_permitted documented fun world owed => ⟨due, credit, known, owed, ?_, subset_rfl⟩
  refine ⟨fun _ => scenario, ?_, ?_, ?_, Finset.erase_subset _ _, ?_, ?_⟩
  · exact fun _ skipped => nomatch success.symm.trans skipped
  · exact fun failure => nomatch success.symm.trans failure
  · exact fun _ _ => ⟨credited, Finset.notMem_erase _ _⟩
  · intro isEntity
    rw [IsLive, show draft.key.operationKind = "entity" from isEntity] at live
    exact absurd live (by decide)
  · exact fun key inside => Or.inl ⟨inside, fun isKey => sent (by rw [← isKey]; exact inside)⟩

/-- The creation of an emitted entity keeps what is due. -/
theorem record_creation (documented : Documented setting.runtime) {nonce urn proposalHash : String}
    {metrics : Entries Real} (live : ∀ key ∈ due, IsLive key) (emitted : urn ∈ known) :
    Spec setting (Owed setting due credit known)
      (record (creationDraft setting nonce urn proposalHash metrics))
      (fun _ => Owed setting due credit known) := by
  have apart : ¬ IsLive (creationDraft setting nonce urn proposalHash metrics).key :=
    show "entity" ∉ liveReconciliationKinds by decide
  refine record_permitted documented fun world owed => ⟨due, credit, known, owed, ?_, subset_rfl⟩
  refine ⟨fun isLive => absurd isLive apart, fun isLive => absurd isLive apart,
    fun _ isLive => absurd isLive apart, fun _ isLive => absurd isLive apart, subset_rfl, ?_, ?_⟩
  · intro _ _ _ other isOther
    rw [creationDraft, Option.some.injEq] at isOther
    rw [← isOther]
    exact emitted
  · intro key inside
    exact Or.inl ⟨inside, fun isKey => apart (by rw [← isKey]; exact live key inside)⟩

/-- A receipt of another kind keeps the ledger. -/
theorem record_other (documented : Documented setting.runtime) (other : ¬ IsLive draft.key)
    (noCreation : draft.operationKind ≠ "entity") :
    Spec setting (Owed setting ∅ credit known) (record draft)
      (fun _ => Owed setting ∅ credit known) := by
  refine record_permitted documented fun world owed => ⟨∅, credit, known, owed, ?_, subset_rfl⟩
  exact ⟨fun isLive => absurd isLive other, fun isLive => absurd isLive other,
    fun _ isLive => absurd isLive other, fun _ isLive => absurd isLive other, subset_rfl,
    fun isEntity => absurd isEntity noCreation, nofun⟩

theorem refuse_required {Value : Type} {after : Value → World Real Extra → Prop} {error : String}
    (documented : Documented setting.runtime) (live : IsLive draft.key)
    (scenario : draft.scenarioId = setting.graph.scenarioId)
    (required : draft.status = .reconciliationRequired) :
    Spec setting (Owed setting due credit known) (refuse draft error) after :=
  (record_required documented live scenario required).bind fun _ => Triple.fail

end Appends

section Effects

variable {setting : Setting Real Extra} {due credit : Finset OperationKey} {known : Set String}

theorem attempt_spec {Value : Type} {before : World Real Extra → Prop}
    {after : Value → World Real Extra → Prop} {result : Except String Value}
    (holds : ∀ value, result = .ok value → ∀ world, before world → after value world) :
    Spec setting before (attempt result) after := Triple.done holds

theorem attempt_gives {Value : Type} {before : World Real Extra → Prop}
    {result : Except String Value} :
    Spec setting before (attempt result) (fun value world => result = .ok value ∧ before world) :=
  attempt_spec fun _ isValue _ holds => ⟨isValue, holds⟩

/-- A due emission to an allowed entity is sent after a read that did not show its aspect. -/
theorem emit_spec {kind : String} {upsert : PlannedUpsert Extra} {last : Entry Real Extra}
    {finding : Finding} (live : kind ∈ liveReconciliationKinds) (owes : upsertKey kind upsert ∈ due)
    (allowed : upsert.urn ∈ setting.graph.allowedMutationUrns) (shown : Shows upsert last finding)
    (missing : finding ≠ .applied) :
    Spec setting (fun world => Cleared setting upsert.urn world.trace ∧
        OwedAt setting due credit known last world) (Program.perform (.emit kind upsert))
      (fun _ => Owed setting (due.erase (upsertKey kind upsert))
        (insert (upsertKey kind upsert) credit) (known ∪ {upsert.urn})) := by
  refine Triple.perform fun world owed choice => ?_
  obtain ⟨cleared, ⟨log, held, ledger⟩, isLast⟩ := owed
  have emittable : Emittable setting world.trace upsert :=
    ⟨allowed, cleared, last, finding, isLast, shown, missing⟩
  have sent : Owed setting (due.erase (upsertKey kind upsert))
      (insert (upsertKey kind upsert) credit) (known ∪ {upsert.urn})
      ⟨world.file, world.trace ++ [⟨.emit kind upsert, choice.outside (.emit kind upsert)⟩]⟩ :=
    ⟨log, held, ledger.send rfl owes live emittable⟩
  exact ⟨sent.settled, sent⟩

/-- A due deletion is sent after a read that showed the marker of the owner. -/
theorem delete_spec {target : ResetTarget} {last : Entry Real Extra} (owes : resetKey target ∈ due)
    (owned : target.urn ∈ setting.graph.ownedUrns) (noDomain : isDomainUrn target.urn = false)
    (nonce : target.ownershipNonce = setting.runtime.nonce) (emitted : target.urn ∈ known)
    (shown : ShowsTarget target last .notApplied) :
    Spec setting (OwedAt setting due credit known last) (Program.perform (.delete target))
      (fun _ => Owed setting (due.erase (resetKey target)) (insert (resetKey target) credit)
        known) := by
  refine Triple.perform fun world owed choice => ?_
  obtain ⟨⟨log, held, ledger⟩, isLast⟩ := owed
  have live : IsLive (resetKey target) := show "reset" ∈ liveReconciliationKinds by decide
  have deletable : Justified setting world.trace
      ⟨.delete target, choice.outside (.delete target)⟩ :=
    ⟨owned, noDomain, nonce, ledger.known target.urn emitted, last, isLast, shown⟩
  have sent : Owed setting (due.erase (resetKey target)) (insert (resetKey target) credit) known
      ⟨world.file, world.trace ++ [⟨.delete target, choice.outside (.delete target)⟩]⟩ :=
    ⟨log, held, (ledger.send rfl owes live deletable).weaken subset_rfl subset_rfl
      Set.subset_union_left⟩
  exact ⟨sent.settled, sent⟩

end Effects

section Guards

variable {setting : Setting Real Extra} {due credit : Finset OperationKey} {known : Set String}

theorem require_spec {before : World Real Extra → Prop} (condition : Prop) [Decidable condition]
    {error : String} : Spec setting before (attempt (require condition error))
      (fun _ world => before world ∧ condition) :=
  attempt_spec fun _ isDone _ holds => ⟨holds, require_ok.mp isDone⟩

theorem readUnresolved_spec (documented : Documented setting.runtime) (scenarioId : String) :
    Spec setting (Owed setting due credit known) (readUnresolved scenarioId)
      (fun pending => Owed setting due credit (known ∪ shownBy pending)) := by
  refine (read_all documented).bind fun receipts => Triple.pure fun world owed => ?_
  refine owed.weaken subset_rfl subset_rfl (Set.union_subset_union_right known ?_)
  intro urn shown
  obtain ⟨receipt, present, holds⟩ := shown
  refine ⟨receipt, ?_, holds⟩
  obtain ⟨⟨index, isLatest⟩, _⟩ := mem_unresolved.mp present
  exact List.mem_of_getElem? (Latest.latest_some.mp isLatest).1

/-- An operation starts and ends with nothing due. -/
theorem scenarioOperation_spec (documented : Documented setting.runtime) {Value : Type}
    {scenarioId kind : String} {reconciliation : Bool}
    {body : List (OperationReceipt Real) → Remote Real Extra Value}
    (keeps : ∀ pending, Spec setting (Owed setting ∅ ∅ (known ∪ shownBy pending)) (body pending)
      (fun _ => Owed setting ∅ ∅ ∅)) :
    Spec setting (Owed setting ∅ ∅ known) (scenarioOperation scenarioId kind reconciliation body)
      (fun _ => Owed setting ∅ ∅ ∅) := by
  refine (ask_kept rfl).bind fun _ => (readUnresolved_spec documented scenarioId).bind
    fun pending => (require_spec _).bind fun _ => ?_
  refine ((keeps pending).weaken (fun world => And.left) fun _ _ => id).bind fun value => ?_
  refine (readUnresolved_spec documented scenarioId).bind fun remaining =>
    (require_spec _).bind fun _ => Triple.pure fun world owed => ?_
  exact owed.1.settled

theorem attestRegistry_spec (binding : TargetBinding) :
    Spec setting (Owed setting due credit known) (attestScenarioRegistry binding)
      (fun _ => Owed setting due credit known) :=
  (ask_kept rfl).bind fun _ => attempt_spec fun _ _ _ => id

theorem currentTarget_spec (binding : TargetBinding) :
    Spec setting (Owed setting due credit known) (requireCurrentTarget setting binding)
      (fun _ => Owed setting due credit known) :=
  (ask_kept rfl).bind fun _ => (require_spec _).bind fun _ =>
    ((require_spec _).weaken (fun _ => And.left) fun _ _ => And.left)

theorem attestBoth_spec (binding : TargetBinding) :
    Spec setting (Owed setting due credit known) (attestBoth setting binding)
      (fun _ => Owed setting due credit known) :=
  (currentTarget_spec binding).bind fun _ => attestRegistry_spec binding

end Guards

end LineageGuard.Operations
