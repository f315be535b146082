import LineageGuard.Guarantees.EffectSteps
import LineageGuard.Guarantees.SeedPlan
import Mathlib.Tactic

/-
This file proves that the seed and its reconciliation keep the ledger of the effects.
-/

namespace LineageGuard.Operations

open Attempt Dialogue Interleaving Sessions Scenario

variable {Real Extra : Type} [DecidableEq Extra] {setting : Setting Real Extra}
variable {due credit : Finset OperationKey} {known : Set String}

section Planning

theorem getAspect_spec (urn : String) (aspectType : AspectClass) :
    Spec setting (Owed setting due credit known) (getAspect urn aspectType)
      (fun current => OwedAt setting due credit known ⟨.aspect urn aspectType, .ok current⟩) :=
  ask_quiet rfl

theorem getAspect_kept (urn : String) (aspectType : AspectClass) :
    Spec setting (Owed setting due credit known) (getAspect urn aspectType)
      (fun _ => Owed setting due credit known) := ask_kept rfl

theorem entityExists_kept (urn : String) :
    Spec setting (Owed setting due credit known) (entityExists urn)
      (fun _ => Owed setting due credit known) := ask_kept rfl

theorem entityExists_spec (urn : String) :
    Spec setting (Owed setting due credit known) (entityExists urn)
      (fun found => OwedAt setting due credit known ⟨.exists urn, .ok found⟩) := ask_quiet rfl

/-- Only a dataset has lineage. -/
theorem liveLineage_spec (urn : String) :
    Spec setting (Owed setting due credit known) (liveLineage setting urn)
      (fun group world => (∀ upsert ∈ group, upsert.urn ∈ setting.graph.datasetUrns) ∧
        Owed setting due credit known world) := by
  refine attempt_gives.bind fun found => Triple.given fun isFound => ?_
  split
  · next dataset =>
      rw [dataset] at isFound
      refine (getAspect_kept urn .upstreamLineage).bind fun current =>
        (attempt_spec fun lineage _ world => id).bind fun lineage =>
          Triple.pure fun world owed => ⟨fun upsert present => ?_, owed⟩
      rw [List.mem_singleton.mp present]
      exact isDataset_listed isFound
  · exact Triple.pure fun world owed => ⟨nofun, owed⟩

theorem buildSeedPlan_spec (nonce : String) :
    Spec setting (Owed setting due credit known) (buildSeedPlan setting nonce)
      (fun plan world => PlanSound setting.graph nonce plan ∧
        Owed setting due credit known world) := by
  refine attempt_gives.bind fun entities => Triple.given fun isEntities => ?_
  refine (attempt_spec fun downstreams _ world => id).bind fun downstreams => ?_
  refine (Triple.mapM downstreams fun urn _ => liveLineage_spec urn).bind fun lineage =>
    Triple.given fun lineages => ?_
  refine attempt_spec fun plan isPlan world owed => ⟨finishPlan_sound isEntities ?_ isPlan, owed⟩
  intro upsert present
  obtain ⟨group, isGroup, inside⟩ := List.mem_flatten.mp present
  exact lineages group isGroup upsert inside

end Planning

section Checks

variable {binding : SeedBinding Real}

theorem readAspect_spec (operation : PlannedUpsert Extra) :
    Spec setting (Owed setting due credit known) (readAspect operation)
      (fun current => OwedAt setting due credit known
        ⟨.aspect operation.urn operation.aspect.aspectType, .ok current⟩) := getAspect_spec _ _

theorem readAspect_kept (operation : PlannedUpsert Extra) :
    Spec setting (Owed setting due credit known) (readAspect operation)
      (fun _ => Owed setting due credit known) := getAspect_kept _ _

theorem marker_kept (nonce urn : String) (kind : EntityKind) :
    Spec setting (Owed setting due credit known) (entityHasScenarioMarker nonce urn kind)
      (fun _ => Owed setting due credit known) :=
  (attempt_spec fun _ _ _ => id).bind fun aspectType =>
    (getAspect_kept urn aspectType).bind fun _ => Triple.pure fun _ => id

theorem OwedAt.shows {last : Entry Real Extra} {world : World Real Extra}
    (owed : OwedAt setting due credit known last world) : last ∈ world.trace :=
  List.mem_of_getLast? owed.2

/-- A marker that is found was read. -/
theorem marker_spec (nonce urn : String) (kind : EntityKind) :
    Spec setting (Owed setting due credit known) (entityHasScenarioMarker nonce urn kind)
      (fun found world => (found = true → Marked nonce world.trace urn) ∧
        Owed setting due credit known world) := by
  refine attempt_gives.bind fun aspectType => Triple.given fun isType => ?_
  refine (getAspect_spec urn aspectType).bind fun current => Triple.pure fun world owed =>
    ⟨fun found => ?_, owed.1⟩
  cases current with
  | none => exact nomatch found
  | some aspect => exact ⟨kind, aspectType, aspect, present_ok.mp isType, owed.shows, found⟩

/-- The server showed the planned aspect. -/
def Exact (operation : PlannedUpsert Extra) (trace : List (Entry Real Extra)) : Prop :=
  (⟨.aspect operation.urn operation.aspect.aspectType, .ok (some operation.aspect)⟩ :
    Entry Real Extra) ∈ trace

omit [DecidableEq Extra] in
theorem Exact.mono {operation : PlannedUpsert Extra} (trace : List (Entry Real Extra))
    (exact : Exact operation trace) (more : List (Entry Real Extra)) :
    Exact operation (trace ++ more) := List.mem_append_left _ exact

/-- The operations are exact only when every one was read so. -/
theorem allExact_spec (operations : List (PlannedUpsert Extra)) :
    Spec setting (Owed setting due credit known) (allExact operations)
      (fun exact world => (exact = true → ∀ operation ∈ operations, Exact operation world.trace) ∧
        Owed setting due credit known world) := by
  induction operations with
  | nil => exact Triple.pure fun _ owed => ⟨fun _ => nofun, owed⟩
  | cons operation rest ih =>
      refine (readAspect_spec operation).bind fun current => ?_
      split
      · next isExact =>
          rw [isExact]
          have reads : Spec setting (OwedAt setting due credit known
              ⟨.aspect operation.urn operation.aspect.aspectType, .ok (some operation.aspect)⟩)
              (allExact rest) (fun exact world => Exact operation world.trace ∧
                (exact = true → ∀ operation ∈ rest, Exact operation world.trace) ∧
                Owed setting due credit known world) :=
            Spec.keep (ih.weaken (fun _ => And.left) fun _ _ => id) Exact.mono
              fun world owed => owed.shows
          refine reads.ends fun exact world holds => ⟨fun isAll other inside => ?_, holds.2.2⟩
          rcases List.mem_cons.mp inside with isOperation | later
          · rw [isOperation]
            exact holds.1
          · exact holds.2.1 isAll other later
      · exact Triple.pure fun _ owed => ⟨nofun, owed.1⟩

theorem refuseSeed_spec (documented : Documented setting.runtime) {Value : Type}
    {after : Value → World Real Extra → Prop} {operation : PlannedUpsert Extra}
    {detailCode error : String} :
    Spec setting (Owed setting due credit known)
      (refuseSeed setting binding operation detailCode error) after :=
  refuse_required documented (show "seed" ∈ liveReconciliationKinds by decide) rfl rfl

theorem checkOverlay_kept (documented : Documented setting.runtime)
    (operation : PlannedUpsert Extra) :
    Spec setting (Owed setting due credit known) (checkOverlay setting binding operation)
      (fun _ => Owed setting due credit known) := by
  unfold checkOverlay
  split
  · exact Triple.pure fun _ => id
  · refine (readAspect_kept operation).bind fun current => ?_
    split
    · exact refuseSeed_spec documented
    · exact Triple.pure fun _ => id

theorem checkDrift_kept (documented : Documented setting.runtime) (operation : PlannedUpsert Extra) :
    Spec setting (Owed setting due credit known) (checkDrift setting binding operation)
      (fun _ => Owed setting due credit known) := by
  refine (readAspect_kept operation).bind fun current => ?_
  split
  · exact refuseSeed_spec documented
  · exact Triple.pure fun _ => id

theorem connectorEntityExists_kept (urn : String) :
    Spec setting (Owed setting due credit known) (connectorEntityExists urn)
      (fun _ => Owed setting due credit known) := by
  refine (entityExists_kept urn).bind fun found => ?_
  split
  · exact Triple.pure fun _ => id
  · split
    · exact Triple.pure fun _ => id
    · next datasetUrn _ =>
        exact (getAspect_kept datasetUrn .schemaMetadata).bind fun _ => Triple.pure fun _ => id

theorem isOwned_spec (receipts : List (OperationReceipt Real)) (urn : String) (kind : EntityKind)
    (operations : List (PlannedUpsert Extra)) :
    Spec setting (Owed setting due credit known)
      (isOwned setting binding receipts urn kind operations)
      (fun owned world => (owned = true → Marked binding.nonce world.trace urn) ∧
        Owed setting due credit known world) := by
  unfold isOwned
  split
  · split
    · exact marker_spec _ _ _
    · exact Triple.pure fun _ owed => ⟨nofun, owed⟩
  · exact Triple.pure fun _ owed => ⟨nofun, owed⟩

theorem refuseEntity_spec (documented : Documented setting.runtime) {Value : Type}
    {after : Value → World Real Extra → Prop} {operations : List (PlannedUpsert Extra)}
    {detailCode error : String} :
    Spec setting (Owed setting due credit known)
      (refuseEntity setting binding operations detailCode error) after := by
  unfold refuseEntity
  split
  · exact refuseSeed_spec documented
  · exact Triple.fail

theorem checkConnector_kept (documented : Documented setting.runtime) (urn : String)
    (operations : List (PlannedUpsert Extra)) :
    Spec setting (Owed setting due credit known) (checkConnector setting binding urn operations)
      (fun _ => Owed setting due credit known) := by
  refine (connectorEntityExists_kept urn).bind fun found => ?_
  split
  · exact Triple.forM (fun _ => Owed setting due credit known) operations
      fun operation _ _ => checkOverlay_kept documented operation
  · exact refuseEntity_spec documented

/-- The operations of an owned entity mark it with the nonce of the store. -/
def GroupSound (setting : Setting Real Extra) (urn : String) (kind : EntityKind)
    (operations : List (PlannedUpsert Extra)) : Prop :=
  urn ∈ setting.graph.ownedUrns → urn ≠ setting.graph.sourceField.schemaFieldUrn →
    ∃ marking ∈ operations, marking.urn = urn ∧ Marks setting.runtime.nonce kind marking

omit [DecidableEq Extra] in
theorem GroupSound.cleared {urn : String} {kind : EntityKind}
    {operations : List (PlannedUpsert Extra)} {trace : List (Entry Real Extra)}
    (sound : GroupSound setting urn kind operations)
    (exact : ∀ operation ∈ operations, Exact operation trace) : Cleared setting urn trace := by
  intro owned apart
  obtain ⟨marking, inside, isUrn, isType, marker⟩ := sound owned apart
  have read := exact marking inside
  rw [Exact, isUrn] at read
  exact Or.inr ⟨kind, _, marking.aspect, isType, read, marker⟩

theorem checkExisting_spec (documented : Documented setting.runtime)
    (isOwner : binding.nonce = setting.runtime.nonce)
    (receipts : List (OperationReceipt Real)) (standing : Standing) {urn : String}
    {kind : EntityKind} {operations : List (PlannedUpsert Extra)}
    (sound : GroupSound setting urn kind operations) :
    Spec setting (Owed setting due credit known)
      (checkExisting setting binding receipts standing urn kind operations)
      (fun _ world => Cleared setting urn world.trace ∧ Owed setting due credit known world) := by
  refine (allExact_spec operations).bind fun exact => ?_
  split
  · next isExact =>
      exact Triple.pure fun world holds => ⟨sound.cleared (holds.1 isExact), holds.2⟩
  · refine ((isOwned_spec receipts urn kind operations).weaken (fun _ => And.right)
      fun _ _ => id).bind fun owned => ?_
    split
    · next isOwned =>
        have checks : Spec setting (fun world =>
            (owned = true → Marked binding.nonce world.trace urn) ∧
              Owed setting due credit known world)
            (operations.forM (checkDrift setting binding))
            (fun _ world => Cleared setting urn world.trace ∧
              Owed setting due credit known world) := by
          refine Spec.keep ?_ (fun _ cleared => Cleared.mono cleared) fun world holds _ _ =>
            Or.inr (by rw [← isOwner]; exact holds.1 isOwned)
          exact (Triple.forM (fun _ => Owed setting due credit known) operations
            fun operation _ _ => checkDrift_kept documented operation).weaken
              (fun _ => And.right) fun _ _ => id
        exact checks.bind fun _ => Triple.pure fun _ => id
    · exact (refuseEntity_spec documented).weaken (fun _ => And.right) fun _ _ => id

/-- An entity that passes the checks is cleared. -/
theorem checkEntity_spec (documented : Documented setting.runtime)
    (isOwner : binding.nonce = setting.runtime.nonce)
    (receipts : List (OperationReceipt Real)) (standing : Standing)
    {group : (String × EntityKind) × List (PlannedUpsert Extra)}
    (sound : GroupSound setting group.1.1 group.1.2 group.2) :
    Spec setting (Owed setting due credit known) (checkEntity setting binding receipts standing group)
      (fun _ world => Cleared setting group.1.1 world.trace ∧
        Owed setting due credit known world) := by
  obtain ⟨⟨urn, kind⟩, operations⟩ := group
  unfold checkEntity
  dsimp only
  split
  · next connector =>
      refine (checkConnector_kept documented urn operations).bind fun _ => Triple.pure
        fun world owed => ⟨fun owned apart => ?_, owed⟩
      rcases List.mem_cons.mp connector with isField | isDataset
      · exact absurd isField apart
      · rw [ExpectedGraph.connectorDatasetUrns, mem_sortedSet] at isDataset
        exact absurd isDataset (mem_owned.mp owned).2
  · refine (entityExists_spec urn).bind fun found => ?_
    split
    · exact (checkExisting_spec documented isOwner receipts standing sound).weaken
        (fun _ => And.left) fun _ _ => id
    · next isAbsent =>
        refine Triple.pure fun world owed => ⟨fun _ _ => Or.inl ?_, owed.1⟩
        rw [Bool.not_eq_true] at isAbsent
        rw [isAbsent] at owed
        exact owed.shows

/-- Every entity of the plan is cleared. -/
abbrev PlanCleared (setting : Setting Real Extra) (plan : List (PlannedUpsert Extra))
    (trace : List (Entry Real Extra)) : Prop :=
  ∀ operation ∈ plan, Cleared setting operation.urn trace

omit [DecidableEq Extra] in
/-- A plan that marks its owned entities has sound groups. -/
theorem byEntity_sound {plan : List (PlannedUpsert Extra)}
    (sound : PlanSound setting.graph setting.runtime.nonce plan) :
    ∀ group ∈ byEntity plan, GroupSound setting group.1.1 group.1.2 group.2 := by
  intro group isGroup owned apart
  have found := (OrderedMap.lookup_iff (OrderedMap.group_distinct _)).mpr isGroup
  have values := OrderedMap.lookup_group
    (plan.map fun upsert => ((upsert.urn, upsert.proposal.entityKind), upsert)) group.1
  rw [found, Option.getD_some] at values
  have listed := OrderedMap.mem_group_keys.mp (List.mem_map_of_mem isGroup)
  obtain ⟨entry, isEntry, isKey⟩ := List.mem_map.mp listed
  obtain ⟨operation, isOperation, rfl⟩ := List.mem_map.mp isEntry
  dsimp only at isKey
  rw [← isKey] at owned apart ⊢
  obtain ⟨marking, isMarking, isUrn, isKind, marks⟩ :=
    sound.marked operation isOperation owned apart
  refine ⟨marking, ?_, isUrn, marks⟩
  rw [values, OrderedMap.valuesAt, List.mem_map]
  refine ⟨_, List.mem_filter.mpr ⟨List.mem_map_of_mem isMarking, decide_eq_true ?_⟩, rfl⟩
  rw [← isKey, isUrn, isKind]

omit [DecidableEq Extra] in
theorem byEntity_cleared {plan : List (PlannedUpsert Extra)} {trace : List (Entry Real Extra)}
    (cleared : ∀ group ∈ byEntity plan, Cleared setting group.1.1 trace) :
    PlanCleared setting plan trace := by
  intro operation present
  have listed : (operation.urn, operation.proposal.entityKind) ∈ (byEntity plan).map Prod.fst := by
    rw [byEntity, OrderedMap.mem_group_keys, List.map_map]
    exact List.mem_map_of_mem present
  obtain ⟨group, isGroup, isKey⟩ := List.mem_map.mp listed
  have holds := cleared group isGroup
  rw [isKey] at holds
  exact holds

/-- The entities that do not wait for their check are cleared. -/
abbrev Waiting (setting : Setting Real Extra) (plan : List (PlannedUpsert Extra))
    (rest : List ((String × EntityKind) × List (PlannedUpsert Extra)))
    (trace : List (Entry Real Extra)) : Prop :=
  ∀ other ∈ byEntity plan, other ∈ rest ∨ Cleared setting other.1.1 trace

/-- The checks of all entities clear the plan. -/
theorem checkEntities_spec (documented : Documented setting.runtime)
    (isOwner : binding.nonce = setting.runtime.nonce) {plan : List (PlannedUpsert Extra)}
    (sound : PlanSound setting.graph setting.runtime.nonce plan)
    (receipts : List (OperationReceipt Real)) :
    Spec setting (Owed setting due credit known)
      ((byEntity plan).foldlM (checkEntity setting binding receipts) ⟨[], []⟩)
      (fun _ world => PlanCleared setting plan world.trace ∧ Owed setting due credit known world) := by
  have step : ∀ standing group rest, group ∈ byEntity plan → Spec setting
      (fun world => Waiting setting plan (group :: rest) world.trace ∧
        Owed setting due credit known world)
      (checkEntity setting binding receipts standing group)
      (fun _ world => Waiting setting plan rest world.trace ∧
        Owed setting due credit known world) := by
    intro standing group rest present
    have kept : Spec setting (fun world => Waiting setting plan (group :: rest) world.trace ∧
          Owed setting due credit known world)
        (checkEntity setting binding receipts standing group)
        (fun _ world => Waiting setting plan (group :: rest) world.trace ∧
          Cleared setting group.1.1 world.trace ∧ Owed setting due credit known world) := by
      refine Spec.keep ?_ (fun trace waiting more other isOther =>
        (waiting other isOther).imp id fun cleared => cleared.mono more) fun _ => And.left
      exact (checkEntity_spec documented isOwner receipts standing
        (byEntity_sound sound group present)).weaken (fun _ => And.right) fun _ _ => id
    refine kept.ends fun _ world holds => ⟨fun other isOther => ?_, holds.2.2⟩
    rcases holds.1 other isOther with waiting | cleared
    · rcases List.mem_cons.mp waiting with same | later
      · rw [same]
        exact Or.inr holds.2.1
      · exact Or.inl later
    · exact Or.inr cleared
  have loop := Triple.foldlM (fun rest _ world => Waiting setting plan rest world.trace ∧
    Owed setting due credit known world) (byEntity plan) ⟨[], []⟩ step
  refine loop.weaken (fun world owed => ⟨fun _ => Or.inl, owed⟩) fun _ world holds => ?_
  exact ⟨byEntity_cleared fun group isGroup =>
    (holds.1 group isGroup).resolve_left List.not_mem_nil, holds.2⟩

end Checks

section Emission

variable {kind : String} {operation : PlannedUpsert Extra} {binding : SeedBinding Real}

omit [DecidableEq Extra] in
/-- These emissions of a plan are due. -/
def dueOf (kind : String) (operations : List (PlannedUpsert Extra)) : Finset OperationKey :=
  (operations.map (upsertKey kind)).toFinset

omit [DecidableEq Extra] in
theorem dueOf_concat (operations : List (PlannedUpsert Extra)) :
    dueOf kind (operations ++ [operation]) = insert (upsertKey kind operation) (dueOf kind operations) := by
  ext key
  simp [dueOf]

omit [DecidableEq Extra] in
theorem dueOf_erase {rest : List (PlannedUpsert Extra)}
    (distinct : upsertKey kind operation ∉ rest.map (upsertKey kind)) :
    (dueOf kind (operation :: rest)).erase (upsertKey kind operation) = dueOf kind rest := by
  rw [dueOf, List.map_cons, List.toFinset_cons, Finset.erase_insert]
  · rfl
  · rw [List.mem_toFinset]
    exact distinct

omit [DecidableEq Extra] in
theorem dueOf_live {operations : List (PlannedUpsert Extra)} (live : kind ∈ liveReconciliationKinds) :
    ∀ key ∈ dueOf kind operations, IsLive key := by
  intro key inside
  obtain ⟨operation, _, isKey⟩ := List.mem_map.mp (List.mem_toFinset.mp inside)
  rw [← isKey]
  exact live

omit [DecidableEq Extra] in
/-- Distinct idempotency keys give distinct operations. -/
theorem upsertKeys_distinct {operations : List (PlannedUpsert Extra)}
    (distinct : (operations.map (·.idempotencyKey)).Nodup) :
    (operations.map (upsertKey kind)).Nodup := by
  have same : operations.map (·.idempotencyKey) =
      (operations.map (upsertKey kind)).map (·.idempotencyKey) := by
    rw [List.map_map]
    rfl
  rw [same] at distinct
  exact distinct.of_map _

theorem findAspect_exact (expected : Aspect Extra) :
    findAspect expected (some expected) = .applied := by
  rw [findAspect, if_pos rfl]

theorem findAspect_missing {expected : Aspect Extra} {current : Option (Aspect Extra)}
    (missing : current ≠ some expected) : findAspect expected current ≠ .applied := by
  cases current with
  | none => exact nofun
  | some found =>
      have apart : found ≠ expected := fun same => missing (by rw [same])
      rw [findAspect, if_neg apart]
      split
      · exact nofun
      · exact nofun

/-- An emission that returns is credited, and one that raises is recorded. -/
theorem emitOrFail_spec (documented : Documented setting.runtime) {last : Entry Real Extra}
    {finding : Finding} {failure : String → Draft Real} (live : kind ∈ liveReconciliationKinds)
    (owes : upsertKey kind operation ∈ due)
    (allowed : operation.urn ∈ setting.graph.allowedMutationUrns)
    (shown : Shows operation last finding) (missing : finding ≠ .applied)
    (isFailure : ∀ error, (failure error).key = upsertKey kind operation ∧
      (failure error).scenarioId = setting.graph.scenarioId ∧ (failure error).status = .failure) :
    Spec setting (fun world => Cleared setting operation.urn world.trace ∧
        OwedAt setting due credit known last world) (emitOrFail kind operation failure)
      (fun _ => Owed setting (due.erase (upsertKey kind operation))
        (insert (upsertKey kind operation) credit) (known ∪ {operation.urn})) := by
  refine (emit_spec live owes allowed shown missing).bind fun reply => ?_
  cases reply with
  | ok value => exact Triple.pure fun _ => id
  | error error =>
      obtain ⟨isKey, scenario, failed⟩ := isFailure error
      refine (record_failed documented ?_ scenario failed ?_).bind fun _ => Triple.fail
      · rw [isKey]
        exact live
      · rw [isKey]
        exact Finset.mem_insert_self _ _

theorem recordCreation_spec (documented : Documented setting.runtime)
    {plan : List (PlannedUpsert Extra)} {standing : Standing} {owned : List String}
    (live : ∀ key ∈ due, IsLive key) (emitted : operation.urn ∈ known) :
    Spec setting (Owed setting due credit known)
      (recordCreation setting binding plan standing owned operation)
      (fun _ => Owed setting due credit known) := by
  unfold recordCreation
  split
  · exact (record_creation documented live emitted).bind fun _ => Triple.pure fun _ => id
  · exact Triple.pure fun _ => id

/-- One step of the seed takes the first due emission. -/
theorem emitUpsert_spec (documented : Documented setting.runtime)
    {plan rest : List (PlannedUpsert Extra)} {standing : Standing} {progress : SeedProgress}
    (allowed : operation.urn ∈ setting.graph.allowedMutationUrns)
    (distinct : upsertKey "seed" operation ∉ rest.map (upsertKey "seed")) :
    Spec setting (fun world => Cleared setting operation.urn world.trace ∧
        Owed setting (dueOf "seed" (operation :: rest)) ∅ known world)
      (emitUpsert setting binding plan standing progress operation)
      (fun _ => Owed setting (dueOf "seed" rest) ∅ known) := by
  have live : "seed" ∈ liveReconciliationKinds := by decide
  have owes : upsertKey "seed" operation ∈ dueOf "seed" (operation :: rest) :=
    List.mem_toFinset.mpr List.mem_cons_self
  have reads := Spec.keep ((readAspect_spec operation).weaken
    (fun world (holds : Cleared setting operation.urn world.trace ∧
      Owed setting (dueOf "seed" (operation :: rest)) ∅ known world) => holds.2) fun _ _ => id)
    (fun _ cleared => Cleared.mono cleared) fun _ => And.left
  refine Triple.bind reads fun current => ?_
  split
  · next isExact =>
      have grounded : Grounded (seedDraft setting binding operation .skipped
          "ASPECT_SKIPPED_EXACT" (marked "EXACT" "UNCHANGED"))
          ⟨.aspect operation.urn operation.aspect.aspectType, .ok current⟩ :=
        .upsert "seed" rfl (Shows.aspect current) (by
          rw [isExact, findAspect_exact]
          exact List.mem_cons_self)
      refine Triple.bind (Triple.weaken (record_skipped documented rfl rfl grounded)
        (fun _ => And.right) fun _ _ => id) fun _ => Triple.pure fun world owed => ?_
      rw [← dueOf_erase distinct]
      exact owed
  · next missing =>
      refine (emitOrFail_spec documented live owes allowed (Shows.aspect current)
        (findAspect_missing missing) fun error => ⟨rfl, rfl, rfl⟩).bind fun _ => ?_
      rw [dueOf_erase distinct]
      refine Triple.bind (record_success documented rfl rfl live (Finset.mem_insert_self _ _)
        fun inside => distinct (List.mem_toFinset.mp inside)) fun _ => ?_
      refine Triple.bind (recordCreation_spec documented (dueOf_live live)
        (Set.mem_union_right known (Set.mem_singleton operation.urn))) fun owned => ?_
      exact Triple.pure fun world owed =>
        owed.weaken subset_rfl (Finset.empty_subset _) Set.subset_union_left

/-- The loop over a sound plan leaves nothing due. -/
theorem emitUpserts_spec (documented : Documented setting.runtime)
    {plan : List (PlannedUpsert Extra)} {standing : Standing} {ownershipNonce : String}
    (sound : PlanSound setting.graph ownershipNonce plan) (progress : SeedProgress) :
    Spec setting (fun world => PlanCleared setting plan world.trace ∧
        Owed setting (dueOf "seed" plan) ∅ known world)
      (plan.foldlM (emitUpsert setting binding plan standing) progress)
      (fun _ => Owed setting ∅ ∅ ∅) := by
  have step : ∀ progress operation rest, operation ∈ plan → Spec setting
      (fun world => PlanCleared setting plan world.trace ∧
        ((operation :: rest).map (upsertKey "seed")).Nodup ∧
        Owed setting (dueOf "seed" (operation :: rest)) ∅ known world)
      (emitUpsert setting binding plan standing progress operation)
      (fun _ world => PlanCleared setting plan world.trace ∧ (rest.map (upsertKey "seed")).Nodup ∧
        Owed setting (dueOf "seed" rest) ∅ known world) := by
    intro progress operation rest present
    refine Spec.keep ?_ (fun _ cleared more other isOther => (cleared other isOther).mono more)
      fun _ => And.left
    intro world holds
    obtain ⟨cleared, distinct, owed⟩ := holds
    rw [List.map_cons, List.nodup_cons] at distinct
    exact (emitUpsert_spec documented (sound.allowed operation present) distinct.1).ends
      (fun _ world owed => ⟨distinct.2, owed⟩) world ⟨cleared operation present, owed⟩
  exact (Triple.foldlM (fun rest _ world => PlanCleared setting plan world.trace ∧
      (rest.map (upsertKey "seed")).Nodup ∧ Owed setting (dueOf "seed" rest) ∅ known world) plan
    progress step).weaken
    (fun world holds => ⟨holds.1, upsertKeys_distinct sound.distinct, holds.2⟩)
    fun _ world ends => ends.2.2.settled

/-- A sound plan is applied with nothing left due. -/
theorem applySeedPlan_spec (documented : Documented setting.runtime)
    (isOwner : binding.nonce = setting.runtime.nonce) {plan : List (PlannedUpsert Extra)}
    (sound : PlanSound setting.graph setting.runtime.nonce plan) :
    Spec setting (Owed setting ∅ ∅ known) (applySeedPlan setting binding plan)
      (fun _ => Owed setting ∅ ∅ ∅) := by
  have live : "seed" ∈ liveReconciliationKinds := by decide
  refine Triple.bind (Triple.forM_done (fun planned => Owed setting (dueOf "seed" planned) ∅ known)
    plan fun earlier operation _ => ?_) fun _ => ?_
  · rw [dueOf_concat]
    exact record_planned documented live rfl rfl
  refine (read_all documented).bind fun receipts =>
    (checkEntities_spec documented isOwner sound receipts).bind fun standing => ?_
  exact emitUpserts_spec documented sound _

end Emission

section Reconciliation

variable {plan : List (PlannedUpsert Extra)} {pending : OperationReceipt Real}
variable {operation : PlannedUpsert Extra} {binding : SeedBinding Real}

omit [DecidableEq Extra] in
/-- The resolution of a pending receipt has the key of its operation. -/
theorem operationOf_key {nonce kind detailCode : String} {status : ReceiptStatus}
    {metrics : Entries Real} (isOperation : operationOf plan pending = some operation) :
    (pendingDraft setting nonce kind pending status detailCode metrics).key =
      upsertKey kind operation := by
  have names := List.find?_some isOperation
  rw [decide_eq_true_eq] at names
  obtain ⟨isUrn, isAspect, isKey⟩ := names
  rw [Draft.key, pendingDraft, upsertKey, isUrn, isAspect, isKey]

omit [DecidableEq Extra] in
theorem operationOf_urn (isOperation : operationOf plan pending = some operation) :
    pending.entityUrn = some operation.urn := by
  have names := List.find?_some isOperation
  rw [decide_eq_true_eq] at names
  exact names.1

/-- A pending operation is closed by a detail that the last read allows. -/
theorem closePending_spec (documented : Documented setting.runtime) {last : Entry Real Extra}
    {finding : Finding} {nonce kind detailCode after : String} {metrics : Entries Real}
    (isOperation : operationOf plan pending = some operation)
    (shown : Shows operation last finding) (detail : detailCode ∈ skipDetails finding) :
    Spec setting (OwedAt setting ∅ ∅ known last)
      (closePending setting nonce kind pending detailCode after metrics)
      (fun _ => Owed setting ∅ ∅ known) :=
  record_skipped documented rfl rfl (.upsert kind (operationOf_key isOperation) shown detail)

variable [DecidableEq Real]

omit [DecidableEq Real] in
variable (setting) in
/-- Each entity that arrived after a failure is known. -/
abbrev Arrived (known : Set String) (progress : Reconciled) (world : World Real Extra) : Prop :=
  (∀ urn ∈ progress.appliedAfterFailure, urn ∈ known) ∧ Owed setting ∅ ∅ known world

/-- The receipts of the list show what was emitted before they failed. -/
theorem reconcileSeedReceipt_spec (documented : Documented setting.runtime)
    {receipts : List (OperationReceipt Real)} {progress : Reconciled}
    (isPending : pending ∈ receipts) (isSeed : pending.operationKind = "seed")
    (within : shownBy receipts ⊆ known) :
    Spec setting (Arrived setting known progress)
      (reconcileSeedReceipt setting binding plan progress pending) (Arrived setting known) := by
  refine Triple.given fun applied => attempt_gives.bind fun operation =>
    Triple.given fun isPresent => ?_
  have isOperation := present_ok.mp isPresent
  refine (attempt_spec fun _ _ _ => id).bind fun _ => (readAspect_spec operation).bind
    fun current => ?_
  have shown : @Shows Real Extra _ operation _ _ := Shows.aspect current
  split
  · next isApplied =>
      rw [isApplied] at shown
      refine Triple.bind (closePending_spec documented isOperation shown (by decide)) fun _ =>
        Triple.pure fun world owed => ⟨fun urn inside => ?_, owed⟩
      dsimp only at inside
      split at inside
      · next failed =>
          rcases List.mem_cons.mp inside with isUrn | earlier
          · refine within ⟨pending, isPending, ?_, Or.inr ⟨failed, ?_⟩⟩
            · rw [isUrn]
              exact operationOf_urn isOperation
            · rw [isSeed]
              decide
          · exact applied urn earlier
      · exact applied urn inside
  · next isMissing =>
      rw [isMissing] at shown
      exact Triple.bind (closePending_spec documented isOperation shown (by decide)) fun _ =>
        Triple.pure fun world owed => ⟨applied, owed⟩
  · have live : IsLive (pendingDraft setting binding.nonce "seed" pending .reconciliationRequired
        "LIVE_RECONCILIATION_CONFLICT" binding.metrics).key :=
      show "seed" ∈ liveReconciliationKinds by decide
    exact (refuse_required documented live rfl rfl).weaken (fun world => And.left) fun _ _ => id

theorem reconcileSeedReceipts_spec (documented : Documented setting.runtime)
    {receipts : List (OperationReceipt Real)}
    (isSeed : ∀ receipt ∈ receipts, receipt.operationKind = "seed")
    (within : shownBy receipts ⊆ known) :
    Spec setting (Owed setting ∅ ∅ known)
      (receipts.foldlM (reconcileSeedReceipt setting binding plan) ⟨[], 0⟩)
      (Arrived setting known) := by
  have step : ∀ progress, ∀ pending ∈ receipts, Spec setting (Arrived setting known progress)
      (reconcileSeedReceipt setting binding plan progress pending) (Arrived setting known) :=
    fun progress pending isPending =>
      reconcileSeedReceipt_spec documented isPending (isSeed pending isPending) within
  have loop := Triple.foldlM (fun _ => Arrived setting known) receipts ⟨[], 0⟩
    fun progress pending _ isPending => step progress pending isPending
  exact loop.weaken (fun world owed => ⟨nofun, owed⟩) fun _ _ => id

omit [DecidableEq Real] in
theorem reconcileCreation_spec (documented : Documented setting.runtime) {applied : List String}
    {receipts : List (OperationReceipt Real)} (within : ∀ urn ∈ applied, urn ∈ known)
    (group : (String × EntityKind) × List (PlannedUpsert Extra)) :
    Spec setting (Owed setting ∅ ∅ known) (reconcileCreation setting binding applied receipts group)
      (fun _ => Owed setting ∅ ∅ known) := by
  obtain ⟨⟨urn, kind⟩, operations⟩ := group
  unfold reconcileCreation
  dsimp only
  split
  · next isApplied =>
      refine (entityExists_kept urn).bind fun found => ?_
      split
      · refine (marker_kept binding.nonce urn kind).bind fun marked => ?_
        split
        · exact record_creation documented nofun (within urn isApplied.1)
        · exact Triple.pure fun _ => id
      · exact Triple.pure fun _ => id
  · exact Triple.pure fun _ => id

end Reconciliation

section Operation

variable [DecidableEq Real] {plan : List (PlannedUpsert Extra)} {binding : SeedBinding Real}

theorem seedMetadata_spec (documented : Documented setting.runtime) {target : TargetBinding}
    (isOwner : target.ownershipNonce = setting.runtime.nonce) :
    Spec setting (Owed setting ∅ ∅ known) (seedMetadata setting target)
      (fun _ => Owed setting ∅ ∅ ∅) := by
  refine scenarioOperation_spec documented fun pending => ?_
  refine (attestBoth_spec target).bind fun _ => (ask_kept rfl).bind fun _ => ?_
  refine (ask_kept rfl).bind fun repository => (ask_kept rfl).bind fun receipts => ?_
  refine (attempt_spec fun _ _ _ => id).bind fun query => (ask_kept rfl).bind fun plan => ?_
  refine (attempt_spec fun _ _ _ => id).bind fun _ => (buildSeedPlan_spec _).bind fun plan => ?_
  refine Triple.given fun sound => ?_
  rw [isOwner] at sound
  exact applySeedPlan_spec documented isOwner sound

theorem reconcileSeedUnderLock_spec (documented : Documented setting.runtime)
    (target : TargetBinding) (pending : List (OperationReceipt Real)) :
    Spec setting (Owed setting ∅ ∅ (known ∪ shownBy pending))
      (reconcileSeedUnderLock setting binding plan target pending)
      (fun _ => Owed setting ∅ ∅ ∅) := by
  refine (attestBoth_spec target).bind fun _ => attempt_gives.bind fun _ =>
    Triple.given fun isSeed => (attempt_spec fun _ _ _ => id).bind fun _ => ?_
  refine (reconcileSeedReceipts_spec documented (require_ok.mp isSeed) Set.subset_union_right).bind
    fun reconciled => Triple.given fun applied => ?_
  refine (ask_kept rfl).bind fun receipts => (Triple.forM
    (fun _ => Owed setting ∅ ∅ (known ∪ shownBy pending)) (byEntity plan)
    fun group _ _ => reconcileCreation_spec documented applied group).bind fun _ => ?_
  exact Triple.pure fun world => Owed.settled

theorem reconcileSeedMetadata_spec (documented : Documented setting.runtime)
    (target : TargetBinding) :
    Spec setting (Owed setting ∅ ∅ known) (reconcileSeedMetadata setting target)
      (fun _ => Owed setting ∅ ∅ ∅) := by
  refine (ask_kept rfl).bind fun repository => (buildSeedPlan_spec _).bind fun plan =>
    Triple.given fun _ => ?_
  exact scenarioOperation_spec documented fun pending =>
    reconcileSeedUnderLock_spec documented target pending

end Operation

end LineageGuard.Operations
