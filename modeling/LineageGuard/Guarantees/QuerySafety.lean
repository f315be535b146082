import LineageGuard.Guarantees.ResetSafety
import Mathlib.Tactic

/-
This file proves that the upsert of the observed query keeps the ledger of the effects.
-/

namespace LineageGuard.Operations

open Attempt Dialogue Interleaving Sessions Scenario

variable {Real Extra : Type} [DecidableEq Extra] {setting : Setting Real Extra}
variable {due credit : Finset OperationKey} {known : Set String}

section Planning

variable {plan : LiveQueryPlan Extra} {query : QueryEvidence}

omit [DecidableEq Extra] in
theorem firstQuery_allowed (isFirst : firstQuery setting = .ok query) :
    query.queryUrn ∈ setting.graph.allowedMutationUrns := by
  have present := List.mem_of_head? (present_ok.mp isFirst)
  refine mem_allowed.mpr (Or.inr ?_)
  simp only [ExpectedGraph.managedSet, List.mem_cons, List.mem_append]
  exact Or.inr (Or.inr (List.mem_map_of_mem present))

/-- The plan writes each aspect of the query once and its marker first, and its usage is a series. -/
structure QueryPlanSound (query : QueryEvidence) (ownershipNonce : String)
    (plan : LiveQueryPlan Extra) : Prop where
  urn : ∀ upsert ∈ plan.upserts, upsert.urn = query.queryUrn
  distinct : (plan.upserts.map (·.aspectName)).Nodup
  stable : ∀ upsert ∈ plan.stable, upsert.aspect.aspectType ≠ .queryUsageStatistics
  marker : ∀ first, plan.stable.head? = some first → hasMarker ownershipNonce first.aspect = true

omit [DecidableEq Extra] in
theorem buildLiveQueryPlan_sound {ownershipNonce : String} {execution : QueryExecutionPlan}
    {receipt : OperationReceipt Real}
    (planned : buildLiveQueryPlan setting ownershipNonce query execution receipt = .ok plan) :
    QueryPlanSound query ownershipNonce plan := by
  simp only [buildLiveQueryPlan, bind_ok, pure_ok] at planned
  obtain ⟨_, _, timestampMillis, _, _, _, count, _, rfl⟩ := planned
  refine ⟨?_, ?_, ?_, ?_⟩
  · intro upsert present
    rw [LiveQueryPlan.upserts, stableUpserts] at present
    simp only [List.cons_append, List.nil_append, List.mem_cons, List.not_mem_nil, or_false] at present
    rcases present with rfl | rfl | rfl | rfl | rfl <;> rfl
  · show ["queryProperties", "querySubjects", "dataPlatformInstance", "status",
      "queryUsageStatistics"].Nodup
    decide
  · intro upsert present
    simp only [stableUpserts, List.mem_cons, List.not_mem_nil, or_false] at present
    rcases present with rfl | rfl | rfl | rfl <;> intro same <;> cases same
  · intro first isFirst
    rw [stableUpserts, List.head?_cons, Option.some.injEq] at isFirst
    rw [← isFirst]
    exact properties_marked rfl
      fun _ _ => ⟨fun same => (by cases same), fun _ same => (by cases same)⟩

omit [DecidableEq Extra] in
/-- Distinct aspects give distinct operations. -/
theorem aspects_distinct {kind : String} {operations : List (PlannedUpsert Extra)}
    (distinct : (operations.map (·.aspectName)).Nodup) :
    (operations.map (upsertKey kind)).Nodup := by
  have same : (operations.map (·.aspectName)).map some =
      (operations.map (upsertKey kind)).map (·.aspectName) := by
    rw [List.map_map, List.map_map]
    rfl
  have names : ((operations.map (·.aspectName)).map some).Nodup :=
    distinct.map (Option.some_injective _)
  rw [same] at names
  exact names.of_map _

end Planning

section Usage

variable {observed : List (ℤ × Option ℤ)}

theorem foldl_latest (first : ℤ × Option ℤ) (rest : List (ℤ × Option ℤ)) :
    let latest := rest.foldl (fun last next => if last.1 < next.1 then next else last) first
    latest ∈ first :: rest ∧ ∀ found ∈ first :: rest, found.1 ≤ latest.1 := by
  induction rest generalizing first with
  | nil =>
      refine ⟨List.mem_cons_self, fun found present => ?_⟩
      rw [List.mem_singleton.mp present]
      exact le_refl _
  | cons next rest ih =>
      obtain ⟨present, bound⟩ := ih (if first.1 < next.1 then next else first)
      rw [List.foldl_cons]
      split_ifs at present bound ⊢ with later
      · refine ⟨List.mem_cons_of_mem _ present, fun found inside => ?_⟩
        rcases List.mem_cons.mp inside with isFirst | others
        · rw [isFirst]
          exact le_trans (le_of_lt later) (bound next List.mem_cons_self)
        · exact bound found others
      · refine ⟨?_, fun found inside => ?_⟩
        · rcases List.mem_cons.mp present with isFirst | others
          · rw [isFirst]
            exact List.mem_cons_self
          · exact List.mem_cons_of_mem _ (List.mem_cons_of_mem _ others)
        · have started := bound first List.mem_cons_self
          rcases List.mem_cons.mp inside with isFirst | others
          · rw [isFirst]
            exact started
          · rcases List.mem_cons.mp others with isNext | last
            · rw [isNext]
              exact le_trans (not_lt.mp later) started
            · exact bound found (List.mem_cons_of_mem _ last)

/-- The latest usage is observed, and no other has a later timestamp. -/
theorem latestUsage_last {latest : ℤ × Option ℤ} (isLatest : latestUsage observed = some latest) :
    latest ∈ observed ∧ ∀ found ∈ observed, found.1 ≤ latest.1 := by
  cases observed with
  | nil => exact nomatch isLatest
  | cons first rest =>
      rw [latestUsage, Option.some.injEq] at isLatest
      rw [← isLatest]
      exact foldl_latest first rest

variable {plan : LiveQueryPlan Extra}

omit [DecidableEq Extra] in
theorem findUsage_applied (isApplied : findUsage plan observed = .applied) :
    findObserved plan.timestampMillis plan.count observed = .applied := by
  rw [findUsage] at isApplied
  split at isApplied
  · exact nomatch isApplied
  · next timestamp count isLatest =>
      split_ifs at isApplied with same
      rw [findObserved, if_pos ⟨_, (latestUsage_last isLatest).1, same⟩]

omit [DecidableEq Extra] in
theorem findUsage_missing (isMissing : findUsage plan observed = .notApplied) :
    findObserved plan.timestampMillis plan.count observed ≠ .applied := by
  have earlier : ∀ found ∈ observed, found.1 < plan.timestampMillis := by
    rw [findUsage] at isMissing
    split at isMissing
    · next none =>
        cases observed with
        | nil => exact nofun
        | cons first rest => exact nomatch none
    · next timestamp count isLatest =>
        split_ifs at isMissing with same late
        intro found present
        have bound := (latestUsage_last isLatest).2 found present
        simp only [not_or, not_le] at late
        exact lt_of_le_of_lt bound late.1
  rw [findObserved, if_neg, if_pos earlier]
  · exact nofun
  · intro applied
    obtain ⟨found, present, same, _⟩ := applied
    have before := earlier found present
    omega

end Usage

section Emission

variable {binding : QueryBinding Real} {operation : PlannedUpsert Extra}
variable {plan : LiveQueryPlan Extra} {query : QueryEvidence}

theorem skipQueryUpsert_spec (documented : Documented setting.runtime) {last : Entry Real Extra}
    (shown : Shows operation last .applied) :
    Spec setting (OwedAt setting due credit known last) (skipQueryUpsert setting binding operation)
      (fun _ => Owed setting (due.erase (upsertKey "ingest-query" operation)) credit known) := by
  have detail : "ASPECT_SKIPPED_EXACT" ∈ skipDetails .applied := by decide
  exact record_skipped documented rfl rfl (.upsert "ingest-query" rfl shown detail)

theorem refuseQuery_spec (documented : Documented setting.runtime) {Value : Type}
    {after : Value → World Real Extra → Prop} {detailCode error : String} :
    Spec setting (Owed setting due credit known)
      (refuseQuery setting binding operation detailCode error) after :=
  refuse_required documented (show "ingest-query" ∈ liveReconciliationKinds by decide) rfl rfl

theorem checkStable_kept (documented : Documented setting.runtime)
    (operation : PlannedUpsert Extra) :
    Spec setting (Owed setting due credit known) (checkStable setting binding operation)
      (fun _ => Owed setting due credit known) := by
  refine (readAspect_kept operation).bind fun current => ?_
  split
  · exact refuseQuery_spec documented
  · exact Triple.pure fun _ => id

/-- Only an owned query passes. -/
theorem checkExistingQuery_spec (documented : Documented setting.runtime)
    (creation : Option (OperationReceipt Real)) (properties : Option (Aspect Extra)) :
    Spec setting (Owed setting due credit known)
      (checkExistingQuery setting binding plan creation properties)
      (fun _ world => ownsQuery setting binding plan creation properties = true ∧
        Owed setting due credit known world) := by
  unfold checkExistingQuery
  split
  · next owns =>
      exact (Triple.forM (fun _ => Owed setting due credit known) plan.stable
        fun operation _ _ => checkStable_kept documented operation).ends fun _ _ owed => ⟨owns, owed⟩
  · unfold refuseFirst
    split
    · exact refuseQuery_spec documented
    · exact Triple.fail

/-- An emission takes the first due operation. -/
theorem emitQueryUpsert_spec (documented : Documented setting.runtime)
    {rest : List (PlannedUpsert Extra)} {last : Entry Real Extra} {finding : Finding}
    (allowed : operation.urn ∈ setting.graph.allowedMutationUrns)
    (distinct : upsertKey "ingest-query" operation ∉ rest.map (upsertKey "ingest-query"))
    (shown : Shows operation last finding) (missing : finding ≠ .applied) :
    Spec setting (fun world => Cleared setting operation.urn world.trace ∧
        OwedAt setting (dueOf "ingest-query" (operation :: rest)) ∅ known last world)
      (emitQueryUpsert setting binding operation)
      (fun _ => Owed setting (dueOf "ingest-query" rest) ∅ (known ∪ {operation.urn})) := by
  have live : "ingest-query" ∈ liveReconciliationKinds := by decide
  have owes : upsertKey "ingest-query" operation ∈ dueOf "ingest-query" (operation :: rest) :=
    List.mem_toFinset.mpr List.mem_cons_self
  refine (emitOrFail_spec documented live owes allowed shown missing
    fun error => ⟨rfl, rfl, rfl⟩).bind fun _ => ?_
  rw [dueOf_erase distinct]
  exact Triple.ends (record_success documented rfl rfl live (Finset.mem_insert_self _ _)
    fun inside => distinct (List.mem_toFinset.mp inside)) fun _ world owed =>
      owed.weaken subset_rfl (Finset.empty_subset _) subset_rfl

theorem emitStable_spec (documented : Documented setting.runtime) {progress : QueryProgress}
    {index : ℕ} {rest : List (PlannedUpsert Extra)}
    (allowed : operation.urn ∈ setting.graph.allowedMutationUrns)
    (distinct : upsertKey "ingest-query" operation ∉ rest.map (upsertKey "ingest-query")) :
    Spec setting (fun world => Cleared setting operation.urn world.trace ∧
        Owed setting (dueOf "ingest-query" (operation :: rest)) ∅ known world)
      (emitStable setting binding plan progress (operation, index))
      (fun _ => Owed setting (dueOf "ingest-query" rest) ∅ known) := by
  have live : "ingest-query" ∈ liveReconciliationKinds := by decide
  have reads := Spec.keep ((readAspect_spec operation).weaken
    (fun world (holds : Cleared setting operation.urn world.trace ∧
      Owed setting (dueOf "ingest-query" (operation :: rest)) ∅ known world) => holds.2)
    fun _ _ => id) (fun _ cleared => Cleared.mono cleared) fun _ => And.left
  refine Triple.bind reads fun current => ?_
  split
  · next isExact =>
      have shown : @Shows Real Extra _ operation _ _ := Shows.aspect current
      rw [isExact, findAspect_exact] at shown
      rw [isExact]
      refine Triple.bind ((skipQueryUpsert_spec documented shown).weaken (fun _ => And.right)
        fun _ _ => id) fun _ => Triple.pure fun world owed => ?_
      rw [← dueOf_erase distinct]
      exact owed
  · next missing =>
      refine (emitQueryUpsert_spec documented allowed distinct (Shows.aspect current)
        (findAspect_missing missing)).bind fun _ => ?_
      split
      · refine Triple.bind (record_creation documented (dueOf_live live)
          (Set.mem_union_right known (Set.mem_singleton operation.urn))) fun _ => ?_
        exact Triple.pure fun world owed =>
          owed.weaken subset_rfl subset_rfl Set.subset_union_left
      · exact Triple.pure fun world owed =>
          owed.weaken subset_rfl subset_rfl Set.subset_union_left

theorem emitUsage_spec (documented : Documented setting.runtime) {progress : QueryProgress}
    (allowed : plan.usage.urn ∈ setting.graph.allowedMutationUrns) :
    Spec setting (fun world => Cleared setting plan.usage.urn world.trace ∧
        Owed setting (dueOf "ingest-query" [plan.usage]) ∅ known world)
      (emitUsage setting binding plan progress) (fun _ => Owed setting ∅ ∅ ∅) := by
  have asked : Spec setting (Owed setting (dueOf "ingest-query" [plan.usage]) ∅ known)
      (ask (.usage plan.usage.urn)) (fun observed => OwedAt setting
        (dueOf "ingest-query" [plan.usage]) ∅ known ⟨.usage plan.usage.urn, .ok observed⟩) :=
    ask_quiet rfl
  have reads := Spec.keep (asked.weaken
    (fun world (holds : Cleared setting plan.usage.urn world.trace ∧
      Owed setting (dueOf "ingest-query" [plan.usage]) ∅ known world) => holds.2)
    fun _ _ => id) (fun _ cleared => Cleared.mono cleared) fun _ => And.left
  refine Triple.bind reads fun observed => ?_
  have shown : @Shows Real Extra _ plan.usage _ _ := Shows.usage observed plan.isUsage
  split
  · next isApplied =>
      rw [findUsage_applied isApplied] at shown
      exact Triple.bind ((skipQueryUpsert_spec documented shown).weaken (fun _ => And.right)
        fun _ _ => id) fun _ => Triple.pure fun world => Owed.settled
  · next isMissing =>
      exact (emitQueryUpsert_spec documented allowed List.not_mem_nil shown
        (findUsage_missing isMissing)).bind fun _ => Triple.pure fun world => Owed.settled
  · exact (refuseQuery_spec documented).weaken (fun _ holds => holds.2.1) fun _ _ => id

/-- Every upsert of the plan is cleared. -/
abbrev QueryCleared (setting : Setting Real Extra) (plan : LiveQueryPlan Extra)
    (trace : List (Entry Real Extra)) : Prop :=
  ∀ upsert ∈ plan.upserts, Cleared setting upsert.urn trace

variable (setting) in
/-- These upserts and the usage are due and distinct and cleared. -/
abbrev Remaining (known : Set String) (plan : LiveQueryPlan Extra)
    (rest : List (PlannedUpsert Extra × ℕ)) (world : World Real Extra) : Prop :=
  QueryCleared setting plan world.trace ∧
    ((rest.map Prod.fst ++ [plan.usage]).map (upsertKey "ingest-query")).Nodup ∧
    Owed setting (dueOf "ingest-query" (rest.map Prod.fst ++ [plan.usage])) ∅ known world

/-- The loop over the stable aspects leaves the usage due. -/
theorem emitStables_spec (documented : Documented setting.runtime) (progress : QueryProgress)
    (allowed : ∀ upsert ∈ plan.upserts, upsert.urn ∈ setting.graph.allowedMutationUrns) :
    Spec setting (Remaining setting known plan plan.stable.zipIdx)
      (plan.stable.zipIdx.foldlM (emitStable setting binding plan) progress)
      (fun _ => Remaining setting known plan []) := by
  have step : ∀ progress entry rest, entry ∈ plan.stable.zipIdx → Spec setting
      (Remaining setting known plan (entry :: rest)) (emitStable setting binding plan progress entry)
      (fun _ => Remaining setting known plan rest) := by
    intro progress entry rest present
    obtain ⟨operation, index⟩ := entry
    have inside : operation ∈ plan.upserts :=
      List.mem_append_left _ (List.fst_mem_of_mem_zipIdx present)
    refine Spec.keep ?_ (fun _ cleared more other isOther => (cleared other isOther).mono more)
      fun _ => And.left
    intro world holds
    obtain ⟨cleared, distinct, owed⟩ := holds
    rw [List.map_cons, List.cons_append, List.map_cons, List.nodup_cons] at distinct
    exact (emitStable_spec documented (allowed operation inside) distinct.1).ends
      (fun _ world owed => ⟨distinct.2, owed⟩) world ⟨cleared operation inside, owed⟩
  exact Triple.foldlM (fun rest _ => Remaining setting known plan rest) plan.stable.zipIdx progress
    step

/-- An owned query shows the marker. -/
theorem ownsQuery_marker {creation : Option (OperationReceipt Real)}
    {properties : Option (Aspect Extra)} {ownershipNonce : String}
    (sound : QueryPlanSound query ownershipNonce plan)
    (owns : ownsQuery setting binding plan creation properties = true) :
    ∃ found, properties = some found ∧ hasMarker ownershipNonce found = true := by
  rw [ownsQuery, Bool.and_eq_true] at owns
  cases properties with
  | none => exact nomatch owns.2
  | some found =>
      have head := owns.2
      rw [Option.any_some, Bool.and_eq_true, decide_eq_true_eq] at head
      obtain ⟨first, isFirst, isFound⟩ := Option.map_eq_some_iff.mp head.2.symm
      rw [← isFound]
      exact ⟨_, rfl, sound.marker first isFirst⟩

/-- The query is absent or owned when its upserts are emitted. -/
theorem applyQueryPlan_spec (documented : Documented setting.runtime)
    (sound : QueryPlanSound query setting.runtime.nonce plan)
    (allowed : query.queryUrn ∈ setting.graph.allowedMutationUrns)
    (receipts : List (OperationReceipt Real)) :
    Spec setting (Owed setting ∅ ∅ known) (applyQueryPlan setting binding query plan receipts)
      (fun _ => Owed setting ∅ ∅ ∅) := by
  have live : "ingest-query" ∈ liveReconciliationKinds := by decide
  have inside : ∀ upsert ∈ plan.upserts, upsert.urn ∈ setting.graph.allowedMutationUrns := by
    intro upsert present
    rw [sound.urn upsert present]
    exact allowed
  refine Triple.bind (Triple.forM_done
    (fun planned => Owed setting (dueOf "ingest-query" planned) ∅ known) plan.upserts
    fun earlier operation _ => ?_) fun _ => ?_
  · rw [dueOf_concat]
    exact record_planned documented live rfl rfl
  have applies : ∀ progress, Spec setting (fun world =>
        Cleared setting query.queryUrn world.trace ∧
        Owed setting (dueOf "ingest-query" plan.upserts) ∅ known world)
      (plan.stable.zipIdx.foldlM (emitStable setting binding plan) progress >>=
        emitUsage setting binding plan) (fun _ => Owed setting ∅ ∅ ∅) := by
    intro progress
    have usage : plan.usage ∈ plan.upserts :=
      List.mem_append_right _ (List.mem_singleton_self _)
    have loop : Spec setting (Remaining setting known plan plan.stable.zipIdx)
        (plan.stable.zipIdx.foldlM (emitStable setting binding plan) progress)
        (fun _ => Remaining setting known plan []) := emitStables_spec documented progress inside
    refine Triple.weaken (loop.bind fun _ =>
      (emitUsage_spec documented (inside plan.usage usage)).weaken
        (fun world holds => ⟨holds.1 plan.usage usage, holds.2.2⟩) fun _ _ => id)
      (fun world holds => ?_) fun _ _ => id
    refine ⟨fun upsert present => ?_, ?_, ?_⟩
    · rw [sound.urn upsert present]
      exact holds.1
    · rw [List.zipIdx_map_fst]
      exact aspects_distinct sound.distinct
    · rw [List.zipIdx_map_fst]
      exact holds.2
  refine (getAspect_spec query.queryUrn .queryProperties).bind fun properties => ?_
  let read : Entry Real Extra := ⟨.aspect query.queryUrn .queryProperties, .ok properties⟩
  have found : Spec setting
      (OwedAt setting (dueOf "ingest-query" plan.upserts) ∅ known read) (entityExists query.queryUrn)
      (fun found world => read ∈ world.trace ∧ OwedAt setting (dueOf "ingest-query" plan.upserts) ∅
        known ⟨.exists query.queryUrn, .ok found⟩ world) :=
    Spec.keep ((entityExists_spec query.queryUrn).weaken (fun _ => And.left) fun _ _ => id)
      (fun _ present _ => List.mem_append_left _ present) fun world owed => owed.shows
  refine found.bind fun found => ?_
  dsimp only
  split
  · have checked : Spec setting (fun world => read ∈ world.trace ∧ OwedAt setting
          (dueOf "ingest-query" plan.upserts) ∅ known ⟨.exists query.queryUrn, .ok found⟩ world)
        (checkExistingQuery setting binding plan (queryCreation receipts query.queryUrn) properties)
        (fun _ world => read ∈ world.trace ∧ ownsQuery setting binding plan
            (queryCreation receipts query.queryUrn) properties = true ∧
          Owed setting (dueOf "ingest-query" plan.upserts) ∅ known world) := by
      refine Spec.keep ?_ (fun _ present _ => List.mem_append_left _ present) fun _ => And.left
      exact (checkExistingQuery_spec documented _ properties).weaken (fun _ holds => holds.2.1)
        fun _ _ => id
    refine checked.bind fun _ => (applies _).weaken (fun world holds =>
      ⟨fun _ _ => Or.inr ?_, holds.2.2⟩) fun _ _ => id
    obtain ⟨isRead, owns, _⟩ := holds
    obtain ⟨aspect, isAspect, marker⟩ := ownsQuery_marker sound owns
    rw [show read = ⟨.aspect query.queryUrn .queryProperties, .ok properties⟩ from rfl,
      isAspect] at isRead
    exact ⟨.query, .queryProperties, aspect, rfl, isRead, marker⟩
  · next isNew =>
      rw [Bool.not_eq_true, Bool.or_eq_false_iff] at isNew
      refine (applies _).weaken (fun world holds => ⟨fun _ _ => Or.inl ?_, holds.2.1⟩) fun _ _ => id
      have answered := holds.2.shows
      rw [isNew.1] at answered
      exact answered

end Emission

section Operation

variable [DecidableEq Real] {target : TargetBinding}

theorem observe_spec (repository : Repository Real) (receipts : List (OperationReceipt Real))
    (missing : String) :
    Spec setting (Owed setting due credit known) (observe setting target repository receipts missing)
      (fun observed world => firstQuery setting = .ok observed.query ∧
        Owed setting due credit known world) := by
  refine (attempt_spec fun _ _ _ => id).bind fun artifacts => attempt_gives.bind fun query =>
    Triple.given fun isFirst => (ask_kept rfl).bind fun execution => ?_
  refine (attempt_spec fun _ _ _ => id).bind fun observation => (attempt_spec fun _ _ _ => id).bind
    fun ingested => Triple.pure fun world owed => ⟨isFirst, owed⟩

omit [DecidableEq Real] in
theorem planObserved_spec (observed : Observed Real) :
    Spec setting (Owed setting due credit known) (planObserved setting target observed)
      (fun plan world => QueryPlanSound observed.query target.ownershipNonce plan ∧
        Owed setting due credit known world) := by
  refine (ask_kept rfl).bind fun execution => attempt_spec fun plan planned world owed => ?_
  exact ⟨buildLiveQueryPlan_sound planned, owed⟩

theorem emitLiveQueryEvidence_spec (documented : Documented setting.runtime)
    (isOwner : target.ownershipNonce = setting.runtime.nonce) :
    Spec setting (Owed setting ∅ ∅ known) (emitLiveQueryEvidence setting target)
      (fun _ => Owed setting ∅ ∅ ∅) := by
  refine scenarioOperation_spec documented fun pending => ?_
  refine (attestBoth_spec target).bind fun _ => (ask_kept rfl).bind fun _ => ?_
  refine (ask_kept rfl).bind fun receipts => (ask_kept rfl).bind fun repository => ?_
  refine (observe_spec repository receipts _).bind fun observed => Triple.given fun isFirst => ?_
  refine (attempt_spec fun _ _ _ => id).bind fun _ => (planObserved_spec observed).bind fun plan =>
    Triple.given fun sound => (attempt_spec fun _ _ _ => id).bind fun binding => ?_
  rw [isOwner] at sound
  exact applyQueryPlan_spec documented sound (firstQuery_allowed isFirst) receipts

end Operation

section Reconciliation

variable {binding : QueryBinding Real} {plan : LiveQueryPlan Extra} {query : QueryEvidence}
variable {operation : PlannedUpsert Extra} {pending : OperationReceipt Real}
variable {ownershipNonce : String}

/-- The last call shows what the reconciliation finds. -/
theorem findPending_spec (sound : QueryPlanSound query ownershipNonce plan) (inside : operation ∈ plan.upserts) :
    Spec setting (Owed setting due credit known) (findPending plan operation)
      (fun finding world => ∃ last, Shows operation last finding ∧
        OwedAt setting due credit known last world) := by
  unfold findPending
  split
  · next isType =>
      have isUsage : operation = plan.usage := by
        rcases List.mem_append.mp inside with stable | usage
        · exact absurd isType (sound.stable operation stable)
        · exact List.mem_singleton.mp usage
      refine (ask_quiet rfl).bind fun observed => Triple.pure fun world owed => ⟨_, ?_, owed⟩
      refine Shows.usage observed ?_
      rw [isUsage]
      exact plan.isUsage
  · exact (readAspect_spec operation).bind fun current =>
      Triple.pure fun world owed => ⟨_, Shows.aspect current, owed⟩

variable (setting) in
/-- The query is known when its properties arrived after a failure. -/
abbrev Appeared (known : Set String) (query : QueryEvidence) (progress : QueryReconciled)
    (world : World Real Extra) : Prop :=
  (progress.propertiesApplied = true → query.queryUrn ∈ known) ∧ Owed setting ∅ ∅ known world

variable [DecidableEq Real]

theorem reconcileQueryReceipt_spec (documented : Documented setting.runtime)
    {receipts : List (OperationReceipt Real)} {progress : QueryReconciled}
    (sound : QueryPlanSound query ownershipNonce plan) (isPending : pending ∈ receipts)
    (isQuery : pending.operationKind = "ingest-query") (within : shownBy receipts ⊆ known) :
    Spec setting (Appeared setting known query progress)
      (reconcileQueryReceipt setting binding plan progress pending)
      (Appeared setting known query) := by
  refine Triple.given fun applied => attempt_gives.bind fun operation =>
    Triple.given fun isPresent => ?_
  have isOperation := present_ok.mp isPresent
  have inside : operation ∈ plan.upserts :=
    List.mem_reverse.mp (List.mem_of_find?_eq_some isOperation)
  refine (attempt_spec fun _ _ _ => id).bind fun _ => (findPending_spec sound inside).bind
    fun found => Triple.choose fun last => Triple.given fun shown => ?_
  cases found with
  | applied =>
      refine Triple.bind (closePending_spec documented isOperation shown (by decide)) fun _ =>
        Triple.pure fun world owed => ⟨fun appeared => ?_, owed⟩
      rcases Bool.or_eq_true_iff.mp appeared with earlier | now
      · exact applied earlier
      · rw [Bool.and_eq_true, decide_eq_true_eq] at now
        refine within ⟨pending, isPending, ?_, Or.inr ⟨now.1, ?_⟩⟩
        · rw [operationOf_urn isOperation, sound.urn operation inside]
        · rw [isQuery]
          decide
  | notApplied =>
      exact Triple.bind (closePending_spec documented isOperation shown (by decide)) fun _ =>
        Triple.pure fun world owed => ⟨applied, owed⟩
  | conflict =>
      have live : IsLive (pendingDraft setting binding.nonce "ingest-query" pending
          .reconciliationRequired "LIVE_RECONCILIATION_CONFLICT" binding.metrics).key :=
        show "ingest-query" ∈ liveReconciliationKinds by decide
      exact (refuse_required documented live rfl rfl).weaken (fun world => And.left) fun _ _ => id

theorem reconcileQueryReceipts_spec (documented : Documented setting.runtime)
    {receipts : List (OperationReceipt Real)} (sound : QueryPlanSound query ownershipNonce plan)
    (isQuery : ∀ receipt ∈ receipts, receipt.operationKind = "ingest-query")
    (within : shownBy receipts ⊆ known) :
    Spec setting (Owed setting ∅ ∅ known)
      (receipts.foldlM (reconcileQueryReceipt setting binding plan) ⟨false, 0⟩)
      (Appeared setting known query) := by
  have step : ∀ progress, ∀ pending ∈ receipts, Spec setting (Appeared setting known query progress)
      (reconcileQueryReceipt setting binding plan progress pending)
      (Appeared setting known query) :=
    fun progress pending isPending =>
      reconcileQueryReceipt_spec documented sound isPending (isQuery pending isPending) within
  have loop := Triple.foldlM (fun _ => Appeared setting known query) receipts ⟨false, 0⟩
    fun progress pending _ isPending => step progress pending isPending
  exact loop.weaken (fun world owed => ⟨nofun, owed⟩) fun _ _ => id

omit [DecidableEq Real] in
theorem reconcileQueryCreation_spec (documented : Documented setting.runtime)
    {propertiesApplied : Bool} (emitted : propertiesApplied = true → query.queryUrn ∈ known) :
    Spec setting (Owed setting ∅ ∅ known)
      (reconcileQueryCreation setting binding query plan propertiesApplied)
      (fun _ => Owed setting ∅ ∅ known) := by
  refine (ask_kept rfl).bind fun receipts => (getAspect_kept _ _).bind fun properties => ?_
  split
  · next missing => exact record_creation documented (fun _ none => absurd none (Finset.notMem_empty _)) (emitted missing.2.1)
  · exact Triple.pure fun _ => id

theorem reconcileLiveQueryEvidence_spec (documented : Documented setting.runtime)
    (target : TargetBinding) :
    Spec setting (Owed setting ∅ ∅ known) (reconcileLiveQueryEvidence setting target)
      (fun _ => Owed setting ∅ ∅ ∅) := by
  refine (ask_kept rfl).bind fun receipts => (ask_kept rfl).bind fun repository => ?_
  refine (observe_spec repository receipts _).bind fun observed => Triple.given fun isFirst => ?_
  refine (attempt_spec fun _ _ _ => id).bind fun _ => (planObserved_spec observed).bind fun plan =>
    Triple.given fun sound => (attempt_spec fun _ _ _ => id).bind fun binding => ?_
  refine scenarioOperation_spec documented fun pending => (attestBoth_spec target).bind fun _ =>
    attempt_gives.bind fun _ => Triple.given fun isQuery => (attempt_spec fun _ _ _ => id).bind
      fun _ => ?_
  refine (reconcileQueryReceipts_spec documented sound (require_ok.mp isQuery)
    Set.subset_union_right).bind fun reconciled => Triple.given fun appeared => ?_
  exact (reconcileQueryCreation_spec documented appeared).bind fun _ =>
    Triple.pure fun world => Owed.settled

end Reconciliation

end LineageGuard.Operations
