import LineageGuard.Guarantees.SeedSafety
import Mathlib.Tactic

/-
This file proves that the reset and its reconciliation keep the ledger of the effects.
-/

namespace LineageGuard.Operations

open Attempt Dialogue Interleaving Sessions Scenario

variable {Real Extra : Type} [DecidableEq Extra] {setting : Setting Real Extra}
variable {due credit : Finset OperationKey} {known : Set String}

section Planning

variable [DecidableEq Real] {gate : ResetGate} {binding : TargetBinding} {plan : ResetPlan}
variable {receipts : List (OperationReceipt Real)}

omit [DecidableEq Extra] in
theorem checkCreation_ok {seed : List (PlannedUpsert Extra)} {receipt : OperationReceipt Real}
    {urn : String}
    (checked : checkCreation setting seed receipts binding receipt = .ok urn) :
    receipt.entityUrn = some urn ∧ urn ∈ setting.graph.ownedUrns ∧
      receipt.ownershipNonce = binding.ownershipNonce := by
  simp only [checkCreation, bind_ok, present_ok, require_ok, exists_const, pure_ok,
    Option.filter_eq_some_iff, List.contains_iff_mem] at checked
  obtain ⟨found, ⟨isUrn, owned⟩, nonce, _, _, _, _, same⟩ := checked
  rw [← same]
  exact ⟨isUrn, owned, nonce⟩

/-- A target was created by the scenario and is neither foreign nor a domain. -/
structure TargetSound (setting : Setting Real Extra) (receipts : List (OperationReceipt Real))
    (target : ResetTarget) : Prop where
  owned : target.urn ∈ setting.graph.ownedUrns
  noDomain : isDomainUrn target.urn = false
  nonce : target.ownershipNonce = setting.runtime.nonce
  created : target.urn ∈ shownBy receipts

omit [DecidableEq Extra] in
theorem buildResetPlan_sound (planned : buildResetPlan setting gate receipts binding = .ok plan)
    (isOwner : binding.ownershipNonce = setting.runtime.nonce) :
    ∀ target ∈ plan.targets, TargetSound setting receipts target := by
  simp only [buildResetPlan, bind_ok, require_ok, exists_const, pure_ok] at planned
  obtain ⟨_, _, seed, _, urns, isUrns, _, targets, isTargets, rfl⟩ := planned
  intro target present
  obtain ⟨urn, isListed, isTarget⟩ := forall₂_value (mapM_ok.mp isTargets) target present
  rw [List.mem_filter, List.mem_reverse, List.mem_insertionSort] at isListed
  obtain ⟨isKey, isOther⟩ := isListed
  simp only [resetTarget, bind_ok, present_ok, pure_ok] at isTarget
  obtain ⟨_, _, _, _, rfl⟩ := isTarget
  obtain ⟨entry, isEntry, rfl⟩ := List.mem_map.mp isKey
  have paired := OrderedMap.mem_ofList isEntry
  have checked := List.forall₂_zip (mapM_ok.mp isUrns).flip paired
  obtain ⟨isUrn, owned, _⟩ := checkCreation_ok checked
  have creation := (List.mem_filter.mp (List.of_mem_zip paired).2)
  rw [Bool.and_eq_true] at creation
  refine ⟨owned, ?_, isOwner, entry.2, creation.1, isUrn, Or.inl creation.2.2⟩
  rw [Bool.not_eq_true'] at isOther
  exact isOther

end Planning

section Targets

variable {target : ResetTarget}

variable (setting) in
/-- The last call may show the target. -/
abbrev Looked (due credit : Finset OperationKey) (known : Set String) (target : ResetTarget)
    (shows : Finding → Prop) (world : World Real Extra) : Prop :=
  ∃ last, (∀ finding, shows finding → ShowsTarget target last finding) ∧
    OwedAt setting due credit known last world

theorem isMarked_spec (target : ResetTarget) :
    Spec setting (Owed setting due credit known) (isMarked target)
      (fun marked => Looked setting due credit known target
        fun finding => marked = true ∧ finding = .notApplied) := by
  refine (ask_quiet rfl).bind fun found => ?_
  split
  · refine attempt_gives.bind fun aspectType => Triple.given fun isType => ?_
    refine ((getAspect_spec target.urn aspectType).weaken (fun _ => And.left) fun _ _ => id).bind
      fun current => Triple.pure fun world owed => ⟨_, fun finding marked => ?_, owed⟩
    obtain ⟨isMarked, isFinding⟩ := marked
    rw [isFinding]
    cases current with
    | none => cases isMarked
    | some aspect => exact .marked (present_ok.mp isType) isMarked
  · exact Triple.pure fun world owed => ⟨_, fun finding marked => absurd marked.1 Bool.false_ne_true, owed⟩

theorem deleteTarget_spec (documented : Documented setting.runtime)
    {metrics : Entries Real} {last : Entry Real Extra} (owes : resetKey target ∈ due)
    (owned : target.urn ∈ setting.graph.ownedUrns) (noDomain : isDomainUrn target.urn = false)
    (nonce : target.ownershipNonce = setting.runtime.nonce) (emitted : target.urn ∈ known)
    (shown : ShowsTarget target last .notApplied) :
    Spec setting (OwedAt setting due credit known last) (deleteTarget setting metrics target)
      (fun _ => Owed setting (due.erase (resetKey target)) ∅ known) := by
  have live : IsLive (resetKey target) := show "reset" ∈ liveReconciliationKinds by decide
  refine (delete_spec owes owned noDomain nonce emitted shown).bind fun reply => ?_
  cases reply with
  | ok value =>
      exact Triple.ends (record_success documented rfl rfl live (Finset.mem_insert_self _ credit)
        (Finset.notMem_erase _ due)) fun _ world owed =>
          owed.weaken subset_rfl (Finset.empty_subset _) subset_rfl
  | error error =>
      exact Triple.bind (record_failed documented live rfl rfl (Finset.mem_insert_self _ _))
        fun _ => Triple.fail

/-- A target is planned and then deleted or found removed. -/
theorem executeTarget_spec (documented : Documented setting.runtime) {plan : ResetPlan}
    {deleted : List String} (owned : target.urn ∈ setting.graph.ownedUrns)
    (noDomain : isDomainUrn target.urn = false)
    (nonce : target.ownershipNonce = setting.runtime.nonce) (emitted : target.urn ∈ known) :
    Spec setting (Owed setting ∅ ∅ known) (executeTarget setting plan deleted target)
      (fun _ => Owed setting ∅ ∅ known) := by
  have live : IsLive (resetKey target) := show "reset" ∈ liveReconciliationKinds by decide
  have alreadyDeleted : "ALREADY_DELETED" ∈ skipDetails .applied := by decide
  refine Triple.bind (record_planned documented live rfl rfl) fun _ => ?_
  refine (getAspect_spec target.urn .status).bind fun status => ?_
  split
  · next removed =>
      refine Triple.bind (record_skipped documented rfl rfl
        (.target rfl (.removed removed) alreadyDeleted)) fun _ => Triple.pure fun world owed => ?_
      exact owed.weaken (Finset.empty_subset _) subset_rfl subset_rfl
  · refine ((isMarked_spec target).weaken (fun _ => And.left) fun _ _ => id).bind fun marked => ?_
    refine Triple.choose fun last => Triple.given fun shown => ?_
    split
    · next isMarked =>
        refine Triple.bind (deleteTarget_spec documented (Finset.mem_insert_self _ _) owned noDomain
          nonce emitted (shown .notApplied ⟨isMarked, rfl⟩)) fun _ => Triple.pure fun world owed => ?_
        exact owed.weaken (Finset.empty_subset _) subset_rfl subset_rfl
    · exact Triple.weaken (refuse_required documented live rfl rfl) (fun _ => And.left) fun _ _ => id

theorem findRemoval_spec (target : ResetTarget) :
    Spec setting (Owed setting due credit known) (findRemoval target)
      (fun found => Looked setting due credit known target
        fun finding => found = finding ∧ finding ≠ .conflict) := by
  refine (getAspect_spec target.urn .status).bind fun status => ?_
  split
  · next removed =>
      refine Triple.pure fun world owed => ⟨_, fun finding found => ?_, owed⟩
      rw [← found.1]
      exact .removed removed
  · refine ((isMarked_spec target).weaken (fun _ => And.left) fun _ _ => id).bind fun marked => ?_
    refine Triple.choose fun last => Triple.given fun shown => ?_
    split
    · next isMarked =>
        exact Triple.pure fun world owed => ⟨last, fun finding found =>
          shown finding ⟨isMarked, found.1.symm⟩, owed⟩
    · exact Triple.pure fun world owed => ⟨last, fun finding found => absurd found.1.symm found.2,
        owed⟩

end Targets

section Operation

theorem executeReset_spec (documented : Documented setting.runtime) {plan : ResetPlan}
    {receipts : List (OperationReceipt Real)} (within : shownBy receipts ⊆ known)
    (sound : ∀ target ∈ plan.targets, TargetSound setting receipts target) :
    Spec setting (Owed setting ∅ ∅ known) (executeReset setting plan)
      (fun _ => Owed setting ∅ ∅ ∅) := by
  refine scenarioOperation_spec documented fun pending => ?_
  refine (attestBoth_spec plan.binding).bind fun _ => (ask_kept rfl).bind fun _ => ?_
  have step : ∀ deleted, ∀ target ∈ plan.targets, Spec setting
      (Owed setting ∅ ∅ (known ∪ shownBy pending)) (executeTarget setting plan deleted target)
      (fun _ => Owed setting ∅ ∅ (known ∪ shownBy pending)) :=
    fun deleted target present => executeTarget_spec documented (sound target present).owned
      (sound target present).noDomain (sound target present).nonce
      (Or.inl (within (sound target present).created))
  have loop := Triple.foldlM (fun _ _ => Owed setting ∅ ∅ (known ∪ shownBy pending)) plan.targets []
    fun deleted target _ present => step deleted target present
  exact loop.ends fun _ world => Owed.settled

variable [DecidableEq Real]

theorem reset_spec (documented : Documented setting.runtime) (gate : ResetGate)
    {binding : TargetBinding} (isOwner : binding.ownershipNonce = setting.runtime.nonce) :
    Spec setting (Owed setting ∅ ∅ known) (reset setting gate binding)
      (fun _ => Owed setting ∅ ∅ ∅) := by
  refine (read_earlier documented).bind fun receipts => attempt_gives.bind fun plan =>
    Triple.given fun planned => ?_
  exact executeReset_spec documented Set.subset_union_right (buildResetPlan_sound planned isOwner)

omit [DecidableEq Real] in
theorem closeReset_spec (documented : Documented setting.runtime) {target : ResetTarget}
    {pending : OperationReceipt Real} {last : Entry Real Extra} {finding : Finding}
    {detailCode after : String} {metrics : Entries Real}
    (shown : ShowsTarget target last finding) (detail : detailCode ∈ skipDetails finding) :
    Spec setting (OwedAt setting ∅ ∅ known last)
      (closeReset setting target pending detailCode after metrics)
      (fun _ => Owed setting ∅ ∅ known) :=
  record_skipped documented rfl rfl (.target rfl shown detail)

theorem reconcileTarget_spec (documented : Documented setting.runtime) (plan : ResetPlan)
    (count : ℕ) (pending : OperationReceipt Real) :
    Spec setting (Owed setting ∅ ∅ known) (reconcileTarget setting plan count pending)
      (fun _ => Owed setting ∅ ∅ known) := by
  refine (attempt_spec fun _ _ _ => id).bind fun target => (attempt_spec fun _ _ _ => id).bind
    fun _ => (findRemoval_spec target).bind fun found => Triple.choose fun last =>
      Triple.given fun shown => ?_
  cases found with
  | applied =>
      exact Triple.bind (closeReset_spec documented (shown .applied ⟨rfl, nofun⟩) (by decide))
        fun _ => Triple.pure fun _ => id
  | notApplied =>
      exact Triple.bind (closeReset_spec documented (shown .notApplied ⟨rfl, nofun⟩) (by decide))
        fun _ => Triple.pure fun _ => id
  | conflict =>
      have live : IsLive (resetKey target) := show "reset" ∈ liveReconciliationKinds by decide
      exact Triple.weaken (refuse_required documented live rfl rfl) (fun _ => And.left) fun _ _ => id

theorem reconcileReset_spec (documented : Documented setting.runtime) (gate : ResetGate)
    (binding : TargetBinding) :
    Spec setting (Owed setting ∅ ∅ known) (reconcileReset setting gate binding)
      (fun _ => Owed setting ∅ ∅ ∅) := by
  refine (ask_kept rfl).bind fun receipts => (attempt_spec fun _ _ _ => id).bind fun plan => ?_
  refine scenarioOperation_spec documented fun pending => (attestBoth_spec plan.binding).bind
    fun _ => (attempt_spec fun _ _ _ => id).bind fun _ => (attempt_spec fun _ _ _ => id).bind
      fun _ => ?_
  have loop := Triple.foldlM (fun _ _ => Owed setting ∅ ∅ (known ∪ shownBy pending)) pending 0
    fun count receipt _ _ => reconcileTarget_spec documented plan count receipt
  exact loop.ends fun _ world => Owed.settled

end Operation

end LineageGuard.Operations
