import LineageGuard.Scenario.Receipts
import Mathlib.Tactic

/-
This file proves which operations a log leaves unresolved.
-/

namespace LineageGuard.Scenario

open Latest

variable {Real : Type} {scenarioId : String} {receipts : List (OperationReceipt Real)}
variable {receipt other : OperationReceipt Real} {key : OperationKey}

/-- The receipt belongs to this operation of the scenario. -/
def isOperation (scenarioId : String) (key : OperationKey) (receipt : OperationReceipt Real) : Bool :=
  receipt.scenarioId = scenarioId && receipt.key = key

/-- The last receipt of the operation is this one. -/
def IsLast (scenarioId : String) (receipts : List (OperationReceipt Real))
    (receipt : OperationReceipt Real) : Prop :=
  ∃ index, latest (isOperation scenarioId receipt.key) receipts = some (index, receipt)

@[simp] theorem isOperation_iff : isOperation scenarioId key receipt = true ↔
    receipt.scenarioId = scenarioId ∧ receipt.key = key := by
  simp [isOperation]

theorem mem_recordLatest {latestReceipts : List (OperationReceipt Real)} :
    other ∈ recordLatest latestReceipts receipt ↔
      other = receipt ∨ (other ∈ latestReceipts ∧ other.key ≠ receipt.key) := by
  rw [recordLatest]
  split
  · next found =>
      rw [List.any_eq_true] at found
      obtain ⟨same, present, isSame⟩ := found
      rw [List.mem_map]
      constructor
      · intro mapped
        obtain ⟨item, member, isItem⟩ := mapped
        split at isItem
        · exact Or.inl isItem.symm
        · next apart =>
            rw [← isItem]
            exact Or.inr ⟨member, apart⟩
      · intro cases
        rcases cases with isReceipt | ⟨member, apart⟩
        · rw [decide_eq_true_eq] at isSame
          exact ⟨same, present, by rw [if_pos isSame, isReceipt]⟩
        · exact ⟨other, member, if_neg apart⟩
  · next none =>
      rw [List.mem_append, List.mem_singleton]
      constructor
      · intro cases
        rcases cases with member | isReceipt
        · refine Or.inr ⟨member, fun same => none ?_⟩
          rw [List.any_eq_true]
          exact ⟨other, member, decide_eq_true same⟩
        · exact Or.inl isReceipt
      · intro cases
        rcases cases with isReceipt | ⟨member, _⟩
        · exact Or.inr isReceipt
        · exact Or.inl member

theorem latestByKey_append : latestByKey scenarioId (receipts ++ [receipt]) =
    if receipt.scenarioId = scenarioId then recordLatest (latestByKey scenarioId receipts) receipt
    else latestByKey scenarioId receipts := by
  rw [latestByKey, List.filter_append, List.foldl_append]
  by_cases same : receipt.scenarioId = scenarioId
  · simp [same, latestByKey]
  · simp [same, latestByKey]

theorem isLast_append : IsLast scenarioId (receipts ++ [receipt]) other ↔
    (receipt.scenarioId = scenarioId ∧ receipt.key = other.key ∧ receipt = other) ∨
      (¬ (receipt.scenarioId = scenarioId ∧ receipt.key = other.key) ∧
        IsLast scenarioId receipts other) := by
  simp only [IsLast, latest_append, isOperation_iff]
  by_cases accepted : receipt.scenarioId = scenarioId ∧ receipt.key = other.key
  · simp [accepted]
  · simp only [accepted, if_false, not_false_eq_true, true_and]
    constructor
    · exact Or.inr
    · intro cases
      rcases cases with ⟨scenario, same, _⟩ | last
      · exact absurd ⟨scenario, same⟩ accepted
      · exact last

theorem mem_latestByKey : other ∈ latestByKey scenarioId receipts ↔
    IsLast scenarioId receipts other := by
  induction receipts using List.reverseRecOn with
  | nil => simp [latestByKey, IsLast, latest]
  | append_singleton receipts receipt ih =>
      rw [latestByKey_append, isLast_append]
      by_cases scenario : receipt.scenarioId = scenarioId
      · rw [if_pos scenario, mem_recordLatest, ih]
        by_cases same : receipt.key = other.key
        · simp only [scenario, same, true_and, not_true_eq_false, false_and, or_false, and_true,
            ne_eq, and_false]
          exact eq_comm
        · have apart : other.key ≠ receipt.key := Ne.symm same
          have different : other ≠ receipt := fun equal => same (by rw [equal])
          simp [scenario, same, apart, different]
      · simp [scenario, ih]

/-- An operation is unresolved exactly when its last receipt is open. -/
theorem mem_unresolved : other ∈ unresolved scenarioId receipts ↔
    IsLast scenarioId receipts other ∧ other.isOpen = true := by
  rw [unresolved, List.mem_filter, mem_latestByKey]

theorem unresolved_append_open (scenario : receipt.scenarioId = scenarioId)
    (isOpen : receipt.isOpen = true) : receipt ∈ unresolved scenarioId (receipts ++ [receipt]) :=
  mem_unresolved.mpr ⟨isLast_append.mpr (Or.inl ⟨scenario, rfl, rfl⟩), isOpen⟩

/-- A receipt of another operation leaves an operation unresolved. -/
theorem unresolved_kept (present : other ∈ unresolved scenarioId receipts)
    (apart : receipt.key ≠ other.key) : other ∈ unresolved scenarioId (receipts ++ [receipt]) := by
  obtain ⟨last, isOpen⟩ := mem_unresolved.mp present
  exact mem_unresolved.mpr
    ⟨isLast_append.mpr (Or.inr ⟨fun same => apart same.2, last⟩), isOpen⟩

end LineageGuard.Scenario
