import LineageGuard.Library.OrderedMap
import Mathlib.Data.List.Sort
import Mathlib.Tactic

/-
This file gives the list that keeps one item of each key and is sorted by the keys.
-/

namespace KeyedOrder

variable {Key Item : Type} [LinearOrder Key]

/-- The last item of a key takes the place of the first one. -/
def distinctBy (key : Item → Key) (items : List Item) : List Item :=
  (OrderedMap.ofList (items.map fun item => (key item, item))).map Prod.snd

def sortBy (key : Item → Key) (items : List Item) : List Item :=
  items.insertionSort fun left right => key left ≤ key right

/-- The items come once for each key and in the order of the keys. -/
def orderBy (key : Item → Key) (items : List Item) : List Item :=
  sortBy key (distinctBy key items)

/-- Items of one key are equal. -/
def Consistent (key : Item → Key) (items : List Item) : Prop :=
  ∀ left ∈ items, ∀ right ∈ items, key left = key right → left = right

theorem Consistent.append {key : Item → Key} {first second : List Item}
    (early : Consistent key first) (late : Consistent key second)
    (apart : ∀ left ∈ first, ∀ right ∈ second, key left ≠ key right) :
    Consistent key (first ++ second) := by
  intro left isLeft right isRight same
  rcases List.mem_append.mp isLeft with isLeft | isLeft
  · rcases List.mem_append.mp isRight with isRight | isRight
    · exact early left isLeft right isRight same
    · exact absurd same (apart left isLeft right isRight)
  · rcases List.mem_append.mp isRight with isRight | isRight
    · exact absurd same.symm (apart right isRight left isLeft)
    · exact late left isLeft right isRight same

section Entries

variable {key : Item → Key} {items : List Item}

theorem entries_concat (item : Item) :
    OrderedMap.ofList ((items ++ [item]).map fun item => (key item, item)) =
      OrderedMap.set (OrderedMap.ofList (items.map fun item => (key item, item))) (key item)
        item := by
  rw [OrderedMap.ofList, List.map_append, List.foldl_append]
  rfl

theorem entries_distinct (items : List Item) :
    ((OrderedMap.ofList (items.map fun item => (key item, item))).map Prod.fst).Nodup := by
  induction items using List.reverseRecOn with
  | nil => exact List.nodup_nil
  | append_singleton items item ih =>
      rw [entries_concat]
      exact OrderedMap.set_distinct ih _ _

theorem entries_keys (items : List Item) (wanted : Key) :
    wanted ∈ (OrderedMap.ofList (items.map fun item => (key item, item))).map Prod.fst ↔
      wanted ∈ items.map key := by
  induction items using List.reverseRecOn with
  | nil => rfl
  | append_singleton items item ih =>
      rw [entries_concat, OrderedMap.mem_set_keys, ih, List.map_append, List.mem_append,
        List.map_singleton, List.mem_singleton, or_comm]

/-- Every entry holds an item under its own key. -/
theorem entries_own (items : List Item) :
    ∀ entry ∈ OrderedMap.ofList (items.map fun item => (key item, item)),
      entry.1 = key entry.2 ∧ entry.2 ∈ items := by
  induction items using List.reverseRecOn with
  | nil => exact fun entry present => absurd present List.not_mem_nil
  | append_singleton items item ih =>
      intro entry present
      rw [entries_concat, OrderedMap.set] at present
      have earlier : ∀ entry ∈ OrderedMap.ofList (items.map fun item => (key item, item)),
          entry.1 = key entry.2 ∧ entry.2 ∈ items ++ [item] := fun entry present =>
        ⟨(ih entry present).1, List.mem_append_left _ (ih entry present).2⟩
      split_ifs at present with known
      · obtain ⟨old, isOld, changed⟩ := List.mem_map.mp present
        split_ifs at changed with same
        · rw [← changed]
          exact ⟨rfl, List.mem_append_right _ (List.mem_singleton_self _)⟩
        · rw [← changed]
          exact earlier old isOld
      · rcases List.mem_append.mp present with old | new
        · exact earlier entry old
        · rw [List.mem_singleton.mp new]
          exact ⟨rfl, List.mem_append_right _ (List.mem_singleton_self _)⟩

theorem distinctBy_keys (items : List Item) :
    (distinctBy key items).map key =
      (OrderedMap.ofList (items.map fun item => (key item, item))).map Prod.fst := by
  rw [distinctBy, List.map_map]
  apply List.map_congr_left
  intro entry present
  exact (entries_own items entry present).1.symm

end Entries

section Ordering

variable {key : Item → Key} {items others : List Item}

theorem orderBy_perm (items : List Item) :
    (orderBy key items).Perm (distinctBy key items) := List.perm_insertionSort _ _

theorem mem_items {item : Item} (present : item ∈ orderBy key items) : item ∈ items := by
  obtain ⟨entry, isEntry, rfl⟩ := List.mem_map.mp ((orderBy_perm items).mem_iff.mp present)
  exact (entries_own items entry isEntry).2

theorem mem_keys (items : List Item) (wanted : Key) :
    wanted ∈ (orderBy key items).map key ↔ wanted ∈ items.map key := by
  rw [((orderBy_perm items).map key).mem_iff, distinctBy_keys]
  exact entries_keys items wanted

theorem orderBy_single (items : List Item) : ((orderBy key items).map key).Nodup := by
  rw [((orderBy_perm items).map key).nodup_iff, distinctBy_keys]
  exact entries_distinct items

theorem orderBy_nodup (items : List Item) : (orderBy key items).Nodup :=
  (orderBy_single items).of_map _

theorem orderBy_consistent (items : List Item) : Consistent key (orderBy key items) :=
  fun _ isLeft _ isRight same => List.inj_on_of_nodup_map (orderBy_single items) isLeft isRight same

/-- An item is kept unless another one of its key replaces it. -/
theorem mem_orderBy (consistent : Consistent key items) {item : Item} :
    item ∈ orderBy key items ↔ item ∈ items := by
  constructor
  · exact mem_items
  · intro present
    obtain ⟨kept, isKept, same⟩ := List.mem_map.mp
      ((mem_keys items (key item)).mpr (List.mem_map_of_mem present))
    rwa [← consistent kept (mem_items isKept) item present same]

theorem orderBy_sorted (items : List Item) :
    (orderBy key items).Pairwise fun left right => key left ≤ key right := by
  haveI : Std.Total fun left right : Item => key left ≤ key right :=
    ⟨fun left right => le_total (key left) (key right)⟩
  haveI : IsTrans Item fun left right => key left ≤ key right :=
    ⟨fun _ _ _ before after => le_trans before after⟩
  exact List.pairwise_insertionSort _ _

/-- A list of distinct keys in their order is determined by its items. -/
theorem sorted_unique (sorted : items.Pairwise fun left right => key left ≤ key right)
    (ordered : others.Pairwise fun left right => key left ≤ key right)
    (single : (items.map key).Nodup) (distinct : (others.map key).Nodup)
    (same : ∀ item, item ∈ items ↔ item ∈ others) : items = others := by
  have perm : items.Perm others :=
    (List.perm_ext_iff_of_nodup (single.of_map _) (distinct.of_map _)).mpr same
  refine perm.eq_of_pairwise ?_ sorted ordered
  intro left right isLeft isRight before after
  exact List.inj_on_of_nodup_map single isLeft ((same right).mpr isRight)
    (le_antisymm before after)

/-- Only the items count, not their order or number. -/
theorem orderBy_congr (consistent : Consistent key items)
    (same : ∀ item, item ∈ items ↔ item ∈ others) : orderBy key items = orderBy key others := by
  have other : Consistent key others := fun left isLeft right isRight =>
    consistent left ((same left).mpr isLeft) right ((same right).mpr isRight)
  refine sorted_unique (orderBy_sorted items) (orderBy_sorted others) (orderBy_single items)
    (orderBy_single others) fun item => ?_
  rw [mem_orderBy consistent, mem_orderBy other, same]

/-- An ordered list stays as it is. -/
theorem orderBy_idempotent (items : List Item) :
    orderBy key (orderBy key items) = orderBy key items :=
  sorted_unique (orderBy_sorted _) (orderBy_sorted items) (orderBy_single _)
    (orderBy_single items) fun _ => mem_orderBy (orderBy_consistent items)

end Ordering

end KeyedOrder
