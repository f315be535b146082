import Mathlib.Tactic

/-
This file gives maps that keep their keys in the order of their insertion.
-/

namespace OrderedMap

variable {Key Value : Type} [DecidableEq Key]

/-- A key keeps its place when its value changes. -/
def set (entries : List (Key × Value)) (key : Key) (value : Value) : List (Key × Value) :=
  if key ∈ entries.map Prod.fst then
    entries.map fun entry => if entry.1 = key then (key, value) else entry
  else entries ++ [(key, value)]

def ofList (items : List (Key × Value)) : List (Key × Value) :=
  items.foldl (fun entries item => set entries item.1 item.2) []

/-- A repeated member of a set stands at its first place. -/
def members (items : List Key) : List Key := items.reverse.dedup.reverse

theorem foldl_set {items entries : List (Key × Value)}
    (distinct : ((entries ++ items).map Prod.fst).Nodup) :
    items.foldl (fun entries item => set entries item.1 item.2) entries = entries ++ items := by
  induction items generalizing entries with
  | nil => rw [List.foldl_nil, List.append_nil]
  | cons item rest ih =>
      have fresh : item.1 ∉ entries.map Prod.fst := by
        rw [List.map_append, List.map_cons] at distinct
        exact fun present => List.disjoint_of_nodup_append distinct present List.mem_cons_self
      rw [List.append_cons] at distinct ⊢
      rw [List.foldl_cons, set, if_neg fresh, ih distinct]

/-- A map of distinct keys holds its entries as they come. -/
theorem ofList_eq {items : List (Key × Value)} (distinct : (items.map Prod.fst).Nodup) :
    ofList items = items := by
  rw [ofList, foldl_set (by rwa [List.nil_append]), List.nil_append]

theorem lookup_iff {entries : List (Key × Value)} (distinct : (entries.map Prod.fst).Nodup)
    {key : Key} {value : Value} : entries.lookup key = some value ↔ (key, value) ∈ entries := by
  induction entries with
  | nil => simp
  | cons entry rest ih =>
      obtain ⟨first, found⟩ := entry
      rw [List.map_cons, List.nodup_cons] at distinct
      by_cases same : key = first
      · subst same
        have absent : (key, value) ∉ rest := by
          intro present
          exact distinct.1 (List.mem_map.mpr ⟨_, present, rfl⟩)
        simp [absent, eq_comm]
      · have other : (key == first) = false := beq_eq_false_iff_ne.mpr same
        rw [List.lookup_cons, other, List.mem_cons, Prod.mk.injEq]
        simp [same, ih distinct.2]

theorem lookup_none {entries : List (Key × Value)} {key : Key} :
    entries.lookup key = none ↔ key ∉ entries.map Prod.fst := by
  rw [List.lookup_eq_none_iff]
  simp only [List.mem_map, not_exists, not_and]
  constructor
  · intro none entry present same
    have other := none entry present
    rw [same, bne_self_eq_false] at other
    exact nomatch other
  · intro absent entry present
    exact bne_iff_ne.mpr fun same => absent entry present same.symm

/-- The keys that come with another value or are gone are those where the two maps differ. -/
theorem mem_changed {Seen : Type} (view : Value → Seen) {before after : List (Key × Value)}
    (distinct : (after.map Prod.fst).Nodup) {key : Key} :
    ((∃ value, (key, value) ∈ after ∧ (before.lookup key).map view ≠ some (view value)) ∨
      (key ∈ before.map Prod.fst ∧ key ∉ after.map Prod.fst)) ↔
      (before.lookup key).map view ≠ (after.lookup key).map view := by
  cases found : after.lookup key with
  | none =>
      have absent := lookup_none.mp found
      have none : ∀ value, (key, value) ∉ after := fun value present =>
        absent (List.mem_map.mpr ⟨_, present, rfl⟩)
      simp only [none, false_and, exists_false, false_or, absent, not_false_eq_true, and_true,
        Option.map_none, ne_eq, Option.map_eq_none_iff, lookup_none, not_not]
  | some value =>
      have present := (lookup_iff distinct).mp found
      have listed : key ∈ after.map Prod.fst := List.mem_map.mpr ⟨_, present, rfl⟩
      simp only [listed, not_true_eq_false, and_false, or_false, Option.map_some]
      constructor
      · rintro ⟨other, isOther, differs⟩
        rwa [Option.some.inj (found.symm.trans ((lookup_iff distinct).mpr isOther))]
      · intro differs
        exact ⟨value, present, differs⟩

theorem mem_members {items : List Key} {key : Key} : key ∈ members items ↔ key ∈ items := by
  rw [members, List.mem_reverse, List.mem_dedup, List.mem_reverse]

/-- A set is as long as its list exactly when no item is repeated. -/
theorem members_length {items : List Key} :
    (members items).length = items.length ↔ items.Nodup := by
  rw [members, List.length_reverse, ← @List.length_reverse _ items, ← List.nodup_reverse]
  constructor
  · intro long
    rw [← (List.dedup_sublist items.reverse).eq_of_length long]
    exact List.nodup_dedup _
  · intro distinct
    rw [distinct.dedup]

theorem set_keys (entries : List (Key × Value)) (key : Key) (value : Value) :
    (set entries key value).map Prod.fst =
      if key ∈ entries.map Prod.fst then entries.map Prod.fst
      else entries.map Prod.fst ++ [key] := by
  rw [set]
  split_ifs with present
  · rw [List.map_map]
    apply List.map_congr_left
    intro entry _
    show (if entry.1 = key then (key, value) else entry).1 = entry.1
    split_ifs with same
    · exact same.symm
    · rfl
  · rw [List.map_append, List.map_singleton]

theorem set_distinct {entries : List (Key × Value)} (distinct : (entries.map Prod.fst).Nodup)
    (key : Key) (value : Value) : ((set entries key value).map Prod.fst).Nodup := by
  rw [set_keys]
  split_ifs with present
  · exact distinct
  · rw [List.nodup_append]
    refine ⟨distinct, List.nodup_singleton key, ?_⟩
    intro first isFirst last isLast same
    rw [same, List.mem_singleton.mp isLast] at isFirst
    exact present isFirst

theorem mem_set_keys {entries : List (Key × Value)} {key other : Key} {value : Value} :
    other ∈ (set entries key value).map Prod.fst ↔ other = key ∨ other ∈ entries.map Prod.fst := by
  rw [set_keys]
  split_ifs with present
  · constructor
    · exact Or.inr
    · rintro (rfl | found)
      · exact present
      · exact found
  · rw [List.mem_append, List.mem_singleton, or_comm]

theorem ofList_concat (items : List (Key × Value)) (item : Key × Value) :
    ofList (items ++ [item]) = set (ofList items) item.1 item.2 := by
  rw [ofList, List.foldl_append]
  rfl

theorem mem_ofList_keys {items : List (Key × Value)} {key : Key} :
    key ∈ (ofList items).map Prod.fst ↔ key ∈ items.map Prod.fst := by
  induction items using List.reverseRecOn with
  | nil => rfl
  | append_singleton items item ih =>
      rw [ofList_concat, mem_set_keys, ih, List.map_append, List.mem_append, List.map_singleton,
        List.mem_singleton, or_comm]

/-- A map holds no other entries than its items. -/
theorem mem_ofList {items : List (Key × Value)} {entry : Key × Value}
    (present : entry ∈ ofList items) : entry ∈ items := by
  induction items using List.reverseRecOn generalizing entry with
  | nil => exact present
  | append_singleton items item ih =>
      rw [ofList_concat, set] at present
      split_ifs at present with known
      · obtain ⟨old, isOld, changed⟩ := List.mem_map.mp present
        split_ifs at changed with same
        · rw [← changed]
          exact List.mem_append_right _ (List.mem_singleton_self _)
        · rw [← changed]
          exact List.mem_append_left _ (ih isOld)
      · rcases List.mem_append.mp present with old | new
        · exact List.mem_append_left _ (ih old)
        · exact List.mem_append_right _ new

theorem ofList_distinct (items : List (Key × Value)) : ((ofList items).map Prod.fst).Nodup := by
  induction items using List.reverseRecOn with
  | nil => exact List.nodup_nil
  | append_singleton items item ih =>
      rw [ofList_concat]
      exact set_distinct ih _ _

theorem lookup_set {entries : List (Key × Value)} (distinct : (entries.map Prod.fst).Nodup)
    (key other : Key) (value : Value) :
    (set entries key value).lookup other = if other = key then some value
      else entries.lookup other := by
  have single := set_distinct distinct key value
  have kept : ∀ found, other ≠ key → ((other, found) ∈ set entries key value ↔
      (other, found) ∈ entries) := by
    intro found differs
    rw [set]
    split_ifs with present
    · rw [List.mem_map]
      constructor
      · rintro ⟨entry, isEntry, changed⟩
        split_ifs at changed with same
        · exact absurd (Prod.mk.inj changed).1.symm differs
        · exact changed ▸ isEntry
      · exact fun isEntry => ⟨_, isEntry, if_neg differs⟩
    · rw [List.mem_append, List.mem_singleton, Prod.mk.injEq]
      simp [differs]
  split_ifs with same
  · subst same
    rw [lookup_iff single, set]
    split_ifs with present
    · obtain ⟨entry, isEntry, isKey⟩ := List.mem_map.mp present
      exact List.mem_map.mpr ⟨entry, isEntry, if_pos isKey⟩
    · exact List.mem_append_right _ (List.mem_singleton_self _)
  · apply Option.ext
    intro found
    rw [lookup_iff single, lookup_iff distinct, kept found same]

/-- The values of each key are collected under it, in the order of the items. -/
def group (items : List (Key × Value)) : List (Key × List Value) :=
  items.foldl (fun groups item =>
    set groups item.1 ((groups.lookup item.1).getD [] ++ [item.2])) []

def valuesAt (items : List (Key × Value)) (key : Key) : List Value :=
  (items.filter fun item => item.1 = key).map Prod.snd

theorem group_concat (items : List (Key × Value)) (item : Key × Value) :
    group (items ++ [item]) =
      set (group items) item.1 (((group items).lookup item.1).getD [] ++ [item.2]) := by
  rw [group, List.foldl_append]
  rfl

theorem group_distinct (items : List (Key × Value)) : ((group items).map Prod.fst).Nodup := by
  induction items using List.reverseRecOn with
  | nil => exact List.nodup_nil
  | append_singleton items item ih =>
      rw [group_concat]
      exact set_distinct ih _ _

theorem mem_group_keys {items : List (Key × Value)} {key : Key} :
    key ∈ (group items).map Prod.fst ↔ key ∈ items.map Prod.fst := by
  induction items using List.reverseRecOn with
  | nil => rfl
  | append_singleton items item ih =>
      rw [group_concat, mem_set_keys, ih, List.map_append, List.mem_append, List.map_singleton,
        List.mem_singleton, or_comm]

/-- A key of the items leads to all its values. -/
theorem lookup_group (items : List (Key × Value)) (key : Key) :
    ((group items).lookup key).getD [] = valuesAt items key := by
  induction items using List.reverseRecOn with
  | nil => rfl
  | append_singleton items item ih =>
      rw [group_concat, lookup_set (group_distinct items), valuesAt, List.filter_append,
        List.map_append, ← valuesAt, ← ih]
      by_cases same : item.1 = key
      · rw [if_pos same.symm, same]
        simp [same]
      · rw [if_neg (Ne.symm same)]
        simp [same]

end OrderedMap
