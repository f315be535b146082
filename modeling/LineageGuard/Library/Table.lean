import Mathlib.Tactic

/-
This file gives tables whose rows keep their declared constraints.
-/

namespace Relational

/-- A schema fixes the row checks and the unique constraints of one table. -/
class Schema (Row : Type) where
  check : Row → Prop
  conflict : Row → Row → Prop
  symmetric : ∀ left right, conflict left right → conflict right left
  decidableCheck : DecidablePred check
  decidableConflict : DecidableRel conflict

instance {Row : Type} [Schema Row] (row : Row) : Decidable (Schema.check row) :=
  Schema.decidableCheck row

instance {Row : Type} [Schema Row] (left right : Row) : Decidable (Schema.conflict left right) :=
  Schema.decidableConflict left right

/-- These are the two ways in which a constraint rejects a write. -/
inductive Violation
  | check
  | unique
  deriving DecidableEq, Repr

/-- A table holds no row that a constraint rejects. -/
structure Table (Row : Type) [Schema Row] where
  rows : List Row
  checked : ∀ row ∈ rows, Schema.check row
  distinct : rows.Pairwise fun left right => ¬ Schema.conflict left right

variable {Row : Type} [Schema Row]

def Table.empty : Table Row := ⟨[], by simp, List.Pairwise.nil⟩

instance : Membership Row (Table Row) := ⟨fun table row => row ∈ table.rows⟩

instance (table : Table Row) (kind : Row → Prop) [DecidablePred kind] :
    Decidable (∃ row ∈ table, kind row) := inferInstanceAs (Decidable (∃ row ∈ table.rows, kind row))

theorem Table.mem_rows {table : Table Row} {row : Row} : row ∈ table ↔ row ∈ table.rows := Iff.rfl

/-- A table accepts a list of rows only when every constraint holds. -/
def Table.ofRows (rows : List Row) : Except Violation (Table Row) :=
  if checked : ∀ row ∈ rows, Schema.check row then
    if distinct : rows.Pairwise fun left right => ¬ Schema.conflict left right then
      .ok ⟨rows, checked, distinct⟩
    else .error .unique
  else .error .check

def Table.insert (table : Table Row) (row : Row) : Except Violation (Table Row) :=
  Table.ofRows (table.rows ++ [row])

/-- The update rewrites each selected row and checks the constraints again. -/
def Table.update (table : Table Row) (selected : Row → Bool) (change : Row → Row) :
    Except Violation (Table Row) :=
  Table.ofRows (table.rows.map fun row => if selected row then change row else row)

def Table.find? (table : Table Row) (selected : Row → Bool) : Option Row :=
  table.rows.find? selected

theorem Table.ofRows_ok {rows : List Row} {table : Table Row} :
    Table.ofRows rows = .ok table ↔ table.rows = rows := by
  constructor
  · intro accepted
    unfold Table.ofRows at accepted
    split at accepted
    · split at accepted
      · cases accepted
        rfl
      · cases accepted
    · cases accepted
  · rintro rfl
    unfold Table.ofRows
    rw [dif_pos table.checked, dif_pos table.distinct]

theorem Table.insert_ok {table next : Table Row} {row : Row} :
    table.insert row = .ok next ↔ next.rows = table.rows ++ [row] := Table.ofRows_ok

theorem Table.update_ok {table next : Table Row} {selected : Row → Bool} {change : Row → Row} :
    table.update selected change = .ok next ↔
      next.rows = table.rows.map fun row => if selected row then change row else row :=
  Table.ofRows_ok

/-- An inserted row meets its check and conflicts with no earlier row. -/
theorem Table.insert_fresh {table next : Table Row} {row : Row}
    (inserted : table.insert row = .ok next) :
    Schema.check row ∧ ∀ old ∈ table, ¬ Schema.conflict old row := by
  have rows := Table.insert_ok.mp inserted
  constructor
  · exact next.checked row (by rw [rows]; simp)
  · intro old present
    have distinct := next.distinct
    rw [rows, List.pairwise_append] at distinct
    exact distinct.2.2 old present row (List.mem_singleton_self row)

/-- A row enters a table when its check holds and no old row conflicts with it. -/
theorem Table.insert_of_fresh {table : Table Row} {row : Row} (checked : Schema.check row)
    (fresh : ∀ old ∈ table, ¬ Schema.conflict old row) :
    ∃ next : Table Row, table.insert row = .ok next ∧ next.rows = table.rows ++ [row] := by
  refine ⟨⟨table.rows ++ [row], ?_, ?_⟩, ?_, rfl⟩
  · intro old present
    rcases List.mem_append.mp present with earlier | added
    · exact table.checked old earlier
    · rw [List.mem_singleton.mp added]
      exact checked
  · rw [List.pairwise_append]
    refine ⟨table.distinct, List.pairwise_singleton _ _, ?_⟩
    intro old present added isAdded
    rw [List.mem_singleton.mp isAdded]
    exact fresh old present
  · exact Table.insert_ok.mpr rfl

theorem Table.mem_insert {table next : Table Row} {row : Row}
    (inserted : table.insert row = .ok next) (other : Row) :
    other ∈ next ↔ other ∈ table ∨ other = row := by
  simp only [Table.mem_rows, Table.insert_ok.mp inserted, List.mem_append, List.mem_singleton]

theorem Table.mem_update {table next : Table Row} {selected : Row → Bool} {change : Row → Row}
    (updated : table.update selected change = .ok next) (row : Row) :
    row ∈ next ↔ ∃ old ∈ table, row = if selected old then change old else old := by
  simp only [Table.mem_rows, Table.update_ok.mp updated, List.mem_map]
  constructor
  · rintro ⟨old, present, rfl⟩
    exact ⟨old, present, rfl⟩
  · rintro ⟨old, present, rfl⟩
    exact ⟨old, present, rfl⟩

/-- An update is accepted when its rows meet their checks and it brings no new conflict. -/
theorem Table.update_of_safe {table : Table Row} {selected : Row → Bool} {change : Row → Row}
    (checked : ∀ row ∈ table, selected row = true → Schema.check (change row))
    (apart : ∀ left ∈ table, ∀ right ∈ table,
      Schema.conflict (if selected left then change left else left)
        (if selected right then change right else right) → Schema.conflict left right) :
    ∃ next, table.update selected change = .ok next := by
  refine ⟨⟨_, ?_, ?_⟩, Table.update_ok.mpr rfl⟩
  · intro row present
    obtain ⟨old, isOld, rfl⟩ := List.mem_map.mp present
    split
    · next hit => exact checked old isOld hit
    · exact table.checked old isOld
  · rw [List.pairwise_map]
    exact table.distinct.imp_of_mem fun {left right} isLeft isRight separate clash =>
      separate (apart left isLeft right isRight clash)

/-- Two rows of one table that conflict are the same row. -/
theorem Table.eq_of_conflict {table : Table Row} {left right : Row}
    (leftPresent : left ∈ table) (rightPresent : right ∈ table)
    (clash : Schema.conflict left right) : left = right := by
  by_contra different
  have separate : Std.Symm fun left right : Row => ¬ Schema.conflict left right :=
    ⟨fun _ _ apart back => apart (Schema.symmetric _ _ back)⟩
  exact table.distinct.forall leftPresent rightPresent different clash

/-- A search by a key that the constraints make unique finds exactly the row with that key. -/
theorem Table.find?_eq_some {table : Table Row} {selected : Row → Bool} {row : Row}
    (unique : ∀ left right, selected left = true → selected right = true →
      Schema.conflict left right) :
    table.find? selected = some row ↔ row ∈ table ∧ selected row = true := by
  constructor
  · intro found
    exact ⟨List.mem_of_find?_eq_some found, List.find?_some found⟩
  · rintro ⟨present, hit⟩
    have some : (table.rows.find? selected).isSome := by
      rw [List.find?_isSome]
      exact ⟨row, present, hit⟩
    obtain ⟨other, found⟩ := Option.isSome_iff_exists.mp some
    have same : other = row := Table.eq_of_conflict (List.mem_of_find?_eq_some found) present
      (unique other row (List.find?_some found) hit)
    rw [← same]
    exact found

theorem Table.find?_eq_none {table : Table Row} {selected : Row → Bool} :
    table.find? selected = none ↔ ∀ row ∈ table, selected row = false := by
  simp [Table.find?, Table.mem_rows, List.find?_eq_none]

/-- An inserted row leaves a search alone unless the search meets only the new row. -/
theorem Table.find?_insert {table next : Table Row} {row : Row} {selected : Row → Bool}
    (inserted : table.insert row = .ok next) :
    next.find? selected = (table.find? selected).or (if selected row then some row else none) := by
  simp only [Table.find?, Table.insert_ok.mp inserted, List.find?_append, List.find?_cons,
    List.find?_nil]
  cases selected row <;> rfl

theorem find?_map_if {Item : Type} (rows : List Item) (selected target : Item → Bool)
    (change : Item → Item) (keeps : ∀ row, target (change row) = target row) :
    (rows.map fun row => if selected row then change row else row).find? target =
      (rows.find? target).map fun row => if selected row then change row else row := by
  induction rows with
  | nil => rfl
  | cons row rest ih =>
      have kept : target (if selected row then change row else row) = target row := by
        split
        · exact keeps row
        · rfl
      rw [List.map_cons, List.find?_cons, List.find?_cons, kept]
      cases target row
      · exact ih
      · rfl

/-- An update that keeps the key commutes with the search by that key. -/
theorem Table.find?_update {table next : Table Row} {selected target : Row → Bool}
    {change : Row → Row} (updated : table.update selected change = .ok next)
    (keeps : ∀ row, target (change row) = target row) :
    next.find? target =
      (table.find? target).map fun row => if selected row then change row else row := by
  rw [Table.find?, Table.update_ok.mp updated, find?_map_if _ _ _ _ keeps]
  rfl

/-- A table has grown by rows of one kind alone. -/
def Table.Grown (before after : Table Row) (kind : Row → Prop) : Prop :=
  ∃ added, after.rows = before.rows ++ added ∧ ∀ row ∈ added, kind row

theorem Table.Grown.refl (table : Table Row) (kind : Row → Prop) : table.Grown table kind :=
  ⟨[], by simp, by simp⟩

theorem Table.Grown.of_insert {table next : Table Row} {row : Row} {kind : Row → Prop}
    (inserted : table.insert row = .ok next) (isKind : kind row) : table.Grown next kind :=
  ⟨[row], Table.insert_ok.mp inserted, by simpa using isKind⟩

/-- A selection of rows of another kind ignores the growth. -/
theorem Table.Grown.filter {before after : Table Row} {kind : Row → Prop}
    (grown : before.Grown after kind) {selected : Row → Bool}
    (other : ∀ row, kind row → selected row = false) :
    after.rows.filter selected = before.rows.filter selected := by
  obtain ⟨added, rows, isKind⟩ := grown
  have none : added.filter selected = [] := by
    rw [List.filter_eq_nil_iff]
    intro row present
    simp [other row (isKind row present)]
  rw [rows, List.filter_append, none, List.append_nil]

theorem Table.insert_filter {table next : Table Row} {row : Row} {selected : Row → Bool}
    (inserted : table.insert row = .ok next) (other : selected row = false) :
    next.rows.filter selected = table.rows.filter selected := by
  refine (Table.Grown.of_insert inserted (Eq.refl row)).filter ?_
  rintro _ rfl
  exact other

/-- The selection keeps the row that no later row precedes. -/
def firstBy {Item : Type} (precedes : Item → Item → Bool) : List Item → Option Item
  | [] => none
  | item :: rest =>
      match firstBy precedes rest with
      | none => some item
      | some best => if precedes best item then some best else some item

theorem firstBy_mem {Item : Type} {precedes : Item → Item → Bool} {items : List Item}
    {item : Item} (selected : firstBy precedes items = some item) : item ∈ items := by
  induction items generalizing item with
  | nil => simp [firstBy] at selected
  | cons head rest ih =>
      simp only [firstBy] at selected
      split at selected
      · cases selected
        exact List.mem_cons_self
      · next best found =>
          split at selected
          · cases selected
            exact List.mem_cons_of_mem _ (ih found)
          · cases selected
            exact List.mem_cons_self

theorem firstBy_eq_none {Item : Type} {precedes : Item → Item → Bool} {items : List Item} :
    firstBy precedes items = none ↔ items = [] := by
  cases items with
  | nil => simp [firstBy]
  | cons head rest =>
      simp only [firstBy, reduceCtorEq, iff_false]
      split
      · simp
      · split <;> simp

end Relational
