import Mathlib.Tactic

/-
This file gives the orders in which distinct texts may be held for equal and what a stable sort
makes of them.
-/

/-- A collation compares all texts, and it may hold different texts for equal. -/
structure Collation (Text : Type) where
  le : Text → Text → Bool
  total : ∀ left right, (le left right || le right left) = true
  trans : ∀ left middle right, le left middle = true → le middle right = true →
    le left right = true

namespace Collation

variable {Text Item : Type} (collation : Collation Text) (key : Item → Text)

/-- The two texts are held for equal. -/
def Ties (left right : Text) : Prop :=
  collation.le left right = true ∧ collation.le right left = true

/-- Different texts of the list are never held for equal. -/
def TellsApart (texts : List Text) : Prop :=
  ∀ left ∈ texts, ∀ right ∈ texts, collation.Ties left right → left = right

/-- The sort is stable. -/
def sortBy (items : List Item) : List Item :=
  items.mergeSort fun left right => collation.le (key left) (key right)

variable {collation key}

theorem sortBy_perm (items : List Item) : (collation.sortBy key items).Perm items :=
  List.mergeSort_perm _ _

theorem sortBy_pairwise (items : List Item) :
    (collation.sortBy key items).Pairwise fun left right =>
      collation.le (key left) (key right) = true := by
  apply List.pairwise_mergeSort
  · exact fun left middle right => collation.trans (key left) (key middle) (key right)
  · exact fun left right => collation.total (key left) (key right)

theorem sortBy_map {Value : Type} (name : Value → Text) (view : Item → Value) (items : List Item) :
    collation.sortBy name (items.map view) =
      (collation.sortBy (fun item => name (view item)) items).map view := by
  symm
  apply List.map_mergeSort
  exact fun _ _ _ _ => rfl

/-- Items that may stand in this order keep it. -/
theorem sortBy_stable {items : List Item} {left right : Item}
    (ordered : collation.le (key left) (key right) = true)
    (before : [left, right].Sublist items) : [left, right].Sublist (collation.sortBy key items) :=
  List.pair_sublist_mergeSort (fun _ _ _ => collation.trans _ _ _)
    (fun _ _ => collation.total _ _) ordered before

/-- The order of the items does not matter when the collation tells their keys apart. -/
theorem sortBy_unique {first second : List Item} (same : first.Perm second)
    (single : (first.map key).Nodup) (apart : collation.TellsApart (first.map key)) :
    collation.sortBy key first = collation.sortBy key second := by
  have perm : (collation.sortBy key first).Perm (collation.sortBy key second) :=
    (sortBy_perm first).trans (same.trans (sortBy_perm second).symm)
  refine perm.eq_of_pairwise ?_ (sortBy_pairwise first) (sortBy_pairwise second)
  intro left right isLeft isRight before after
  have leftKey := (sortBy_perm first).mem_iff.mp isLeft
  have rightKey := same.mem_iff.mpr ((sortBy_perm second).mem_iff.mp isRight)
  exact List.inj_on_of_nodup_map single leftKey rightKey
    (apart _ (List.mem_map_of_mem leftKey) _ (List.mem_map_of_mem rightKey) ⟨before, after⟩)

/-- Two items that a stable sort holds for equal stand in the order of the list. -/
theorem exists_order {items : List Item} {left right : Item} (isLeft : left ∈ items)
    (isRight : right ∈ items) (differ : left ≠ right) :
    ∃ ordered, ordered.Perm items ∧ [left, right].Sublist ordered := by
  obtain ⟨before, after, rfl⟩ := List.append_of_mem isLeft
  have others : right ∈ before ++ after := by
    simpa [differ.symm] using isRight
  obtain ⟨first, last, split⟩ := List.append_of_mem others
  refine ⟨left :: right :: (first ++ last), ?_, ?_⟩
  · refine (List.Perm.cons left ?_).trans List.perm_middle.symm
    rw [split]
    exact List.perm_middle.symm
  · exact ((List.nil_sublist _).cons_cons right).cons_cons left

end Collation
