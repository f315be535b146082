import LineageGuard.Domain.ShortTexts
import LineageGuard.Domain.SourceAllowlist
import Mathlib.Tactic

/-
This file compares the collation of plain texts with the order of their code units.
-/

namespace LineageGuard.Domain

section Plain

/-- Digits and small letters stand in one row, and capital letters in another one. -/
def sameRow (first second : Char) : Bool :=
  ((first.isDigit || first.isLower) && (second.isDigit || second.isLower)) ||
    (first.isUpper && second.isUpper)

/-- Two plain texts with one start are compared by the next characters when these stand in one
row. -/
def OrdersPlain (collation : Collation String) : Prop :=
  ∀ (common left right : List Char) (first second : Char),
    (∀ char ∈ common ++ first :: left ++ second :: right, isPlain char = true) →
    sameRow first second = true → first.toNat < second.toNat →
    collation.le (String.ofList (common ++ first :: left))
        (String.ofList (common ++ second :: right)) = true ∧
      collation.le (String.ofList (common ++ second :: right))
        (String.ofList (common ++ first :: left)) = false

theorem append_lt {Item : Type} [LinearOrder Item] {first second : Item}
    (common left right : List Item) (before : first < second) :
    common ++ first :: left < common ++ second :: right :=
  List.Lex.append_left _ (List.Lex.rel before) _

/-- The collation of two such texts is the order of their code units. -/
theorem plain_agrees {collation : Collation String} (orders : OrdersPlain collation)
    {common left right : List Char} {first second : Char}
    (plain : ∀ char ∈ common ++ first :: left ++ second :: right, isPlain char = true)
    (row : sameRow first second = true) (differ : first ≠ second)
    (ordered : collation.le (String.ofList (common ++ first :: left))
      (String.ofList (common ++ second :: right)) = true) :
    codeUnits (String.ofList (common ++ first :: left)) ≤
      codeUnits (String.ofList (common ++ second :: right)) := by
  have plainLeft : ∀ char ∈ common ++ first :: left, isPlain char = true :=
    fun char present => plain char (List.mem_append_left _ present)
  have plainRight : ∀ char ∈ common ++ second :: right, isPlain char = true := by
    intro char present
    rcases List.mem_append.mp present with start | rest
    · exact plain char (List.mem_append_left _ (List.mem_append_left _ start))
    · exact plain char (List.mem_append_right _ rest)
  rcases lt_trichotomy first.toNat second.toNat with before | same | after
  · rw [codeUnits_plain plainLeft, codeUnits_plain plainRight, List.map_append, List.map_append]
    exact (append_lt _ _ _ before).le
  · exact absurd (Char.toNat_inj.mp same) differ
  · have swapped : ∀ char ∈ common ++ second :: right ++ first :: left, isPlain char = true := by
      intro char present
      rcases List.mem_append.mp present with one | other
      · exact plainRight char one
      · exact plainLeft char (List.mem_append_right _ other)
    have rowBack : sameRow second first = true := by
      rw [sameRow] at row ⊢
      rwa [Bool.and_comm (second.isDigit || second.isLower), Bool.and_comm second.isUpper]
    rw [(orders common right left second first swapped rowBack after).2] at ordered
    exact absurd ordered Bool.false_ne_true

/-- Two different texts of one length have a first difference. -/
theorem first_difference {Item : Type} {first second : List Item}
    (long : first.length = second.length) (differ : first ≠ second) :
    ∃ common left right one other, first = common ++ one :: left ∧
      second = common ++ other :: right ∧ one ≠ other := by
  induction first generalizing second with
  | nil => exact absurd (List.length_eq_zero_iff.mp long.symm).symm differ
  | cons one left ih =>
      obtain ⟨other, right, rfl⟩ := List.exists_cons_of_length_eq_add_one long.symm
      by_cases same : one = other
      · subst same
        obtain ⟨common, remaining, further, one', other', rfl, rfl, apart⟩ :=
          ih (Nat.succ.inj long) fun equal => differ (equal ▸ rfl)
        exact ⟨one :: common, remaining, further, one', other', rfl, rfl, apart⟩
      · exact ⟨[], left, right, one, other, rfl, rfl, same⟩

end Plain

section Keys

/-- Two keys are plain and differ at first in characters of one row. -/
def DifferPlainly (first second : String) : Prop :=
  ∃ (common left right : List Char) (one other : Char),
    first = String.ofList (common ++ one :: left) ∧
    second = String.ofList (common ++ other :: right) ∧
    (∀ char ∈ common ++ one :: left ++ other :: right, isPlain char = true) ∧
    sameRow one other = true ∧ one ≠ other

theorem DifferPlainly.symm {first second : String} (differ : DifferPlainly first second) :
    DifferPlainly second first := by
  obtain ⟨common, left, right, one, other, isFirst, isSecond, plain, row, apart⟩ := differ
  refine ⟨common, right, left, other, one, isSecond, isFirst, ?_, ?_, apart.symm⟩
  · intro char present
    apply plain
    simp only [List.mem_append, List.mem_cons] at present ⊢
    tauto
  · rw [sameRow] at row ⊢
    rwa [Bool.and_comm (other.isDigit || other.isLower), Bool.and_comm other.isUpper]

theorem DifferPlainly.ne {first second : String} (differ : DifferPlainly first second) :
    first ≠ second := by
  obtain ⟨common, left, right, one, other, rfl, rfl, _, _, apart⟩ := differ
  intro same
  have rest := List.append_cancel_left (String.ofList_inj.mp same)
  exact apart (List.cons.inj rest).1

/-- Keys of this kind have one order, whichever of the two sorts them. -/
theorem sortBy_canonical {Item : Type} {collation : Collation String}
    (orders : OrdersPlain collation) {key : Item → String} {items : List Item}
    (differ : items.Pairwise fun left right => DifferPlainly (key left) (key right)) :
    canonicalIds ((collation.sortBy key items).map key) := by
  have perm := @Collation.sortBy_perm _ _ collation key items
  have apart : (collation.sortBy key items).Pairwise
      fun left right => DifferPlainly (key left) (key right) :=
    (perm.pairwise_iff fun differ => differ.symm).mpr differ
  constructor
  · rw [List.Nodup, List.pairwise_map]
    exact apart.imp fun differ => differ.ne
  · symm
    apply sorted_eq
    rw [List.pairwise_map]
    refine (apart.and (Collation.sortBy_pairwise items)).imp ?_
    rintro left right ⟨⟨common, before, after, one, other, isLeft, isRight, plain, row, unlike⟩,
      ordered⟩
    rw [isLeft, isRight] at ordered ⊢
    exact plain_agrees orders plain row unlike ordered

end Keys

section Locale

theorem primaryWeight_small {char : Char} (small : (char.isDigit || char.isLower) = true) :
    primaryWeight char = char.toNat := by
  have bounds : char.toNat ≤ 57 ∨ 97 ≤ char.toNat := by
    rw [Bool.or_eq_true] at small
    delta Char.isDigit Char.isLower at small
    simp only [Bool.and_eq_true, decide_eq_true_eq] at small
    rcases small with digit | lower
    · exact Or.inl (UInt32.le_iff_toNat_le.mp digit.2)
    · exact Or.inr (UInt32.le_iff_toNat_le.mp lower.1)
  apply primaryWeight_other
  · rw [Bool.eq_false_iff]
    intro upper
    have range : char.val ≥ 'A'.val ∧ char.val ≤ 'Z'.val := by
      delta Char.isUpper at upper
      simpa using upper
    have least : 65 ≤ char.toNat := UInt32.le_iff_toNat_le.mp range.1
    have most : char.toNat ≤ 90 := UInt32.le_iff_toNat_le.mp range.2
    omega
  · rintro rfl
    revert bounds
    decide

theorem primaryWeight_row {first second : Char} (row : sameRow first second = true)
    (before : first.toNat < second.toNat) : primaryWeight first < primaryWeight second := by
  simp only [sameRow, Bool.or_eq_true, Bool.and_eq_true] at row
  rcases row with ⟨firstSmall, secondSmall⟩ | ⟨firstUpper, secondUpper⟩
  · rw [primaryWeight_small (Bool.or_eq_true _ _ ▸ firstSmall),
      primaryWeight_small (Bool.or_eq_true _ _ ▸ secondSmall)]
    exact before
  · rw [primaryWeight_upper firstUpper, primaryWeight_upper secondUpper]
    omega

/-- The collation of the schemas orders plain texts. -/
theorem localeCollation_plain : OrdersPlain localeCollation := by
  intro common left right first second _ row before
  have weights : (common ++ first :: left).map primaryWeight <
      (common ++ second :: right).map primaryWeight := by
    rw [List.map_append, List.map_append]
    exact append_lt _ _ _ (primaryWeight_row row before)
  constructor
  · refine localeLe_iff.mpr (Or.inl ?_)
    rwa [String.toList_ofList, String.toList_ofList]
  · rw [Bool.eq_false_iff]
    intro ordered
    have back := localeLe_iff.mp ordered
    rw [String.toList_ofList, String.toList_ofList] at back
    rcases back with after | ⟨same, _⟩
    · exact lt_asymm weights after
    · exact weights.ne same.symm

end Locale

end LineageGuard.Domain
