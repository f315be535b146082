import LineageGuard.Library.Collation
import LineageGuard.Library.Json
import Mathlib.Data.List.Perm.Basic
import Mathlib.Tactic

/-
This file gives the values of a script with any finite numbers, their canonical text and the
equality of two values up to the order of their members.
-/

namespace Json

/-- An object keeps its members in their order. -/
inductive JsonValue (Number : Type)
  | null
  | bool (value : Bool)
  | number (value : Number)
  | string (text : String)
  | array (items : List (JsonValue Number))
  | object (members : List (String × JsonValue Number))

/-- A number stands for all numbers with the same text, which starts with a digit or a sign. -/
structure NumberWriter (Number : Type) where
  write : Number → List Char
  filled : ∀ value, write value ≠ []
  leads : ∀ value, ∀ char ∈ (write value).head?, char.isDigit = true ∨ char = '-'
  undelimited : ∀ value, ∀ char ∈ write value, char ∉ delimiters
  injective : Function.Injective write

namespace JsonValue

variable {Number : Type}

section Writing

variable (numbers : NumberWriter Number)

mutual

/-- This is the text of a value whose members stay in their order. -/
def text : JsonValue Number → List Char
  | .null => ['n', 'u', 'l', 'l']
  | .bool true => ['t', 'r', 'u', 'e']
  | .bool false => ['f', 'a', 'l', 's', 'e']
  | .number value => numbers.write value
  | .string content => quote content
  | .array items => '[' :: commaJoin (itemTexts items) ++ [']']
  | .object members => '\x7b' :: commaJoin (memberTexts members) ++ ['\x7d']

def itemTexts : List (JsonValue Number) → List (List Char)
  | [] => []
  | item :: rest => text item :: itemTexts rest

def memberTexts : List (String × JsonValue Number) → List (List Char)
  | [] => []
  | (key, value) :: rest => (quote key ++ ':' :: text value) :: memberTexts rest

end

theorem itemTexts_eq (items : List (JsonValue Number)) :
    itemTexts numbers items = items.map (text numbers) := by
  induction items with
  | nil => rfl
  | cons item rest ih => rw [itemTexts, ih, List.map_cons]

def memberText (member : String × JsonValue Number) : List Char :=
  quote member.1 ++ ':' :: text numbers member.2

theorem memberTexts_eq (members : List (String × JsonValue Number)) :
    memberTexts numbers members = members.map (memberText numbers) := by
  induction members with
  | nil => rfl
  | cons member rest ih => rw [memberTexts, ih, List.map_cons, memberText]

end Writing

section Reading

variable {numbers : NumberWriter Number}

/-- The first character of a text tells the kind of its value. -/
def kind : JsonValue Number → ℕ
  | .null => 0
  | .bool _ => 1
  | .number _ => 2
  | .string _ => 3
  | .array _ => 4
  | .object _ => 5

theorem text_lead (value : JsonValue Number) : ∃ char rest, text numbers value = char :: rest ∧
    leadKind char = kind value ∧ char ∉ delimiters := by
  cases value with
  | null => exact ⟨_, _, rfl, rfl, by decide⟩
  | bool flag => cases flag <;> exact ⟨_, _, rfl, rfl, by decide⟩
  | number value =>
      obtain ⟨char, rest, shape⟩ := List.exists_cons_of_ne_nil (numbers.filled value)
      refine ⟨char, rest, by rw [text, shape], leadKind_digit (numbers.leads value char ?_),
        numbers.undelimited value char ?_⟩
      · rw [shape]
        rfl
      · rw [shape]
        exact List.mem_cons_self
  | string content => exact ⟨_, _, rfl, rfl, by decide⟩
  | array items => exact ⟨_, _, rfl, rfl, by decide⟩
  | object members => exact ⟨_, _, rfl, rfl, by decide⟩

theorem kind_eq {first second : JsonValue Number} {left right : List Char}
    (same : text numbers first ++ left = text numbers second ++ right) :
    kind first = kind second := by
  obtain ⟨char, rest, shape, leads, _⟩ := @text_lead _ numbers first
  obtain ⟨other, remaining, otherShape, otherLeads, _⟩ := @text_lead _ numbers second
  rw [shape, otherShape, List.cons_append, List.cons_append, List.cons.injEq] at same
  rw [← leads, ← otherLeads, same.1]

variable (numbers)

/-- No other value starts a delimited text with the text of this one. -/
def Single (value : JsonValue Number) : Prop :=
  ∀ found left right, Delimited left → Delimited right →
    text numbers value ++ left = text numbers found ++ right → value = found ∧ left = right

theorem null_single : Single numbers .null := by
  intro found left right _ _ same
  have kinds := kind_eq same
  cases found with
  | null => exact ⟨rfl, by simpa [text] using same⟩
  | _ => simp [kind] at kinds

theorem bool_single (flag : Bool) : Single numbers (.bool flag) := by
  intro found left right _ _ same
  have kinds := kind_eq same
  cases found with
  | bool other => cases flag <;> cases other <;> simp_all [text]
  | _ => simp [kind] at kinds

theorem number_single (value : Number) : Single numbers (.number value) := by
  intro found left right isLeft isRight same
  have kinds := kind_eq same
  cases found with
  | number other =>
      obtain ⟨texts, rests⟩ := undelimited_split same (numbers.undelimited value)
        (numbers.undelimited other) isLeft isRight
      exact ⟨by rw [numbers.injective texts], rests⟩
  | _ => simp [kind] at kinds

theorem string_single (content : String) : Single numbers (.string content) := by
  intro found left right isLeft isRight same
  have kinds := kind_eq same
  cases found with
  | string other =>
      obtain ⟨rfl, rests⟩ := quote_inj same
      exact ⟨rfl, rests⟩
  | _ => simp [kind] at kinds

theorem array_single {items : List (JsonValue Number)}
    (single : ∀ item ∈ items, Single numbers item) : Single numbers (.array items) := by
  intro found left right isLeft isRight same
  have kinds := kind_eq same
  cases found with
  | array others =>
      simp only [text, itemTexts_eq, List.cons_append, List.append_assoc, List.cons.injEq,
        true_and] at same
      obtain ⟨rfl, rests⟩ := commaJoin_inj (by decide) (by decide) single
        (fun item => by
          obtain ⟨char, rest, shape, _, undelimited⟩ := @text_lead _ numbers item
          exact ⟨char, rest, shape, undelimited⟩) same
      exact ⟨rfl, rests⟩
  | _ => simp [kind] at kinds

theorem memberText_single {member : String × JsonValue Number} (single : Single numbers member.2)
    (found : String × JsonValue Number) (left right : List Char) (isLeft : Delimited left)
    (isRight : Delimited right)
    (same : memberText numbers member ++ left = memberText numbers found ++ right) :
    member = found ∧ left = right := by
  rw [memberText, memberText, List.append_assoc, List.append_assoc] at same
  obtain ⟨keys, rest⟩ := quote_inj same
  rw [List.cons_append, List.cons_append, List.cons.injEq] at rest
  obtain ⟨values, rests⟩ := single _ _ _ isLeft isRight rest.2
  exact ⟨Prod.ext keys values, rests⟩

theorem object_single {members : List (String × JsonValue Number)}
    (single : ∀ member ∈ members, Single numbers member.2) : Single numbers (.object members) := by
  intro found left right isLeft isRight same
  have kinds := kind_eq same
  cases found with
  | object others =>
      simp only [text, memberTexts_eq, List.cons_append, List.append_assoc, List.cons.injEq,
        true_and] at same
      obtain ⟨rfl, rests⟩ := commaJoin_inj (by decide) (by decide) (fun member present =>
        memberText_single numbers (single member present)) (fun member => ⟨'"', _, rfl, by decide⟩)
        same
      exact ⟨rfl, rests⟩
  | _ => simp [kind] at kinds

mutual

theorem single : ∀ value : JsonValue Number, Single numbers value
  | .null => null_single numbers
  | .bool flag => bool_single numbers flag
  | .number value => number_single numbers value
  | .string content => string_single numbers content
  | .array items => array_single numbers (items_single items)
  | .object members => object_single numbers (members_single members)

theorem items_single : ∀ items : List (JsonValue Number), ∀ item ∈ items, Single numbers item
  | [], item, present => absurd present List.not_mem_nil
  | first :: rest, item, present => by
      rcases List.mem_cons.mp present with same | later
      · rw [same]
        exact single first
      · exact items_single rest item later

theorem members_single :
    ∀ members : List (String × JsonValue Number), ∀ member ∈ members, Single numbers member.2
  | [], member, present => absurd present List.not_mem_nil
  | (key, value) :: rest, member, present => by
      rcases List.mem_cons.mp present with same | later
      · rw [same]
        exact single value
      · exact members_single rest member later

end

/-- The text of a value determines it. -/
theorem text_injective : Function.Injective (text numbers) := by
  intro first second same
  have nothing : Delimited [] := by simp [Delimited]
  exact (single numbers first second [] [] nothing nothing (by rw [same])).1

end Reading

section Canonical

/-- The key is the decimal text of an index of an array. -/
def arrayIndex (key : String) : Option ℕ :=
  key.toNat?.filter fun index => decide (toString index = key) && decide (index < 2 ^ 32 - 1)

/-- An object lists the indices in ascending order before its other keys. -/
def ownOrder (members : List (String × JsonValue Number)) : List (String × JsonValue Number) :=
  (members.filter fun member => (arrayIndex member.1).isSome).insertionSort
      (fun first second => (arrayIndex first.1).getD 0 ≤ (arrayIndex second.1).getD 0) ++
    members.filter fun member => !(arrayIndex member.1).isSome

theorem ownOrder_perm (members : List (String × JsonValue Number)) :
    (ownOrder members).Perm members :=
  ((List.perm_insertionSort _ _).append_right _).trans (List.filter_append_perm _ members)

variable (collation : Collation String)

mutual

/-- The members of every object are sorted by their keys. -/
def canonicalize : JsonValue Number → JsonValue Number
  | .array items => .array (canonicalItems items)
  | .object members =>
      .object (ownOrder (collation.sortBy Prod.fst (canonicalMembers members)))
  | value => value

def canonicalItems : List (JsonValue Number) → List (JsonValue Number)
  | [] => []
  | item :: rest => canonicalize item :: canonicalItems rest

def canonicalMembers : List (String × JsonValue Number) → List (String × JsonValue Number)
  | [] => []
  | (key, value) :: rest => (key, canonicalize value) :: canonicalMembers rest

end

theorem canonicalItems_eq (items : List (JsonValue Number)) :
    canonicalItems collation items = items.map (canonicalize collation) := by
  induction items with
  | nil => rfl
  | cons item rest ih => rw [canonicalItems, ih, List.map_cons]

theorem canonicalMembers_eq (members : List (String × JsonValue Number)) :
    canonicalMembers collation members =
      members.map fun member => (member.1, canonicalize collation member.2) := by
  induction members with
  | nil => rfl
  | cons member rest ih => rw [canonicalMembers, ih, List.map_cons]

/-- This is the canonical text of a value. -/
def stableJson (numbers : NumberWriter Number) (value : JsonValue Number) : List Char :=
  text numbers (canonicalize collation value)

end Canonical

section Sameness

mutual

/-- The value equals the expected one up to the order of the members of its objects. -/
def SameAs : JsonValue Number → JsonValue Number → Prop
  | value, .array others => ∃ items, value = .array items ∧ SameItems items others
  | value, .object others => ∃ members ordered, value = .object members ∧
      members.Perm ordered ∧ SameMembers ordered others
  | value, other => value = other

def SameItems : List (JsonValue Number) → List (JsonValue Number) → Prop
  | items, [] => items = []
  | items, other :: rest =>
      ∃ item remaining, items = item :: remaining ∧ SameAs item other ∧ SameItems remaining rest

def SameMembers : List (String × JsonValue Number) → List (String × JsonValue Number) → Prop
  | members, [] => members = []
  | members, (key, other) :: rest =>
      ∃ value remaining, members = (key, value) :: remaining ∧ SameAs value other ∧
        SameMembers remaining rest

end

/-- Two members have one key and the same value. -/
def SameMember (member other : String × JsonValue Number) : Prop :=
  member.1 = other.1 ∧ SameAs member.2 other.2

theorem sameItems_iff {items others : List (JsonValue Number)} :
    SameItems items others ↔ List.Forall₂ SameAs items others := by
  induction others generalizing items with
  | nil => rw [SameItems, List.forall₂_nil_right_iff]
  | cons other rest ih =>
      rw [SameItems, List.forall₂_cons_right_iff]
      constructor
      · rintro ⟨item, remaining, rfl, same, others⟩
        exact ⟨item, remaining, same, ih.mp others, rfl⟩
      · rintro ⟨item, remaining, same, others, rfl⟩
        exact ⟨item, remaining, rfl, same, ih.mpr others⟩

theorem sameMembers_iff {members others : List (String × JsonValue Number)} :
    SameMembers members others ↔ List.Forall₂ SameMember members others := by
  induction others generalizing members with
  | nil => rw [SameMembers, List.forall₂_nil_right_iff]
  | cons other rest ih =>
      obtain ⟨key, expected⟩ := other
      rw [SameMembers, List.forall₂_cons_right_iff]
      constructor
      · rintro ⟨value, remaining, rfl, same, others⟩
        exact ⟨(key, value), remaining, ⟨rfl, same⟩, ih.mp others, rfl⟩
      · rintro ⟨⟨found, value⟩, remaining, ⟨keys, same⟩, others, rfl⟩
        obtain rfl : found = key := keys
        exact ⟨value, remaining, rfl, same, ih.mpr others⟩

/-- The members of same objects can be brought into one order. -/
theorem sameAs_object {members others : List (String × JsonValue Number)} :
    SameAs (.object members) (.object others) ↔
      ∃ ordered, members.Perm ordered ∧ List.Forall₂ SameMember ordered others := by
  rw [SameAs]
  constructor
  · rintro ⟨found, ordered, same, perm, each⟩
    obtain rfl := JsonValue.object.inj same
    exact ⟨ordered, perm, sameMembers_iff.mp each⟩
  · rintro ⟨ordered, perm, each⟩
    exact ⟨members, ordered, rfl, perm, sameMembers_iff.mpr each⟩

theorem sameAs_array {items others : List (JsonValue Number)} :
    SameAs (.array items) (.array others) ↔ List.Forall₂ SameAs items others := by
  rw [SameAs]
  constructor
  · rintro ⟨found, same, each⟩
    obtain rfl := JsonValue.array.inj same
    exact sameItems_iff.mp each
  · exact fun each => ⟨items, rfl, sameItems_iff.mpr each⟩

mutual

theorem sameAs_refl : ∀ value : JsonValue Number, SameAs value value
  | .null => rfl
  | .bool _ => rfl
  | .number _ => rfl
  | .string _ => rfl
  | .array items => sameAs_array.mpr (sameItems_refl items)
  | .object members => sameAs_object.mpr ⟨members, List.Perm.refl _, sameMembers_refl members⟩

theorem sameItems_refl : ∀ items : List (JsonValue Number), List.Forall₂ SameAs items items
  | [] => .nil
  | item :: rest => .cons (sameAs_refl item) (sameItems_refl rest)

theorem sameMembers_refl :
    ∀ members : List (String × JsonValue Number), List.Forall₂ SameMember members members
  | [] => .nil
  | (_, value) :: rest => .cons ⟨rfl, sameAs_refl value⟩ (sameMembers_refl rest)

end

/-- What follows the members in another order brings them into that order. -/
theorem sameMember_perm {members others reordered : List (String × JsonValue Number)}
    (each : List.Forall₂ SameMember members others) (perm : others.Perm reordered) :
    ∃ ordered, members.Perm ordered ∧ List.Forall₂ SameMember ordered reordered := by
  have both : Relation.Comp (List.Forall₂ SameMember) List.Perm members reordered :=
    ⟨others, each, perm⟩
  rwa [List.forall₂_comp_perm_eq_perm_comp_forall₂] at both

/-- Lists with the same images can be brought into one order of images. -/
theorem perm_of_map {Item Image : Type} {view : Item → Image} {items : List Item}
    {images : List Image} (perm : (items.map view).Perm images) :
    ∃ ordered, items.Perm ordered ∧ ordered.map view = images := by
  have reordered : images.Perm (items.map view) := perm.symm
  have split := congrFun (congrFun (List.eq_map_comp_perm view) images) items
  rw [← split] at reordered
  obtain ⟨ordered, same, swapped⟩ := reordered
  exact ⟨ordered, swapped.symm, same.symm⟩

variable (collation : Collation String)

theorem canonicalize_leaf {value other : JsonValue Number} (leaf : ∀ items, other ≠ .array items)
    (alone : ∀ members, other ≠ .object members) (same : canonicalize collation value = other) :
    value = other := by
  cases value with
  | array items => exact absurd same.symm (leaf _)
  | object members => exact absurd same.symm (alone _)
  | _ => exact same

mutual

/-- Values with one canonical form are the same up to the order of their members. -/
theorem canonicalize_same : ∀ (other value : JsonValue Number),
    canonicalize collation value = canonicalize collation other → SameAs value other
  | .null, value, same => canonicalize_leaf collation (by simp) (by simp) same
  | .bool _, value, same => canonicalize_leaf collation (by simp) (by simp) same
  | .number _, value, same => canonicalize_leaf collation (by simp) (by simp) same
  | .string _, value, same => canonicalize_leaf collation (by simp) (by simp) same
  | .array others, value, same => by
      cases value with
      | array items =>
          rw [canonicalize, canonicalize, JsonValue.array.injEq, canonicalItems_eq] at same
          exact sameAs_array.mpr (canonicalItems_same others items same)
      | _ => simp [canonicalize] at same
  | .object others, value, same => by
      cases value with
      | object members =>
          rw [canonicalize, canonicalize, JsonValue.object.injEq, canonicalMembers_eq] at same
          have perm := ((ownOrder_perm _).trans (Collation.sortBy_perm _)).symm.trans
            (same ▸ (ownOrder_perm _).trans (Collation.sortBy_perm _))
          obtain ⟨ordered, reordered, images⟩ := perm_of_map perm.symm
          exact sameAs_object.mpr
            ⟨ordered, reordered, canonicalMembers_same others ordered images⟩
      | _ => simp [canonicalize] at same

theorem canonicalItems_same : ∀ others items : List (JsonValue Number),
    items.map (canonicalize collation) = canonicalItems collation others →
    List.Forall₂ SameAs items others
  | [], items, same => by
      rw [canonicalItems, List.map_eq_nil_iff] at same
      rw [same]
      exact .nil
  | other :: rest, items, same => by
      rw [canonicalItems, List.map_eq_cons_iff] at same
      obtain ⟨item, remaining, rfl, first, later⟩ := same
      exact .cons (canonicalize_same other item first) (canonicalItems_same rest remaining later)

theorem canonicalMembers_same : ∀ others members : List (String × JsonValue Number),
    (members.map fun member => (member.1, canonicalize collation member.2)) =
      canonicalMembers collation others → List.Forall₂ SameMember members others
  | [], members, same => by
      rw [canonicalMembers, List.map_eq_nil_iff] at same
      rw [same]
      exact .nil
  | (key, other) :: rest, members, same => by
      rw [canonicalMembers, List.map_eq_cons_iff] at same
      obtain ⟨member, remaining, rfl, first, later⟩ := same
      obtain ⟨keys, values⟩ := Prod.mk.inj first
      exact .cons ⟨keys, canonicalize_same other member.2 values⟩
        (canonicalMembers_same rest remaining later)

end

end Sameness

section Order

variable (collation : Collation String)

/-- Only the keys that are no indices keep the order of the sort. -/
def sortedKeys (keys : List String) : List String := keys.filter fun key => !(arrayIndex key).isSome

mutual

/-- The keys of every object are distinct, and the sort tells those that it orders apart. -/
def Apart : JsonValue Number → Prop
  | .array items => ItemsApart items
  | .object members => (members.map Prod.fst).Nodup ∧
      collation.TellsApart (sortedKeys (members.map Prod.fst)) ∧ MembersApart members
  | _ => True

def ItemsApart : List (JsonValue Number) → Prop
  | [] => True
  | item :: rest => Apart item ∧ ItemsApart rest

def MembersApart : List (String × JsonValue Number) → Prop
  | [] => True
  | (_, value) :: rest => Apart value ∧ MembersApart rest

end

theorem arrayIndex_text {key : String} {index : ℕ} (found : arrayIndex key = some index) :
    key = toString index := by
  rw [arrayIndex, Option.filter_eq_some_iff, Bool.and_eq_true, decide_eq_true_eq] at found
  exact found.2.1.symm

variable {collation}

/-- Members in any order have one own order when their keys are told apart. -/
theorem ownOrder_sorted {first second : List (String × JsonValue Number)}
    (same : first.Perm second) (distinct : (first.map Prod.fst).Nodup)
    (apart : collation.TellsApart (sortedKeys (first.map Prod.fst))) :
    ownOrder (collation.sortBy Prod.fst first) = ownOrder (collation.sortBy Prod.fst second) := by
  have sorted : (collation.sortBy Prod.fst first).Perm (collation.sortBy Prod.fst second) :=
    (Collation.sortBy_perm first).trans (same.trans (Collation.sortBy_perm second).symm)
  have known : ∀ {member}, member ∈ collation.sortBy Prod.fst second → member ∈ first :=
    fun present => same.mem_iff.mpr ((Collation.sortBy_perm second).mem_iff.mp present)
  have single : ∀ {left right}, left ∈ first → right ∈ first → left.1 = right.1 → left = right :=
    fun isLeft isRight keys => List.inj_on_of_nodup_map distinct isLeft isRight keys
  rw [ownOrder, ownOrder]
  congr 1
  · have perm := (List.perm_insertionSort (fun left right : String × JsonValue Number =>
      (arrayIndex left.1).getD 0 ≤ (arrayIndex right.1).getD 0) _).trans
      ((sorted.filter fun member => (arrayIndex member.1).isSome).trans
        (List.perm_insertionSort (fun left right : String × JsonValue Number =>
          (arrayIndex left.1).getD 0 ≤ (arrayIndex right.1).getD 0) _).symm)
    refine perm.eq_of_pairwise ?_ (List.pairwise_insertionSort _ _)
      (List.pairwise_insertionSort _ _)
    intro left right isLeft isRight before after
    rw [List.mem_insertionSort, List.mem_filter] at isLeft isRight
    obtain ⟨leftIndex, leftFound⟩ := Option.isSome_iff_exists.mp isLeft.2
    obtain ⟨rightIndex, rightFound⟩ := Option.isSome_iff_exists.mp isRight.2
    rw [leftFound, rightFound, Option.getD_some, Option.getD_some] at before after
    apply single ((Collation.sortBy_perm first).mem_iff.mp isLeft.1) (known isRight.1)
    rw [arrayIndex_text leftFound, arrayIndex_text rightFound, le_antisymm before after]
  · refine (sorted.filter _).eq_of_pairwise ?_
      ((Collation.sortBy_pairwise first).filter _) ((Collation.sortBy_pairwise second).filter _)
    intro left right isLeft isRight before after
    rw [List.mem_filter] at isLeft isRight
    have leftKnown := (Collation.sortBy_perm first).mem_iff.mp isLeft.1
    have rightKnown := known isRight.1
    exact single leftKnown rightKnown (apart left.1
      (List.mem_filter.mpr ⟨List.mem_map_of_mem leftKnown, isLeft.2⟩) right.1
      (List.mem_filter.mpr ⟨List.mem_map_of_mem rightKnown, isRight.2⟩) ⟨before, after⟩)

theorem canonicalMembers_keys (members : List (String × JsonValue Number)) :
    (canonicalMembers collation members).map Prod.fst = members.map Prod.fst := by
  rw [canonicalMembers_eq, List.map_map]
  rfl

mutual

/-- The same values have one canonical form when the keys of their objects are told apart. -/
theorem sameAs_canonicalize : ∀ (other value : JsonValue Number), Apart collation other →
    SameAs value other → canonicalize collation value = canonicalize collation other
  | .null, _, _, same => congrArg (canonicalize collation) same
  | .bool _, _, _, same => congrArg (canonicalize collation) same
  | .number _, _, _, same => congrArg (canonicalize collation) same
  | .string _, _, _, same => congrArg (canonicalize collation) same
  | .array others, value, apart, same => by
      rw [Apart] at apart
      rw [SameAs] at same
      obtain ⟨items, rfl, each⟩ := same
      rw [canonicalize, canonicalize,
        sameItems_canonical others items apart (sameItems_iff.mp each)]
  | .object others, value, apart, same => by
      rw [Apart] at apart
      rw [SameAs] at same
      obtain ⟨members, ordered, rfl, perm, each⟩ := same
      have reordered := sameMembers_canonical others ordered apart.2.2 (sameMembers_iff.mp each)
      have swapped : (canonicalMembers collation others).Perm
          (canonicalMembers collation members) := by
        rw [← reordered, canonicalMembers_eq, canonicalMembers_eq]
        exact (perm.map _).symm
      rw [canonicalize, canonicalize, ownOrder_sorted swapped
        (canonicalMembers_keys others ▸ apart.1) (canonicalMembers_keys others ▸ apart.2.1)]

theorem sameItems_canonical : ∀ others items : List (JsonValue Number),
    ItemsApart collation others → List.Forall₂ SameAs items others →
    canonicalItems collation items = canonicalItems collation others
  | [], _, _, .nil => rfl
  | other :: rest, item :: items, apart, .cons first later => by
      rw [ItemsApart] at apart
      rw [canonicalItems, canonicalItems, sameAs_canonicalize other item apart.1 first,
        sameItems_canonical rest items apart.2 later]

theorem sameMembers_canonical : ∀ others members : List (String × JsonValue Number),
    MembersApart collation others → List.Forall₂ SameMember members others →
    canonicalMembers collation members = canonicalMembers collation others
  | [], _, _, .nil => rfl
  | (key, other) :: rest, (found, value) :: members, apart, .cons first later => by
      rw [MembersApart] at apart
      obtain rfl : found = key := first.1
      rw [canonicalMembers, canonicalMembers, sameAs_canonicalize other value apart.1 first.2,
        sameMembers_canonical rest members apart.2 later]

end

/-- The canonical texts are equal when the values are the same up to the order of the members. -/
theorem stableJson_same_iff (numbers : NumberWriter Number) {value other : JsonValue Number}
    (apart : Apart collation other) :
    stableJson collation numbers value = stableJson collation numbers other ↔
      SameAs value other := by
  rw [stableJson, stableJson, (text_injective numbers).eq_iff]
  exact ⟨canonicalize_same collation other value, sameAs_canonicalize other value apart⟩

end Order

end JsonValue

end Json
