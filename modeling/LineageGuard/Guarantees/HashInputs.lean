import LineageGuard.Guarantees.ToolPinning
import Mathlib.Tactic

/-
This file proves which values the hash of a script tells apart.
-/

namespace LineageGuard.Domain

open Json JsonValue

section Inputs

variable {Number : Type} (collation : Collation String) (numbers : NumberWriter Number)

def isString : JsonValue Number → Bool
  | .string _ => true
  | _ => false

/-- This is the text that `sha256` hashes. -/
def hashInput : JsonValue Number → List Char
  | .string content => content.toList
  | value => stableJson collation numbers value

def keysOf : JsonValue Number → List String
  | .object members => members.map Prod.fst
  | _ => []

variable {collation numbers}

theorem hashInput_value {value : JsonValue Number} (other : isString value = false) :
    hashInput collation numbers value = stableJson collation numbers value := by
  cases value with
  | string content => exact absurd other (by simp [isString])
  | _ => rfl

/-- The order of the canonical keys does not depend on the values of the members. -/
theorem canonical_keys (members : List (String × JsonValue Number)) :
    keysOf (canonicalize collation (.object members)) =
      (ownOrder (collation.sortBy Prod.fst
        (members.map fun member => (member.1, (.null : JsonValue Number))))).map Prod.fst := by
  have bare : ∀ list : List (String × JsonValue Number), (list.map Prod.fst) =
      (list.map fun member => (member.1, (.null : JsonValue Number))).map Prod.fst := by
    intro list
    rw [List.map_map]
    rfl
  have own : ∀ list : List (String × JsonValue Number),
      (ownOrder list).map (fun member => (member.1, (.null : JsonValue Number))) =
        ownOrder (list.map fun member => (member.1, (.null : JsonValue Number))) := by
    intro list
    rw [ownOrder, ownOrder, List.map_append, List.filter_map, List.filter_map]
    congr 1
    exact List.map_insertionSort _ _ _ _ fun _ _ _ _ => Iff.rfl
  rw [canonicalize, keysOf, bare, own, JsonValue.canonicalMembers_eq, Collation.sortBy_map,
    Collation.sortBy_map, List.map_map]
  rfl

theorem canonical_keys_unique {members others : List (String × JsonValue Number)}
    (same : (members.map Prod.fst).Perm (others.map Prod.fst))
    (distinct : (members.map Prod.fst).Nodup)
    (apart : collation.TellsApart (sortedKeys (members.map Prod.fst))) :
    keysOf (canonicalize collation (.object members)) =
      keysOf (canonicalize collation (.object others)) := by
  have bare : ∀ list : List (String × JsonValue Number),
      (list.map fun member => (member.1, (.null : JsonValue Number))) =
        (list.map Prod.fst).map fun key => (key, .null) := by
    intro list
    rw [List.map_map]
    rfl
  have keys : ((members.map Prod.fst).map fun key =>
      (key, (.null : JsonValue Number))).map Prod.fst = members.map Prod.fst := by
    rw [List.map_map]
    exact List.map_id _
  rw [← keys] at distinct apart
  rw [canonical_keys, canonical_keys, bare, bare, ownOrder_sorted (same.map _) distinct apart]

end Inputs

section Theorem

variable {Number : Type}

end Theorem

section Samples

open Datahub

def sampleObject : JsonValue ℤ := .object [("b", .number 1), ("a", .array [.bool true])]

def reorderedObject : JsonValue ℤ := .object [("a", .array [.bool true]), ("b", .number 1)]

theorem sample_keys : (["a", "b"] : List String).Nodup ∧
    localeCollation.TellsApart (sortedKeys ["a", "b"]) := by
  have after : localeCollation.le "b" "a" = false := by decide
  refine ⟨by decide, ?_⟩
  intro left isLeft right isRight ties
  have leftKey := (List.mem_filter.mp isLeft).1
  have rightKey := (List.mem_filter.mp isRight).1
  rw [List.mem_pair] at leftKey rightKey
  rcases leftKey with rfl | rfl <;> rcases rightKey with rfl | rfl
  · rfl
  · exact absurd ties.2 (by rw [after]; exact Bool.false_ne_true)
  · exact absurd ties.1 (by rw [after]; exact Bool.false_ne_true)
  · rfl

/-- Canonically equivalent texts are held for equal. -/
def decomposed (content : String) : String :=
  String.ofList (content.toList.flatMap fun char =>
    if char = 'é' then ['e', '\u0301'] else [char])

def equivalence : Collation String where
  le left right := localeCollation.le (decomposed left) (decomposed right)
  total left right := localeCollation.total (decomposed left) (decomposed right)
  trans left middle right :=
    localeCollation.trans (decomposed left) (decomposed middle) (decomposed right)

def composedFirst : JsonValue ℤ := .object [("é", .number 1), ("e\u0301", .number 2)]

def composedLast : JsonValue ℤ := .object [("e\u0301", .number 2), ("é", .number 1)]

theorem composed_before : equivalence.le "é" "e\u0301" = true := by decide

theorem composed_after : equivalence.le "e\u0301" "é" = true := by decide

theorem arrayIndex_worded {key : String} {char : Char} (present : char ∈ key.toList)
    (other : char.isDigit = false) : arrayIndex key = none := by
  cases found : arrayIndex key with
  | none => rfl
  | some index =>
      rw [arrayIndex_text found] at present
      exact absurd (repr_chars index present) (by rw [other]; exact Bool.false_ne_true)

theorem composed_key : arrayIndex "é" = none :=
  @arrayIndex_worded "é" 'é' (by decide) (by decide)

theorem decomposed_key : arrayIndex "e\u0301" = none :=
  @arrayIndex_worded "e\u0301" 'e' (by decide) (by decide)

/-- Members whose keys are held for equal stay in their order. -/
theorem canonicalize_tied {first second : String} {left right : ℤ}
    (ties : equivalence.le first second = true) (noFirst : arrayIndex first = none)
    (noSecond : arrayIndex second = none) :
    canonicalize equivalence (.object [(first, .number left), (second, .number right)]) =
      .object [(first, .number left), (second, .number right)] := by
  rw [canonicalize, JsonValue.canonicalMembers_eq, Collation.sortBy, List.mergeSort_of_pairwise]
  · simp [ownOrder, noFirst, noSecond, canonicalize]
  · simp [ties]

end Samples

end LineageGuard.Domain
