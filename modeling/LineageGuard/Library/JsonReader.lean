import LineageGuard.Library.Json
import Mathlib.Tactic

/-
This file gives readers of JSON values that do not depend on the order of the members.
-/

namespace JsonReader

open Json

section Sameness

/-- Two values are the same up to the order of the members of their objects. -/
inductive Same : Value → Value → Prop
  | refl (value : Value) : Same value value
  | array {items others : List Value} (each : List.Forall₂ Same items others) :
      Same (.array items) (.array others)
  | object {members ordered others : List (String × Value)} (perm : members.Perm ordered)
      (keys : ordered.map Prod.fst = others.map Prod.fst)
      (each : List.Forall₂ Same (ordered.map Prod.snd) (others.map Prod.snd)) :
      Same (.object members) (.object others)

theorem same_string {value : Value} {text : String} (same : Same value (.string text)) :
    value = .string text := by
  cases same
  rfl

theorem same_number {value : Value} {number : ℤ} (same : Same value (.number number)) :
    value = .number number := by
  cases same
  rfl

theorem same_bool {value : Value} {flag : Bool} (same : Same value (.bool flag)) :
    value = .bool flag := by
  cases same
  rfl

theorem same_array {value : Value} {others : List Value} (same : Same value (.array others)) :
    ∃ items, value = .array items ∧ List.Forall₂ Same items others := by
  cases same with
  | refl => exact ⟨others, rfl, List.forall₂_same.mpr fun item _ => .refl item⟩
  | array each => exact ⟨_, rfl, each⟩

theorem lookup_iff {members : List (String × Value)} (unique : (members.map Prod.fst).Nodup)
    {key : String} {value : Value} : members.lookup key = some value ↔ (key, value) ∈ members := by
  induction members with
  | nil => simp
  | cons member rest ih =>
      obtain ⟨first, found⟩ := member
      rw [List.map_cons, List.nodup_cons] at unique
      rw [List.lookup_cons, List.mem_cons, Prod.mk.injEq]
      by_cases same : key = first
      · subst same
        have apart : (key, value) ∉ rest := by
          intro present
          exact unique.1 (List.mem_map.mpr ⟨_, present, rfl⟩)
        simp [apart, eq_comm]
      · rw [← ih unique.2, beq_false_of_ne same]
        simp [same]

theorem lookup_none {members : List (String × Value)} {key : String} :
    members.lookup key = none ↔ key ∉ members.map Prod.fst := by
  rw [List.lookup_eq_none_iff, List.mem_map]
  constructor
  · rintro apart ⟨member, present, rfl⟩
    simpa using apart member present
  · intro missing member present
    rw [bne_iff_ne]
    rintro rfl
    exact missing ⟨member, present, rfl⟩

/-- The members hold the same values under the same keys. -/
structure Agrees (members expected : List (String × Value)) : Prop where
  found : ∀ {key value}, expected.lookup key = some value →
    ∃ other, members.lookup key = some other ∧ Same other value
  missing : ∀ {key}, expected.lookup key = none → members.lookup key = none

theorem agrees_refl (members : List (String × Value)) : Agrees members members :=
  ⟨fun found => ⟨_, found, .refl _⟩, id⟩

/-- A value that is the same as an object is an object with the same members. -/
theorem same_object {value : Value} {expected : List (String × Value)}
    (unique : (expected.map Prod.fst).Nodup) (same : Same value (.object expected)) :
    ∃ members, value = .object members ∧ (members.map Prod.fst).Perm (expected.map Prod.fst) ∧
      Agrees members expected := by
  cases same with
  | refl => exact ⟨expected, rfl, .refl _, agrees_refl expected⟩
  | @object members ordered _ perm keys each =>
      have keyPerm : (members.map Prod.fst).Perm (expected.map Prod.fst) := keys ▸ perm.map _
      have membersUnique := keyPerm.nodup_iff.mpr unique
      have orderedUnique : (ordered.map Prod.fst).Nodup := keys ▸ unique
      refine ⟨members, rfl, keyPerm, ?_, ?_⟩
      · intro key found isFound
        rw [lookup_iff unique] at isFound
        obtain ⟨index, within, isMember⟩ := List.getElem_of_mem isFound
        have sizes : ordered.length = expected.length := by simpa using congrArg List.length keys
        have alsoWithin : index < ordered.length := sizes ▸ within
        have sameKey : ordered[index].1 = key := by
          have := List.getElem_of_eq keys (by simpa using alsoWithin)
          rw [List.getElem_map, List.getElem_map, isMember] at this
          exact this
        have sameValue : Same ordered[index].2 found := by
          have := List.Forall₂.get each (by simpa using alsoWithin) (by simpa using within)
          simpa [isMember] using this
        refine ⟨ordered[index].2, ?_, sameValue⟩
        rw [lookup_iff membersUnique, perm.mem_iff, ← sameKey]
        exact List.getElem_mem alsoWithin
      · intro key isMissing
        rw [lookup_none] at isMissing ⊢
        rwa [keyPerm.mem_iff]

/-- An object with the expected members is the expected object. -/
theorem object_same {members expected : List (String × Value)}
    (unique : (members.map Prod.fst).Nodup) (expectedUnique : (expected.map Prod.fst).Nodup)
    (known : ∀ key ∈ members.map Prod.fst, key ∈ expected.map Prod.fst)
    (each : ∀ member ∈ expected, ∃ value, members.lookup member.1 = some value ∧
      Same value member.2) : Same (.object members) (.object expected) := by
  have keys : (expected.map fun member => (member.1, (members.lookup member.1).getD .null)).map
      Prod.fst = expected.map Prod.fst := by
    rw [List.map_map]
    rfl
  refine @Same.object members (expected.map fun member =>
    (member.1, (members.lookup member.1).getD .null)) expected ?_ keys ?_
  · rw [List.perm_ext_iff_of_nodup unique.of_map (List.Nodup.of_map _ (keys ▸ expectedUnique))]
    rintro ⟨key, value⟩
    constructor
    · intro present
      obtain ⟨member, isMember, rfl⟩ := List.mem_map.mp (known key (List.mem_map_of_mem present))
      have found := (lookup_iff unique).mpr present
      exact List.mem_map.mpr ⟨member, isMember, by rw [found, Option.getD_some]⟩
    · intro present
      obtain ⟨member, isMember, same⟩ := List.mem_map.mp present
      obtain ⟨found, isFound, _⟩ := each member isMember
      rw [isFound, Option.getD_some, Prod.mk.injEq] at same
      obtain ⟨rfl, rfl⟩ := same
      exact (lookup_iff unique).mp isFound
  · rw [List.map_map, List.forall₂_map_left_iff, List.forall₂_map_right_iff, List.forall₂_same]
    intro member isMember
    obtain ⟨found, isFound, same⟩ := each member isMember
    simpa [isFound] using same

end Sameness

section Readers

variable {Result : Type}

def readString : Value → Option String
  | .string text => some text
  | _ => none

def readBool : Value → Option Bool
  | .bool flag => some flag
  | _ => none

def readLiteral (text : String) : Value → Option Unit
  | .string found => if found = text then some () else none
  | _ => none

def readTrue : Value → Option Unit
  | .bool true => some ()
  | _ => none

def readNumber (expected : ℤ) : Value → Option Unit
  | .number found => if found = expected then some () else none
  | _ => none

/-- A word of a list stands for one of its items. -/
def readWord (items : List Result) (word : Result → String) : Value → Option Result
  | .string text => items.find? fun item => word item = text
  | _ => none

def readItems (reader : Value → Option Result) : Value → Option (List Result)
  | .array items => items.mapM reader
  | _ => none

/-- Every item of the list has its own reader. -/
def isTuple : List (Value → Option Unit) → List Value → Bool
  | [], [] => true
  | reader :: readers, item :: items => (reader item).isSome && isTuple readers items
  | _, _ => false

def readTuple (readers : List (Value → Option Unit)) : Value → Option Unit
  | .array items => if isTuple readers items then some () else none
  | _ => none

/-- An object has each key once, and a strict one has only these keys. -/
def readObject (keys : List String) (reader : List (String × Value) → Option Result) :
    Value → Option Result
  | .object members =>
      if (members.map Prod.fst).Nodup ∧ ∀ key ∈ members.map Prod.fst, key ∈ keys then
        reader members
      else none
  | _ => none

def field (key : String) (reader : Value → Option Result) (members : List (String × Value)) :
    Option Result := (members.lookup key).bind reader

/-- A missing member is undefined. -/
def optionalField (key : String) (reader : Value → Option Result)
    (members : List (String × Value)) : Option (Option Result) :=
  match members.lookup key with
  | some value => (reader value).map some
  | none => some none

/-- The reader gives the result for every value that is the same as the expected one. -/
def Reads (reader : Value → Option Result) (expected : Value) (result : Result) : Prop :=
  ∀ value, Same value expected → reader value = some result

variable {reader : Value → Option Result} {result : Result}

theorem reads_string (text : String) : Reads readString (.string text) text := by
  intro value same
  rw [same_string same, readString]

theorem reads_bool (flag : Bool) : Reads readBool (.bool flag) flag := by
  intro value same
  rw [same_bool same, readBool]

theorem reads_literal (text : String) : Reads (readLiteral text) (.string text) () := by
  intro value same
  rw [same_string same, readLiteral, if_pos rfl]

theorem reads_true : Reads readTrue (.bool true) () := by
  intro value same
  rw [same_bool same, readTrue]

theorem reads_number (number : ℤ) : Reads (readNumber number) (.number number) () := by
  intro value same
  rw [same_number same, readNumber, if_pos rfl]

theorem reads_word {items : List Result} {word : Result → String} {item : Result}
    (present : items.find? (fun other => word other = word item) = some item) :
    Reads (readWord items word) (.string (word item)) item := by
  intro value same
  rw [same_string same, readWord, present]

theorem reads_items {Item : Type} {reader : Value → Option Item} {write : Item → Value}
    {items : List Item} (each : ∀ item ∈ items, Reads reader (write item) item) :
    Reads (readItems reader) (.array (items.map write)) items := by
  intro value same
  obtain ⟨values, rfl, sameItems⟩ := same_array same
  rw [readItems]
  clear same
  induction items generalizing values with
  | nil =>
      rw [List.map_nil, List.forall₂_nil_right_iff] at sameItems
      rw [sameItems]
      rfl
  | cons item rest ih =>
      rw [List.map_cons, List.forall₂_cons_right_iff] at sameItems
      obtain ⟨first, others, sameFirst, sameRest, rfl⟩ := sameItems
      rw [List.forall_mem_cons] at each
      rw [List.mapM_cons, each.1 first sameFirst, ih each.2 others sameRest]
      rfl

theorem readLiteral_isSome {text : String} {value : Value} :
    (readLiteral text value).isSome = true ↔ value = .string text := by
  cases value <;> simp [readLiteral]

/-- A tuple of literals has one value. -/
theorem readTuple_literals {contents : List String} {items : List Value} :
    readTuple (contents.map readLiteral) (.array items) = some () ↔
      items = contents.map .string := by
  have tuple : isTuple (contents.map readLiteral) items = true ↔ items = contents.map .string := by
    induction contents generalizing items with
    | nil => cases items <;> simp [isTuple]
    | cons content rest ih =>
        cases items with
        | nil => simp [isTuple]
        | cons item others =>
            rw [List.map_cons, isTuple, Bool.and_eq_true, readLiteral_isSome, ih, List.map_cons,
              List.cons.injEq]
  rw [readTuple, ← tuple]
  split <;> simp_all

theorem reads_tuple (contents : List String) :
    Reads (readTuple (contents.map readLiteral)) (.array (contents.map .string)) () := by
  intro value same
  obtain ⟨items, rfl, each⟩ := same_array same
  rw [readTuple_literals]
  clear same
  induction contents generalizing items with
  | nil => exact List.forall₂_nil_right_iff.mp each
  | cons content rest ih =>
      rw [List.map_cons, List.forall₂_cons_right_iff] at each
      obtain ⟨first, others, sameFirst, sameRest, rfl⟩ := each
      rw [same_string sameFirst, ih others sameRest, List.map_cons]

theorem reads_object {keys : List String} {expected : List (String × Value)}
    {reader : List (String × Value) → Option Result} (unique : (expected.map Prod.fst).Nodup)
    (known : ∀ key ∈ expected.map Prod.fst, key ∈ keys)
    (reads : ∀ members, Agrees members expected → reader members = some result) :
    Reads (readObject keys reader) (.object expected) result := by
  intro value same
  obtain ⟨members, rfl, perm, agrees⟩ := same_object unique same
  rw [readObject, if_pos, reads members agrees]
  refine ⟨perm.nodup_iff.mpr unique, ?_⟩
  intro key present
  exact known key (perm.mem_iff.mp present)

/-- An object whose keys are exactly the known ones is read by its members. -/
theorem reads_record {keys : List String} {expected : List (String × Value)}
    {reader : List (String × Value) → Option Result} (same : expected.map Prod.fst = keys)
    (unique : keys.Nodup)
    (reads : ∀ members, Agrees members expected → reader members = some result) :
    Reads (readObject keys reader) (.object expected) result := by
  subst same
  exact reads_object unique (fun key present => present) reads

theorem bind_reads {Found : Type} {first : Option Found} {next : Found → Option Result}
    {found : Found} (isFirst : first = some found) (isNext : next found = some result) :
    (first >>= next) = some result := by
  rw [isFirst]
  exact isNext

section Fields

variable {members expected : List (String × Value)} {key : String}

theorem Agrees.field {value : Value} (agrees : Agrees members expected)
    (found : expected.lookup key = some value) (reads : Reads reader value result) :
    field key reader members = some result := by
  obtain ⟨other, isOther, same⟩ := agrees.found found
  rw [JsonReader.field, isOther, Option.bind_some, reads other same]

theorem Agrees.optional {content : Option Result} {write : Result → Value}
    (agrees : Agrees members expected) (found : expected.lookup key = content.map write)
    (reads : ∀ value ∈ content, Reads reader (write value) value) :
    optionalField key reader members = some content := by
  cases content with
  | none => rw [optionalField, agrees.missing found]
  | some value =>
      obtain ⟨other, isOther, same⟩ := agrees.found found
      have isValue := reads value rfl other same
      simp only [optionalField, isOther, isValue, Option.map_some]

end Fields

/-- A reader that asks for a tag refuses an object with another one. -/
theorem refuses_tag {keys : List String} {key text other : String}
    {expected : List (String × Value)} {next : List (String × Value) → Option Result}
    (unique : (expected.map Prod.fst).Nodup) (found : expected.lookup key = some (.string other))
    (apart : other ≠ text)
    {value : Value} (same : Same value (.object expected)) :
    readObject keys (fun members => do
      field key (readLiteral text) members
      next members) value = none := by
  obtain ⟨members, rfl, _, agrees⟩ := same_object unique same
  obtain ⟨tag, isTag, sameTag⟩ := agrees.found found
  have refused : field key (readLiteral text) members = none := by
    rw [field, isTag, Option.bind_some, same_string sameTag, readLiteral, if_neg apart]
  rw [readObject]
  split
  · rw [refused]
    rfl
  · rfl

theorem readObject_some {keys : List String} {reader : List (String × Value) → Option Result}
    {value : Value} : readObject keys reader value = some result ↔
      ∃ members, value = .object members ∧ (members.map Prod.fst).Nodup ∧
        (∀ key ∈ members.map Prod.fst, key ∈ keys) ∧ reader members = some result := by
  cases value <;> simp [readObject, and_assoc]

theorem field_some {key : String} {members : List (String × Value)} :
    field key reader members = some result ↔
      ∃ value, members.lookup key = some value ∧ reader value = some result := by
  rw [field, Option.bind_eq_some_iff]

theorem readString_some {value : Value} {text : String} :
    readString value = some text ↔ value = .string text := by
  cases value <;> simp [readString]

theorem readLiteral_some {value : Value} {text : String} {nothing : Unit} :
    readLiteral text value = some nothing ↔ value = .string text := by
  cases value <;> simp [readLiteral]

theorem readTuple_some {contents : List String} {value : Value} {nothing : Unit} :
    readTuple (contents.map readLiteral) value = some nothing ↔
      value = .array (contents.map .string) := by
  cases value with
  | array items => rw [readTuple_literals, Value.array.injEq]
  | null | bool | number | string | object => simp [readTuple]

theorem readNumber_some {value : Value} {number : ℤ} {nothing : Unit} :
    readNumber number value = some nothing ↔ value = .number number := by
  cases value <;> simp [readNumber]

end Readers

end JsonReader
