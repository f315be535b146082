import LineageGuard.Domain.Hash
import Mathlib.Tactic

/-
This file translates the canonical text of the database and compares it with that of a script.
-/

namespace LineageGuard

open Json

/-- The collation "C" compares two texts by the code points of their characters. -/
def byteLe (left right : String) : Bool :=
  decide (left.toList.map Char.toNat ≤ right.toList.map Char.toNat)

mutual

/-- The entries of an object are aggregated in the order of their keys. -/
def canonicalJsonText : Value → List Char
  | .array items => '[' :: commaJoin (canonicalEntries items) ++ [']']
  | .object members => '\x7b' :: commaJoin (((canonicalTexts members).insertionSort
      fun left right => byteLe left.1 right.1 = true).map Prod.snd) ++ ['\x7d']
  | .null => text .null
  | .bool value => text (.bool value)
  | .number value => text (.number value)
  | .string content => text (.string content)

def canonicalEntries : List Value → List (List Char)
  | [] => []
  | item :: rest => canonicalJsonText item :: canonicalEntries rest

/-- Each text of an entry stands beside the key that orders it. -/
def canonicalTexts : List (String × Value) → List (String × List Char)
  | [] => []
  | (key, value) :: rest =>
      (key, quote key ++ ':' :: canonicalJsonText value) :: canonicalTexts rest

end

/-- The database and the script share the digest of a text. -/
def sqlSha256 (script : Script) (value : Value) : String :=
  script.digest (canonicalJsonText value)

section Canonical

theorem sorted_texts (members : List (String × Value)) :
    ((members.map fun member => (member.1, memberText member)).insertionSort
      fun left right => byteLe left.1 right.1 = true).map Prod.snd =
    (members.insertionSort fun left right => byteLe left.1 right.1 = true).map memberText := by
  rw [← List.map_insertionSort (r := fun left right => byteLe left.1 right.1 = true)
    (s := fun left right => byteLe left.1 right.1 = true)
    (fun member : String × Value => (member.1, memberText member)) members fun _ _ _ _ => Iff.rfl,
    List.map_map, Function.comp_def]

mutual

/-- The database writes the text of the value that it orders by the collation "C". -/
theorem canonicalJsonText_eq : ∀ value, canonicalJsonText value = text (canonical byteLe value)
  | .null => rfl
  | .bool _ => rfl
  | .number _ => rfl
  | .string _ => rfl
  | .array items => by
      rw [canonicalJsonText, canonical, text, canonicalEntries_eq items]
  | .object members => by
      rw [canonicalJsonText, canonical, text, canonicalTexts_eq members, sorted_texts,
        memberTexts_eq]

theorem canonicalEntries_eq : ∀ items : List Value,
    canonicalEntries items = itemTexts (canonicalItems byteLe items)
  | [] => rfl
  | item :: rest => by
      rw [canonicalEntries, canonicalItems, itemTexts, canonicalJsonText_eq item,
        canonicalEntries_eq rest]

theorem canonicalTexts_eq : ∀ members : List (String × Value),
    canonicalTexts members = (canonicalMembers byteLe members).map fun member =>
      (member.1, memberText member)
  | [] => rfl
  | (key, value) :: rest => by
      rw [canonicalTexts, canonicalMembers, List.map_cons, memberText, canonicalJsonText_eq value,
        canonicalTexts_eq rest]

end

end Canonical

section Agreement

/-- The database and the script order the keys of the value alike. -/
abbrev OrdersAgree (value : Value) : Prop := Agree localeLe byteLe value

@[simp] theorem null_agrees : OrdersAgree .null := rfl

@[simp] theorem bool_agrees (value : Bool) : OrdersAgree (.bool value) := rfl

@[simp] theorem number_agrees (value : ℤ) : OrdersAgree (.number value) := rfl

@[simp] theorem string_agrees (content : String) : OrdersAgree (.string content) := rfl

@[simp] theorem array_agrees {items : List Value} :
    OrdersAgree (.array items) ↔ ∀ item ∈ items, OrdersAgree item := Agree.array

/-- Both collations order these keys alike and no key occurs twice. -/
def Ordered (keys : List String) : Prop := SameOrder localeLe byteLe keys ∧ keys.Nodup

instance (keys : List String) : Decidable (Ordered keys) := inferInstanceAs (Decidable (_ ∧ _))

theorem Ordered.sublist {keys others : List String} (ordered : Ordered keys)
    (part : others.Sublist keys) : Ordered others :=
  ⟨ordered.1.subset fun _ present => part.subset present, ordered.2.sublist part⟩

/-- An object whose keys are ordered alike agrees exactly when its members do. -/
theorem object_agrees {members : List (String × Value)} (keys : List String)
    (named : members.map Prod.fst = keys) (ordered : Ordered keys) :
    OrdersAgree (.object members) ↔ ∀ member ∈ members, OrdersAgree member.2 := by
  obtain ⟨same, single⟩ := ordered
  subst named
  constructor
  · intro agree member present
    exact agree.member single present
  · exact Agree.object same

/-- An object disagrees when the collations sort its keys differently. -/
theorem object_disagrees {members : List (String × Value)} (keys : List String)
    (named : members.map Prod.fst = keys)
    (unlike : keys.insertionSort (fun left right => localeLe left right = true) ≠
      keys.insertionSort fun left right => byteLe left right = true) :
    ¬ OrdersAgree (.object members) := by
  intro agree
  apply unlike
  rw [← named]
  exact agree.keys

variable {script : Script} {value : Value}

/-- The texts agree exactly when the collations do. -/
theorem stableJson_agrees (plain : Plain value) :
    script.stableJson value = canonicalJsonText value ↔ OrdersAgree value := by
  rw [script.stableJson_eq plain, canonicalJsonText_eq]
  constructor
  · exact text_inj
  · intro agree
    rw [agree]

/-- The digests agree where the collations do. -/
theorem sha256_agrees (plain : Plain value) (agree : OrdersAgree value) :
    script.sha256 value = sqlSha256 script value := by
  rw [Script.sha256, sqlSha256, (stableJson_agrees plain).mpr agree]

/-- Without a collision of the two texts the digests agree only where the collations do. -/
theorem sha256_separates (plain : Plain value)
    (distinct : script.digest (script.stableJson value) = script.digest (canonicalJsonText value) →
      script.stableJson value = canonicalJsonText value) :
    script.sha256 value = sqlSha256 script value ↔ OrdersAgree value := by
  have texts : script.stableJson value = canonicalJsonText value ↔ OrdersAgree value :=
    stableJson_agrees plain
  rw [← texts]
  exact ⟨distinct, congrArg script.digest⟩

end Agreement

end LineageGuard
