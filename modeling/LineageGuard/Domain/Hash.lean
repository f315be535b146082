import LineageGuard.Library.Json
import LineageGuard.Values
import Mathlib.Tactic

/-
This file translates the canonical text of a script and its digests.
-/

namespace LineageGuard

open Json

section Collation

/-- The root collation ignores case at first and places an underscore before the digits and the
digits before the letters. The keys of every schema are words of these characters. -/
def primaryWeight (char : Char) : ℕ :=
  if char = '_' then 0
  else if char.isDigit then char.toNat
  else if char.isUpper then char.toLower.toNat
  else char.toNat

/-- A tie is broken by the case, and the lower case comes first. -/
def tertiaryWeight (char : Char) : ℕ := if char.isUpper then 1 else 0

/-- This is `left.localeCompare(right) <= 0`. -/
def localeLe (left right : String) : Bool :=
  let first := left.toList.map primaryWeight
  let second := right.toList.map primaryWeight
  decide (first < second) ||
    decide (first = second ∧
      left.toList.map tertiaryWeight ≤ right.toList.map tertiaryWeight)

theorem localeLe_iff {left right : String} : localeLe left right = true ↔
    left.toList.map primaryWeight < right.toList.map primaryWeight ∨
      (left.toList.map primaryWeight = right.toList.map primaryWeight ∧
        left.toList.map tertiaryWeight ≤ right.toList.map tertiaryWeight) := by
  simp only [localeLe, Bool.or_eq_true, decide_eq_true_eq]

theorem localeLe_total (left right : String) :
    localeLe left right = true ∨ localeLe right left = true := by
  rw [localeLe_iff, localeLe_iff]
  rcases lt_trichotomy (left.toList.map primaryWeight) (right.toList.map primaryWeight) with
    before | same | after
  · exact Or.inl (Or.inl before)
  · rcases le_total (left.toList.map tertiaryWeight) (right.toList.map tertiaryWeight) with
      lower | higher
    · exact Or.inl (Or.inr ⟨same, lower⟩)
    · exact Or.inr (Or.inr ⟨same.symm, higher⟩)
  · exact Or.inr (Or.inl after)

theorem localeLe_trans {left middle right : String} (first : localeLe left middle = true)
    (second : localeLe middle right = true) : localeLe left right = true := by
  rw [localeLe_iff] at first second ⊢
  rcases first with before | ⟨same, lower⟩ <;> rcases second with alsoBefore | ⟨alsoSame, alsoLower⟩
  · exact Or.inl (before.trans alsoBefore)
  · exact Or.inl (alsoSame ▸ before)
  · exact Or.inl (same ▸ alsoBefore)
  · exact Or.inr ⟨same.trans alsoSame, lower.trans alsoLower⟩

theorem primaryWeight_upper {char : Char} (upper : char.isUpper = true) :
    primaryWeight char = char.toNat + 32 := by
  have bounds : char.val ≥ 'A'.val ∧ char.val ≤ 'Z'.val := by
    delta Char.isUpper at upper
    simpa using upper
  have low : 65 ≤ char.toNat := UInt32.le_iff_toNat_le.mp bounds.1
  have high : char.toNat ≤ 90 := UInt32.le_iff_toNat_le.mp bounds.2
  have noScore : char ≠ '_' := by
    rintro rfl
    revert high
    decide
  have noDigit : char.isDigit = false := by
    rw [Bool.eq_false_iff]
    intro digit
    simp only [Char.isDigit, Bool.and_eq_true, decide_eq_true_eq] at digit
    have : char.toNat ≤ 57 := UInt32.le_iff_toNat_le.mp digit.2
    omega
  rw [primaryWeight, if_neg noScore, noDigit, if_neg (by decide), if_pos upper]
  show char.toLower.val.toNat = char.val.toNat + 32
  delta Char.toLower
  rw [dif_pos bounds]
  have value : char.val.toNat ≤ 90 := high
  rw [UInt32.toNat_add]
  show (char.val.toNat + 32) % 2 ^ 32 = _
  omega

theorem primaryWeight_other {char : Char} (lower : char.isUpper = false) (noScore : char ≠ '_') :
    primaryWeight char = char.toNat := by
  simp [primaryWeight, noScore, lower]

/-- The two weights of a character tell it from all others but the first character of all. -/
theorem weights_inj {left right : Char} (leftFilled : left.toNat ≠ 0) (rightFilled : right.toNat ≠ 0)
    (primary : primaryWeight left = primaryWeight right)
    (tertiary : tertiaryWeight left = tertiaryWeight right) : left = right := by
  have score : primaryWeight '_' = 0 := rfl
  cases leftUpper : left.isUpper <;> cases rightUpper : right.isUpper <;>
    simp only [tertiaryWeight, leftUpper, rightUpper] at tertiary
  case false.true => simp at tertiary
  case true.false => simp at tertiary
  case true.true =>
      rw [primaryWeight_upper leftUpper, primaryWeight_upper rightUpper] at primary
      exact Char.toNat_inj.mp (by omega)
  case false.false =>
      by_cases leftScore : left = '_' <;> by_cases rightScore : right = '_'
      · rw [leftScore, rightScore]
      · rw [leftScore, score, primaryWeight_other rightUpper rightScore] at primary
        exact absurd primary.symm rightFilled
      · rw [rightScore, score, primaryWeight_other leftUpper leftScore] at primary
        exact absurd primary leftFilled
      · rw [primaryWeight_other leftUpper leftScore, primaryWeight_other rightUpper rightScore]
          at primary
        exact Char.toNat_inj.mp primary

theorem localeLe_antisymm {left right : String}
    (leftFilled : ∀ char ∈ left.toList, char.toNat ≠ 0)
    (rightFilled : ∀ char ∈ right.toList, char.toNat ≠ 0) (first : localeLe left right = true)
    (second : localeLe right left = true) : left = right := by
  rw [localeLe_iff] at first second
  have primary : left.toList.map primaryWeight = right.toList.map primaryWeight := by
    rcases first with before | ⟨same, _⟩
    · rcases second with after | ⟨same, _⟩
      · exact absurd (before.trans after) (lt_irrefl _)
      · exact same.symm
    · exact same
  have tertiary : left.toList.map tertiaryWeight = right.toList.map tertiaryWeight := by
    rw [primary] at first second
    simp only [lt_self_iff_false, false_or, true_and] at first second
    exact le_antisymm first second
  apply String.toList_inj.mp
  have lengths : left.toList.length = right.toList.length := by
    simpa using congrArg List.length primary
  apply List.ext_getElem lengths
  intro index within alsoWithin
  have weight := List.getElem_of_eq primary (by simpa using within)
  have caseWeight := List.getElem_of_eq tertiary (by simpa using within)
  rw [List.getElem_map, List.getElem_map] at weight caseWeight
  exact weights_inj (leftFilled _ (List.getElem_mem within))
    (rightFilled _ (List.getElem_mem alsoWithin)) weight caseWeight

/-- A script compares two texts by their UTF-16 code units. -/
def codeUnits (text : String) : List ℕ :=
  text.toList.flatMap fun char =>
    if char.toNat < 0x10000 then [char.toNat]
    else [0xD800 + (char.toNat - 0x10000) / 0x400, 0xDC00 + (char.toNat - 0x10000) % 0x400]

/-- The default order of `sort` is the order of the code units. -/
def sorted (texts : List String) : List String :=
  texts.insertionSort fun left right => codeUnits left ≤ codeUnits right

/-- The first code unit of a character tells whether a second one follows. -/
theorem codeUnits_inj {first second : String} (same : codeUnits first = codeUnits second) :
    first = second := by
  have chars : ∀ left right : List Char,
      codeUnits (String.ofList left) = codeUnits (String.ofList right) → left = right := by
    intro left
    induction left with
    | nil =>
        intro right same
        cases right with
        | nil => rfl
        | cons char rest =>
            simp only [codeUnits, String.toList_ofList, List.flatMap_nil, List.flatMap_cons] at same
            split at same <;> simp at same
    | cons char rest ih =>
        intro right same
        cases right with
        | nil =>
            simp only [codeUnits, String.toList_ofList, List.flatMap_nil, List.flatMap_cons] at same
            split at same <;> simp at same
        | cons other remaining =>
            have valid : char.toNat < 0xD800 ∨ (0xDFFF < char.toNat ∧ char.toNat < 0x110000) :=
              char.valid
            have otherValid :
                other.toNat < 0xD800 ∨ (0xDFFF < other.toNat ∧ other.toNat < 0x110000) :=
              other.valid
            simp only [codeUnits, String.toList_ofList, List.flatMap_cons] at same ih
            have heads : char.toNat = other.toNat ∧ codeUnits (String.ofList rest) =
                codeUnits (String.ofList remaining) := by
              simp only [codeUnits, String.toList_ofList]
              split at same <;> split at same <;>
                simp only [List.cons_append, List.nil_append, List.cons.injEq] at same <;>
                refine ⟨by omega, ?_⟩ <;> first | exact same.2.2 | exact same.2 | omega
            rw [Char.toNat_inj.mp heads.1, ih remaining]
            simpa only [codeUnits, String.toList_ofList] using heads.2
  have lists := chars first.toList second.toList (by simpa using same)
  exact String.toList_inj.mp lists

theorem sorted_pairwise (texts : List String) :
    (sorted texts).Pairwise fun left right => codeUnits left ≤ codeUnits right := by
  have total : Std.Total fun left right : String => codeUnits left ≤ codeUnits right :=
    ⟨fun left right => le_total _ _⟩
  have trans : IsTrans String fun left right => codeUnits left ≤ codeUnits right :=
    ⟨fun _ _ _ => le_trans⟩
  exact List.pairwise_insertionSort _ _

theorem sorted_perm {first second : List String} (same : first.Perm second) :
    sorted first = sorted second := by
  apply List.Perm.eq_of_pairwise _ (sorted_pairwise first) (sorted_pairwise second)
  · exact ((List.perm_insertionSort _ first).trans same).trans (List.perm_insertionSort _ second).symm
  · intro left right _ _ before after
    exact codeUnits_inj (le_antisymm before after)

theorem sorted_eq {texts : List String}
    (ordered : texts.Pairwise fun left right => codeUnits left ≤ codeUnits right) :
    sorted texts = texts := by
  rw [sorted]
  exact ordered.insertionSort_eq

/-- Two lists with the same items are equal when both are sorted by a key that tells the items
apart. -/
theorem eq_of_sorted {A : Type} (key : A → String) {first second : List A}
    (same : first.Perm second) (firstSorted : first.map key = sorted (first.map key))
    (secondSorted : second.map key = sorted (second.map key))
    (single : (second.map key).Nodup) : first = second := by
  have ordered : ∀ items : List A, items.map key = sorted (items.map key) →
      items.Pairwise fun left right => codeUnits (key left) ≤ codeUnits (key right) := by
    intro items isSorted
    have pairs := sorted_pairwise (items.map key)
    rw [← isSorted, List.pairwise_map] at pairs
    exact pairs
  apply same.eq_of_pairwise (fun left right isLeft isRight before after => ?_)
    (ordered first firstSorted) (ordered second secondSorted)
  have keys : key left = key right := codeUnits_inj (le_antisymm before after)
  exact List.inj_on_of_nodup_map single (same.mem_iff.mp isLeft) isRight keys

end Collation

/-- A script writes an integer below 10^21 with all its digits and a larger one with an exponent,
and SHA-256 gives the text of 64 hexadecimal digits. -/
structure Script where
  exponential : ℤ → List Char
  digest : List Char → String
  digest_length : ∀ text, (digest text).length = 64
  digest_chars : ∀ text, ∀ char ∈ (digest text).toList, char ∈ "0123456789abcdef".toList

/-- The typed values of the other modules have these texts. -/
structure Spelling where
  id : {kind : IdKind} → Id kind → String
  fingerprint : Fingerprint → String
  date : IsoDateTime → String

namespace Script

variable (script : Script)

def numberText (value : ℤ) : List Char :=
  if value.natAbs < 10 ^ 21 then value.repr.toList else script.exponential value

mutual

/-- This is `JSON.stringify`. -/
def stringify : Value → List Char
  | .null => "null".toList
  | .bool true => "true".toList
  | .bool false => "false".toList
  | .number value => script.numberText value
  | .string content => quote content
  | .array items => '[' :: commaJoin (stringifyItems items) ++ [']']
  | .object members => '\x7b' :: commaJoin (stringifyMembers members) ++ ['\x7d']

def stringifyItems : List Value → List (List Char)
  | [] => []
  | item :: rest => stringify item :: stringifyItems rest

def stringifyMembers : List (String × Value) → List (List Char)
  | [] => []
  | (key, value) :: rest => (quote key ++ ':' :: stringify value) :: stringifyMembers rest

end

def stableJson (value : Value) : List Char := script.stringify (canonical localeLe value)

def sha256 (value : Value) : String := script.digest (script.stableJson value)

def stableId (start : String) (value : Value) : String :=
  start ++ "_" ++ String.ofList ((script.sha256 value).toList.take 24)

end Script

section Numbers

mutual

/-- Every number of the value is written with all its digits. -/
def Plain : Value → Prop
  | .number value => value.natAbs < 10 ^ 21
  | .array items => PlainItems items
  | .object members => PlainMembers members
  | _ => True

def PlainItems : List Value → Prop
  | [] => True
  | item :: rest => Plain item ∧ PlainItems rest

def PlainMembers : List (String × Value) → Prop
  | [] => True
  | (_, value) :: rest => Plain value ∧ PlainMembers rest

end

theorem plainItems_iff (items : List Value) : PlainItems items ↔ ∀ item ∈ items, Plain item := by
  induction items with
  | nil => simp [PlainItems]
  | cons item rest ih => rw [PlainItems, ih, List.forall_mem_cons]

theorem plainMembers_iff (members : List (String × Value)) :
    PlainMembers members ↔ ∀ member ∈ members, Plain member.2 := by
  induction members with
  | nil => simp [PlainMembers]
  | cons member rest ih => rw [PlainMembers, ih, List.forall_mem_cons]

mutual

theorem stringify_eq (script : Script) : ∀ value, Plain value → script.stringify value = text value
  | .null, _ => rfl
  | .bool true, _ => rfl
  | .bool false, _ => rfl
  | .number value, plain => by
      rw [Plain] at plain
      rw [Script.stringify, Script.numberText, if_pos plain, text]
  | .string content, _ => by rw [Script.stringify, text]
  | .array items, plain => by rw [Script.stringify, text, stringifyItems_eq script items plain]
  | .object members, plain => by
      rw [Script.stringify, text, stringifyMembers_eq script members plain]

theorem stringifyItems_eq (script : Script) :
    ∀ items, PlainItems items → script.stringifyItems items = itemTexts items
  | [], _ => rfl
  | item :: rest, plain => by
      rw [Script.stringifyItems, itemTexts, stringify_eq script item plain.1,
        stringifyItems_eq script rest plain.2]

theorem stringifyMembers_eq (script : Script) :
    ∀ members, PlainMembers members → script.stringifyMembers members = memberTexts members
  | [], _ => rfl
  | (key, value) :: rest, plain => by
      rw [Script.stringifyMembers, memberTexts, stringify_eq script value plain.1,
        stringifyMembers_eq script rest plain.2]

end

/-- Sorting the members keeps their numbers. -/
theorem plain_sorted (before : String → String → Bool) (members : List (String × Value))
    (plain : ∀ member ∈ members, Plain (canonical before member.2)) :
    Plain (canonical before (.object members)) := by
  rw [canonical, Plain, plainMembers_iff, canonicalMembers_eq]
  intro member present
  rw [(List.perm_insertionSort _ _).mem_iff, List.mem_map] at present
  obtain ⟨found, isFound, rfl⟩ := present
  exact plain found isFound

mutual

theorem plain_canonical (before : String → String → Bool) :
    ∀ value, Plain value → Plain (canonical before value)
  | .null, plain => plain
  | .bool _, plain => plain
  | .number _, plain => plain
  | .string _, plain => plain
  | .array items, plain => by
      rw [canonical, canonicalItems_eq, Plain, plainItems_iff, List.forall_mem_map]
      exact plain_items before items plain
  | .object members, plain => plain_sorted before members (plain_members before members plain)

theorem plain_items (before : String → String → Bool) :
    ∀ items, PlainItems items → ∀ item ∈ items, Plain (canonical before item)
  | [], _, _, present => nomatch present
  | first :: rest, plain, item, present => by
      rcases List.mem_cons.mp present with same | later
      · rw [same]
        exact plain_canonical before first plain.1
      · exact plain_items before rest plain.2 item later

theorem plain_members (before : String → String → Bool) :
    ∀ members, PlainMembers members → ∀ member ∈ members, Plain (canonical before member.2)
  | [], _, _, present => nomatch present
  | (key, value) :: rest, plain, member, present => by
      rcases List.mem_cons.mp present with same | later
      · rw [same]
        exact plain_canonical before value plain.1
      · exact plain_members before rest plain.2 member later

end

theorem Script.stableJson_eq (script : Script) {value : Value} (plain : Plain value) :
    script.stableJson value = text (canonical localeLe value) := by
  rw [Script.stableJson, stringify_eq script _ (plain_canonical localeLe value plain)]

end Numbers

section Starts

variable (script : Script) {members others : List (String × Value)}

theorem stringifyMembers_cons (member : String × Value) (rest : List (String × Value)) :
    script.stringifyMembers (member :: rest) =
      (quote member.1 ++ ':' :: script.stringify member.2) :: script.stringifyMembers rest := rfl

/-- The text of an object starts with one of its keys. -/
theorem Script.stableJson_start (filled : members ≠ []) :
    ∃ key ∈ members.map Prod.fst, ∃ rest,
      script.stableJson (.object members) = '\x7b' :: (quote key ++ rest) := by
  have sorted := List.perm_insertionSort (fun left right : String × Value =>
    localeLe left.1 right.1 = true) (canonicalMembers localeLe members)
  rw [Script.stableJson, canonical, Script.stringify]
  generalize (canonicalMembers localeLe members).insertionSort
    (fun left right => localeLe left.1 right.1 = true) = ordered at sorted
  cases ordered with
  | nil =>
      rw [canonicalMembers_eq] at sorted
      exact absurd (List.map_eq_nil_iff.mp sorted.nil_eq.symm) filled
  | cons member rest =>
      have present : member ∈ canonicalMembers localeLe members :=
        sorted.mem_iff.mp List.mem_cons_self
      rw [canonicalMembers_eq, List.mem_map] at present
      obtain ⟨found, isFound, rfl⟩ := present
      refine ⟨found.1, List.mem_map_of_mem isFound, ?_⟩
      rw [stringifyMembers_cons]
      cases script.stringifyMembers rest with
      | nil => exact ⟨_, by simp [commaJoin]; rfl⟩
      | cons next remaining => exact ⟨_, by simp [commaJoin]; rfl⟩

/-- The text of an object starts with no key of other objects. -/
theorem Script.stableJson_no_start (filled : members ≠ []) {key : String}
    (missing : key ∉ members.map Prod.fst) (rest : List Char) :
    script.stableJson (.object members) ≠ '\x7b' :: (quote key ++ rest) := by
  intro same
  obtain ⟨found, isFound, remaining, shape⟩ := script.stableJson_start filled
  rw [shape, List.cons.injEq] at same
  rw [← (quote_inj same.2).1] at missing
  exact missing isFound

/-- Objects without a common key have different texts. -/
theorem Script.stableJson_apart (filled : members ≠ []) (alsoFilled : others ≠ [])
    (apart : ∀ key ∈ others.map Prod.fst, key ∉ members.map Prod.fst) :
    script.stableJson (.object members) ≠ script.stableJson (.object others) := by
  obtain ⟨key, isKey, rest, shape⟩ := script.stableJson_start alsoFilled
  rw [shape]
  exact script.stableJson_no_start filled (apart key isKey) rest

end Starts

section Digits

/-- Sixty-four hexadecimal digits write a number of 256 bits. -/
def hexText (value : ℕ) : String :=
  String.ofList ((List.range 64).map fun place => hexDigit (value / 16 ^ (63 - place) % 16))

theorem hexText_length (value : ℕ) : (hexText value).length = 64 := by simp [hexText]

theorem hexText_chars (value : ℕ) :
    ∀ char ∈ (hexText value).toList, char ∈ "0123456789abcdef".toList := by
  intro char present
  rw [hexText, String.toList_ofList, List.mem_map] at present
  obtain ⟨place, _, rfl⟩ := present
  have digits : ∀ digit < 16, hexDigit digit ∈ "0123456789abcdef".toList := by decide
  exact digits _ (Nat.mod_lt _ (by decide))

/-- Equal texts have the same last digit. -/
theorem hexText_last {first second : ℕ} (same : hexText first = hexText second) :
    first % 16 = second % 16 := by
  rw [hexText, hexText, String.ofList_inj, List.map_inj_left] at same
  have last := same 63 (by decide)
  simp only [Nat.sub_self, pow_zero, Nat.div_one] at last
  have apart : ∀ left < 16, ∀ right < 16, hexDigit left = hexDigit right → left = right := by
    decide
  exact apart _ (Nat.mod_lt _ (by decide)) _ (Nat.mod_lt _ (by decide)) last

/-- A digest that tells one text from all others and otherwise shows one character stands for
SHA-256 in the examples. -/
def Script.probe (place : ℕ) (special : List Char) : Script where
  exponential value := value.repr.toList
  digest text :=
    if text = special then hexText 1 else hexText ((text[place]?.elim 0 Char.toNat) * 16 ^ 60)
  digest_length text := by
    split <;> exact hexText_length _
  digest_chars text := by
    split <;> exact hexText_chars _

/-- The special text has a digest of its own. -/
theorem Script.probe_special {place : ℕ} {special text : List Char}
    (same : (Script.probe place special).digest text =
      (Script.probe place special).digest special) : text = special := by
  by_contra other
  simp only [Script.probe, if_neg other, if_true] at same
  have digits := hexText_last same
  rw [pow_succ, ← mul_assoc, Nat.mul_mod_left] at digits
  cases digits

/-- A digest that only tells the texts with one start from all others stands for SHA-256 in other
examples. -/
def Script.marking (start : List Char) : Script where
  exponential value := value.repr.toList
  digest text := if start.isPrefixOf text then hexText 1 else hexText 0
  digest_length text := by
    split <;> exact hexText_length _
  digest_chars text := by
    split <;> exact hexText_chars _

/-- An object without the marked key has the common digest. -/
theorem Script.marking_sha256 {key : String} {members : List (String × Value)}
    (filled : members ≠ []) (missing : key ∉ members.map Prod.fst) :
    (Script.marking ('\x7b' :: quote key)).sha256 (.object members) = hexText 0 := by
  rw [Script.sha256]
  simp only [Script.marking]
  rw [if_neg]
  rw [List.isPrefixOf_iff_prefix]
  rintro ⟨rest, shape⟩
  exact Script.stableJson_no_start _ filled missing rest shape.symm

/-- A digest that shows the characters at these places stands for SHA-256 in further examples. -/
def Script.picking (places : List ℕ) : Script where
  exponential value := value.repr.toList
  digest text := hexText (places.foldl
    (fun shown place => shown * 256 + text[place]?.elim 0 Char.toNat) 0 * 16 ^ 50)
  digest_length _ := hexText_length _
  digest_chars _ := hexText_chars _

def Spelling.sample : Spelling where
  id identifier := toString identifier.suffix
  fingerprint value := hexText value.digest
  date text := toString text.instant

end Digits

end LineageGuard
