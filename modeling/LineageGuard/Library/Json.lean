import Mathlib.Tactic
import Std.Data.String.ToInt

/-
This file gives JSON values and the text that determines them.
-/

namespace Json

/-- An object keeps its members in their order. -/
inductive Value
  | null
  | bool (value : Bool)
  | number (value : ℤ)
  | string (text : String)
  | array (items : List Value)
  | object (members : List (String × Value))

section Text

/-- These characters have an escape of one letter. -/
def shortEscapes : List (Char × Char) :=
  [('"', '"'), ('\\', '\\'), ('\x08', 'b'), ('\t', 't'), ('\n', 'n'), ('\x0c', 'f'), ('\r', 'r')]

def hexDigit (value : ℕ) : Char := Nat.digitChar value

/-- Every other control character has an escape of four hexadecimal digits. -/
def escape (char : Char) : List Char :=
  match shortEscapes.lookup char with
  | some letter => ['\\', letter]
  | none =>
      if char.toNat < 32 then
        ['\\', 'u', '0', '0', hexDigit (char.toNat / 16), hexDigit (char.toNat % 16)]
      else [char]

def quote (text : String) : List Char := '"' :: text.toList.flatMap escape ++ ['"']

/-- The separator stands between two texts. -/
def commaJoin : List (List Char) → List Char
  | [] => []
  | [last] => last
  | first :: rest => first ++ ',' :: commaJoin rest

mutual

/-- Both languages write these characters for a value whose members they keep in order. -/
def text : Value → List Char
  | .null => ['n', 'u', 'l', 'l']
  | .bool true => ['t', 'r', 'u', 'e']
  | .bool false => ['f', 'a', 'l', 's', 'e']
  | .number value => value.repr.toList
  | .string content => quote content
  | .array items => '[' :: commaJoin (itemTexts items) ++ [']']
  | .object members => '\x7b' :: commaJoin (memberTexts members) ++ ['\x7d']

def itemTexts : List Value → List (List Char)
  | [] => []
  | item :: rest => text item :: itemTexts rest

def memberTexts : List (String × Value) → List (List Char)
  | [] => []
  | (key, value) :: rest => (quote key ++ ':' :: text value) :: memberTexts rest

end

theorem itemTexts_eq (items : List Value) : itemTexts items = items.map text := by
  induction items with
  | nil => rfl
  | cons item rest ih => rw [itemTexts, ih, List.map_cons]

def memberText (member : String × Value) : List Char := quote member.1 ++ ':' :: text member.2

theorem memberTexts_eq (members : List (String × Value)) :
    memberTexts members = members.map memberText := by
  induction members with
  | nil => rfl
  | cons member rest ih => rw [memberTexts, ih, List.map_cons, memberText]

end Text

section Strings

/-- This is the first character that an escaped text writes, together with the rest. -/
def readChar : List Char → Option (Char × List Char)
  | '\\' :: 'u' :: _ :: _ :: high :: low :: rest =>
      ((List.range 32).find? fun code =>
        hexDigit (code / 16) = high ∧ hexDigit (code % 16) = low).map fun code =>
          (Char.ofNat code, rest)
  | '\\' :: letter :: rest =>
      (shortEscapes.find? fun entry => entry.2 = letter).map fun entry => (entry.1, rest)
  | char :: rest => some (char, rest)
  | [] => none

theorem escape_control (code : ℕ) (control : code < 32) :
    ∀ rest, readChar (escape (Char.ofNat code) ++ rest) = some (Char.ofNat code, rest) := by
  interval_cases code <;> (intro rest; rfl)

theorem escape_read (char : Char) (rest : List Char) :
    readChar (escape char ++ rest) = some (char, rest) := by
  by_cases control : char.toNat < 32
  · have same := escape_control char.toNat control rest
    rwa [Char.ofNat_toNat] at same
  · by_cases quoted : char = '"'
    · subst quoted
      rfl
    · by_cases slash : char = '\\'
      · subst slash
        rfl
      · have plain : escape char = [char] := by
          have unlisted : shortEscapes.lookup char = none := by
            rw [List.lookup_eq_none_iff]
            intro entry present
            simp only [shortEscapes, List.mem_cons, List.not_mem_nil, or_false] at present
            rcases present with rfl | rfl | rfl | rfl | rfl | rfl | rfl <;>
              rw [bne_iff_ne] <;> rintro rfl <;>
              first | exact quoted rfl | exact slash rfl | exact control (by decide)
          rw [escape, unlisted]
          simp [control]
        rw [plain, List.singleton_append, readChar]
        · intro _ _ _ _ _ same
          exact absurd same slash
        · intro _ _ same
          exact absurd same slash

/-- No escape starts with the closing quote. -/
theorem escape_open (char : Char) (rest : List Char) : ∀ other, escape char ++ rest ≠ '"' :: other := by
  intro other same
  have read := escape_read char rest
  rw [same] at read
  have : readChar ('"' :: other) = some ('"', other) := rfl
  rw [this] at read
  simp only [Option.some.injEq, Prod.mk.injEq] at read
  obtain ⟨rfl, rfl⟩ := read
  have parts := congrArg List.length same
  simp [escape, shortEscapes] at parts

theorem escaped_inj {first second : List Char} {left right : List Char}
    (same : first.flatMap escape ++ '"' :: left = second.flatMap escape ++ '"' :: right) :
    first = second ∧ left = right := by
  induction first generalizing second with
  | nil =>
      cases second with
      | nil => simpa using same
      | cons char rest =>
          rw [List.flatMap_nil, List.nil_append, List.flatMap_cons, List.append_assoc] at same
          exact absurd same.symm (escape_open char _ _)
  | cons char rest ih =>
      cases second with
      | nil =>
          rw [List.flatMap_nil, List.nil_append, List.flatMap_cons, List.append_assoc] at same
          exact absurd same (escape_open char _ _)
      | cons other remaining =>
          simp only [List.flatMap_cons, List.append_assoc] at same
          have reads := congrArg readChar same
          rw [escape_read, escape_read, Option.some.injEq, Prod.mk.injEq] at reads
          obtain ⟨rfl, tails⟩ := reads
          obtain ⟨rfl, rests⟩ := ih tails
          exact ⟨rfl, rests⟩

/-- A quoted text determines its content and what follows it. -/
theorem quote_inj {first second : String} {left right : List Char}
    (same : quote first ++ left = quote second ++ right) : first = second ∧ left = right := by
  simp only [quote, List.cons_append, List.append_assoc, List.cons.injEq, true_and] at same
  obtain ⟨contents, rests⟩ := escaped_inj same
  exact ⟨String.toList_inj.mp contents, rests⟩

end Strings

section Unique

/-- What follows a value starts with one of these characters. -/
def delimiters : List Char := [',', ']', '\x7d']

def Delimited (rest : List Char) : Prop := ∀ char ∈ rest.head?, char ∈ delimiters

/-- The first character of a text tells the kind of its value. -/
def kind : Value → ℕ
  | .null => 0
  | .bool _ => 1
  | .number _ => 2
  | .string _ => 3
  | .array _ => 4
  | .object _ => 5

def leadKind (char : Char) : ℕ :=
  if char = 'n' then 0
  else if char = 't' ∨ char = 'f' then 1
  else if char = '"' then 3
  else if char = '[' then 4
  else if char = '\x7b' then 5
  else 2

theorem repr_chars (count : ℕ) {char : Char} (present : char ∈ count.repr.toList) :
    char.isDigit = true := by
  apply Nat.isDigit_of_mem_toDigits (b := 10) (n := count) (by decide) (by decide)
  simpa [Nat.repr] using present

/-- The text of an integer uses its digits and a sign. -/
theorem number_chars (value : ℤ) {char : Char} (present : char ∈ value.repr.toList) :
    char.isDigit = true ∨ char = '-' := by
  cases value with
  | ofNat count => exact Or.inl (repr_chars count present)
  | negSucc count =>
      simp only [Int.repr, String.toList_append, List.mem_append] at present
      rcases present with sign | digits
      · exact Or.inr (by simpa using sign)
      · exact Or.inl (repr_chars _ digits)

theorem number_nonempty (value : ℤ) : value.repr.toList ≠ [] := by
  cases value with
  | ofNat count => simp [Int.repr, Nat.repr, Nat.toDigits_ne_nil]
  | negSucc count => simp [Int.repr]

/-- No delimiter occurs in the text of an integer. -/
theorem number_undelimited (value : ℤ) {char : Char} (present : char ∈ value.repr.toList) :
    char ∉ delimiters := by
  intro delimits
  simp only [delimiters, List.mem_cons, List.not_mem_nil, or_false] at delimits
  rcases number_chars value present with digit | rfl
  · rcases delimits with rfl | rfl | rfl <;> simp at digit
  · simp at delimits

theorem leadKind_digit {char : Char} (digit : char.isDigit = true ∨ char = '-') :
    leadKind char = 2 := by
  have apart : ∀ other : Char, other.isDigit = false → other ≠ '-' → char ≠ other := by
    rintro other letter sign rfl
    rcases digit with isDigit | same
    · rw [letter] at isDigit
      cases isDigit
    · exact sign same
  simp [leadKind, apart 'n' (by decide) (by decide), apart 't' (by decide) (by decide),
    apart 'f' (by decide) (by decide), apart '"' (by decide) (by decide),
    apart '[' (by decide) (by decide), apart '\x7b' (by decide) (by decide)]

/-- A text starts with a character of its kind. -/
theorem text_lead (value : Value) :
    ∃ char rest, text value = char :: rest ∧ leadKind char = kind value ∧ char ∉ delimiters := by
  cases value with
  | null => exact ⟨_, _, rfl, rfl, by decide⟩
  | bool flag => cases flag <;> exact ⟨_, _, rfl, rfl, by decide⟩
  | number value =>
      obtain ⟨char, rest, shape⟩ := List.exists_cons_of_ne_nil (number_nonempty value)
      have present : char ∈ value.repr.toList := by
        rw [shape]
        exact List.mem_cons_self
      exact ⟨char, rest, by rw [text, shape], leadKind_digit (number_chars value present),
        number_undelimited value present⟩
  | string content => exact ⟨_, _, rfl, rfl, by decide⟩
  | array items => exact ⟨_, _, rfl, rfl, by decide⟩
  | object members => exact ⟨_, _, rfl, rfl, by decide⟩

/-- A list without delimiters ends where a delimited rest begins. -/
theorem undelimited_split {first second left right : List Char}
    (same : first ++ left = second ++ right) (isFirst : ∀ char ∈ first, char ∉ delimiters)
    (isSecond : ∀ char ∈ second, char ∉ delimiters) (isLeft : Delimited left)
    (isRight : Delimited right) : first = second ∧ left = right := by
  induction first generalizing second with
  | nil =>
      cases second with
      | nil => exact ⟨rfl, same⟩
      | cons char rest =>
          rw [List.nil_append, List.cons_append] at same
          subst same
          exact absurd (isLeft char rfl) (isSecond char List.mem_cons_self)
  | cons char rest ih =>
      cases second with
      | nil =>
          rw [List.nil_append, List.cons_append] at same
          subst same
          exact absurd (isRight char rfl) (isFirst char List.mem_cons_self)
      | cons other remaining =>
          rw [List.cons_append, List.cons_append, List.cons.injEq] at same
          obtain ⟨rfl, tails⟩ := same
          obtain ⟨rfl, rests⟩ := ih tails (fun found present =>
            isFirst found (List.mem_cons_of_mem _ present)) fun found present =>
              isSecond found (List.mem_cons_of_mem _ present)
          exact ⟨rfl, rests⟩

theorem delimited_close {close : Char} (closes : close ∈ delimiters) (rest : List Char) :
    Delimited (close :: rest) := by
  intro char first
  rw [← Option.mem_some_iff.mp first]
  exact closes

/-- The kind of a value and the value itself follow from its text. -/
theorem kind_eq {first second : Value} {left right : List Char}
    (same : text first ++ left = text second ++ right) : kind first = kind second := by
  obtain ⟨char, rest, shape, leads, _⟩ := text_lead first
  obtain ⟨other, remaining, otherShape, otherLeads, _⟩ := text_lead second
  rw [shape, otherShape, List.cons_append, List.cons_append, List.cons.injEq] at same
  rw [← leads, ← otherLeads, same.1]

/-- An element continues a joined list with a comma or with its closing character. -/
theorem commaJoin_cons (first : List Char) (rest : List (List Char)) (close : Char)
    (tail : List Char) : commaJoin (first :: rest) ++ close :: tail =
      first ++ (if rest = [] then close :: tail else ',' :: (commaJoin rest ++ close :: tail)) := by
  cases rest with
  | nil => rfl
  | cons second others => simp [commaJoin]

/-- Joined texts determine their elements when every element is determined by its text. -/
theorem commaJoin_inj {A : Type} {write : A → List Char} {close : Char}
    (closes : close ∈ delimiters) (other : close ≠ ',') :
    ∀ {first second : List A} {left right : List Char},
      (∀ item ∈ first, ∀ found left right, Delimited left → Delimited right →
        write item ++ left = write found ++ right → item = found ∧ left = right) →
      (∀ item : A, ∃ char rest, write item = char :: rest ∧ char ∉ delimiters) →
      commaJoin (first.map write) ++ close :: left =
        commaJoin (second.map write) ++ close :: right → first = second ∧ left = right := by
  intro first
  induction first with
  | nil =>
      intro second left right unique leads same
      cases second with
      | nil => exact ⟨rfl, by simpa [commaJoin] using same⟩
      | cons item rest =>
          obtain ⟨char, remaining, shape, undelimited⟩ := leads item
          rw [List.map_cons, commaJoin_cons, shape] at same
          simp only [List.map_nil, commaJoin, List.nil_append, List.cons_append,
            List.cons.injEq] at same
          rw [same.1] at closes
          exact absurd closes undelimited
  | cons item rest ih =>
      intro second left right unique leads same
      cases second with
      | nil =>
          obtain ⟨char, remaining, shape, undelimited⟩ := leads item
          rw [List.map_cons, commaJoin_cons, shape] at same
          simp only [List.map_nil, commaJoin, List.nil_append, List.cons_append,
            List.cons.injEq] at same
          rw [← same.1] at closes
          exact absurd closes undelimited
      | cons found others =>
          rw [List.map_cons, List.map_cons, commaJoin_cons, commaJoin_cons] at same
          have delimited : ∀ (texts : List (List Char)) tail, Delimited
              (if texts = [] then close :: tail else ',' :: (commaJoin texts ++ close :: tail)) := by
            intro texts tail
            split
            · exact delimited_close closes _
            · exact delimited_close (by decide) _
          obtain ⟨rfl, tails⟩ := unique item List.mem_cons_self found _ _ (delimited _ _)
            (delimited _ _) same
          by_cases ends : rest = []
          · by_cases alsoEnds : others = []
            · subst ends alsoEnds
              simpa using tails
            · simp [ends, alsoEnds, other] at tails
          · by_cases alsoEnds : others = []
            · simp [ends, alsoEnds, other.symm] at tails
            · simp only [List.map_eq_nil_iff, ends, alsoEnds, if_false, List.cons.injEq,
                true_and] at tails
              obtain ⟨rfl, rests⟩ := ih (fun next present => unique next
                (List.mem_cons_of_mem _ present)) leads tails
              exact ⟨rfl, rests⟩

/-- A value is unique when no other value starts a delimited text with its text. -/
def Unique (value : Value) : Prop :=
  ∀ found left right, Delimited left → Delimited right →
    text value ++ left = text found ++ right → value = found ∧ left = right

theorem number_unique (value : ℤ) : Unique (.number value) := by
  intro found left right isLeft isRight same
  have kinds := kind_eq same
  cases found with
  | number other =>
      obtain ⟨texts, rests⟩ := undelimited_split same
        (fun _ present => number_undelimited value present)
        (fun _ present => number_undelimited other present) isLeft isRight
      exact ⟨by rw [Int.repr_injective (String.toList_inj.mp texts)], rests⟩
  | _ => simp [kind] at kinds

theorem string_unique (content : String) : Unique (.string content) := by
  intro found left right isLeft isRight same
  have kinds := kind_eq same
  cases found with
  | string other =>
      obtain ⟨rfl, rests⟩ := quote_inj same
      exact ⟨rfl, rests⟩
  | _ => simp [kind] at kinds

theorem array_unique {items : List Value} (unique : ∀ item ∈ items, Unique item) :
    Unique (.array items) := by
  intro found left right isLeft isRight same
  have kinds := kind_eq same
  cases found with
  | array others =>
      simp only [text, itemTexts_eq, List.cons_append, List.append_assoc, List.cons.injEq,
        true_and] at same
      obtain ⟨rfl, rests⟩ := commaJoin_inj (by decide) (by decide) unique
        (fun item => by
          obtain ⟨char, rest, shape, _, undelimited⟩ := text_lead item
          exact ⟨char, rest, shape, undelimited⟩) same
      exact ⟨rfl, rests⟩
  | _ => simp [kind] at kinds

theorem memberText_unique {member : String × Value} (unique : Unique member.2)
    (found : String × Value) (left right : List Char) (isLeft : Delimited left)
    (isRight : Delimited right) (same : memberText member ++ left = memberText found ++ right) :
    member = found ∧ left = right := by
  rw [memberText, memberText, List.append_assoc, List.append_assoc] at same
  obtain ⟨keys, rest⟩ := quote_inj same
  rw [List.cons_append, List.cons_append, List.cons.injEq] at rest
  obtain ⟨values, rests⟩ := unique _ _ _ isLeft isRight rest.2
  exact ⟨Prod.ext keys values, rests⟩

theorem object_unique {members : List (String × Value)}
    (unique : ∀ member ∈ members, Unique member.2) : Unique (.object members) := by
  intro found left right isLeft isRight same
  have kinds := kind_eq same
  cases found with
  | object others =>
      simp only [text, memberTexts_eq, List.cons_append, List.append_assoc, List.cons.injEq,
        true_and] at same
      obtain ⟨rfl, rests⟩ := commaJoin_inj (by decide) (by decide) (fun member present =>
        memberText_unique (unique member present)) (fun member => ⟨'"', _, rfl, by decide⟩) same
      exact ⟨rfl, rests⟩
  | _ => simp [kind] at kinds

mutual

theorem unique : ∀ value, Unique value
  | .null => by
      intro found left right _ _ same
      have kinds := kind_eq same
      cases found with
      | null => exact ⟨rfl, by simpa [text] using same⟩
      | _ => simp [kind] at kinds
  | .bool flag => by
      intro found left right _ _ same
      have kinds := kind_eq same
      cases found with
      | bool other => cases flag <;> cases other <;> simp_all [text]
      | _ => simp [kind] at kinds
  | .number value => number_unique value
  | .string content => string_unique content
  | .array items => array_unique (items_unique items)
  | .object members => object_unique (members_unique members)

theorem items_unique : ∀ items : List Value, ∀ item ∈ items, Unique item
  | [], _, present => nomatch present
  | first :: rest, item, present => by
      rcases List.mem_cons.mp present with same | later
      · rw [same]
        exact unique first
      · exact items_unique rest item later

theorem members_unique : ∀ members : List (String × Value), ∀ member ∈ members, Unique member.2
  | [], _, present => nomatch present
  | (key, value) :: rest, member, present => by
      rcases List.mem_cons.mp present with same | later
      · rw [same]
        exact unique value
      · exact members_unique rest member later

end

/-- The text of a value determines it. -/
theorem text_inj {first second : Value} (same : text first = text second) : first = second := by
  have nothing : Delimited [] := by simp [Delimited]
  exact (unique first second [] [] nothing nothing (by rw [same])).1

end Unique

section Canonical

variable (before : String → String → Bool)

mutual

/-- The canonical value sorts the members of every object. -/
def canonical : Value → Value
  | .array items => .array (canonicalItems items)
  | .object members => .object ((canonicalMembers members).insertionSort fun first second =>
      before first.1 second.1 = true)
  | value => value

def canonicalItems : List Value → List Value
  | [] => []
  | item :: rest => canonical item :: canonicalItems rest

def canonicalMembers : List (String × Value) → List (String × Value)
  | [] => []
  | (key, value) :: rest => (key, canonical value) :: canonicalMembers rest

end

theorem canonicalItems_eq (items : List Value) :
    canonicalItems before items = items.map (canonical before) := by
  induction items with
  | nil => rfl
  | cons item rest ih => rw [canonicalItems, ih, List.map_cons]

theorem canonicalMembers_eq (members : List (String × Value)) :
    canonicalMembers before members =
      members.map fun member => (member.1, canonical before member.2) := by
  induction members with
  | nil => rfl
  | cons member rest ih => rw [canonicalMembers, ih, List.map_cons]

variable {before}

/-- Equal canonical objects have equal canonical members. -/
theorem canonical_member {other : String → String → Bool} {first second : List (String × Value)}
    (same : canonical before (.object first) = canonical other (.object second))
    (single : (second.map Prod.fst).Nodup) {key : String} {left right : Value}
    (isLeft : (key, left) ∈ first) (isRight : (key, right) ∈ second) :
    canonical before left = canonical other right := by
  simp only [canonical, Value.object.injEq, canonicalMembers_eq] at same
  have present : (key, canonical before left) ∈
      second.map fun member => (member.1, canonical other member.2) := by
    have sorted := List.perm_insertionSort (fun one two : String × Value =>
      before one.1 two.1 = true) (first.map fun member => (member.1, canonical before member.2))
    have otherSorted := List.perm_insertionSort (fun one two : String × Value =>
      other one.1 two.1 = true) (second.map fun member => (member.1, canonical other member.2))
    rw [← otherSorted.mem_iff, ← same, sorted.mem_iff]
    exact List.mem_map.mpr ⟨(key, left), isLeft, rfl⟩
  obtain ⟨found, isFound, equal⟩ := List.mem_map.mp present
  rw [Prod.mk.injEq] at equal
  have unique : found = (key, right) := List.inj_on_of_nodup_map single isFound isRight equal.1
  rw [← equal.2, unique]

theorem canonical_array {other : String → String → Bool} {first second : List Value}
    (same : canonical before (.array first) = canonical other (.array second)) :
    first.map (canonical before) = second.map (canonical other) := by
  simpa only [canonical, Value.array.injEq, canonicalItems_eq] using same

section Reading

variable {members others : List (String × Value)} {key : String}

/-- Equal canonical objects have equal texts under each key. -/
theorem string_member
    (same : canonical before (.object members) = canonical before (.object others))
    (single : (others.map Prod.fst).Nodup) (index : ℕ) {left right : String}
    (isLeft : members[index]? = some (key, .string left))
    (isRight : others[index]? = some (key, .string right)) : left = right := by
  have equal := canonical_member same single (List.mem_of_getElem? isLeft)
    (List.mem_of_getElem? isRight)
  simpa [canonical] using equal

theorem bool_member
    (same : canonical before (.object members) = canonical before (.object others))
    (single : (others.map Prod.fst).Nodup) (index : ℕ) {left right : Bool}
    (isLeft : members[index]? = some (key, .bool left))
    (isRight : others[index]? = some (key, .bool right)) : left = right := by
  have equal := canonical_member same single (List.mem_of_getElem? isLeft)
    (List.mem_of_getElem? isRight)
  simpa [canonical] using equal

theorem array_member
    (same : canonical before (.object members) = canonical before (.object others))
    (single : (others.map Prod.fst).Nodup) (index : ℕ) {left right : List Value}
    (isLeft : members[index]? = some (key, .array left))
    (isRight : others[index]? = some (key, .array right)) :
    left.map (canonical before) = right.map (canonical before) :=
  canonical_array (canonical_member same single (List.mem_of_getElem? isLeft)
    (List.mem_of_getElem? isRight))

end Reading

end Canonical

section Orders

variable {first second : String → String → Bool}

/-- Two orders agree on the keys when they compare every two of them alike. -/
def SameOrder (first second : String → String → Bool) (keys : List String) : Prop :=
  ∀ left ∈ keys, ∀ right ∈ keys, first left right = second left right

instance (first second : String → String → Bool) (keys : List String) :
    Decidable (SameOrder first second keys) := inferInstanceAs (Decidable (∀ _ ∈ keys, _))

/-- Two orders agree on a value when it has the same canonical value under both. -/
def Agree (first second : String → String → Bool) (value : Value) : Prop :=
  canonical first value = canonical second value

theorem SameOrder.subset {keys others : List String} (same : SameOrder first second keys)
    (included : ∀ key ∈ others, key ∈ keys) : SameOrder first second others :=
  fun left isLeft right isRight => same left (included left isLeft) right (included right isRight)

theorem insertionSort_same {A : Type} {left right : A → A → Prop} [DecidableRel left]
    [DecidableRel right] (values : List A)
    (same : ∀ one ∈ values, ∀ other ∈ values, (left one other ↔ right one other)) :
    values.insertionSort left = values.insertionSort right := by
  induction values with
  | nil => rfl
  | cons value rest ih =>
      rw [List.insertionSort_cons, List.insertionSort_cons, ih fun one isOne other isOther =>
        same one (List.mem_cons_of_mem _ isOne) other (List.mem_cons_of_mem _ isOther)]
      have within : ∀ other ∈ rest.insertionSort right, (left value other ↔ right value other) := by
        intro other present
        apply same value List.mem_cons_self other
        exact List.mem_cons_of_mem _ ((List.perm_insertionSort right rest).mem_iff.mp present)
      generalize rest.insertionSort right = sorted at within
      induction sorted with
      | nil => rfl
      | cons next others inner =>
          rw [List.orderedInsert_cons, List.orderedInsert_cons]
          by_cases placed : left value next
          · rw [if_pos placed, if_pos ((within next List.mem_cons_self).mp placed)]
          · rw [if_neg placed, if_neg fun other =>
              placed ((within next List.mem_cons_self).mpr other)]
            rw [inner fun other present => within other (List.mem_cons_of_mem _ present)]

theorem map_insertionSort (before : String → String → Bool) (members : List (String × Value)) :
    (members.insertionSort fun left right => before left.1 right.1 = true).map Prod.fst =
      (members.map Prod.fst).insertionSort fun left right => before left right = true :=
  List.map_insertionSort (r := fun left right => before left.1 right.1 = true)
    (s := fun left right => before left right = true) Prod.fst members fun _ _ _ _ => Iff.rfl

theorem Agree.array {items : List Value} :
    Agree first second (.array items) ↔ ∀ item ∈ items, Agree first second item := by
  constructor
  · intro agree item present
    have same := canonical_array agree
    rw [List.map_inj_left] at same
    exact same item present
  · intro agree
    rw [Agree, canonical, canonical, canonicalItems_eq, canonicalItems_eq]
    exact congrArg _ (List.map_congr_left agree)

/-- The orders agree on an object when they agree on its keys and on its members. -/
theorem Agree.object {members : List (String × Value)}
    (keys : SameOrder first second (members.map Prod.fst))
    (values : ∀ member ∈ members, Agree first second member.2) :
    Agree first second (.object members) := by
  rw [Agree, canonical, canonical, canonicalMembers_eq, canonicalMembers_eq]
  have same : (members.map fun member => (member.1, canonical first member.2)) =
      members.map fun member => (member.1, canonical second member.2) := by
    apply List.map_congr_left
    intro member present
    exact Prod.ext rfl (values member present)
  rw [same]
  apply congrArg Value.object
  apply insertionSort_same
  intro left isLeft right isRight
  obtain ⟨one, isOne, rfl⟩ := List.mem_map.mp isLeft
  obtain ⟨other, isOther, rfl⟩ := List.mem_map.mp isRight
  rw [keys one.1 (List.mem_map_of_mem isOne) other.1 (List.mem_map_of_mem isOther)]

theorem Agree.member {members : List (String × Value)}
    (agree : Agree first second (.object members)) (single : (members.map Prod.fst).Nodup)
    {member : String × Value} (present : member ∈ members) : Agree first second member.2 :=
  canonical_member agree single present present

/-- The orders sort the keys of an object alike when they agree on it. -/
theorem Agree.keys {members : List (String × Value)}
    (agree : Agree first second (.object members)) :
    ((members.map Prod.fst).insertionSort fun left right => first left right = true) =
      (members.map Prod.fst).insertionSort fun left right => second left right = true := by
  simp only [Agree, canonical, Value.object.injEq, canonicalMembers_eq] at agree
  have keys := congrArg (List.map Prod.fst) agree
  rw [map_insertionSort, map_insertionSort] at keys
  simpa only [List.map_map, Function.comp_def] using keys

end Orders

end Json
