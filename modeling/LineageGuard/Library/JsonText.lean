import Mathlib.Tactic

/-
This file gives the reader and the writer of JSON texts with ASCII characters only.
-/

namespace JsonText

/-- A number keeps its text and an object its members as they are read. -/
inductive Node
  | null
  | bool (value : Bool)
  | number (text : List Char)
  | string (text : String)
  | array (items : List Node)
  | object (members : List (String × Node))

section Characters

/-- These characters have an escape of one letter. -/
def shortEscapes : List (Char × Char) :=
  [('"', '"'), ('\\', '\\'), ('\x08', 'b'), ('\t', 't'), ('\n', 'n'), ('\x0c', 'f'), ('\r', 'r')]

def hexDigit (value : ℕ) : Char := Nat.digitChar value

def hexUnit (unit : ℕ) : List Char :=
  ['\\', 'u', hexDigit (unit / 4096), hexDigit (unit / 256 % 16), hexDigit (unit / 16 % 16),
    hexDigit (unit % 16)]

def isPrintable (char : Char) : Bool := 32 ≤ char.toNat && char.toNat ≤ 126

/-- A character above the basic plane is written as two units. -/
def escape (char : Char) : List Char :=
  match shortEscapes.lookup char with
  | some letter => ['\\', letter]
  | none =>
      if isPrintable char then [char]
      else if char.toNat < 65536 then hexUnit char.toNat
      else hexUnit (55296 + (char.toNat - 65536) / 1024) ++
        hexUnit (56320 + (char.toNat - 65536) % 1024)

def hexValue (digit : Char) : Option ℕ :=
  if digit.isDigit then some (digit.toNat - 48)
  else if 97 ≤ digit.toNat ∧ digit.toNat ≤ 102 then some (digit.toNat - 87)
  else if 65 ≤ digit.toNat ∧ digit.toNat ≤ 70 then some (digit.toNat - 55)
  else none

def next : List Char → Option (Char × List Char)
  | [] => none
  | first :: rest => some (first, rest)

def expect (char : Char) : List Char → Option (List Char)
  | [] => none
  | first :: rest => if first = char then some rest else none

def readHex (input : List Char) : Option (ℕ × List Char) := do
  let (digit, rest) ← next input
  let value ← hexValue digit
  return (value, rest)

def readUnit (input : List Char) : Option (ℕ × List Char) := do
  let rest ← expect '\\' input
  let rest ← expect 'u' rest
  let (first, rest) ← readHex rest
  let (second, rest) ← readHex rest
  let (third, rest) ← readHex rest
  let (fourth, rest) ← readHex rest
  return (first * 4096 + second * 256 + third * 16 + fourth, rest)

def IsHigh (unit : ℕ) : Prop := 55296 ≤ unit ∧ unit < 56320

def IsLow (unit : ℕ) : Prop := 56320 ≤ unit ∧ unit < 57344

instance (unit : ℕ) : Decidable (IsHigh unit) := inferInstanceAs (Decidable (_ ∧ _))

instance (unit : ℕ) : Decidable (IsLow unit) := inferInstanceAs (Decidable (_ ∧ _))

def joinUnits (high low : ℕ) : Char := Char.ofNat (65536 + (high - 55296) * 1024 + (low - 56320))

/-- A unit of a pair must be followed by the other one. -/
def readEscaped (input : List Char) : Option (Char × List Char) := do
  let (unit, rest) ← readUnit input
  if IsHigh unit then do
    let (low, rest) ← readUnit rest
    if IsLow low then some (joinUnits unit low, rest) else none
  else if IsLow unit then none
  else some (Char.ofNat unit, rest)

def readChar (input : List Char) : Option (Char × List Char) := do
  let (first, rest) ← next input
  if first = '\\' then do
    let (letter, later) ← next rest
    if letter = 'u' then readEscaped input
    else if letter = '/' then some ('/', later)
    else (shortEscapes.find? fun entry => entry.2 = letter).map fun entry => (entry.1, later)
  else if first.toNat < 32 then none
  else some (first, rest)

end Characters

section Writer

def quote (text : String) : List Char := '"' :: text.toList.flatMap escape ++ ['"']

/-- The separator stands between two texts. -/
def commaJoin : List (List Char) → List Char
  | [] => []
  | [last] => last
  | first :: rest => first ++ ',' :: commaJoin rest

mutual

def write : Node → List Char
  | .null => ['n', 'u', 'l', 'l']
  | .bool true => ['t', 'r', 'u', 'e']
  | .bool false => ['f', 'a', 'l', 's', 'e']
  | .number text => text
  | .string text => quote text
  | .array items => '[' :: commaJoin (itemTexts items) ++ [']']
  | .object members => '\x7b' :: commaJoin (memberTexts members) ++ ['\x7d']

def itemTexts : List Node → List (List Char)
  | [] => []
  | item :: rest => write item :: itemTexts rest

def memberTexts : List (String × Node) → List (List Char)
  | [] => []
  | (key, value) :: rest => (quote key ++ ':' :: write value) :: memberTexts rest

end

def memberText (member : String × Node) : List Char := quote member.1 ++ ':' :: write member.2

theorem itemTexts_eq (items : List Node) : itemTexts items = items.map write := by
  induction items with
  | nil => rfl
  | cons item rest ih => rw [itemTexts, ih, List.map_cons]

theorem memberTexts_eq (members : List (String × Node)) :
    memberTexts members = members.map memberText := by
  induction members with
  | nil => rfl
  | cons member rest ih => rw [memberTexts, ih, List.map_cons, memberText]

end Writer

section Numbers

def isNumberChar (char : Char) : Bool := char.isDigit || ['-', '+', '.', 'e', 'E'].contains char

def isWhole : List Char → Bool
  | ['0'] => true
  | first :: rest => first ≠ '0' && first.isDigit && rest.all Char.isDigit
  | [] => false

def isDigits (text : List Char) : Bool := !text.isEmpty && text.all Char.isDigit

def isExponent : List Char → Bool
  | [] => true
  | mark :: '+' :: digits => ['e', 'E'].contains mark && isDigits digits
  | mark :: '-' :: digits => ['e', 'E'].contains mark && isDigits digits
  | mark :: digits => ['e', 'E'].contains mark && isDigits digits

def isFraction : List Char → Bool
  | '.' :: rest => isDigits (rest.takeWhile Char.isDigit) && isExponent (rest.dropWhile Char.isDigit)
  | rest => isExponent rest

def unsigned : List Char → List Char
  | '-' :: rest => rest
  | rest => rest

/-- A number has no superfluous zero and no empty part. -/
def isNumber (text : List Char) : Bool :=
  isWhole ((unsigned text).takeWhile Char.isDigit) &&
    isFraction ((unsigned text).dropWhile Char.isDigit) && text.all isNumberChar

/-- No character of a number may follow a number. -/
def readNumber (input : List Char) : Option (Node × List Char) :=
  if isNumber (input.takeWhile isNumberChar) then
    some (.number (input.takeWhile isNumberChar), input.dropWhile isNumberChar)
  else none

end Numbers

section Reader

def isSpace (char : Char) : Bool := [' ', '\t', '\n', '\r'].contains char

def skip (input : List Char) : List Char := input.dropWhile isSpace

/-- The text ends with the closing quote. -/
def readText : ℕ → List Char → Option (List Char × List Char)
  | 0, _ => none
  | fuel + 1, input =>
      match expect '"' input with
      | some rest => some ([], rest)
      | none => do
          let (char, rest) ← readChar input
          let (chars, rest) ← readText fuel rest
          return (char :: chars, rest)

def readString (fuel : ℕ) (input : List Char) : Option (String × List Char) := do
  let rest ← expect '"' input
  let (chars, rest) ← readText fuel rest
  return (String.ofList chars, rest)

/-- These are the words and what they stand for. -/
def words : List (List Char × Node) :=
  [(['n', 'u', 'l', 'l'], .null), (['t', 'r', 'u', 'e'], .bool true),
    (['f', 'a', 'l', 's', 'e'], .bool false)]

def readScalar (input : List Char) : Option (Node × List Char) :=
  match words.find? fun word => word.1.isPrefixOf input with
  | some (word, value) => some (value, input.drop word.length)
  | none => readNumber input

mutual

/-- The first character decides what is read. -/
def readValue : ℕ → List Char → Option (Node × List Char)
  | 0, _ => none
  | fuel + 1, input =>
      match input with
      | '"' :: _ => do
          let (text, rest) ← readString fuel input
          return (.string text, rest)
      | '\x7b' :: rest =>
          match expect '\x7d' (skip rest) with
          | some rest => some (.object [], rest)
          | none => do
              let (members, rest) ← readMembers fuel (skip rest)
              return (.object members, rest)
      | '[' :: rest =>
          match expect ']' (skip rest) with
          | some rest => some (.array [], rest)
          | none => do
              let (items, rest) ← readItems fuel (skip rest)
              return (.array items, rest)
      | _ => readScalar input

def readItems : ℕ → List Char → Option (List Node × List Char)
  | 0, _ => none
  | fuel + 1, input => do
      let (item, rest) ← readValue fuel input
      match expect ']' (skip rest) with
      | some rest => some ([item], rest)
      | none => do
          let rest ← expect ',' (skip rest)
          let (items, rest) ← readItems fuel (skip rest)
          return (item :: items, rest)

def readMembers : ℕ → List Char → Option (List (String × Node) × List Char)
  | 0, _ => none
  | fuel + 1, input => do
      let (key, rest) ← readString fuel input
      let rest ← expect ':' (skip rest)
      let (value, rest) ← readValue fuel (skip rest)
      match expect '\x7d' (skip rest) with
      | some rest => some ([(key, value)], rest)
      | none => do
          let rest ← expect ',' (skip rest)
          let (members, rest) ← readMembers fuel (skip rest)
          return ((key, value) :: members, rest)

end

/-- Only space may follow the value. -/
def loads (input : List Char) : Option Node := do
  let (value, rest) ← readValue (input.length + 1) (skip input)
  if skip rest = [] then some value else none

end Reader

section Texts

theorem hexValue_hexDigit {value : ℕ} (small : value < 16) :
    hexValue (hexDigit value) = some value := by
  have each : ∀ digit : Fin 16, hexValue (hexDigit digit) = some digit.val := by decide
  exact each ⟨value, small⟩

theorem readHex_hexDigit {value : ℕ} (small : value < 16) (rest : List Char) :
    readHex (hexDigit value :: rest) = some (value, rest) := by
  simp only [readHex, next, Option.bind_eq_bind, Option.bind_some, hexValue_hexDigit small,
    Option.pure_def]

theorem readUnit_hexUnit {unit : ℕ} (small : unit < 65536) (rest : List Char) :
    readUnit (hexUnit unit ++ rest) = some (unit, rest) := by
  have value : unit / 4096 * 4096 + unit / 256 % 16 * 256 + unit / 16 % 16 * 16 + unit % 16 =
      unit := by omega
  simp only [hexUnit, List.cons_append, List.nil_append, readUnit, expect, if_pos,
    Option.bind_eq_bind, Option.bind_some]
  rw [readHex_hexDigit (by omega)]
  simp only [Option.bind_some]
  rw [readHex_hexDigit (by omega)]
  simp only [Option.bind_some]
  rw [readHex_hexDigit (by omega)]
  simp only [Option.bind_some]
  rw [readHex_hexDigit (by omega)]
  simp only [Option.bind_some, Option.pure_def, value]

/-- A character is no half of a pair. -/
theorem char_whole (char : Char) : ¬ IsHigh char.toNat ∧ ¬ IsLow char.toNat := by
  have valid : char.toNat < 55296 ∨ (57343 < char.toNat ∧ char.toNat < 1114112) := char.valid
  unfold IsHigh IsLow
  omega

theorem readEscaped_unit {char : Char} (small : char.toNat < 65536) (rest : List Char) :
    readEscaped (hexUnit char.toNat ++ rest) = some (char, rest) := by
  obtain ⟨noHigh, noLow⟩ := char_whole char
  rw [readEscaped, readUnit_hexUnit small]
  simp only [Option.bind_eq_bind, Option.bind_some, if_neg noHigh, if_neg noLow, Char.ofNat_toNat]

theorem readEscaped_halves {high low : ℕ} (isHigh : IsHigh high) (isLow : IsLow low)
    (rest : List Char) :
    readEscaped (hexUnit high ++ (hexUnit low ++ rest)) = some (joinUnits high low, rest) := by
  rw [readEscaped, readUnit_hexUnit (Nat.lt_trans isHigh.2 (by decide))]
  simp only [Option.bind_eq_bind, Option.bind_some, if_pos isHigh]
  rw [readUnit_hexUnit (Nat.lt_trans isLow.2 (by decide))]
  simp only [Option.bind_some, if_pos isLow]

theorem readEscaped_pair {char : Char} (large : 65536 ≤ char.toNat) (rest : List Char) :
    readEscaped (hexUnit (55296 + (char.toNat - 65536) / 1024) ++
      (hexUnit (56320 + (char.toNat - 65536) % 1024) ++ rest)) = some (char, rest) := by
  have valid : char.toNat < 55296 ∨ (57343 < char.toNat ∧ char.toNat < 1114112) := char.valid
  have isHigh : IsHigh (55296 + (char.toNat - 65536) / 1024) := by
    unfold IsHigh
    omega
  have isLow : IsLow (56320 + (char.toNat - 65536) % 1024) := by
    unfold IsLow
    omega
  have value : 65536 + (55296 + (char.toNat - 65536) / 1024 - 55296) * 1024 +
      (56320 + (char.toNat - 65536) % 1024 - 56320) = char.toNat := by omega
  rw [readEscaped_halves isHigh isLow, joinUnits, value, Char.ofNat_toNat]

theorem readChar_unit (rest : List Char) :
    readChar ('\\' :: 'u' :: rest) = readEscaped ('\\' :: 'u' :: rest) := by
  simp only [readChar, next, Option.bind_eq_bind, Option.bind_some, if_pos]

/-- An escaped character is read back, and it does not start with a quote. -/
theorem readChar_escape (char : Char) (rest : List Char) :
    readChar (escape char ++ rest) = some (char, rest) ∧
      expect '"' (escape char ++ rest) = none := by
  rw [escape]
  cases listed : shortEscapes.lookup char with
  | some letter =>
      obtain ⟨before, after, split, _⟩ := List.lookup_eq_some_iff.mp listed
      have present : (char, letter) ∈ shortEscapes := by rw [split]; simp
      simp only [shortEscapes, List.mem_cons, Prod.mk.injEq, List.not_mem_nil, or_false] at present
      rcases present with ⟨rfl, rfl⟩ | ⟨rfl, rfl⟩ | ⟨rfl, rfl⟩ | ⟨rfl, rfl⟩ | ⟨rfl, rfl⟩ |
        ⟨rfl, rfl⟩ | ⟨rfl, rfl⟩ <;> exact ⟨rfl, rfl⟩
  | none =>
      have unlisted : ∀ letter, (char, letter) ∉ shortEscapes := by
        intro letter present
        have different := List.lookup_eq_none_iff.mp listed _ present
        rw [bne_self_eq_false] at different
        exact nomatch different
      have noSlash : char ≠ '\\' := by rintro rfl; exact unlisted '\\' (by decide)
      have noQuote : char ≠ '"' := by rintro rfl; exact unlisted '"' (by decide)
      dsimp only
      split_ifs with printable small
      · simp only [isPrintable, Bool.and_eq_true, decide_eq_true_eq] at printable
        constructor
        · simp only [List.singleton_append, readChar, next, Option.bind_eq_bind, Option.bind_some]
          rw [if_neg noSlash, if_neg (Nat.not_lt.mpr printable.1)]
        · rw [List.singleton_append, expect, if_neg noQuote]
      · refine ⟨?_, rfl⟩
        rw [← readEscaped_unit small rest]
        exact readChar_unit _
      · refine ⟨?_, rfl⟩
        rw [List.append_assoc, ← readEscaped_pair (Nat.le_of_not_lt small) rest]
        exact readChar_unit _

theorem readText_escaped {chars : List Char} {fuel : ℕ} (enough : chars.length < fuel)
    (rest : List Char) : readText fuel (chars.flatMap escape ++ '"' :: rest) = some (chars, rest) := by
  induction chars generalizing fuel with
  | nil =>
      obtain ⟨fewer, rfl⟩ := Nat.exists_eq_succ_of_ne_zero (Nat.ne_of_gt enough)
      rfl
  | cons char others ih =>
      obtain ⟨fewer, rfl⟩ := Nat.exists_eq_succ_of_ne_zero (Nat.ne_of_gt (Nat.zero_lt_of_lt enough))
      rw [List.flatMap_cons, List.append_assoc, readText]
      obtain ⟨read, unquoted⟩ := readChar_escape char (others.flatMap escape ++ '"' :: rest)
      rw [unquoted]
      simp only [read, Option.bind_eq_bind, Option.bind_some]
      rw [ih (by simpa using enough)]
      rfl

theorem escape_nonempty (char : Char) : 1 ≤ (escape char).length := by
  rw [escape]
  split
  · exact Nat.le_add_left 1 1
  · split_ifs <;> simp [hexUnit]

theorem escaped_length (chars : List Char) : chars.length ≤ (chars.flatMap escape).length := by
  induction chars with
  | nil => exact Nat.le_refl 0
  | cons char others ih =>
      have one := escape_nonempty char
      rw [List.flatMap_cons, List.length_append, List.length_cons]
      omega

theorem readString_quote {text : String} {fuel : ℕ} (enough : (quote text).length ≤ fuel + 1)
    (rest : List Char) : readString fuel (quote text ++ rest) = some (text, rest) := by
  have length := escaped_length text.toList
  simp only [quote, List.length_append, List.length_cons, List.length_nil] at enough
  have opened : expect '"' (quote text ++ rest) =
      some (text.toList.flatMap escape ++ '"' :: rest) := by
    simp only [quote, List.cons_append, List.append_assoc, List.nil_append, expect, if_pos]
  rw [readString, opened]
  simp only [Option.bind_eq_bind, Option.bind_some]
  rw [readText_escaped (by omega)]
  simp only [Option.bind_some, String.ofList_toList, Option.pure_def]

end Texts

section RoundTrip

mutual

/-- Every number of the value is written as one. -/
def WellFormed : Node → Prop
  | .null => True
  | .bool _ => True
  | .number text => isNumber text = true
  | .string _ => True
  | .array items => ItemsFormed items
  | .object members => MembersFormed members

def ItemsFormed : List Node → Prop
  | [] => True
  | item :: rest => WellFormed item ∧ ItemsFormed rest

def MembersFormed : List (String × Node) → Prop
  | [] => True
  | (_, value) :: rest => WellFormed value ∧ MembersFormed rest

end

/-- No character of a number follows. -/
def Stops (rest : List Char) : Prop := ∀ char ∈ rest.head?, isNumberChar char = false

theorem Stops.cons {char : Char} (rest : List Char) (stops : isNumberChar char = false) :
    Stops (char :: rest) := by
  intro first isFirst
  cases isFirst
  exact stops

theorem span_append {accepts : Char → Bool} {text rest : List Char}
    (within : text.all accepts = true) (stops : ∀ char ∈ rest.head?, accepts char = false) :
    (text ++ rest).takeWhile accepts = text ∧ (text ++ rest).dropWhile accepts = rest := by
  induction text with
  | nil =>
      cases rest with
      | nil => exact ⟨rfl, rfl⟩
      | cons char others =>
          have refused := stops char rfl
          simp [refused]
  | cons char others ih =>
      rw [List.all_cons, Bool.and_eq_true] at within
      obtain ⟨taken, dropped⟩ := ih within.2
      simp [within.1, taken, dropped]

theorem readNumber_number {text rest : List Char} (number : isNumber text = true)
    (stops : Stops rest) : readNumber (text ++ rest) = some (.number text, rest) := by
  have within : text.all isNumberChar = true := by
    simp only [isNumber, Bool.and_eq_true] at number
    exact number.2
  obtain ⟨taken, dropped⟩ := span_append within stops
  rw [readNumber, taken, dropped, if_pos number]

theorem isNumber_start {text : List Char} (number : isNumber text = true) :
    ∃ first rest, text = first :: rest ∧ isNumberChar first = true := by
  cases text with
  | nil => exact absurd number (by decide)
  | cons first rest =>
      simp only [isNumber, List.all_cons, Bool.and_eq_true] at number
      exact ⟨first, rest, rfl, number.2.1⟩

/-- A text of a number is no word. -/
theorem readScalar_number {text rest : List Char} (number : isNumber text = true)
    (stops : Stops rest) : readScalar (text ++ rest) = some (.number text, rest) := by
  obtain ⟨first, others, rfl, isFirst⟩ := isNumber_start number
  have different : first ≠ 'n' ∧ first ≠ 't' ∧ first ≠ 'f' := by
    refine ⟨?_, ?_, ?_⟩ <;> rintro rfl <;> exact absurd isFirst (by decide)
  have wordless : (words.find? fun word => word.1.isPrefixOf (first :: others ++ rest)) = none := by
    simp [words, List.isPrefixOf, different.1.symm, different.2.1.symm, different.2.2.symm]
  rw [readScalar, wordless]
  exact readNumber_number number stops

theorem skip_start {char : Char} (rest : List Char) (solid : isSpace char = false) :
    skip (char :: rest) = char :: rest := by
  simp [skip, solid]

/-- These characters start a value. -/
def isStart (char : Char) : Bool := ['"', '\x7b', '[', 'n', 't', 'f'].contains char || isNumberChar char

theorem write_start {value : Node} (formed : WellFormed value) :
    ∃ first rest, write value = first :: rest ∧ isStart first = true := by
  cases value with
  | null => exact ⟨'n', _, rfl, by decide⟩
  | bool value => cases value <;> exact ⟨_, _, rfl, by decide⟩
  | number text =>
      rw [WellFormed] at formed
      obtain ⟨first, rest, rfl, isFirst⟩ := isNumber_start formed
      exact ⟨first, rest, rfl, by rw [isStart, isFirst, Bool.or_true]⟩
  | string text => exact ⟨'"', _, rfl, by decide⟩
  | array items => exact ⟨'[', _, rfl, by decide⟩
  | object members => exact ⟨'\x7b', _, rfl, by decide⟩

theorem isStart_solid {char : Char} (start : isStart char = true) :
    isSpace char = false ∧ char ≠ ']' ∧ char ≠ '\x7d' := by
  refine ⟨?_, ?_, ?_⟩
  · by_contra space
    simp only [isSpace, Bool.not_eq_false, List.contains_eq_mem, List.mem_cons, List.not_mem_nil,
      or_false, decide_eq_true_eq] at space
    rcases space with rfl | rfl | rfl | rfl <;> exact absurd start (by decide)
  · rintro rfl
    exact absurd start (by decide)
  · rintro rfl
    exact absurd start (by decide)

theorem skip_write {value : Node} (formed : WellFormed value) (rest : List Char) :
    skip (write value ++ rest) = write value ++ rest := by
  obtain ⟨first, others, isFirst, start⟩ := write_start formed
  rw [isFirst, List.cons_append, skip_start _ (isStart_solid start).1]

theorem skip_quote (text : String) (rest : List Char) :
    skip (quote text ++ rest) = quote text ++ rest := skip_start _ (by decide)

/-- The value is read as it is written. -/
def Reads (value : Node) : Prop :=
  ∀ (fuel : ℕ) (rest : List Char), (write value).length ≤ fuel → Stops rest →
    readValue fuel (write value ++ rest) = some (value, rest)

theorem positive_fuel {text : List Char} {fuel : ℕ} (filled : text ≠ [])
    (enough : text.length ≤ fuel) : ∃ fewer, fuel = fewer + 1 :=
  Nat.exists_eq_add_of_le' (Nat.le_trans (List.length_pos_of_ne_nil filled) enough)

theorem readValue_scalar {first : Char} (rest : List Char)
    (plain : first ≠ '"' ∧ first ≠ '\x7b' ∧ first ≠ '[') (fuel : ℕ) :
    readValue (fuel + 1) (first :: rest) = readScalar (first :: rest) := by
  rw [readValue]
  · intro _ same
    exact plain.1 (List.cons.inj same).1
  · intro _ same
    exact plain.2.1 (List.cons.inj same).1
  · intro _ same
    exact plain.2.2 (List.cons.inj same).1

theorem number_reads {text : List Char} (number : isNumber text = true) :
    Reads (.number text) := by
  intro fuel rest enough stops
  obtain ⟨first, others, same, isFirst⟩ := isNumber_start number
  have filled : text ≠ [] := by rw [same]; exact List.cons_ne_nil _ _
  obtain ⟨fewer, rfl⟩ := positive_fuel filled enough
  have scalar := readScalar_number number stops
  have plain : first ≠ '"' ∧ first ≠ '\x7b' ∧ first ≠ '[' := by
    refine ⟨?_, ?_, ?_⟩ <;> rintro rfl <;> exact absurd isFirst (by decide)
  rw [write, same, List.cons_append, readValue_scalar _ plain fewer]
  rwa [same, List.cons_append] at scalar

theorem string_reads (text : String) : Reads (.string text) := by
  intro fuel rest enough stops
  rw [write] at enough ⊢
  obtain ⟨fewer, rfl⟩ := positive_fuel (List.cons_ne_nil _ _) enough
  have read := readString_quote enough rest
  have opened : quote text ++ rest = '"' :: (text.toList.flatMap escape ++ '"' :: rest) := by
    simp [quote]
  rw [opened] at read ⊢
  rw [readValue, read]
  rfl

theorem commaJoin_pair (first second : List Char) (rest : List (List Char)) :
    commaJoin (first :: second :: rest) = first ++ ',' :: commaJoin (second :: rest) := rfl

theorem commaJoin_start (first : Char) (chars : List Char) (others : List (List Char)) :
    ∃ rest, commaJoin ((first :: chars) :: others) = first :: rest := by
  cases others with
  | nil => exact ⟨chars, rfl⟩
  | cons next more => exact ⟨chars ++ ',' :: commaJoin (next :: more), rfl⟩

/-- The text of the parts starts with the first character of the first part. -/
theorem skip_joined {text : List Char} {first : Char} {chars : List Char}
    (others : List (List Char)) (rest : List Char) (isText : text = first :: chars)
    (solid : isSpace first = false) :
    skip (commaJoin (text :: others) ++ rest) = commaJoin (text :: others) ++ rest := by
  subst isText
  obtain ⟨more, joined⟩ := commaJoin_start first chars others
  rw [joined, List.cons_append, skip_start _ solid]

theorem items_read {items : List Node} (fuel : ℕ) (rest : List Char) (filled : items ≠ [])
    (formed : ∀ item ∈ items, WellFormed item) (reads : ∀ item ∈ items, Reads item)
    (enough : (commaJoin (items.map write)).length < fuel) :
    readItems fuel (commaJoin (items.map write) ++ ']' :: rest) = some (items, rest) := by
  induction items generalizing fuel with
  | nil => exact absurd rfl filled
  | cons item others ih =>
      obtain ⟨fewer, rfl⟩ := Nat.exists_eq_add_of_le' (Nat.succ_le_of_lt (Nat.zero_lt_of_lt enough))
      have read := reads item List.mem_cons_self
      cases others with
      | nil =>
          rw [readItems, List.map_cons, List.map_nil, commaJoin,
            read fewer _ (Nat.le_of_lt_succ enough) (Stops.cons _ (by decide))]
          rfl
      | cons next more =>
          have isNext := formed next (List.mem_cons_of_mem _ List.mem_cons_self)
          obtain ⟨first, chars, isFirst, start⟩ := write_start isNext
          have solid := skip_joined (more.map write) (']' :: rest) isFirst (isStart_solid start).1
          simp only [List.map_cons, commaJoin, List.length_append, List.length_cons] at enough
          have later := ih fewer (List.cons_ne_nil _ _)
            (fun other present => formed other (List.mem_cons_of_mem _ present))
            (fun other present => reads other (List.mem_cons_of_mem _ present))
            (by simp only [List.map_cons]; omega)
          rw [List.map_cons] at later
          rw [readItems, List.map_cons, List.map_cons, commaJoin_pair, List.append_assoc,
            List.cons_append, read fewer _ (by omega) (Stops.cons _ (by decide))]
          simp only [Option.bind_eq_bind, Option.bind_some]
          rw [show skip (',' :: (commaJoin (write next :: more.map write) ++ ']' :: rest)) = _
            from skip_start _ (by decide), expect, if_neg (by decide), expect, if_pos rfl]
          simp only [Option.bind_some]
          rw [solid, later]
          rfl

theorem array_reads {items : List Node} (formed : ∀ item ∈ items, WellFormed item)
    (reads : ∀ item ∈ items, Reads item) : Reads (.array items) := by
  intro fuel rest enough stops
  rw [write, itemTexts_eq] at enough ⊢
  obtain ⟨fewer, rfl⟩ := positive_fuel (List.cons_ne_nil _ _) enough
  cases items with
  | nil => rfl
  | cons item others =>
      obtain ⟨first, chars, isFirst, start⟩ := write_start (formed item List.mem_cons_self)
      have solid := skip_joined (others.map write) (']' :: rest) isFirst (isStart_solid start).1
      obtain ⟨more, joined⟩ := commaJoin_start first chars (others.map write)
      simp only [List.length_append, List.length_cons, List.length_nil] at enough
      have read := items_read fewer rest (List.cons_ne_nil item others) formed reads
        (by omega)
      rw [List.map_cons] at read ⊢
      simp only [List.cons_append, List.append_assoc, List.nil_append]
      rw [readValue, solid]
      have inner : expect ']' (commaJoin (write item :: others.map write) ++ ']' :: rest) = none := by
        rw [isFirst, joined, List.cons_append, expect, if_neg (isStart_solid start).2.1]
      rw [inner]
      simp only [read, Option.bind_eq_bind, Option.bind_some, Option.pure_def]

theorem memberText_start (member : String × Node) : memberText member =
    '"' :: (member.1.toList.flatMap escape ++ '"' :: ':' :: write member.2) := by
  simp [memberText, quote]

/-- A member is read in three steps. -/
theorem member_read (key : String) {value : Node} (fuel : ℕ) (rest : List Char)
    (formed : WellFormed value) (reads : Reads value)
    (enough : (memberText (key, value)).length ≤ fuel) (stops : Stops rest) :
    readString fuel (memberText (key, value) ++ rest) = some (key, ':' :: (write value ++ rest)) ∧
      expect ':' (skip (':' :: (write value ++ rest))) = some (write value ++ rest) ∧
      readValue fuel (skip (write value ++ rest)) = some (value, rest) := by
  have room : (quote key).length + ((write value).length + 1) ≤ fuel := by
    simpa [memberText] using enough
  refine ⟨?_, ?_, ?_⟩
  · have short : (quote key).length ≤ fuel + 1 := by omega
    rw [memberText, List.append_assoc, readString_quote short, List.cons_append]
  · rw [skip_start _ (by decide), expect, if_pos rfl]
  · rw [skip_write formed]
    exact reads fuel rest (by omega) stops

theorem members_read {members : List (String × Node)} (fuel : ℕ) (rest : List Char)
    (filled : members ≠ []) (formed : ∀ member ∈ members, WellFormed member.2)
    (reads : ∀ member ∈ members, Reads member.2)
    (enough : (commaJoin (members.map memberText)).length < fuel) :
    readMembers fuel (commaJoin (members.map memberText) ++ '\x7d' :: rest) =
      some (members, rest) := by
  induction members generalizing fuel with
  | nil => exact absurd rfl filled
  | cons member others ih =>
      obtain ⟨key, value⟩ := member
      obtain ⟨fewer, rfl⟩ := Nat.exists_eq_add_of_le' (Nat.succ_le_of_lt (Nat.zero_lt_of_lt enough))
      have isValue : WellFormed value := formed (key, value) List.mem_cons_self
      have read : Reads value := reads (key, value) List.mem_cons_self
      cases others with
      | nil =>
          obtain ⟨named, separated, valued⟩ := member_read key fewer ('\x7d' :: rest)
            isValue read (Nat.le_of_lt_succ enough) (Stops.cons _ (by decide))
          rw [List.map_cons, List.map_nil, commaJoin, readMembers, named]
          simp only [Option.bind_eq_bind, Option.bind_some, separated, valued]
          rw [skip_start _ (by decide), expect, if_pos rfl]
      | cons next more =>
          have solid := skip_joined (more.map memberText) ('\x7d' :: rest)
            (memberText_start next) (by decide)
          rw [List.map_cons, List.map_cons, commaJoin_pair, List.length_append, List.length_cons]
            at enough
          obtain ⟨named, separated, valued⟩ := member_read key fewer
            (',' :: (commaJoin (memberText next :: more.map memberText) ++ '\x7d' :: rest))
            isValue read (by omega) (Stops.cons _ (by decide))
          have later := ih fewer (List.cons_ne_nil _ _)
            (fun other present => formed other (List.mem_cons_of_mem _ present))
            (fun other present => reads other (List.mem_cons_of_mem _ present))
            (by simp only [List.map_cons]; omega)
          rw [List.map_cons] at later
          rw [List.map_cons, List.map_cons, commaJoin_pair, List.append_assoc, List.cons_append,
            readMembers, named]
          simp only [Option.bind_eq_bind, Option.bind_some, separated, valued]
          rw [skip_start _ (by decide), expect, if_neg (by decide), expect, if_pos rfl]
          simp only [Option.bind_some]
          rw [solid, later]
          rfl

theorem object_reads {members : List (String × Node)}
    (formed : ∀ member ∈ members, WellFormed member.2)
    (reads : ∀ member ∈ members, Reads member.2) : Reads (.object members) := by
  intro fuel rest enough stops
  rw [write, memberTexts_eq] at enough ⊢
  obtain ⟨fewer, rfl⟩ := positive_fuel (List.cons_ne_nil _ _) enough
  cases members with
  | nil => rfl
  | cons member others =>
      have isFirst := memberText_start member
      have solid := skip_joined (others.map memberText) ('\x7d' :: rest) isFirst (by decide)
      obtain ⟨more, joined⟩ := commaJoin_start '"'
        (member.1.toList.flatMap escape ++ '"' :: ':' :: write member.2) (others.map memberText)
      simp only [List.length_append, List.length_cons, List.length_nil] at enough
      have read := members_read fewer rest (List.cons_ne_nil member others) formed
        reads (by omega)
      rw [List.map_cons] at read ⊢
      simp only [List.cons_append, List.append_assoc, List.nil_append]
      rw [readValue, solid]
      have inner : expect '\x7d'
          (commaJoin (memberText member :: others.map memberText) ++ '\x7d' :: rest) = none := by
        rw [isFirst, joined, List.cons_append, expect, if_neg (by decide)]
      rw [inner]
      simp only [read, Option.bind_eq_bind, Option.bind_some, Option.pure_def]

theorem itemsFormed_iff {items : List Node} :
    ItemsFormed items ↔ ∀ item ∈ items, WellFormed item := by
  induction items with
  | nil => simp [ItemsFormed]
  | cons item rest ih => simp [ItemsFormed, ih]

theorem membersFormed_iff {members : List (String × Node)} :
    MembersFormed members ↔ ∀ member ∈ members, WellFormed member.2 := by
  induction members with
  | nil => simp [MembersFormed]
  | cons member rest ih => simp [MembersFormed, ih]

mutual

theorem value_reads : ∀ value, WellFormed value → Reads value
  | .null, _ => by
      intro fuel rest enough _
      obtain ⟨fewer, rfl⟩ := positive_fuel (List.cons_ne_nil _ _) enough
      rfl
  | .bool true, _ => by
      intro fuel rest enough _
      obtain ⟨fewer, rfl⟩ := positive_fuel (List.cons_ne_nil _ _) enough
      rfl
  | .bool false, _ => by
      intro fuel rest enough _
      obtain ⟨fewer, rfl⟩ := positive_fuel (List.cons_ne_nil _ _) enough
      rfl
  | .number text, formed => number_reads (by rwa [WellFormed] at formed)
  | .string text, _ => string_reads text
  | .array items, formed => by
      rw [WellFormed, itemsFormed_iff] at formed
      exact array_reads formed (items_each items formed)
  | .object members, formed => by
      rw [WellFormed, membersFormed_iff] at formed
      exact object_reads formed (members_each members formed)

theorem items_each : ∀ items : List Node, (∀ item ∈ items, WellFormed item) →
    ∀ item ∈ items, Reads item
  | [], _, _, present => nomatch present
  | first :: rest, formed, item, present => by
      rcases List.mem_cons.mp present with same | later
      · rw [same]
        exact value_reads first (formed first List.mem_cons_self)
      · exact items_each rest (fun other found => formed other (List.mem_cons_of_mem _ found)) item
          later

theorem members_each : ∀ members : List (String × Node),
    (∀ member ∈ members, WellFormed member.2) → ∀ member ∈ members, Reads member.2
  | [], _, _, present => nomatch present
  | (key, value) :: rest, formed, member, present => by
      rcases List.mem_cons.mp present with same | later
      · rw [same]
        exact value_reads value (formed (key, value) List.mem_cons_self)
      · exact members_each rest (fun other found => formed other (List.mem_cons_of_mem _ found))
          member later

end

end RoundTrip

section Extension

variable {Found : Type}

/-- What is read stays when more characters follow. -/
def Extends (read : List Char → Option (Found × List Char)) : Prop :=
  ∀ input value rest more, read input = some (value, rest) →
    read (input ++ more) = some (value, rest ++ more)

theorem expect_extends {char : Char} {input rest : List Char} (more : List Char)
    (found : expect char input = some rest) : expect char (input ++ more) = some (rest ++ more) := by
  cases input with
  | nil => exact nomatch found
  | cons first others =>
      rw [expect] at found
      split at found
      · next same =>
          cases found
          rw [List.cons_append, expect, if_pos same]
      · exact nomatch found

theorem expect_misses {char : Char} {input : List Char} (more : List Char) (filled : input ≠ [])
    (missed : expect char input = none) : expect char (input ++ more) = none := by
  cases input with
  | nil => exact absurd rfl filled
  | cons first others =>
      rw [expect] at missed
      split at missed
      · exact nomatch missed
      · next different => rw [List.cons_append, expect, if_neg different]

theorem expect_filled {char : Char} {input rest : List Char}
    (found : expect char input = some rest) : input ≠ [] := by
  rintro rfl
  exact nomatch found

theorem skip_extends {input : List Char} (more : List Char) (filled : skip input ≠ []) :
    skip (input ++ more) = skip input ++ more := by
  induction input with
  | nil => exact absurd rfl filled
  | cons first others ih =>
      by_cases space : isSpace first = true
      · have dropped : ∀ later, skip (first :: later) = skip later := fun later => by
          simp [skip, space]
        rw [List.cons_append, dropped, dropped]
        rw [dropped] at filled
        exact ih filled
      · rw [Bool.not_eq_true] at space
        rw [List.cons_append, skip_start _ space, skip_start _ space, List.cons_append]

theorem next_extends : Extends next := by
  intro input value rest more found
  cases input with
  | nil => exact nomatch found
  | cons first others =>
      cases found
      rfl

theorem readHex_extends : Extends readHex := by
  intro input value rest more found
  simp only [readHex, Option.bind_eq_bind, Option.bind_eq_some_iff, Option.pure_def, Prod.exists,
    Option.some.injEq, Prod.mk.injEq] at found
  obtain ⟨digit, later, isDigit, number, isNumber, rfl, rfl⟩ := found
  simp only [readHex, next_extends _ _ _ more isDigit, Option.bind_eq_bind, Option.bind_some,
    isNumber, Option.pure_def]

theorem readUnit_extends : Extends readUnit := by
  intro input value rest more found
  simp only [readUnit, Option.bind_eq_bind, Option.bind_eq_some_iff, Option.pure_def, Prod.exists,
    Option.some.injEq, Prod.mk.injEq] at found
  obtain ⟨_, slash, _, letter, _, _, first, _, _, second, _, _, third, _, _, fourth, rfl, rfl⟩ :=
    found
  simp only [readUnit, expect_extends more slash, expect_extends more letter,
    readHex_extends _ _ _ more first, readHex_extends _ _ _ more second,
    readHex_extends _ _ _ more third, readHex_extends _ _ _ more fourth, Option.bind_eq_bind,
    Option.bind_some, Option.pure_def]

theorem readEscaped_extends : Extends readEscaped := by
  intro input value rest more found
  simp only [readEscaped, Option.bind_eq_bind, Option.bind_eq_some_iff, Prod.exists] at found ⊢
  obtain ⟨unit, later, isUnit, found⟩ := found
  refine ⟨unit, later ++ more, readUnit_extends _ _ _ more isUnit, ?_⟩
  by_cases high : IsHigh unit
  · rw [if_pos high] at found ⊢
    simp only [Option.bind_eq_some_iff, Prod.exists] at found ⊢
    obtain ⟨second, last, isSecond, found⟩ := found
    refine ⟨second, last ++ more, readUnit_extends _ _ _ more isSecond, ?_⟩
    by_cases low : IsLow second
    · rw [if_pos low, Option.some.injEq, Prod.mk.injEq] at found ⊢
      exact ⟨found.1, congrArg (· ++ more) found.2⟩
    · rw [if_neg low] at found
      exact nomatch found
  · rw [if_neg high] at found ⊢
    by_cases low : IsLow unit
    · rw [if_pos low] at found
      exact nomatch found
    · rw [if_neg low] at found ⊢
      cases found
      rfl

theorem readChar_extends : Extends readChar := by
  intro input value rest more found
  simp only [readChar, Option.bind_eq_bind, Option.bind_eq_some_iff, Prod.exists] at found ⊢
  obtain ⟨first, others, isFirst, found⟩ := found
  refine ⟨first, others ++ more, next_extends _ _ _ more isFirst, ?_⟩
  by_cases slash : first = '\\'
  · rw [if_pos slash] at found ⊢
    simp only [Option.bind_eq_some_iff, Prod.exists] at found ⊢
    obtain ⟨letter, later, isLetter, found⟩ := found
    refine ⟨letter, later ++ more, next_extends _ _ _ more isLetter, ?_⟩
    by_cases isUnit : letter = 'u'
    · rw [if_pos isUnit] at found ⊢
      exact readEscaped_extends _ _ _ more found
    rw [if_neg isUnit] at found ⊢
    by_cases solidus : letter = '/'
    · rw [if_pos solidus] at found ⊢
      cases found
      rfl
    · rw [if_neg solidus] at found ⊢
      simp only [Option.map_eq_some_iff, Prod.mk.injEq] at found ⊢
      obtain ⟨entry, isEntry, isChar, rfl⟩ := found
      exact ⟨entry, isEntry, isChar, rfl⟩
  · rw [if_neg slash] at found ⊢
    by_cases control : first.toNat < 32
    · rw [if_pos control] at found
      exact nomatch found
    · rw [if_neg control] at found ⊢
      cases found
      rfl

theorem readText_extends (fuel : ℕ) : Extends (readText fuel) := by
  induction fuel with
  | zero => exact fun _ _ _ _ found => nomatch found
  | succ fuel ih =>
      intro input value rest more found
      rw [readText] at found ⊢
      cases closing : expect '"' input with
      | some later =>
          rw [closing] at found
          cases found
          rw [expect_extends more closing]
      | none =>
          rw [closing] at found
          simp only [Option.bind_eq_bind, Option.bind_eq_some_iff, Prod.exists, Option.pure_def,
            Option.some.injEq, Prod.mk.injEq] at found
          obtain ⟨char, later, isChar, chars, last, others, rfl, rfl⟩ := found
          have filled : input ≠ [] := by
            rintro rfl
            exact nomatch isChar
          rw [expect_misses more filled closing]
          simp only [readChar_extends _ _ _ more isChar, ih _ _ _ more others, Option.bind_eq_bind,
            Option.bind_some, Option.pure_def]

theorem readString_extends (fuel : ℕ) : Extends (readString fuel) := by
  intro input value rest more found
  simp only [readString, Option.bind_eq_bind, Option.bind_eq_some_iff, Prod.exists, Option.pure_def,
    Option.some.injEq, Prod.mk.injEq] at found
  obtain ⟨later, quoted, chars, last, isText, rfl, rfl⟩ := found
  simp only [readString, expect_extends more quoted, readText_extends fuel _ _ _ more isText,
    Option.bind_eq_bind, Option.bind_some, Option.pure_def]

theorem readScalar_word {word : List Char} {value : Node} (known : (word, value) ∈ words)
    (rest : List Char) : readScalar (word ++ rest) = some (value, rest) := by
  simp only [words, List.mem_cons, Prod.mk.injEq, List.not_mem_nil, or_false] at known
  rcases known with ⟨rfl, rfl⟩ | ⟨rfl, rfl⟩ | ⟨rfl, rfl⟩ <;> rfl

/-- A scalar is a word or a number. -/
theorem readScalar_cases {input : List Char} {value : Node} {rest : List Char}
    (found : readScalar input = some (value, rest)) :
    (∃ word, (word, value) ∈ words ∧ input = word ++ rest) ∨
      ∃ text, isNumber text = true ∧ value = .number text ∧ input = text ++ rest ∧ Stops rest := by
  rw [readScalar] at found
  split at found
  · next word known isWord =>
      left
      cases found
      have begins : word.isPrefixOf input = true := by simpa using List.find?_some isWord
      refine ⟨word, List.mem_of_find?_eq_some isWord, ?_⟩
      obtain ⟨more, rfl⟩ := List.isPrefixOf_iff_prefix.mp begins
      rw [List.drop_left]
  · right
    rw [readNumber] at found
    split at found
    · next number =>
        cases found
        refine ⟨_, number, rfl, List.takeWhile_append_dropWhile.symm, ?_⟩
        intro char isFirst
        have refused := List.head?_dropWhile_not isNumberChar input
        rw [Option.mem_def.mp isFirst] at refused
        simpa using refused
    · exact nomatch found

/-- A number ends before another character, and every other value ends by itself. -/
def Ended (value : Node) (rest : List Char) : Prop :=
  rest ≠ [] ∨ ∀ text, value ≠ .number text

theorem readScalar_extends {input : List Char} {value : Node} {rest : List Char}
    (more : List Char) (found : readScalar input = some (value, rest)) (ended : Ended value rest) :
    readScalar (input ++ more) = some (value, rest ++ more) := by
  rcases readScalar_cases found with ⟨word, known, rfl⟩ | ⟨text, number, rfl, rfl, stops⟩
  · rw [List.append_assoc]
    exact readScalar_word known _
  · have filled : rest ≠ [] := ended.resolve_right fun others => others text rfl
    rw [List.append_assoc]
    refine readScalar_number number fun char isFirst => stops char ?_
    obtain ⟨first, others, rfl⟩ := List.exists_cons_of_ne_nil filled
    exact isFirst

/-- Nothing is read from nothing. -/
theorem readValue_nil (fuel : ℕ) : readValue fuel [] = none := by
  cases fuel <;> rfl

theorem readItems_nil (fuel : ℕ) : readItems fuel [] = none := by
  cases fuel with
  | zero => rfl
  | succ fuel => rw [readItems, readValue_nil]; rfl

theorem readMembers_nil (fuel : ℕ) : readMembers fuel [] = none := by
  cases fuel <;> rfl

def ValueExtends (fuel : ℕ) : Prop :=
  ∀ input value rest more, readValue fuel input = some (value, rest) → Ended value rest →
    readValue fuel (input ++ more) = some (value, rest ++ more)

theorem items_extend {fuel : ℕ} (values : ValueExtends fuel) (items : Extends (readItems fuel)) :
    Extends (readItems (fuel + 1)) := by
  intro input value rest more found
  simp only [readItems, Option.bind_eq_bind, Option.bind_eq_some_iff, Prod.exists] at found ⊢
  obtain ⟨item, later, isItem, found⟩ := found
  have filled : skip later ≠ [] := by
    intro nothing
    rw [nothing] at found
    exact nomatch found
  have ended : Ended item later := by
    refine Or.inl fun nothing => filled ?_
    rw [nothing]
    rfl
  refine ⟨item, later ++ more, values _ _ _ more isItem ended, ?_⟩
  rw [skip_extends more filled]
  cases closing : expect ']' (skip later) with
  | some last =>
      rw [closing] at found
      cases found
      rw [expect_extends more closing]
  | none =>
      rw [closing] at found
      rw [expect_misses more filled closing]
      simp only [Option.bind_eq_some_iff, Prod.exists, Option.pure_def, Option.some.injEq,
        Prod.mk.injEq] at found ⊢
      obtain ⟨next, comma, others, last, isOthers, rfl, rfl⟩ := found
      have solid : skip next ≠ [] := by
        intro nothing
        rw [nothing, readItems_nil] at isOthers
        exact nomatch isOthers
      refine ⟨next ++ more, expect_extends more comma, others, last ++ more, ?_, rfl, rfl⟩
      rw [skip_extends more solid]
      exact items _ _ _ more isOthers

theorem members_extend {fuel : ℕ} (values : ValueExtends fuel)
    (members : Extends (readMembers fuel)) : Extends (readMembers (fuel + 1)) := by
  intro input value rest more found
  simp only [readMembers, Option.bind_eq_bind, Option.bind_eq_some_iff, Prod.exists] at found ⊢
  obtain ⟨key, named, isKey, begun, colon, item, later, isItem, found⟩ := found
  have nameEnds : skip named ≠ [] := expect_filled colon
  have itemBegins : skip begun ≠ [] := by
    intro nothing
    rw [nothing, readValue_nil] at isItem
    exact nomatch isItem
  have filled : skip later ≠ [] := by
    intro nothing
    rw [nothing] at found
    exact nomatch found
  have ended : Ended item later := by
    refine Or.inl fun nothing => filled ?_
    rw [nothing]
    rfl
  refine ⟨key, named ++ more, readString_extends fuel _ _ _ more isKey, begun ++ more, ?_, item,
    later ++ more, ?_, ?_⟩
  · rw [skip_extends more nameEnds]
    exact expect_extends more colon
  · rw [skip_extends more itemBegins]
    exact values _ _ _ more isItem ended
  rw [skip_extends more filled]
  cases closing : expect '\x7d' (skip later) with
  | some last =>
      rw [closing] at found
      cases found
      rw [expect_extends more closing]
  | none =>
      rw [closing] at found
      rw [expect_misses more filled closing]
      simp only [Option.bind_eq_some_iff, Prod.exists, Option.pure_def, Option.some.injEq,
        Prod.mk.injEq] at found ⊢
      obtain ⟨next, comma, others, last, isOthers, rfl, rfl⟩ := found
      have solid : skip next ≠ [] := by
        intro nothing
        rw [nothing, readMembers_nil] at isOthers
        exact nomatch isOthers
      refine ⟨next ++ more, expect_extends more comma, others, last ++ more, ?_, rfl, rfl⟩
      rw [skip_extends more solid]
      exact members _ _ _ more isOthers

theorem value_extends {fuel : ℕ} (items : Extends (readItems fuel))
    (members : Extends (readMembers fuel)) : ValueExtends (fuel + 1) := by
  intro input value rest more found ended
  cases input with
  | nil => exact nomatch (readValue_nil _).symm.trans found
  | cons first others =>
      by_cases quoted : first = '"'
      · subst quoted
        simp only [readValue, List.cons_append, Option.bind_eq_bind, Option.bind_eq_some_iff,
          Prod.exists, Option.pure_def, Option.some.injEq, Prod.mk.injEq] at found ⊢
        obtain ⟨text, later, isText, rfl, rfl⟩ := found
        exact ⟨text, later ++ more, readString_extends fuel _ _ _ more isText, rfl, rfl⟩
      by_cases braced : first = '\x7b'
      · subst braced
        rw [readValue] at found
        rw [List.cons_append, readValue]
        have filled : skip others ≠ [] := by
          intro nothing
          rw [nothing] at found
          simp only [expect, readMembers_nil] at found
          exact nomatch found
        rw [skip_extends more filled]
        cases closing : expect '\x7d' (skip others) with
        | some last =>
            rw [closing] at found
            cases found
            rw [expect_extends more closing]
        | none =>
            rw [closing] at found
            rw [expect_misses more filled closing]
            simp only [Option.bind_eq_bind, Option.bind_eq_some_iff, Prod.exists, Option.pure_def,
              Option.some.injEq, Prod.mk.injEq] at found ⊢
            obtain ⟨found, later, isFound, rfl, rfl⟩ := found
            exact ⟨found, later ++ more, members _ _ _ more isFound, rfl, rfl⟩
      by_cases bracketed : first = '['
      · subst bracketed
        rw [readValue] at found
        rw [List.cons_append, readValue]
        have filled : skip others ≠ [] := by
          intro nothing
          rw [nothing] at found
          simp only [expect, readItems_nil] at found
          exact nomatch found
        rw [skip_extends more filled]
        cases closing : expect ']' (skip others) with
        | some last =>
            rw [closing] at found
            cases found
            rw [expect_extends more closing]
        | none =>
            rw [closing] at found
            rw [expect_misses more filled closing]
            simp only [Option.bind_eq_bind, Option.bind_eq_some_iff, Prod.exists, Option.pure_def,
              Option.some.injEq, Prod.mk.injEq] at found ⊢
            obtain ⟨found, later, isFound, rfl, rfl⟩ := found
            exact ⟨found, later ++ more, items _ _ _ more isFound, rfl, rfl⟩
      · rw [readValue_scalar _ ⟨quoted, braced, bracketed⟩] at found
        have scalar := readScalar_extends more found ended
        rw [List.cons_append] at scalar ⊢
        rw [readValue_scalar _ ⟨quoted, braced, bracketed⟩, scalar]

/-- Every reader keeps what it read when more characters follow. -/
theorem reader_extends (fuel : ℕ) :
    ValueExtends fuel ∧ Extends (readItems fuel) ∧ Extends (readMembers fuel) := by
  induction fuel with
  | zero =>
      exact ⟨fun _ _ _ _ found _ => (nomatch found), fun _ _ _ _ found => (nomatch found),
        fun _ _ _ _ found => (nomatch found)⟩
  | succ fuel ih =>
      obtain ⟨values, items, members⟩ := ih
      exact ⟨value_extends items members, items_extend values items, members_extend values members⟩

end Extension

section Fuel

variable {Found : Type}

/-- More fuel reads the same. -/
def Monotone (read : ℕ → List Char → Option (Found × List Char)) : Prop :=
  ∀ fuel input result, read fuel input = some result → read (fuel + 1) input = some result

theorem readText_monotone : Monotone readText := by
  intro fuel
  induction fuel with
  | zero => exact fun _ _ found => nomatch found
  | succ fuel ih =>
      intro input result found
      rw [readText] at found ⊢
      cases closing : expect '"' input with
      | some later => rwa [closing] at found
      | none =>
          rw [closing] at found
          simp only [Option.bind_eq_bind, Option.bind_eq_some_iff, Prod.exists] at found ⊢
          obtain ⟨char, later, isChar, chars, last, others, rest⟩ := found
          exact ⟨char, later, isChar, chars, last, ih _ _ others, rest⟩

theorem readString_monotone : Monotone readString := by
  intro fuel input result found
  simp only [readString, Option.bind_eq_bind, Option.bind_eq_some_iff, Prod.exists] at found ⊢
  obtain ⟨later, quoted, chars, last, isText, rest⟩ := found
  exact ⟨later, quoted, chars, last, readText_monotone _ _ _ isText, rest⟩

/-- More fuel reads the same values, items and members. -/
theorem reader_monotone (fuel : ℕ) :
    (∀ input result, readValue fuel input = some result → readValue (fuel + 1) input = some result) ∧
    (∀ input result, readItems fuel input = some result → readItems (fuel + 1) input = some result) ∧
    ∀ input result, readMembers fuel input = some result →
      readMembers (fuel + 1) input = some result := by
  induction fuel with
  | zero =>
      exact ⟨fun _ _ found => (nomatch found), fun _ _ found => (nomatch found),
        fun _ _ found => (nomatch found)⟩
  | succ fuel ih =>
      obtain ⟨values, items, members⟩ := ih
      refine ⟨fun input result found => ?_, fun input result found => ?_, fun input result found => ?_⟩
      · cases input with
        | nil => exact nomatch (readValue_nil _).symm.trans found
        | cons first others =>
            by_cases quoted : first = '"'
            · subst quoted
              simp only [readValue, Option.bind_eq_bind, Option.bind_eq_some_iff, Prod.exists]
                at found ⊢
              obtain ⟨text, later, isText, rest⟩ := found
              exact ⟨text, later, readString_monotone _ _ _ isText, rest⟩
            by_cases braced : first = '\x7b'
            · subst braced
              rw [readValue] at found ⊢
              cases closing : expect '\x7d' (skip others) with
              | some last => rwa [closing] at found
              | none =>
                  rw [closing] at found
                  simp only [Option.bind_eq_bind, Option.bind_eq_some_iff, Prod.exists] at found ⊢
                  obtain ⟨inner, later, isInner, rest⟩ := found
                  exact ⟨inner, later, members _ _ isInner, rest⟩
            by_cases bracketed : first = '['
            · subst bracketed
              rw [readValue] at found ⊢
              cases closing : expect ']' (skip others) with
              | some last => rwa [closing] at found
              | none =>
                  rw [closing] at found
                  simp only [Option.bind_eq_bind, Option.bind_eq_some_iff, Prod.exists] at found ⊢
                  obtain ⟨inner, later, isInner, rest⟩ := found
                  exact ⟨inner, later, items _ _ isInner, rest⟩
            · rw [readValue_scalar _ ⟨quoted, braced, bracketed⟩] at found ⊢
              exact found
      · rw [readItems] at found ⊢
        simp only [Option.bind_eq_bind, Option.bind_eq_some_iff, Prod.exists] at found ⊢
        obtain ⟨item, later, isItem, found⟩ := found
        refine ⟨item, later, values _ _ isItem, ?_⟩
        cases closing : expect ']' (skip later) with
        | some last => rwa [closing] at found
        | none =>
            rw [closing] at found
            simp only [Option.bind_eq_some_iff, Prod.exists] at found ⊢
            obtain ⟨next, comma, others, last, isOthers, rest⟩ := found
            exact ⟨next, comma, others, last, items _ _ isOthers, rest⟩
      · rw [readMembers] at found ⊢
        simp only [Option.bind_eq_bind, Option.bind_eq_some_iff, Prod.exists] at found ⊢
        obtain ⟨key, named, isKey, begun, colon, item, later, isItem, found⟩ := found
        refine ⟨key, named, readString_monotone _ _ _ isKey, begun, colon, item, later,
          values _ _ isItem, ?_⟩
        cases closing : expect '\x7d' (skip later) with
        | some last => rwa [closing] at found
        | none =>
            rw [closing] at found
            simp only [Option.bind_eq_some_iff, Prod.exists] at found ⊢
            obtain ⟨next, comma, others, last, isOthers, rest⟩ := found
            exact ⟨next, comma, others, last, members _ _ isOthers, rest⟩

theorem readValue_enough {fuel more : ℕ} {input : List Char} {result : Node × List Char}
    (enough : fuel ≤ more) (found : readValue fuel input = some result) :
    readValue more input = some result := by
  induction more, enough using Nat.le_induction with
  | base => exact found
  | succ more _ ih => exact (reader_monotone more).1 _ _ ih

end Fuel

section Loading

theorem skip_end : skip ['\n'] = [] := rfl

/-- A written value is loaded, also with a line break. -/
theorem loads_write {value : Node} (formed : WellFormed value) {rest : List Char}
    (spaces : skip rest = []) (stops : Stops rest) : loads (write value ++ rest) = some value := by
  have enough : (write value).length ≤ (write value ++ rest).length + 1 := by
    rw [List.length_append]
    omega
  rw [loads, skip_write formed, value_reads value formed _ _ enough stops]
  simp only [Option.bind_eq_bind, Option.bind_some, if_pos spaces]

theorem loads_text {value : Node} (formed : WellFormed value) :
    loads (write value) = some value := by
  have loaded := @loads_write value formed [] rfl nofun
  rwa [List.append_nil] at loaded

/-- A second value after the first one is refused. -/
theorem loads_pair {first second : Node} (formed : WellFormed first) (others : WellFormed second)
    (apart : Stops (write second)) {rest : List Char} :
    loads (write first ++ (write second ++ rest)) = none := by
  have enough : (write first).length ≤ (write first ++ (write second ++ rest)).length + 1 := by
    rw [List.length_append]
    omega
  obtain ⟨char, chars, isSecond, start⟩ := write_start others
  have stops : Stops (write second ++ rest) := by
    rw [isSecond] at apart ⊢
    exact apart
  rw [loads, skip_write formed, value_reads first formed _ _ enough stops]
  simp only [Option.bind_eq_bind, Option.bind_some]
  rw [skip_write others, if_neg]
  rw [isSecond]
  exact List.cons_ne_nil _ _

/-- An opening brace after a value is refused. -/
theorem loads_open {value : Node} (formed : WellFormed value) (rest : List Char) :
    loads (write value ++ '\x7b' :: rest) = none := by
  have enough : (write value).length ≤ (write value ++ '\x7b' :: rest).length + 1 := by
    rw [List.length_append]
    omega
  have stops : Stops ('\x7b' :: rest) := Stops.cons rest (by decide)
  rw [loads, skip_write formed, value_reads value formed _ _ enough stops]
  simp only [Option.bind_eq_bind, Option.bind_some]
  rw [skip_start _ (by decide), if_neg (List.cons_ne_nil _ _)]

/-- A part of a written object is refused. -/
theorem loads_part {members : List (String × Node)} (formed : WellFormed (.object members))
    {part rest : List Char} (split : write (.object members) = part ++ rest) (cut : rest ≠ []) :
    loads part = none := by
  by_contra accepted
  obtain ⟨value, isValue⟩ := Option.ne_none_iff_exists'.mp accepted
  simp only [loads, Option.bind_eq_bind, Option.bind_eq_some_iff, Prod.exists] at isValue
  obtain ⟨found, later, isFound, _⟩ := isValue
  cases part with
  | nil =>
      rw [show skip [] = [] from rfl, readValue_nil] at isFound
      exact nomatch isFound
  | cons first others =>
      have braced : first = '\x7b' := by
        rw [write, List.cons_append, List.cons_append, List.cons.injEq] at split
        exact split.1.symm
      subst braced
      rw [skip_start _ (by decide)] at isFound
      have isObject : ∀ text, found ≠ .number text := by
        rintro text rfl
        rw [List.length_cons, readValue] at isFound
        split at isFound
        · exact nomatch isFound
        · simp only [Option.bind_eq_bind, Option.bind_eq_some_iff, Prod.exists, Option.pure_def,
            Option.some.injEq, Prod.mk.injEq, reduceCtorEq, false_and, and_false, exists_false]
            at isFound
      have whole := (reader_extends _).1 _ _ _ rest isFound (Or.inr isObject)
      rw [← split] at whole
      have more := readValue_enough (Nat.le_add_right _ (write (.object members)).length) whole
      have read := value_reads _ formed _ [] (Nat.le_add_left _ (('\x7b' :: others).length + 1))
        nofun
      rw [List.append_nil, more, Option.some.injEq, Prod.mk.injEq] at read
      exact cut (List.append_eq_nil_iff.mp read.2).2

end Loading

end JsonText
