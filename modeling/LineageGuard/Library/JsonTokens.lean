import LineageGuard.Library.JsonText
import Mathlib.Tactic

/-
This file gives the whole numbers of JSON texts and the characters that the writer uses.
-/

namespace JsonText

section WholeNumbers

def wholeText (value : ℤ) : List Char := value.repr.toList

/-- The text consists of digits that may have a sign. -/
def wholeNumber : List Char → ℤ
  | '-' :: digits => -(Nat.ofDigitChars 10 digits 0 : ℤ)
  | digits => Nat.ofDigitChars 10 digits 0

def isRealText (text : List Char) : Bool := text.any fun char => ['.', 'e', 'E'].contains char

def digitCount (text : List Char) : ℕ := (text.filter Char.isDigit).length

theorem digits_all (value : ℕ) : (Nat.toDigits 10 value).all Char.isDigit = true := by
  rw [List.all_eq_true]
  intro char present
  exact Nat.isDigit_of_mem_toDigits (by decide) (by decide) present

theorem digits_start (value : ℕ) (positive : 0 < value) :
    ∃ digit rest, Nat.toDigits 10 value = digit :: rest ∧ digit ≠ '0' := by
  induction value using Nat.strongRecOn with
  | ind value ih =>
      by_cases small : value < 10
      · refine ⟨value.digitChar, [], Nat.toDigits_of_lt_base small, ?_⟩
        rw [ne_eq, Nat.digitChar_eq_zero]
        exact positive.ne'
      · obtain ⟨digit, rest, isDigits, solid⟩ := ih (value / 10) (by omega) (by omega)
        refine ⟨digit, rest ++ [(value % 10).digitChar], ?_, solid⟩
        rw [Nat.toDigits_of_base_le (by decide) (not_lt.mp small), isDigits, List.cons_append]

theorem digits_whole (value : ℕ) : isWhole (Nat.toDigits 10 value) = true := by
  rcases Nat.eq_zero_or_pos value with rfl | positive
  · rfl
  · obtain ⟨digit, rest, isDigits, solid⟩ := digits_start value positive
    have allDigits := digits_all value
    rw [isDigits, List.all_cons, Bool.and_eq_true] at allDigits
    rw [isDigits, isWhole]
    · simp only [solid, ne_eq, not_false_eq_true, decide_true, allDigits.1, allDigits.2,
        Bool.and_self]
    · rintro rfl _
      exact solid rfl

theorem digit_number {char : Char} (digit : char.isDigit = true) : isNumberChar char = true := by
  rw [isNumberChar, digit, Bool.true_or]

theorem digits_dash (value : ℕ) : (Nat.toDigits 10 value).head? ≠ some '-' := by
  intro dash
  have isDigit := Nat.isDigit_of_mem_toDigits (b := 10) (n := value) (by decide) (by decide)
    (List.mem_of_mem_head? dash)
  exact absurd isDigit (by decide)

theorem digits_unsigned (value : ℕ) : unsigned (Nat.toDigits 10 value) = Nat.toDigits 10 value := by
  have dash := digits_dash value
  cases digits : Nat.toDigits 10 value with
  | nil => rfl
  | cons first rest =>
      rw [unsigned]
      intro others same
      rw [digits, same] at dash
      exact dash rfl

theorem isNumber_digits {text : List Char} {value : ℕ}
    (digits : unsigned text = Nat.toDigits 10 value) (within : text.all isNumberChar = true) :
    isNumber text = true := by
  have ends : ∀ char ∈ ([] : List Char).head?, char.isDigit = false := nofun
  obtain ⟨taken, dropped⟩ := span_append (digits_all value) ends
  rw [List.append_nil] at taken dropped
  rw [isNumber, digits, taken, dropped, digits_whole, within]
  rfl

theorem numberChars_digits (value : ℕ) : (Nat.toDigits 10 value).all isNumberChar = true := by
  rw [List.all_eq_true]
  intro char present
  exact digit_number (List.all_eq_true.mp (digits_all value) char present)

theorem wholeText_nat (value : ℕ) : wholeText (value : ℤ) = Nat.toDigits 10 value := by
  rw [wholeText, Int.repr_eq_if, if_pos (by omega), Int.toNat_natCast, Nat.toList_repr]

theorem wholeText_neg (value : ℕ) :
    wholeText (-((value + 1 : ℕ) : ℤ)) = '-' :: Nat.toDigits 10 (value + 1) := by
  rw [wholeText, Int.repr_eq_if, if_neg (by omega), neg_neg, Int.toNat_natCast, String.toList_append,
    Nat.toList_repr]
  rfl

theorem wholeText_cases (value : ℤ) :
    wholeText value = Nat.toDigits 10 value.natAbs ∨
      wholeText value = '-' :: Nat.toDigits 10 value.natAbs := by
  cases value with
  | ofNat value => exact Or.inl (wholeText_nat value)
  | negSucc value => exact Or.inr (wholeText_neg value)

/-- The text of a whole number is a number of the format. -/
theorem isNumber_wholeText (value : ℤ) : isNumber (wholeText value) = true := by
  rcases wholeText_cases value with text | text
  · rw [text]
    exact isNumber_digits (digits_unsigned _) (numberChars_digits _)
  · rw [text]
    refine isNumber_digits rfl ?_
    rw [List.all_cons, numberChars_digits]
    rfl

theorem digits_real (value : ℕ) : isRealText (Nat.toDigits 10 value) = false := by
  rw [isRealText, List.any_eq_false]
  intro char present
  have isDigit := List.all_eq_true.mp (digits_all value) char present
  intro marked
  simp only [List.contains_eq_mem, List.mem_cons, List.not_mem_nil, or_false, decide_eq_true_eq]
    at marked
  rcases marked with rfl | rfl | rfl <;> exact absurd isDigit (by decide)

/-- A whole number has no fraction and no exponent. -/
theorem isRealText_wholeText (value : ℤ) : isRealText (wholeText value) = false := by
  rcases wholeText_cases value with text | text
  · rw [text, digits_real]
  · have plain := digits_real value.natAbs
    rw [isRealText] at plain
    rw [text, isRealText, List.any_cons, plain]
    rfl

theorem digitCount_wholeText (value : ℤ) :
    digitCount (wholeText value) = value.natAbs.repr.length := by
  have counted : digitCount (Nat.toDigits 10 value.natAbs) = value.natAbs.repr.length := by
    rw [digitCount, List.filter_eq_self.mpr (List.all_eq_true.mp (digits_all _)),
      Nat.repr_eq_ofList_toDigits, String.length_ofList]
  rcases wholeText_cases value with text | text
  · rw [text, counted]
  · rw [text, ← counted]
    rfl

theorem wholeNumber_digits (value : ℕ) : wholeNumber (Nat.toDigits 10 value) = value := by
  have dash := digits_dash value
  have read := Nat.ofDigitChars_toDigits (b := 10) (n := value) (by decide) (by decide)
  cases digits : Nat.toDigits 10 value with
  | nil => exact absurd digits Nat.toDigits_ne_nil
  | cons first rest =>
      rw [digits] at dash read
      rw [wholeNumber, read]
      intro others same
      rw [same] at dash
      exact dash rfl

/-- A whole number is read back from its text. -/
theorem wholeNumber_wholeText (value : ℤ) : wholeNumber (wholeText value) = value := by
  cases value with
  | ofNat value =>
      rw [Int.ofNat_eq_natCast, wholeText_nat, wholeNumber_digits]
  | negSucc value =>
      rw [Int.negSucc_eq, ← Nat.cast_succ, wholeText_neg, wholeNumber,
        Nat.ofDigitChars_toDigits (by decide) (by decide)]

end WholeNumbers

section Printed

def Printed (text : List Char) : Prop := ∀ char ∈ text, isPrintable char = true

instance (text : List Char) : Decidable (Printed text) := List.decidableBAll _ _

theorem Printed.append {first second : List Char} (before : Printed first)
    (after : Printed second) : Printed (first ++ second) := by
  intro char present
  exact (List.mem_append.mp present).elim (before char) (after char)

theorem Printed.cons {char : Char} {rest : List Char} (first : isPrintable char = true)
    (others : Printed rest) : Printed (char :: rest) := by
  intro other present
  rcases List.mem_cons.mp present with rfl | later
  · exact first
  · exact others other later

theorem hexDigit_printed (value : ℕ) : isPrintable (hexDigit value) = true := by
  rw [hexDigit]
  by_cases small : value < 16
  · interval_cases value <;> decide
  · rw [Nat.digitChar_eq_star.mpr (not_lt.mp small)]
    decide

theorem hexUnit_printed (unit : ℕ) : Printed (hexUnit unit) := by
  rw [hexUnit]
  refine Printed.cons (by decide) (Printed.cons (by decide) ?_)
  intro char present
  simp only [List.mem_cons, List.not_mem_nil, or_false] at present
  rcases present with rfl | rfl | rfl | rfl <;> exact hexDigit_printed _

theorem shortEscapes_printed :
    ∀ entry ∈ shortEscapes, isPrintable entry.2 = true := by decide

theorem lookup_member {Key Value : Type} [DecidableEq Key] {key : Key} {value : Value}
    {entries : List (Key × Value)} (found : entries.lookup key = some value) :
    (key, value) ∈ entries := by
  induction entries with
  | nil => exact nomatch found
  | cons entry rest ih =>
      rw [List.lookup_cons] at found
      split at found
      · next same =>
          rw [beq_iff_eq] at same
          cases found
          rw [same]
          exact List.mem_cons_self
      · exact List.mem_cons_of_mem _ (ih found)

theorem escape_printed (char : Char) : Printed (escape char) := by
  rw [escape]
  split
  · next letter found =>
      refine Printed.cons (by decide) (Printed.cons ?_ (List.forall_mem_nil _))
      exact shortEscapes_printed _ (lookup_member found)
  · split_ifs with printable small
    · exact Printed.cons printable (List.forall_mem_nil _)
    · exact hexUnit_printed _
    · exact (hexUnit_printed _).append (hexUnit_printed _)

theorem quote_printed (text : String) : Printed (quote text) := by
  rw [quote, List.cons_append]
  refine Printed.cons (by decide)
    (Printed.append ?_ (Printed.cons (by decide) (List.forall_mem_nil _)))
  intro char present
  obtain ⟨source, _, escaped⟩ := List.mem_flatMap.mp present
  exact escape_printed source char escaped

theorem commaJoin_printed {texts : List (List Char)} (each : ∀ text ∈ texts, Printed text) :
    Printed (commaJoin texts) := by
  induction texts with
  | nil => exact nofun
  | cons first rest ih =>
      have others := ih fun text present => each text (List.mem_cons_of_mem _ present)
      cases rest with
      | nil => exact each first List.mem_cons_self
      | cons second rest =>
          exact (each first List.mem_cons_self).append (Printed.cons (by decide) others)

theorem numberChar_printed {char : Char} (number : isNumberChar char = true) :
    isPrintable char = true := by
  rw [isNumberChar, Bool.or_eq_true] at number
  rcases number with digit | mark
  · simp only [Char.isDigit, Bool.and_eq_true, decide_eq_true_eq, ge_iff_le, UInt32.le_iff_toNat_le]
      at digit
    simp only [isPrintable, Bool.and_eq_true, decide_eq_true_eq]
    have low : 48 ≤ char.toNat := digit.1
    have high : char.toNat ≤ 57 := digit.2
    exact ⟨by omega, by omega⟩
  · simp only [List.contains_eq_mem, List.mem_cons, List.not_mem_nil, or_false, decide_eq_true_eq]
      at mark
    rcases mark with rfl | rfl | rfl | rfl | rfl <;> decide

theorem number_printed {text : List Char} (number : isNumber text = true) : Printed text := by
  rw [isNumber, Bool.and_eq_true] at number
  intro char present
  exact numberChar_printed (List.all_eq_true.mp number.2 char present)

theorem enclosed_printed {before after : Char} {text : List Char} (first : isPrintable before = true)
    (last : isPrintable after = true) (inner : Printed text) :
    Printed (before :: text ++ [after]) :=
  Printed.cons first (inner.append (Printed.cons last nofun))

mutual

/-- The writer uses printable characters only. -/
theorem write_printed : ∀ value, WellFormed value → Printed (write value)
  | .null, _ => by
      rw [write]
      decide
  | .bool true, _ => by
      rw [write]
      decide
  | .bool false, _ => by
      rw [write]
      decide
  | .number _, formed => number_printed formed
  | .string text, _ => quote_printed text
  | .array items, formed => by
      rw [write, itemTexts_eq]
      refine enclosed_printed (by decide) (by decide) (commaJoin_printed ?_)
      intro text present
      obtain ⟨item, inside, rfl⟩ := List.mem_map.mp present
      exact items_printed items formed item inside
  | .object members, formed => by
      rw [write, memberTexts_eq]
      refine enclosed_printed (by decide) (by decide) (commaJoin_printed ?_)
      intro text present
      obtain ⟨member, inside, rfl⟩ := List.mem_map.mp present
      exact (quote_printed _).append
        (Printed.cons (by decide) (members_printed members formed member inside))

theorem items_printed : ∀ items, ItemsFormed items → ∀ item ∈ items, Printed (write item)
  | [], _, _, present => nomatch present
  | first :: rest, formed, item, present => by
      rcases List.mem_cons.mp present with same | later
      · rw [same]
        exact write_printed first formed.1
      · exact items_printed rest formed.2 item later

theorem members_printed : ∀ members, MembersFormed members →
    ∀ member ∈ members, Printed (write member.2)
  | [], _, _, present => nomatch present
  | (key, value) :: rest, formed, member, present => by
      rcases List.mem_cons.mp present with same | later
      · rw [same]
        exact write_printed value formed.1
      · exact members_printed rest formed.2 member later

end

end Printed

section Lengths

theorem escape_length (char : Char) : (escape char).length ≤ 12 := by
  rw [escape]
  split
  · exact Nat.le_of_ble_eq_true rfl
  · split_ifs
    · exact Nat.le_of_ble_eq_true rfl
    · exact Nat.le_of_ble_eq_true rfl
    · exact Nat.le_of_ble_eq_true rfl

theorem escaped_bound (chars : List Char) : (chars.flatMap escape).length ≤ 12 * chars.length := by
  induction chars with
  | nil => exact Nat.zero_le _
  | cons char rest ih =>
      have first := escape_length char
      rw [List.flatMap_cons, List.length_append, List.length_cons]
      omega

theorem quote_length (text : String) : (quote text).length ≤ 12 * text.length + 2 := by
  have bound := escaped_bound text.toList
  rw [String.length_toList] at bound
  rw [quote, List.length_append, List.length_cons, List.length_singleton]
  omega

theorem commaJoin_length (texts : List (List Char)) :
    (commaJoin texts).length ≤ (texts.map fun text => text.length + 1).sum := by
  induction texts with
  | nil => exact Nat.zero_le _
  | cons first rest ih =>
      rw [List.map_cons, List.sum_cons]
      cases rest with
      | nil =>
          rw [commaJoin]
          omega
      | cons second others =>
          rw [commaJoin_pair, List.length_append, List.length_cons]
          omega

theorem object_length (members : List (String × Node)) :
    (write (.object members)).length ≤
      (members.map fun member => (memberText member).length + 1).sum + 2 := by
  have bound := commaJoin_length (memberTexts members)
  rw [memberTexts_eq, List.map_map] at bound
  rw [write, List.length_append, List.length_cons, List.length_singleton, memberTexts_eq]
  exact Nat.succ_le_succ (Nat.succ_le_succ bound)

end Lengths

end JsonText
