import LineageGuard.Library.EcmaText
import Mathlib.Computability.Language
import Mathlib.Data.List.TakeWhile
import Mathlib.Tactic

/-
This file gives what patterns take from a text, the languages of their matches and which pattern
matches wherever another does.
-/

namespace Ecma

section Consuming

/-- A match of the pattern holds accepted characters only. -/
def Consumes (accepts : Char → Bool) (pattern : Pattern) : Prop :=
  ∀ text after, pattern text = some after →
    ∃ part, text = part ++ after ∧ part.all accepts = true

variable {accepts : Char → Bool}

theorem exactly_some {word : String} {text after : List Char} :
    exactly word text = some after ↔ text = word.toList ++ after := by
  rw [exactly]
  induction word.toList generalizing text with
  | nil =>
      rw [spelled, List.nil_append]
      exact Option.some_inj
  | cons letter letters ih =>
      cases text with
      | nil =>
          constructor
          · intro found
            cases found
          · intro same
            cases same
      | cons char rest =>
          rw [spelled, List.cons_append, List.cons.injEq]
          by_cases same : char = letter
          · rw [if_pos (beq_iff_eq.mpr same), ih]
            exact ⟨fun whole => ⟨same, whole⟩, fun whole => whole.2⟩
          · rw [if_neg (same ∘ beq_iff_eq.mp)]
            constructor
            · intro found
              cases found
            · exact fun whole => absurd whole.1 same

theorem exactly_consumes {word : String} (all : word.toList.all accepts = true) :
    Consumes accepts (exactly word) :=
  fun _ _ found => ⟨word.toList, exactly_some.mp found, all⟩

/-- The word stands behind the blanks in front of it. -/
theorem behind_some {blank : Char → Bool} {word : String} {text after : List Char}
    (found : behind blank (exactly word) text = some after) :
    text = text.takeWhile blank ++ (word.toList ++ after) := by
  rw [← exactly_some.mp found, List.takeWhile_append_dropWhile]

theorem firstOf_consumes {patterns : List Pattern}
    (each : ∀ pattern ∈ patterns, Consumes accepts pattern) : Consumes accepts (firstOf patterns) := by
  intro text after found
  obtain ⟨pattern, among, here⟩ := List.exists_of_findSome?_eq_some found
  exact each pattern among text after here

theorem behind_consumes {blank : Char → Bool} {pattern : Pattern}
    (blanks : ∀ char, blank char = true → accepts char = true) (inside : Consumes accepts pattern) :
    Consumes accepts (behind blank pattern) := by
  intro text after found
  obtain ⟨part, rest, all⟩ := inside _ _ found
  refine ⟨text.takeWhile blank ++ part, ?_, ?_⟩
  · rw [List.append_assoc, ← rest, List.takeWhile_append_dropWhile]
  · rw [List.all_append, all, Bool.and_true]
    exact List.all_eq_true.mpr fun char present => blanks char (List.mem_takeWhile_imp present)

theorem sequence_cons (pattern : Pattern) (patterns : List Pattern) (text : List Char) :
    sequence (pattern :: patterns) text = (pattern text).bind (sequence patterns) := rfl

theorem sequence_append (patterns others : List Pattern) (text : List Char) :
    sequence (patterns ++ others) text = (sequence patterns text).bind (sequence others) := by
  rw [sequence, List.foldlM_append]
  rfl

theorem sequence_single (pattern : Pattern) : sequence [pattern] = pattern := by
  funext text
  rw [sequence_cons]
  cases pattern text <;> rfl

theorem sequence_consumes {patterns : List Pattern}
    (each : ∀ pattern ∈ patterns, Consumes accepts pattern) :
    Consumes accepts (sequence patterns) := by
  induction patterns with
  | nil =>
      intro text after found
      exact ⟨[], Option.some.inj found, rfl⟩
  | cons pattern patterns ih =>
      rw [List.forall_mem_cons] at each
      intro text after found
      rw [sequence_cons, Option.bind_eq_some_iff] at found
      obtain ⟨middle, first, others⟩ := found
      obtain ⟨part, whole, all⟩ := each.1 _ _ first
      obtain ⟨rest, later, more⟩ := ih each.2 _ _ others
      refine ⟨part ++ rest, ?_, ?_⟩
      · rw [whole, later, List.append_assoc]
      · rw [List.all_append, all, more]
        rfl

end Consuming

section Refining

/-- The other pattern has every match of this one. -/
def Refines (pattern other : Pattern) : Prop :=
  ∀ text after, pattern text = some after → other text = some after

theorem refines_self (pattern : Pattern) : Refines pattern pattern := fun _ _ found => found

/-- A match of the pattern begins with no blank. -/
def Begins (blank : Char → Bool) (pattern : Pattern) : Prop :=
  ∀ text after, pattern text = some after → text.dropWhile blank = text

theorem exactly_begins {blank : Char → Bool} {word : String} {first : Char}
    (starts : word.toList.head? = some first) (filled : blank first = false) :
    Begins blank (exactly word) := by
  intro text after found
  obtain ⟨rest, spelling⟩ := List.head?_eq_some_iff.mp starts
  rw [exactly_some.mp found, spelling, List.cons_append]
  exact List.dropWhile_cons_of_neg (by simp [filled])

theorem behind_refines {blank other : Char → Bool} {pattern wider : Pattern}
    (blanks : ∀ char, blank char = true → other char = true) (begins : Begins other pattern)
    (inside : Refines pattern wider) : Refines (behind blank pattern) (behind other wider) := by
  intro text after found
  have kept := begins _ _ found
  have whole : text.dropWhile other = text.dropWhile blank := by
    rw [← kept]
    clear kept begins found
    induction text with
    | nil => rfl
    | cons char rest ih =>
        cases isBlank : blank char with
        | true =>
            rw [List.dropWhile_cons_of_pos isBlank, List.dropWhile_cons_of_pos (blanks char isBlank),
              ih]
        | false =>
            have stays : (char :: rest).dropWhile blank = char :: rest :=
              List.dropWhile_cons_of_neg (by simp [isBlank])
            rw [stays]
  rw [behind, whole]
  exact inside _ _ found

theorem sequence_refines {patterns others : List Pattern}
    (each : List.Forall₂ Refines patterns others) : Refines (sequence patterns) (sequence others) := by
  induction each with
  | nil => exact refines_self _
  | cons first _ ih =>
      intro text after found
      rw [sequence_cons, Option.bind_eq_some_iff] at found
      obtain ⟨middle, here, later⟩ := found
      rw [sequence_cons, first _ _ here]
      exact ih _ _ later

end Refining

section Languages

/-- A match of the pattern takes a word of the language. -/
def Takes (language : Language Char) (pattern : Pattern) : Prop :=
  ∀ text after, pattern text = some after → ∃ part ∈ language, text = part ++ after

/-- These texts differ from the word in the case of letters only. -/
def caselessly (word : String) : Language Char :=
  {part | part.map Char.toLower = word.toList.map Char.toLower}

/-- These texts are one or more characters of the class. -/
def filledWith (accepts : Char → Bool) : Language Char :=
  {part | part ≠ [] ∧ part.all accepts = true}

theorem caseless_takes (word : String) : Takes (caselessly word) (caseless word) := by
  intro text after found
  have split : ∃ part, part.map Char.toLower = word.toList.map Char.toLower ∧
      text = part ++ after := by
    rw [caseless] at found
    generalize word.toList = letters at found
    induction letters generalizing text with
    | nil =>
        rw [spelled, Option.some_inj] at found
        exact ⟨[], rfl, found⟩
    | cons letter letters ih =>
        cases text with
        | nil => cases found
        | cons char rest =>
            rw [spelled] at found
            split_ifs at found with same
            obtain ⟨part, spelling, whole⟩ := ih rest found
            refine ⟨char :: part, ?_, ?_⟩
            · rw [List.map_cons, List.map_cons, spelling, beq_iff_eq.mp same]
            · rw [whole, List.cons_append]
  exact split

theorem repeated_takes (accepts : Char → Bool) : Takes (filledWith accepts) (repeated accepts) := by
  intro text after found
  cases text with
  | nil => cases found
  | cons char rest =>
      rw [repeated] at found
      split_ifs at found with accepted
      refine ⟨char :: rest.takeWhile accepts, ⟨by simp, ?_⟩, ?_⟩
      · rw [List.all_cons, accepted, List.all_eq_true.mpr fun _ => List.mem_takeWhile_imp]
        rfl
      · rw [← Option.some_inj.mp found, List.cons_append, List.takeWhile_append_dropWhile]

theorem perhaps_takes {language : Language Char} {pattern : Pattern}
    (takes : Takes language pattern) : Takes (1 + language) (perhaps pattern) := by
  intro text after found
  rw [perhaps, Option.some_inj] at found
  cases matched : pattern text with
  | none =>
      rw [matched] at found
      exact ⟨[], Or.inl rfl, found⟩
  | some rest =>
      rw [matched] at found
      obtain ⟨part, within, whole⟩ := takes _ _ matched
      exact ⟨part, Or.inr within, by rw [whole, ← found]; rfl⟩

theorem firstOf_takes {languages : List (Language Char)} {patterns : List Pattern}
    (each : List.Forall₂ Takes languages patterns) : Takes languages.sum (firstOf patterns) := by
  intro text after found
  rw [firstOf] at found
  induction each with
  | nil => cases found
  | @cons language pattern others rest first later ih =>
      rw [List.findSome?_cons] at found
      rw [List.sum_cons]
      split at found
      · next matched =>
          obtain ⟨part, within, whole⟩ := first _ _ (matched.trans found)
          exact ⟨part, Or.inl within, whole⟩
      · obtain ⟨part, within, whole⟩ := ih found
        exact ⟨part, Or.inr within, whole⟩

theorem sequence_takes {languages : List (Language Char)} {patterns : List Pattern}
    (each : List.Forall₂ Takes languages patterns) : Takes languages.prod (sequence patterns) := by
  induction each with
  | nil =>
      intro text after found
      exact ⟨[], rfl, Option.some_inj.mp found⟩
  | @cons language pattern others rest first later ih =>
      intro text after found
      rw [sequence_cons, Option.bind_eq_some_iff] at found
      obtain ⟨middle, here, behind⟩ := found
      obtain ⟨part, within, whole⟩ := first _ _ here
      obtain ⟨remainder, inside, remaining⟩ := ih _ _ behind
      rw [List.prod_cons]
      refine ⟨part ++ remainder, Language.mem_mul.mpr ⟨part, within, remainder, inside, rfl⟩, ?_⟩
      rw [whole, remaining, List.append_assoc]

end Languages

end Ecma
