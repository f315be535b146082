import LineageGuard.Library.TextParts
import Mathlib.Tactic

/-
This file gives the delimiters of Jinja templates and what the scanner does with them.
-/

namespace Jinja

open Ecma

section Scanning

/-- These two characters open an expression, a statement or a comment. -/
def opens : List Char → Bool
  | first :: second :: _ => first == '{' && ['{', '%', '#'].contains second
  | _ => false

/-- Scanned from left to right, every delimiter outside of an earlier span opens an expression that
is allowed, and the scan goes on behind its end. -/
inductive Confined (allowed : Pattern) : List Char → Prop
  | done : Confined allowed []
  | text {char : Char} {rest : List Char} (plain : opens (char :: rest) = false)
      (later : Confined allowed rest) : Confined allowed (char :: rest)
  | expression {text after : List Char} (found : allowed text = some after)
      (later : Confined allowed after) : Confined allowed text

/-- These characters are no part of a delimiter. -/
def isInner (char : Char) : Bool := !(['{', '}', '%', '#'].contains char)

/-- An expression holds no delimiter but its own. -/
def IsSpan (text after : List Char) : Prop :=
  ∃ inner, text = '{' :: '{' :: (inner ++ '}' :: '}' :: after) ∧ inner ≠ [] ∧
    inner.all isInner = true

def Spans (pattern : Pattern) : Prop :=
  ∀ text after, pattern text = some after → IsSpan text after

theorem opens_brace {char : Char} {rest : List Char} (opened : opens (char :: rest) = true) :
    char = '{' := by
  cases rest with
  | nil => cases opened
  | cons second rest =>
      rw [opens, Bool.and_eq_true] at opened
      exact eq_of_beq opened.1

theorem inner_brace {char : Char} (inner : isInner char = true) : char ≠ '{' := by
  rintro rfl
  cases inner

theorem opens_behind {front text found : List Char} (plain : ∀ char ∈ front, char ≠ '{')
    (within : found <:+ front ++ text) (opened : opens found = true) : found <:+ text := by
  induction front with
  | nil => exact within
  | cons char front ih =>
      rw [List.forall_mem_cons] at plain
      rcases List.suffix_cons_iff.mp within with whole | later
      · rw [whole] at opened
        exact absurd (opens_brace opened) plain.1
      · exact ih plain.2 later

/-- No delimiter opens inside of an expression. -/
theorem span_opens {text after found : List Char} (span : IsSpan text after)
    (within : found <:+ text) (opened : opens found = true) : found = text ∨ found <:+ after := by
  obtain ⟨inner, rfl, filled, all⟩ := span
  rw [List.all_eq_true] at all
  rcases List.suffix_cons_iff.mp within with whole | later
  · exact Or.inl whole
  · right
    rcases List.suffix_cons_iff.mp later with second | third
    · obtain ⟨first, rest, rfl⟩ := List.exists_cons_of_ne_nil filled
      have other := all first List.mem_cons_self
      rw [second, List.cons_append, opens, Bool.and_eq_true] at opened
      rw [isInner, Bool.not_eq_true', List.contains_eq_mem, decide_eq_false_iff_not] at other
      have among := opened.2
      rw [List.contains_eq_mem, decide_eq_true_eq] at among
      refine absurd ?_ other
      fin_cases among <;> simp
    · have plain : ∀ char ∈ inner ++ ['}', '}'], char ≠ '{' := by
        intro char present
        rcases List.mem_append.mp present with inside | ends
        · exact inner_brace (all char inside)
        · rcases List.mem_pair.mp ends with rfl | rfl <;> decide
      refine opens_behind plain ?_ opened
      rwa [List.append_assoc]

theorem span_starts {text after : List Char} (span : IsSpan text after) : opens text = true := by
  obtain ⟨inner, rfl, _⟩ := span
  rfl

theorem span_consumes {char : Char} {rest after : List Char} (span : IsSpan (char :: rest) after) :
    after <:+ rest := by
  obtain ⟨inner, whole, _⟩ := span
  obtain ⟨_, rfl⟩ := List.cons.inj whole
  exact ⟨'{' :: (inner ++ ['}', '}']), by simp⟩

/-- A text is confined exactly when an allowed expression begins at each of its delimiters. -/
theorem confined_iff {allowed : Pattern} (spans : Spans allowed) (text : List Char) :
    Confined allowed text ↔
      ∀ found, found <:+ text → opens found = true → (allowed found).isSome := by
  constructor
  · intro confined
    induction confined with
    | done =>
        intro found within opened
        rw [List.suffix_nil.mp within] at opened
        cases opened
    | text plain _ ih =>
        intro found within opened
        rcases List.suffix_cons_iff.mp within with whole | later
        · rw [whole, plain] at opened
          cases opened
        · exact ih found later opened
    | expression here _ ih =>
        intro found within opened
        rcases span_opens (spans _ _ here) within opened with whole | later
        · rw [whole, here]
          rfl
        · exact ih found later opened
  · intro each
    induction size : text.length using Nat.strong_induction_on generalizing text with
    | _ size ih =>
        cases text with
        | nil => exact .done
        | cons char rest =>
            cases opened : opens (char :: rest) with
            | false =>
                refine .text opened (ih rest.length ?_ rest ?_ rfl)
                · rw [← size]
                  exact Nat.lt_succ_self _
                · exact fun found within => each found (within.trans (List.suffix_cons _ _))
            | true =>
                obtain ⟨after, found⟩ := Option.isSome_iff_exists.mp
                  (each _ List.suffix_rfl opened)
                have shorter := span_consumes (spans _ _ found)
                refine .expression found (ih after.length ?_ after ?_ rfl)
                · rw [← size]
                  exact Nat.lt_succ_of_le shorter.length_le
                · exact fun other within => each other
                    (within.trans (shorter.trans (List.suffix_cons _ _)))

end Scanning

section Removal

/-- A delimiter that is not removed stays in front of what is left behind it. -/
theorem replaced_suffix {pattern : Pattern} (spans : Spans pattern) {text found : List Char}
    (within : found <:+ text) (opened : opens found = true) :
    replaceAll pattern [] found <:+ replaceAll pattern [] text := by
  induction size : text.length using Nat.strong_induction_on generalizing text with
  | _ size ih =>
      cases text with
      | nil =>
          rw [List.suffix_nil.mp within]
      | cons char rest =>
          cases here : pattern (char :: rest) with
          | none =>
              rcases List.suffix_cons_iff.mp within with rfl | later
              · exact List.suffix_rfl
              · rw [replaceAll_kept here]
                refine (ih rest.length ?_ later rfl).trans (List.suffix_cons _ _)
                rw [← size]
                exact Nat.lt_succ_self _
          | some after =>
              have span := spans _ _ here
              rcases span_opens span within opened with rfl | later
              · exact List.suffix_rfl
              · rw [replaceAll_matched here (span_consumes span), List.nil_append]
                refine ih after.length ?_ later rfl
                rw [← size]
                exact Nat.lt_succ_of_le (span_consumes span).length_le

end Removal

end Jinja
