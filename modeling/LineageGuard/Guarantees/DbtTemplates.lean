import LineageGuard.Library.Attempt
import LineageGuard.Library.EcmaPatterns
import LineageGuard.Library.JinjaText
import LineageGuard.Validation.Validator
import Mathlib.Tactic

/-
This file proves which accepted dbt artifacts hold no template expression but the allowed ones.
-/

namespace LineageGuard.Validation

open Ecma Jinja

section Calls

variable {blank : Char → Bool}

theorem takeWhile_inner (blanks : ∀ char, blank char = true → isInner char = true)
    (text : List Char) : (text.takeWhile blank).all isInner = true :=
  List.all_eq_true.mpr fun char present => blanks char (List.mem_takeWhile_imp present)

/-- A call holds no brace but those around it. -/
theorem call_spans {name : String} {arguments : List Pattern}
    (blanks : ∀ char, blank char = true → isInner char = true) (filled : name.toList ≠ [])
    (named : name.toList.all isInner = true)
    (inside : ∀ pattern ∈ arguments, Ecma.Consumes isInner pattern) :
    Spans (templateCall blank name arguments) := by
  intro text after found
  have shape : templateCall blank name arguments = Ecma.sequence ([exactly "\x7b\x7b"] ++
      ([behind blank (exactly name)] ++ ((arguments ++ [behind blank (exactly ")")]) ++
        [behind blank (exactly "\x7d\x7d")]))) := by
    rw [templateCall, List.append_assoc]
    rfl
  rw [shape, sequence_append, Option.bind_eq_some_iff] at found
  obtain ⟨first, opened, found⟩ := found
  rw [sequence_append, Option.bind_eq_some_iff] at found
  obtain ⟨second, called, found⟩ := found
  rw [sequence_append, Option.bind_eq_some_iff] at found
  obtain ⟨third, given, closed⟩ := found
  rw [sequence_single] at opened called closed
  have middle : Ecma.Consumes isInner (Ecma.sequence (arguments ++ [behind blank (exactly ")")])) := by
    refine sequence_consumes fun pattern among => ?_
    rcases List.mem_append.mp among with argument | last
    · exact inside pattern argument
    · rw [List.mem_singleton.mp last]
      exact behind_consumes blanks (exactly_consumes rfl)
  obtain ⟨part, whole, all⟩ := middle _ _ given
  have braces : "\x7b\x7b".toList = ['{', '{'] ∧ "\x7d\x7d".toList = ['}', '}'] := by decide
  refine ⟨first.takeWhile blank ++ (name.toList ++ (part ++ third.takeWhile blank)), ?_, ?_, ?_⟩
  · rw [exactly_some.mp opened, braces.1]
    conv_lhs => rw [behind_some called, whole, behind_some closed, braces.2]
    simp
  · intro none
    exact filled (List.append_eq_nil_iff.mp (List.append_eq_nil_iff.mp none).2).1
  · rw [List.all_append, List.all_append, List.all_append, takeWhile_inner blanks, named, all,
      takeWhile_inner blanks]
    rfl

theorem quote_consumes {quote : String} (listed : quote = "'" ∨ quote = "\x22") :
    Ecma.Consumes isInner (exactly quote) := by
  rcases listed with rfl | rfl
  · exact exactly_consumes (by decide)
  · exact exactly_consumes (by decide)

theorem ref_spans {quote : Pattern} (blanks : ∀ char, blank char = true → isInner char = true)
    (quotes : Ecma.Consumes isInner quote) : Spans (refCall blank quote) := by
  refine call_spans blanks (by decide) (by decide) ?_
  have names : Ecma.Consumes isInner (firstOf [exactly "orders", exactly "stg_orders"]) := by
    refine firstOf_consumes (List.forall_mem_cons.mpr ⟨?_, List.forall_mem_singleton.mpr ?_⟩)
    · exact exactly_consumes (by decide)
    · exact exactly_consumes (by decide)
  rw [List.forall_mem_cons, List.forall_mem_cons, List.forall_mem_singleton]
  exact ⟨behind_consumes blanks quotes, names, quotes⟩

theorem source_spans {first second : Pattern}
    (blanks : ∀ char, blank char = true → isInner char = true)
    (firstQuotes : Ecma.Consumes isInner first) (secondQuotes : Ecma.Consumes isInner second) :
    Spans (sourceCall blank first second) := by
  refine call_spans blanks (by decide) (by decide) ?_
  iterate 6 rw [List.forall_mem_cons]
  rw [List.forall_mem_singleton]
  exact ⟨behind_consumes blanks firstQuotes, exactly_consumes (by decide), firstQuotes,
    behind_consumes blanks (exactly_consumes (by decide)), behind_consumes blanks secondQuotes,
    exactly_consumes (by decide), secondQuotes⟩

theorem space_inner (char : Char) (space : isSpace char = true) : isInner char = true := by
  rw [isInner, Bool.not_eq_true', List.contains_eq_mem, decide_eq_false_iff_not]
  intro among
  have table : ['{', '}', '%', '#'].all (fun other => !isSpace other) = true := by decide
  have other := List.all_eq_true.mp table char among
  rw [space] at other
  cases other

theorem anyQuote_consumes : Ecma.Consumes isInner anyQuote :=
  firstOf_consumes (List.forall_mem_cons.mpr ⟨quote_consumes (Or.inl rfl),
    List.forall_mem_singleton.mpr (quote_consumes (Or.inr rfl))⟩)

theorem allowedRef_spans : Spans allowedRef := ref_spans space_inner anyQuote_consumes

theorem allowedSource_spans : Spans allowedSource :=
  source_spans space_inner anyQuote_consumes anyQuote_consumes

end Calls

section Reading

/-- Jinja takes all white space of the language for white space but the byte order mark. -/
def isTemplateSpace (char : Char) : Bool := isSpace char && char != '\ufeff'

/-- Jinja closes a name at the quote with which it opens. -/
def readReference : Pattern :=
  firstOf ([exactly "'", exactly "\x22"].flatMap fun first =>
    refCall isTemplateSpace first :: [exactly "'", exactly "\x22"].map fun second =>
      sourceCall isTemplateSpace first second)

/-- Scanned as Jinja does, every delimiter of the text opens a reference that is allowed. -/
def ReferencesOnly (content : List Char) : Prop := Confined readReference content

theorem templateSpace_space (char : Char) (space : isTemplateSpace char = true) :
    isSpace char = true := ((Bool.and_eq_true _ _).mp space).1

/-- Every reference that Jinja reads has one of these forms. -/
theorem readReference_cases {text after : List Char} (found : readReference text = some after) :
    (∃ quote, (quote = "'" ∨ quote = "\x22") ∧
      refCall isTemplateSpace (exactly quote) text = some after) ∨
    ∃ first second, (first = "'" ∨ first = "\x22") ∧ (second = "'" ∨ second = "\x22") ∧
      sourceCall isTemplateSpace (exactly first) (exactly second) text = some after := by
  obtain ⟨pattern, among, here⟩ := List.exists_of_findSome?_eq_some found
  have single : "'" = "'" ∨ "'" = "\x22" := Or.inl rfl
  have double : "\x22" = "'" ∨ "\x22" = "\x22" := Or.inr rfl
  simp only [List.flatMap_cons, List.flatMap_nil, List.map_cons, List.map_nil, List.cons_append,
    List.nil_append, List.append_nil, List.mem_cons, List.not_mem_nil, or_false] at among
  rcases among with rfl | rfl | rfl | rfl | rfl | rfl
  · exact Or.inl ⟨_, single, here⟩
  · exact Or.inr ⟨_, _, single, single, here⟩
  · exact Or.inr ⟨_, _, single, double, here⟩
  · exact Or.inl ⟨_, double, here⟩
  · exact Or.inr ⟨_, _, double, single, here⟩
  · exact Or.inr ⟨_, _, double, double, here⟩

theorem readReference_spans : Spans readReference := by
  intro text after found
  have blanks : ∀ char, isTemplateSpace char = true → isInner char = true :=
    fun char space => space_inner char (templateSpace_space char space)
  rcases readReference_cases found with ⟨quote, listed, here⟩ | ⟨first, second, one, two, here⟩
  · exact ref_spans blanks (quote_consumes listed) _ _ here
  · exact source_spans blanks (quote_consumes one) (quote_consumes two) _ _ here

theorem quote_refines {quote : String} (listed : quote = "'" ∨ quote = "\x22") :
    Refines (exactly quote) anyQuote := by
  intro text after found
  rcases listed with rfl | rfl
  · rw [anyQuote, firstOf, List.findSome?_cons, found]
  · have whole : text = '\x22' :: after := exactly_some.mp found
    rw [whole]
    rfl

theorem quote_begins {quote : String} (listed : quote = "'" ∨ quote = "\x22") :
    Begins isSpace (exactly quote) := by
  rcases listed with rfl | rfl
  · exact exactly_begins rfl rfl
  · exact exactly_begins rfl rfl

theorem call_refines {name : String} {arguments others : List Pattern} {first : Char}
    (starts : name.toList.head? = some first) (filled : isSpace first = false)
    (each : List.Forall₂ Refines arguments others) :
    Refines (templateCall isTemplateSpace name arguments) (templateCall isSpace name others) := by
  have word : ∀ (word : String) (first : Char), word.toList.head? = some first →
      isSpace first = false →
      Refines (behind isTemplateSpace (exactly word)) (behind isSpace (exactly word)) :=
    fun _ _ starts filled => behind_refines templateSpace_space (exactly_begins starts filled)
      (refines_self _)
  have closing : List.Forall₂ Refines
      [behind isTemplateSpace (exactly ")"), behind isTemplateSpace (exactly "\x7d\x7d")]
      [behind isSpace (exactly ")"), behind isSpace (exactly "\x7d\x7d")] :=
    .cons (word ")" ')' (by decide) (by decide)) (.cons (word "\x7d\x7d" '}' (by decide) (by decide)) .nil)
  exact sequence_refines (.cons (refines_self _) (.cons (word name first starts filled)
    (List.rel_append each closing)))

/-- The replacements find every reference that Jinja reads. -/
theorem readReference_found {text : List Char} (found : (readReference text).isSome = true) :
    (allowedRef text).isSome ∨ (allowedSource text).isSome := by
  obtain ⟨after, here⟩ := Option.isSome_iff_exists.mp found
  have spaced : ∀ {quote : String}, (quote = "'" ∨ quote = "\x22") →
      Refines (behind isTemplateSpace (exactly quote)) (behind isSpace anyQuote) :=
    fun listed => behind_refines templateSpace_space (quote_begins listed) (quote_refines listed)
  rcases readReference_cases here with ⟨quote, listed, call⟩ | ⟨first, second, one, two, call⟩
  · left
    have wider : Refines (refCall isTemplateSpace (exactly quote)) allowedRef :=
      @call_refines _ _ _ 'r' (by decide) (by decide)
        (.cons (spaced listed) (.cons (refines_self _) (.cons (quote_refines listed) .nil)))
    rw [wider _ _ call]
    rfl
  · right
    have comma : Refines (behind isTemplateSpace (exactly ",")) (behind isSpace (exactly ",")) :=
      behind_refines templateSpace_space (exactly_begins rfl rfl) (refines_self _)
    have wider : Refines (sourceCall isTemplateSpace (exactly first) (exactly second))
        allowedSource :=
      @call_refines _ _ _ 's' (by decide) (by decide)
        (.cons (spaced one) (.cons (refines_self _) (.cons (quote_refines one) (.cons comma
          (.cons (spaced two) (.cons (refines_self _) (.cons (quote_refines two) .nil)))))))
    rw [wider _ _ call]
    rfl

end Reading

section Confinement

theorem delimiter_opens {text found : List Char} (closed : hasDelimiter text = false)
    (within : found <:+ text) : opens found = false := by
  induction text with
  | nil =>
      rw [List.suffix_nil.mp within]
      rfl
  | cons first rest ih =>
      cases rest with
      | nil =>
          rcases List.suffix_cons_iff.mp within with rfl | none
          · rfl
          · rw [List.suffix_nil.mp none]
            rfl
      | cons second rest =>
          rw [hasDelimiter, Bool.or_eq_false_iff, Bool.or_eq_false_iff] at closed
          rcases List.suffix_cons_iff.mp within with rfl | later
          · exact closed.1.1
          · exact ih closed.2 later

/-- The references that are removed stand alone in the text. -/
structure StandAlone (content : List Char) : Prop where
  read : ∀ found, found <:+ content → (allowedRef found).isSome ∨ (allowedSource found).isSome →
    (readReference found).isSome
  apart : ∀ found, '{' :: found <:+ content → allowedRef found = none ∧ allowedSource found = none
  whole : ∀ found, found <:+ content → allowedRef found = none →
    (allowedSource (replaceAll allowedRef [] found)).isSome → (allowedSource found).isSome

theorem accepted_artifact {candidate : Domain.MigrationCandidate}
    (accepted : assertSafeDbtProject candidate = .ok ()) {artifact : Domain.MigrationArtifact}
    (present : artifact ∈ candidate.artifacts) (isDbt : ArtifactKind.isDbt artifact.kind = true) :
    hasDelimiter (withoutAllowedReferences artifact.content.toList) = false := by
  have passed := Attempt.forM_ok.mp accepted artifact present
  rw [if_pos isDbt] at passed
  split_ifs at passed with refused
  rw [not_or] at refused
  exact Bool.eq_false_iff.mpr refused.2

theorem confined_standAlone {content : List Char} (confined : ReferencesOnly content) :
    StandAlone content := by
  have each := (confined_iff readReference_spans content).mp confined
  constructor
  · intro found within removed
    refine each found within ?_
    rcases removed with here | here
    · obtain ⟨after, matched⟩ := Option.isSome_iff_exists.mp here
      exact span_starts (allowedRef_spans _ _ matched)
    · obtain ⟨after, matched⟩ := Option.isSome_iff_exists.mp here
      exact span_starts (allowedSource_spans _ _ matched)
  · intro found within
    have never : ∀ after, ¬ IsSpan found after := by
      rintro after ⟨inner, rfl, _⟩
      obtain ⟨rest, matched⟩ := Option.isSome_iff_exists.mp (each _ within rfl)
      obtain ⟨other, same, filled, all⟩ := readReference_spans _ _ matched
      obtain ⟨first, others, rfl⟩ := List.exists_cons_of_ne_nil filled
      rw [List.all_cons, Bool.and_eq_true] at all
      have brace : first = '{' := by
        have heads := (List.cons.inj (List.cons.inj (List.cons.inj same).2).2).1
        exact heads.symm
      exact inner_brace all.1 brace
    constructor
    · cases matched : allowedRef found with
      | none => rfl
      | some after => exact absurd (allowedRef_spans _ _ matched) (never after)
    · cases matched : allowedSource found with
      | none => rfl
      | some after => exact absurd (allowedSource_spans _ _ matched) (never after)
  · intro found within kept joined
    obtain ⟨after, matched⟩ := Option.isSome_iff_exists.mp joined
    have opened := span_starts (allowedSource_spans _ _ matched)
    have starts : opens found = true := by
      cases found with
      | nil => cases opened
      | cons first rest =>
          rw [replaceAll_kept kept] at opened
          cases rest with
          | nil => cases opened
          | cons second rest =>
              cases inner : allowedRef (second :: rest) with
              | none =>
                  rw [replaceAll_kept inner] at opened
                  exact opened
              | some later =>
                  have brace := opens_brace (span_starts (allowedRef_spans _ _ inner))
                  rw [opens_brace opened, brace]
                  rfl
    rcases readReference_found (each found within starts) with here | here
    · rw [kept] at here
      cases here
    · exact here

/-- The delimiters that are left after a removal are those of the text. -/
theorem standAlone_confined {content : List Char} (alone : StandAlone content)
    (closed : hasDelimiter (withoutAllowedReferences content) = false) :
    ReferencesOnly content := by
  refine (confined_iff readReference_spans content).mpr fun found within opened => ?_
  by_contra unread
  obtain ⟨noRef, noSource⟩ : allowedRef found = none ∧ allowedSource found = none := by
    constructor
    · cases matched : allowedRef found with
      | none => rfl
      | some after => exact absurd (alone.read found within (Or.inl (by rw [matched]; rfl))) unread
    · cases matched : allowedSource found with
      | none => rfl
      | some after => exact absurd (alone.read found within (Or.inr (by rw [matched]; rfl))) unread
  cases found with
  | nil => cases opened
  | cons first found =>
      cases found with
      | nil => cases opened
      | cons second rest =>
          have brace := opens_brace opened
          subst brace
          obtain ⟨refApart, sourceApart⟩ := alone.apart _ within
          have kept : replaceAll allowedRef [] ('{' :: second :: rest) =
              '{' :: second :: replaceAll allowedRef [] rest := by
            rw [replaceAll_kept noRef, replaceAll_kept refApart]
          have joined : ∀ {text : List Char}, text <:+ content → allowedRef text = none →
              allowedSource text = none →
                allowedSource (replaceAll allowedRef [] text) = none := by
            intro text inside noRef noSource
            cases matched : allowedSource (replaceAll allowedRef [] text) with
            | none => rfl
            | some after =>
                have whole := alone.whole text inside noRef (by rw [matched]; rfl)
                rw [noSource] at whole
                cases whole
          have firstKept := joined within noRef noSource
          have secondKept := joined ((List.suffix_cons _ _).trans within) refApart sourceApart
          have left := replaced_suffix allowedRef_spans within opened
          rw [kept] at left firstKept
          rw [replaceAll_kept refApart] at secondKept
          have leftOpened : opens ('{' :: second :: replaceAll allowedRef [] rest) = true := opened
          have last := replaced_suffix allowedSource_spans left leftOpened
          rw [replaceAll_kept firstKept, replaceAll_kept secondKept] at last
          have stays := delimiter_opens closed last
          rw [show opens ('{' :: second :: replaceAll allowedSource []
            (replaceAll allowedRef [] rest)) = true from opened] at stays
          cases stays

/-- Jinja finds the allowed references in an accepted artifact and nothing else exactly when the
removed references stand alone. -/
theorem templates_confined (candidate : Domain.MigrationCandidate)
    (accepted : assertSafeDbtProject candidate = .ok ()) (artifact : Domain.MigrationArtifact)
    (present : artifact ∈ candidate.artifacts)
    (isDbt : ArtifactKind.isDbt artifact.kind = true) :
    ReferencesOnly artifact.content.toList ↔ StandAlone artifact.content.toList :=
  ⟨confined_standAlone, fun alone =>
    standAlone_confined alone (accepted_artifact accepted present isDbt)⟩

/-- This candidate has one dbt model with the given content. -/
def templateSample (content : String) : Domain.MigrationCandidate where
  sourceChangeFingerprint := "change"
  sourcePatchFingerprint := "patch"
  sourceImpactContextFingerprint := "impact"
  sourceEvidenceIds := ["evidence:1"]
  summary := "Rename customer_id."
  steps := []
  artifacts := [⟨.dbtModel "base", "dbt/models/staging/stg_orders.sql", content⟩]
  requiredReviewers := []
  compatibilityWindowDays := 30
  rollbackPlan := "Drop buyer_id."

theorem templateSample_accepted {content : String}
    (plain : forbiddenFrom none content.toList = false)
    (closed : hasDelimiter (withoutAllowedReferences content.toList) = false) :
    assertSafeDbtProject (templateSample content) = .ok () := by
  refine Attempt.forM_ok.mpr fun artifact present => ?_
  have isDbt : ArtifactKind.isDbt (.dbtModel "base") = true := rfl
  rw [List.mem_singleton.mp present, if_pos isDbt, if_neg]
  · rfl
  · rw [plain, closed]
    decide

def plainTemplate : String := "select * from \x7b\x7b ref('orders') \x7d\x7d"

theorem plainTemplate_safe : forbiddenFrom none plainTemplate.toList = false ∧
    hasDelimiter (withoutAllowedReferences plainTemplate.toList) = false := by
  decide

theorem templates_confined_sample : ReferencesOnly plainTemplate.toList ↔
    StandAlone plainTemplate.toList :=
  templates_confined (templateSample plainTemplate)
    (templateSample_accepted plainTemplate_safe.1 plainTemplate_safe.2)
    ⟨.dbtModel "base", "dbt/models/staging/stg_orders.sql", plainTemplate⟩
    (List.mem_singleton_self _) rfl

/-- Two references with unequal quotes hide an expression between them. -/
def hiddenTemplate : String := "\x7b\x7b ref('orders\x22) \x7d\x7d' ~ env_var('A') ~ '\x7b\x7b ref(\x22orders') \x7d\x7d"

theorem hiddenTemplate_safe : forbiddenFrom none hiddenTemplate.toList = false ∧
    hasDelimiter (withoutAllowedReferences hiddenTemplate.toList) = false ∧
      opens hiddenTemplate.toList = true ∧ readReference hiddenTemplate.toList = none := by
  decide

/-- The template is accepted although Jinja evaluates the hidden expression. -/
theorem hidden_expression :
    assertSafeDbtProject (templateSample hiddenTemplate) = .ok () ∧
      ¬ ReferencesOnly hiddenTemplate.toList := by
  obtain ⟨plain, closed, opened, unread⟩ := hiddenTemplate_safe
  refine ⟨templateSample_accepted plain closed, fun confined => ?_⟩
  have read := (confined_iff readReference_spans _).mp confined _ List.suffix_rfl opened
  rw [unread] at read
  cases read

end Confinement

end LineageGuard.Validation
