import LineageGuard.Guarantees.SqlFingerprints
import LineageGuard.Library.SqlTokens
import Mathlib.Tactic

/-
This file proves that no statement has a normal form that follows the lexical rules of SQL.
-/

namespace LineageGuard.Datahub

open Words Ecma SqlTokens

section Meaning

variable (lowering : Lowering)

/-- The lexer reads the whole text as one comment. -/
def IsComment (comment : List Char) : Prop :=
  2 < comment.length ∧ modeAfter comment = .between ∧
    ∀ part, part <+: comment → 2 ≤ part.length → part ≠ comment → (modeAfter part).inComment = true

/-- The other statement has one more comment between two tokens. -/
def Commented (statement other : List Char) : Prop :=
  ∃ before comment after, statement = before ++ after ∧ other = before ++ comment ++ after ∧
    modeAfter before = .between ∧ IsComment comment

/-- The other statement has another run of white space outside of literals and comments. -/
def Respaced (statement other : List Char) : Prop :=
  ∃ before run otherRun after, statement = before ++ run ++ after ∧
    other = before ++ otherRun ++ after ∧ (modeAfter before).inLiteral = false ∧
    (modeAfter before).inComment = false ∧ run ≠ [] ∧ otherRun ≠ [] ∧
    (∀ char ∈ run, isBlank char = true) ∧ ∀ char ∈ otherRun, isBlank char = true

/-- The other statement goes on with semicolons and white space after its last literal. -/
def Extended (statement other : List Char) : Prop :=
  ∃ extra, other = statement ++ extra ∧ (modeAfter statement).inLiteral = false ∧
    ∀ char ∈ extra, char = ';' ∨ isBlank char = true

/-- The two statements differ inside of one literal or quoted name. -/
def DifferInLiteral (statement other : List Char) : Prop :=
  ∃ before inside otherInside after, statement = before ++ inside ++ after ∧
    other = before ++ otherInside ++ after ∧ inside ≠ otherInside ∧
    (∀ part, part <+: inside → (modeAfter (before ++ part)).inLiteral = true) ∧
    ∀ part, part <+: otherInside → (modeAfter (before ++ part)).inLiteral = true

/-- The normal form of a statement stands for its tokens. -/
structure NormalizesWell (statement : List Char) : Prop where
  idempotent : normalizeSqlStatement lowering (normalizeSqlStatement lowering statement) =
    normalizeSqlStatement lowering statement
  comments : ∀ other, Commented statement other ∨ Commented other statement →
    normalizeSqlStatement lowering other = normalizeSqlStatement lowering statement
  spaces : ∀ other, Respaced statement other →
    normalizeSqlStatement lowering other = normalizeSqlStatement lowering statement
  extended : ∀ other, Extended statement other →
    normalizeSqlStatement lowering other = normalizeSqlStatement lowering statement
  literals : ∀ other, DifferInLiteral statement other →
    normalizeSqlStatement lowering other ≠ normalizeSqlStatement lowering statement

end Meaning

section Extensions

/-- A text without these characters neither opens nor closes a block comment. -/
theorem stripBlocks_append {extra : List Char} (stars : '*' ∉ extra) (slashes : '/' ∉ extra)
    (opened : Option (List Char)) (statement : List Char) :
    stripBlocks opened (statement ++ extra) = stripBlocks opened statement ++ extra := by
  have none : stripBlocks none extra = extra := by
    clear stars
    induction extra with
    | nil => rfl
    | cons char rest ih =>
        rw [List.mem_cons, not_or] at slashes
        rw [stripBlocks, ih slashes.2]
        exact fun _ same => absurd same.symm slashes.1
  have some : ∀ body, stripBlocks (some body) extra = '/' :: '*' :: body.reverse ++ extra := by
    clear none slashes
    induction extra with
    | nil =>
        intro body
        rw [List.append_nil]
        rfl
    | cons char rest ih =>
        intro body
        rw [List.mem_cons, not_or] at stars
        rw [stripBlocks, ih stars.2]
        · simp
        · exact fun _ same => absurd same.symm stars.1
  fun_induction stripBlocks opened statement with
  | case1 rest ih =>
      rw [List.cons_append, List.cons_append, stripBlocks]
      exact ih
  | case2 char rest plain ih =>
      rw [List.cons_append, stripBlocks, ih, List.cons_append]
      intro later first second
      cases rest with
      | nil =>
          have starts : extra = '*' :: later := second
          rw [starts] at stars
          exact stars List.mem_cons_self
      | cons next others =>
          obtain ⟨rfl, _⟩ := List.cons.inj second
          exact plain others first rfl
  | case3 => exact none
  | case4 body rest ih =>
      rw [List.cons_append, List.cons_append, stripBlocks, ih, List.cons_append]
  | case5 body char rest plain ih =>
      rw [List.cons_append, stripBlocks, ih]
      intro later first second
      cases rest with
      | nil =>
          have starts : extra = '/' :: later := second
          rw [starts] at slashes
          exact slashes List.mem_cons_self
      | cons next others =>
          obtain ⟨rfl, _⟩ := List.cons.inj second
          exact plain others first rfl
  | case6 body => exact some body

/-- A line end closes a line comment, and no other one begins behind it. -/
theorem stripLines_append {ends : Char → Bool} {extra : List Char} (dashes : '-' ∉ extra)
    (line : ends '\n' = true) (opened : Bool) (statement : List Char) :
    stripLines ends opened (statement ++ '\n' :: extra) =
      stripLines ends opened statement ++ '\n' :: extra := by
  have plain : stripLines ends false extra = extra := by
    induction extra with
    | nil => rfl
    | cons char rest ih =>
        rw [List.mem_cons, not_or] at dashes
        rw [strip_code ends fun _ same _ => dashes.1 same.symm, ih dashes.2]
  have code : stripLines ends false ('\n' :: extra) = '\n' :: extra := by
    rw [strip_code ends fun _ same _ => absurd same (by decide), plain]
  fun_induction stripLines ends opened statement with
  | case1 rest ih =>
      rw [List.cons_append, List.cons_append, stripLines, ih, List.cons_append]
  | case2 char rest dash ih =>
      rw [List.cons_append, strip_code ends, ih, List.cons_append]
      intro later first second
      cases rest with
      | nil => exact absurd (List.cons.inj second).1 (by decide)
      | cons next others =>
          obtain ⟨rfl, _⟩ := List.cons.inj second
          exact dash others first rfl
  | case3 char rest isEnd ih =>
      rw [List.cons_append, stripLines, if_pos isEnd, ih, List.cons_append]
  | case4 char rest notEnd ih =>
      rw [List.cons_append, stripLines, if_neg notEnd, ih]
  | case5 opened =>
      cases opened with
      | false => exact code
      | true =>
          show stripLines ends true ('\n' :: extra) = '\n' :: extra
          rw [stripLines, if_pos line, plain]

/-- A space at the end is kept or belongs to a line comment. -/
theorem stripLines_space {ends : Char → Bool} (inside : ends ' ' = false) (opened : Bool)
    (statement : List Char) :
    stripLines ends opened (statement ++ [' ']) = stripLines ends opened statement ++ [' '] ∨
      stripLines ends opened (statement ++ [' ']) = stripLines ends opened statement := by
  fun_induction stripLines ends opened statement with
  | case1 rest ih =>
      rw [List.cons_append, List.cons_append, stripLines]
      rcases ih with same | same <;> rw [same]
      · exact Or.inl rfl
      · exact Or.inr rfl
  | case2 char rest dash ih =>
      rw [List.cons_append, strip_code ends]
      · rcases ih with same | same <;> rw [same]
        · exact Or.inl rfl
        · exact Or.inr rfl
      · intro later first second
        cases rest with
        | nil => exact absurd (List.cons.inj second).1 (by decide)
        | cons next others =>
            obtain ⟨rfl, _⟩ := List.cons.inj second
            exact dash others first rfl
  | case3 char rest isEnd ih =>
      rw [List.cons_append, stripLines, if_pos isEnd]
      rcases ih with same | same <;> rw [same]
      · exact Or.inl rfl
      · exact Or.inr rfl
  | case4 char rest notEnd ih =>
      rw [List.cons_append, stripLines, if_neg notEnd]
      exact ih
  | case5 opened =>
      cases opened with
      | false => exact Or.inl rfl
      | true =>
          right
          show stripLines ends true [' '] = []
          rw [stripLines, inside, if_neg Bool.false_ne_true]
          rfl

end Extensions

section Failures

variable (lowering : Lowering)

/-- Two semicolons in words of their own leave one behind. -/
theorem semicolons_stay (statement : List Char) :
    normalizeSqlStatement lowering (statement ++ ['\n', ';', ' ', ';']) ≠
      normalizeSqlStatement lowering statement := by
  have stripped : withoutSqlComments (statement ++ ['\n', ';', ' ', ';']) =
      withoutSqlComments statement ++ ['\n', ';', ' ', ';'] := by
    rw [withoutSqlComments, stripBlocks_append (by decide) (by decide),
      stripLines_append (by decide) (by decide)]
    rfl
  have found : words Ecma.isSpace (withoutSqlComments statement ++ ['\n', ';', ' ', ';']) =
      words Ecma.isSpace (withoutSqlComments statement) ++ [[';']] ++ [[';']] := by
    have line : Ecma.isSpace '\n' = true := by decide
    have blank : Ecma.isSpace ' ' = true := by decide
    have rest : words Ecma.isSpace [';', ' ', ';'] = [[';']] ++ [[';']] := by decide
    rw [words_append line, rest, List.append_assoc]
  have longer : weight lowering.size (jsWords statement) <
      weight lowering.size (jsWords (statement ++ ['\n', ';', ' ', ';'])) := by
    have kept : (' ' == ';') = false := by decide
    have last : [';'].rdropWhile (· == ';') = [] := by decide
    have shorter : weight lowering.size (jsWords statement) ≤
        weight lowering.size (join ' ' (words Ecma.isSpace (withoutSqlComments statement))) :=
      weight_sublist (List.rdropWhile_prefix _ _).sublist
    have joined := (@join_weight _ ' ' _ lowering.size_pos _ _
      (List.sublist_append_left (words Ecma.isSpace (withoutSqlComments statement)) [[';']])).1
    have heavy := lowering.size_pos ' '
    have extended : jsWords (statement ++ ['\n', ';', ' ', ';']) =
        join ' ' (words Ecma.isSpace (withoutSqlComments statement) ++ [[';']]) ++ [' '] := by
      rw [jsWords, stripped, found, join_concat (by simp), @rdropWhile_kept _ ' ' (· == ';') kept,
        last]
    rw [extended, weight_append, weight_cons]
    omega
  intro same
  have lengths := congrArg List.length same
  rw [normalizeSqlStatement_eq, normalizeSqlStatement_eq, lowering.lower_length,
    lowering.lower_length] at lengths
  omega

/-- A space at the end of an open literal is removed. -/
theorem space_removed (statement : List Char) :
    normalizeSqlStatement lowering (statement ++ [' ']) =
      normalizeSqlStatement lowering statement := by
  have blank : Ecma.isSpace ' ' = true := by decide
  have same : words Ecma.isSpace (withoutSqlComments (statement ++ [' '])) =
      words Ecma.isSpace (withoutSqlComments statement) := by
    rw [withoutSqlComments, stripBlocks_append (by decide) (by decide)]
    rcases @stripLines_space (fun char => char == '\r' || char == '\n') (by decide) false
      (stripBlocks none statement) with kept | gone
    · rw [kept, words_append blank, words_nil, List.append_nil]
      rfl
    · rw [gone]
      rfl
  rw [normalizeSqlStatement_eq, normalizeSqlStatement_eq, jsWords, jsWords, same]

theorem modeAfter_append (before after : List Char) :
    modeAfter (before ++ after) = after.foldl (fun mode char => (step mode char).2)
      (modeAfter before) := by
  rw [modeAfter, List.foldl_append]
  rfl

/-- A space does not end a literal. -/
theorem literal_goesOn {statement : List Char} (inside : (modeAfter statement).inLiteral = true) :
    (modeAfter (statement ++ [' '])).inLiteral = true := by
  rw [modeAfter_append, List.foldl_cons, List.foldl_nil]
  cases mode : modeAfter statement with
  | literal escapes => cases escapes <;> rfl
  | escaped => rfl
  | quoted text => rfl
  | body tag seen => rfl
  | _ =>
      rw [mode] at inside
      cases inside

/-- The normal form follows the lexical rules for no statement at all. -/
theorem never_normalizes (statement : List Char) : ¬ NormalizesWell lowering statement := by
  intro well
  cases inside : (modeAfter statement).inLiteral with
  | false =>
      apply semicolons_stay lowering statement
      refine well.extended _ ⟨_, rfl, inside, ?_⟩
      have each : ['\n', ';', ' ', ';'].all (fun char => char == ';' || isBlank char) = true := by
        decide
      intro char present
      simpa using List.all_eq_true.mp each char present
  | true =>
      apply well.literals (statement ++ [' ']) _ (space_removed lowering statement)
      refine ⟨statement, [], [' '], [], by simp, by simp, by simp, ?_, ?_⟩
      · intro part begins
        rw [List.prefix_nil.mp begins, List.append_nil]
        exact inside
      · intro part begins
        rcases List.prefix_cons_iff.mp begins with rfl | ⟨rest, rfl, later⟩
        · rw [List.append_nil]
          exact inside
        · rw [List.prefix_nil.mp later]
          exact literal_goesOn inside

/-- A semicolon behind a space leaves the space, and literals lose their spaces. -/
theorem separate_semicolon :
    normalizeSqlStatement .sample (normalizeSqlStatement .sample "a ;".toList) ≠
        normalizeSqlStatement .sample "a ;".toList ∧
      normalizeSqlStatement .sample "select 'x  y'".toList =
        normalizeSqlStatement .sample "select 'x y'".toList := by
  decide

end Failures

end LineageGuard.Datahub
