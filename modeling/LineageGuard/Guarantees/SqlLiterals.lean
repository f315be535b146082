import LineageGuard.Validation.Validator
import Mathlib.Tactic

/-
This file proves which generated SQL programs have the tokens of the canonical one.
-/

namespace LineageGuard.Validation

open Words Ecma SqlTokens

section Parts

/-- These are the parts of a SQL text. -/
abbrev sqlParts (text : List Char) : List (List Char) := parts isSpace ';' ' ' text

theorem all_ofList (accepts : Char → Bool) (text : List Char) (all : text.all accepts = true) :
    (String.ofList text).toList.all accepts = true := by
  rw [String.toList_ofList]
  exact all

/-- The canonical texts are written in lower case and hold no character with another meaning. -/
def isCanonicalChar (char : Char) : Bool :=
  isAscii char && fold char == char && !(['$', '-', '/', '*', '\\', '\x00'].contains char)

def canonicalHead : GeneratedSqlProgram → List Char
  | .expandMigration => canonicalExpandMigrationHead
  | .rollback => canonicalRollbackHead

def canonicalBody : GeneratedSqlProgram → List Char
  | .expandMigration => canonicalExpandMigrationBody
  | .rollback => canonicalRollbackBody

def canonicalTail : GeneratedSqlProgram → List Char
  | .expandMigration => canonicalExpandMigrationTail
  | .rollback => canonicalRollbackTail

theorem canonicalSql_eq (program : GeneratedSqlProgram) :
    canonicalSql program =
      canonicalHead program ++ dollarQuoted (canonicalBody program) ++ canonicalTail program := by
  cases program <;> rfl

theorem canonicalHead_chars (program : GeneratedSqlProgram) :
    (canonicalHead program).all (fun char => isCanonicalChar char && isPlain char) = true := by
  cases program
  · unfold canonicalHead canonicalExpandMigrationHead
    iterate 2 rw [List.all_append]
    iterate 2 rw [Bool.and_eq_true]
    and_intros
    all_goals exact all_ofList _ _ (by decide)
  · unfold canonicalHead canonicalRollbackHead
    iterate 2 rw [List.all_append]
    iterate 2 rw [Bool.and_eq_true]
    and_intros
    all_goals exact all_ofList _ _ (by decide)

theorem canonicalBody_chars (program : GeneratedSqlProgram) :
    (canonicalBody program).all isCanonicalChar = true := by
  cases program
  · unfold canonicalBody canonicalExpandMigrationBody
    iterate 13 rw [List.all_append]
    iterate 13 rw [Bool.and_eq_true]
    and_intros
    all_goals exact all_ofList _ _ (by decide)
  · unfold canonicalBody canonicalRollbackBody
    iterate 5 rw [List.all_append]
    iterate 5 rw [Bool.and_eq_true]
    and_intros
    all_goals exact all_ofList _ _ (by decide)

theorem canonicalTail_chars (program : GeneratedSqlProgram) :
    (canonicalTail program).all (fun char => isCanonicalChar char && isPlain char) = true := by
  cases program
  · unfold canonicalTail canonicalExpandMigrationTail
    iterate 2 rw [List.all_append]
    iterate 2 rw [Bool.and_eq_true]
    and_intros
    all_goals exact all_ofList _ _ (by decide)
  · exact all_ofList _ _ (by decide)

theorem starts_ofList {char : Char} (text after : List Char) (starts : text.head? = some char) :
    ((String.ofList text).toList ++ after).head? = some char := by
  rw [String.toList_ofList, List.head?_append, starts]
  rfl

theorem ends_ofList {char : Char} (before text : List Char) (ends : text.getLast? = some char) :
    (before ++ (String.ofList text).toList).getLast? = some char := by
  rw [String.toList_ofList, List.getLast?_append, ends]
  rfl

theorem canonicalHead_ends (program : GeneratedSqlProgram) :
    (canonicalHead program).getLast? = some ' ' := by
  cases program
  · exact ends_ofList _ _ (by decide)
  · exact ends_ofList _ _ (by decide)

theorem canonicalBody_ends (program : GeneratedSqlProgram) :
    (canonicalBody program).getLast? = some ' ' := by
  cases program
  · exact ends_ofList _ _ (by decide)
  · exact ends_ofList _ _ (by decide)

theorem canonicalBody_starts (program : GeneratedSqlProgram) :
    (canonicalBody program).head? = some ' ' := by
  cases program
  · unfold canonicalBody canonicalExpandMigrationBody
    iterate 12 rw [List.append_assoc]
    exact starts_ofList _ _ (by decide)
  · unfold canonicalBody canonicalRollbackBody
    iterate 4 rw [List.append_assoc]
    exact starts_ofList _ _ (by decide)

theorem canonicalTail_starts (program : GeneratedSqlProgram) :
    (canonicalTail program).head? = some ';' := by
  cases program
  · unfold canonicalTail canonicalExpandMigrationTail
    rw [List.append_assoc]
    exact starts_ofList _ _ (by decide)
  · rfl

end Parts

section Division

/-- These characters stand in no part with another character. -/
def divides (char : Char) : Bool := isSpace char || char == ';'

def Closed (before : List Char) : Prop := before = [] ∨ ∃ char ∈ before.getLast?, divides char = true

def Opened (after : List Char) : Prop := after = [] ∨ ∃ char ∈ after.head?, divides char = true

theorem parts_semicolon (before after : List Char) :
    sqlParts (before ++ ';' :: after) = sqlParts before ++ [';'] :: sqlParts after :=
  parts_mark rfl rfl before after

theorem parts_space {run : List Char} (blank : ∀ char ∈ run, isSpace char = true)
    (filled : run ≠ []) (before after : List Char) :
    sqlParts (before ++ run ++ after) = sqlParts before ++ sqlParts after :=
  parts_run rfl blank filled before after

theorem parts_divided {char : Char} (divided : divides char = true) (before after : List Char) :
    sqlParts (before ++ char :: after) =
      sqlParts before ++ sqlParts [char] ++ sqlParts after := by
  have none : sqlParts [] = [] := rfl
  rcases (Bool.or_eq_true _ _).mp divided with space | mark
  · have run : ∀ item ∈ [char], isSpace item = true :=
      fun item among => (List.mem_singleton.mp among) ▸ space
    have filled : [char] ≠ [] := List.cons_ne_nil char []
    have single : sqlParts [char] = [] := by
      exact parts_space run filled [] []
    have apart := parts_space run filled before after
    rw [List.append_assoc] at apart
    rw [single, List.append_nil]
    exact apart
  · rw [eq_of_beq mark, parts_semicolon, List.append_assoc]
    rfl

theorem parts_closed {before : List Char} (closed : Closed before) (rest : List Char) :
    sqlParts (before ++ rest) = sqlParts before ++ sqlParts rest := by
  rcases closed with rfl | ⟨char, last, divided⟩
  · rfl
  · obtain ⟨front, rfl⟩ := List.getLast?_eq_some_iff.mp last
    have alone := parts_divided divided front []
    have apart := parts_divided divided front rest
    rw [show sqlParts [] = [] from rfl, List.append_nil] at alone
    rw [List.append_assoc, List.singleton_append, apart, alone]

theorem parts_opened {after : List Char} (opened : Opened after) (front : List Char) :
    sqlParts (front ++ after) = sqlParts front ++ sqlParts after := by
  rcases opened with rfl | ⟨char, first, divided⟩
  · rw [List.append_nil, show sqlParts [] = [] from rfl, List.append_nil]
  · obtain ⟨rest, rfl⟩ := List.head?_eq_some_iff.mp first
    have alone := parts_divided divided [] rest
    have apart := parts_divided divided front rest
    rw [List.nil_append, show sqlParts [] = [] from rfl, List.nil_append] at alone
    rw [apart, alone, List.append_assoc]

theorem parts_alone {word : List Char} (inside : word.all (fun char => !divides char) = true)
    (filled : word ≠ []) : sqlParts word = [word] := by
  have letters : ∀ char ∈ word, isSpace char = false ∧ char ≠ ';' := by
    intro char present
    have other := List.all_eq_true.mp inside char present
    rw [Bool.not_eq_true', divides, Bool.or_eq_false_iff] at other
    exact ⟨other.1, ne_of_beq_false other.2⟩
  have plain : ';' ∉ word := fun present => (letters ';' present).2 rfl
  rw [sqlParts, parts, spread_plain plain, words_alone (fun char present => (letters char present).1)
    filled]

theorem last_word (text : List Char) : ∃ before word, text = before ++ word ∧ Closed before ∧
    word.all (fun char => !divides char) = true := by
  refine ⟨text.rdropWhile fun char => !divides char, text.rtakeWhile fun char => !divides char,
    List.rdropWhile_append_rtakeWhile.symm, ?_, ?_⟩
  · by_cases empty : text.rdropWhile (fun char => !divides char) = []
    · exact Or.inl empty
    · refine Or.inr ⟨_, List.getLast?_eq_getLast_of_ne_nil empty, ?_⟩
      have last := List.rdropWhile_last_not _ text empty
      simpa using last
  · exact List.all_eq_true.mpr fun char present => by simpa using List.mem_rtakeWhile_imp present

theorem first_word (text : List Char) : ∃ word after, text = word ++ after ∧ Opened after ∧
    word.all (fun char => !divides char) = true := by
  refine ⟨text.takeWhile fun char => !divides char, text.dropWhile fun char => !divides char,
    List.takeWhile_append_dropWhile.symm, ?_, ?_⟩
  · cases rest : text.dropWhile fun char => !divides char with
    | nil => exact Or.inl rfl
    | cons char others =>
        refine Or.inr ⟨char, rfl, ?_⟩
        have first := List.head?_dropWhile_not (fun char => !divides char) text
        rw [rest] at first
        simpa using first
  · exact List.all_eq_true.mpr fun char present => by simpa using List.mem_takeWhile_imp present

/-- The constant stands between two parts with its dollars. -/
theorem parts_around {front word body other rest : List Char} (closed : Closed front)
    (inside : word.all (fun char => !divides char) = true) (starts : body.head? = some ' ')
    (ends : body.getLast? = some ' ') (within : other.all (fun char => !divides char) = true)
    (opened : Opened rest) :
    sqlParts (front ++ word ++ dollarQuoted body ++ (other ++ rest)) =
      sqlParts front ++ (word ++ ['$', '$']) ::
        (sqlParts body ++ (['$', '$'] ++ other) :: sqlParts rest) := by
  have bodyClosed : Closed body := Or.inr ⟨' ', ends, rfl⟩
  have bodyOpened : ∀ later, Opened (body ++ later) := by
    intro later
    refine Or.inr ⟨' ', ?_, rfl⟩
    rw [List.head?_append, starts]
    rfl
  have shape : front ++ word ++ dollarQuoted body ++ (other ++ rest) =
      front ++ ((word ++ ['$', '$']) ++ (body ++ ((['$', '$'] ++ other) ++ rest))) := by
    simp [dollarQuoted]
  have left : sqlParts (word ++ ['$', '$']) = [word ++ ['$', '$']] := by
    refine parts_alone ?_ (by simp)
    rw [List.all_append, inside]
    rfl
  have right : sqlParts (['$', '$'] ++ other) = [['$', '$'] ++ other] := by
    refine parts_alone ?_ (by simp)
    rw [List.all_append, within]
    rfl
  rw [shape, parts_closed closed, parts_opened (bodyOpened _), parts_closed bodyClosed,
    parts_opened opened, left, right]
  rfl

/-- The dollars around the constant are parts of their own. -/
theorem parts_dollars {before body after : List Char} (starts : body.head? = some ' ')
    (ends : body.getLast? = some ' ')
    (dollars : ∀ part ∈ sqlParts (before ++ dollarQuoted body ++ after), '$' ∈ part →
      part = ['$', '$']) :
    Closed before ∧ Opened after ∧ sqlParts (before ++ dollarQuoted body ++ after) =
      sqlParts before ++ ['$', '$'] :: (sqlParts body ++ ['$', '$'] :: sqlParts after) := by
  obtain ⟨front, word, rfl, closed, inside⟩ := last_word before
  obtain ⟨other, rest, rfl, opened, within⟩ := first_word after
  have whole := parts_around closed inside starts ends within opened
  have first := dollars (word ++ ['$', '$']) (by rw [whole]; simp) (by simp)
  have second := dollars (['$', '$'] ++ other) (by rw [whole]; simp) (by simp)
  have none : word = [] := by simpa using first
  have nothing : other = [] := by simpa using second
  subst none nothing
  rw [whole, List.append_nil, List.nil_append, List.nil_append, List.append_nil]
  exact ⟨closed, opened, rfl⟩

end Division

section Collapsing

/-- A run of characters stands for these parts wherever it is. -/
def Separates (run : List Char) (middle : List (List Char)) : Prop :=
  ∀ before after, sqlParts (before ++ run ++ after) = sqlParts before ++ middle ++ sqlParts after

theorem separates_spaces {run : List Char} (blank : ∀ char ∈ run, isSpace char = true)
    (filled : run ≠ []) : Separates run [] := by
  intro before after
  rw [List.append_nil]
  exact parts_run rfl blank filled before after

theorem separates_optional {run : List Char} (blank : ∀ char ∈ run, isSpace char = true)
    (before after : List Char) :
    sqlParts (before ++ run ++ ';' :: after) = sqlParts (before ++ ';' :: after) ∧
      sqlParts (before ++ ';' :: (run ++ after)) = sqlParts (before ++ ';' :: after) := by
  have none : sqlParts [] = [] := rfl
  by_cases filled : run = []
  · rw [filled, List.append_nil, List.nil_append]
    exact ⟨rfl, rfl⟩
  · have around := separates_spaces blank filled
    constructor
    · have bare : sqlParts (';' :: after) = [';'] :: sqlParts after := parts_semicolon [] after
      rw [around, List.append_nil, bare, parts_semicolon]
    · have bare := around [] after
      rw [List.nil_append, none, List.nil_append, List.nil_append] at bare
      rw [parts_semicolon, parts_semicolon, bare]

theorem separates_semicolon {left right : List Char} (first : ∀ char ∈ left, isSpace char = true)
    (second : ∀ char ∈ right, isSpace char = true) :
    Separates (left ++ ';' :: right) [[';']] := by
  intro before after
  have shape : before ++ (left ++ ';' :: right) ++ after =
      before ++ left ++ ';' :: (right ++ after) := by simp
  rw [shape, (separates_optional first before (right ++ after)).1,
    (separates_optional second before after).2, parts_semicolon, List.append_assoc]
  rfl

theorem parts_replaceAll {pattern : Pattern} {replacement : List Char}
    {middle : List (List Char)} (replaced : Separates replacement middle)
    (matched : ∀ char rest after, pattern (char :: rest) = some after → after <:+ rest ∧
      ∃ run, char :: rest = run ++ after ∧ Separates run middle) (text : List Char) :
    sqlParts (replaceAll pattern replacement text) = sqlParts text := by
  have step : ∀ before, sqlParts (before ++ text) =
      sqlParts (before ++ replaceAll pattern replacement text) := by
    refine @replaceAll_induction pattern replacement
      (fun text out => ∀ before, sqlParts (before ++ text) = sqlParts (before ++ out))
      (fun _ => rfl) ?_ ?_ (fun char rest after found => (matched char rest after found).1) text
    · intro char rest out _ same before
      have moved := same (before ++ [char])
      rwa [List.append_assoc, List.append_assoc] at moved
    · intro char rest after out found _ same before
      obtain ⟨_, run, whole, separated⟩ := matched char rest after found
      have later : sqlParts after = sqlParts out := same []
      rw [whole, ← List.append_assoc, ← List.append_assoc, separated, replaced, later]
  exact (step []).symm

theorem spaces_matched {char : Char} {rest after : List Char}
    (found : spaces (char :: rest) = some after) : after <:+ rest ∧
      ∃ run, char :: rest = run ++ after ∧ Separates run [] := by
  rw [spaces, repeated] at found
  split_ifs at found with space
  obtain rfl := Option.some.inj found
  refine ⟨List.dropWhile_suffix _, char :: rest.takeWhile isSpace, ?_, ?_⟩
  · rw [List.cons_append, List.takeWhile_append_dropWhile]
  · refine separates_spaces ?_ (List.cons_ne_nil _ _)
    exact List.forall_mem_cons.mpr ⟨space, fun item present => List.mem_takeWhile_imp present⟩

theorem semicolon_matched {char : Char} {rest after : List Char}
    (found : semicolon (char :: rest) = some after) : after <:+ rest ∧
      ∃ run, char :: rest = run ++ after ∧ Separates run [[';']] := by
  have blank : ∀ text : List Char, ∀ char ∈ text.takeWhile isSpace, isSpace char = true :=
    fun text char present => List.mem_takeWhile_imp present
  rw [semicolon] at found
  split at found
  next other dropped =>
      obtain rfl := Option.some.inj found
      have whole : (char :: rest).takeWhile isSpace ++ ';' :: (other.takeWhile isSpace) ++
          other.dropWhile isSpace = char :: rest := by
        rw [List.append_assoc, List.cons_append, List.takeWhile_append_dropWhile, ← dropped,
          List.takeWhile_append_dropWhile]
      refine ⟨?_, _, whole.symm, separates_semicolon (blank _) (blank _)⟩
      have shorter : other <:+ rest := by
        cases space : isSpace char with
        | true =>
            rw [List.dropWhile_cons_of_pos space] at dropped
            have within : ';' :: other <:+ rest := dropped ▸ List.dropWhile_suffix _
            exact (List.suffix_cons _ _).trans within
        | false =>
            rw [List.dropWhile_cons_of_neg (by simp [space])] at dropped
            rw [(List.cons.inj dropped).2]
      exact (List.dropWhile_suffix _).trans shorter
  next => cases found

theorem collapsed_parts (sql : List Char) : sqlParts (collapsed sql) = sqlParts sql := by
  have trimmed : ∀ text, sqlParts (trim isSpace text) = sqlParts text := parts_trim rfl
  have one : Separates [' '] [] :=
    separates_spaces (fun char present => (List.mem_singleton.mp present) ▸ rfl)
      (List.cons_ne_nil _ _)
  have apart : Separates [';', ' '] [[';']] :=
    @separates_semicolon [] [' '] (fun _ present => absurd present List.not_mem_nil)
      (fun char present => (List.mem_singleton.mp present) ▸ rfl)
  rw [collapsed, trimmed, parts_replaceAll apart fun _ _ _ => semicolon_matched,
    parts_replaceAll one fun _ _ _ => spaces_matched, trimmed]

theorem trim_sublist (text : List Char) : (trim isSpace text).Sublist text :=
  (List.rdropWhile_prefix _ _).sublist.trans (List.dropWhile_suffix _).sublist

theorem collapsed_ascii {sql : List Char} (ascii : sql.all isAscii = true) :
    (collapsed sql).all isAscii = true := by
  have trimmed : ∀ {text : List Char}, text.all isAscii = true →
      (trim isSpace text).all isAscii = true := by
    intro text whole
    rw [List.all_eq_true] at whole ⊢
    exact fun char present => whole char ((trim_sublist text).subset present)
  exact trimmed (replaceAll_all (fun _ _ _ found => (semicolon_matched found).1) rfl
    (replaceAll_all (fun _ _ _ found => (spaces_matched found).1) rfl (trimmed ascii)))

end Collapsing

section Folding

theorem fold_space (char : Char) : isSpace (fold char) = isSpace char := by
  by_cases capital : 'A' ≤ char ∧ char ≤ 'Z'
  · obtain ⟨code, low, high, rfl⟩ : ∃ code, 65 ≤ code ∧ code ≤ 90 ∧ char = Char.ofNat code :=
      ⟨char.toNat, capital.1, capital.2, (Char.ofNat_toNat char).symm⟩
    clear capital
    interval_cases code <;> decide
  · rw [fold, if_neg capital]

/-- Only letters are changed by folding. -/
theorem fold_other {char other : Char} (noWord : startsWord other = false) :
    fold char = other ↔ char = other := by
  constructor
  · intro same
    have stays : startsWord char = false := by rw [← fold_word, same, noWord]
    rw [← same, fold_kept stays]
  · rintro rfl
    exact fold_kept noWord

theorem fold_parts (text : List Char) :
    sqlParts (text.map fold) = (sqlParts text).map (List.map fold) :=
  parts_map fold fold_space (fun _ => fold_other rfl) rfl text

theorem ascii_space {char : Char} (ascii : isAscii char = true) : isSpace char = isBlank char := by
  have small : char.toNat < 128 := of_decide_eq_true ascii
  obtain ⟨code, low, rfl⟩ : ∃ code, code < 128 ∧ char = Char.ofNat code :=
    ⟨char.toNat, small, (Char.ofNat_toNat char).symm⟩
  clear small ascii
  have table : ((List.range 128).all fun code =>
      isSpace (Char.ofNat code) == isBlank (Char.ofNat code)) = true := by decide
  exact eq_of_beq (List.all_eq_true.mp table code (List.mem_range.mpr low))

theorem plain_folded {char : Char} (plain : isPlain (fold char) = true) : isPlain char = true := by
  cases word : startsWord char with
  | true =>
      rw [isPlain, word, Bool.or_true]
      rfl
  | false => rwa [fold_kept word] at plain

/-- A text with the parts of a plain one is plain and has its tokens. -/
theorem plain_same {text canonical : List Char} (ascii : text.all isAscii = true)
    (narrow : canonical.all isAscii = true) (plain : canonical.all isPlain = true)
    (same : (sqlParts text).map (List.map fold) = sqlParts canonical) :
    text.all isPlain = true ∧ meaning text = meaning canonical := by
  have read : ∀ {text : List Char}, text.all isAscii = true → text.all isPlain = true →
      meaning text = (sqlParts text).flatMap meaning := by
    intro text ascii plain
    have blank : ∀ char ∈ text, isSpace char = isBlank char :=
      fun char present => ascii_space (List.all_eq_true.mp ascii char present)
    rw [meaning_parts plain, sqlParts, parts_congr blank rfl]
  have isPlainText : text.all isPlain = true := by
    refine List.all_eq_true.mpr fun char present => ?_
    have inAscii := List.all_eq_true.mp ascii char present
    cases space : isSpace char with
    | true =>
        rw [ascii_space inAscii] at space
        rw [isPlain, space]
        rfl
    | false =>
        obtain ⟨part, here, among⟩ := (@mem_parts _ isSpace _ ';' ' ' rfl text char).mpr
          ⟨present, space⟩
        have folded : part.map fold ∈ sqlParts canonical := same ▸ List.mem_map_of_mem here
        obtain ⟨within, _⟩ := (@mem_parts _ isSpace _ ';' ' ' rfl canonical (fold char)).mp
          ⟨_, folded, List.mem_map_of_mem among⟩
        exact plain_folded (List.all_eq_true.mp plain _ within)
  refine ⟨isPlainText, ?_⟩
  rw [read ascii isPlainText, read narrow plain, ← same, List.flatMap_map]
  refine List.flatMap_congr fun part here => (plain_fold ?_).1.symm
  refine List.all_eq_true.mpr fun char among => ?_
  obtain ⟨within, _⟩ := (@mem_parts _ isSpace _ ';' ' ' rfl text char).mp ⟨part, here, among⟩
  exact List.all_eq_true.mp isPlainText char within

end Folding

section Acceptance

variable {lowerCase : LowerCase}

theorem canonicalSqlText_ok {sql found : List Char}
    (accepted : canonicalSqlText lowerCase sql = .ok found) :
    Uncommented sql ∧ lowerCase.lower (collapsed sql) = found := by
  rw [canonicalSqlText] at accepted
  split_ifs at accepted with refused
  rw [not_or, not_or] at refused
  have grammar := refused.2.2
  simp only [isOutsideGrammar, Bool.or_eq_true, decide_eq_true_eq, not_or] at grammar
  exact ⟨⟨grammar.1.1.1, grammar.1.1.2⟩, Except.ok.inj accepted⟩

theorem accepted_same {sql : List Char} {program : GeneratedSqlProgram}
    (accepted : assertCanonicalGeneratedSql lowerCase sql program = .ok ()) :
    Uncommented sql ∧ Uncommented (canonicalSql program) ∧
      lowerCase.lower (collapsed sql) = lowerCase.lower (collapsed (canonicalSql program)) := by
  rw [assertCanonicalGeneratedSql] at accepted
  cases first : canonicalSqlText lowerCase sql with
  | error failure =>
      rw [first] at accepted
      cases accepted
  | ok found =>
      cases second : canonicalSqlText lowerCase (canonicalSql program) with
      | error failure =>
          rw [first, second] at accepted
          cases accepted
      | ok expected =>
          rw [first, second] at accepted
          obtain ⟨code, lowered⟩ := canonicalSqlText_ok first
          obtain ⟨expectedCode, expectedLowered⟩ := canonicalSqlText_ok second
          refine ⟨code, expectedCode, ?_⟩
          rw [lowered, expectedLowered]
          by_contra differ
          simp only [bind, Except.bind] at accepted
          rw [if_pos differ] at accepted
          cases accepted

theorem canonical_chars {text : List Char} (all : text.all isCanonicalChar = true) :
    text.all isAscii = true ∧ text.map fold = text ∧ '$' ∉ text := by
  rw [List.all_eq_true] at all
  have each : ∀ char ∈ text, isAscii char = true ∧ fold char = char ∧ char ≠ '$' := by
    intro char present
    have checked := all char present
    rw [isCanonicalChar, Bool.and_eq_true, Bool.and_eq_true, Bool.not_eq_true'] at checked
    refine ⟨checked.1.1, eq_of_beq checked.1.2, ?_⟩
    rintro rfl
    cases checked.2
  refine ⟨List.all_eq_true.mpr fun char present => (each char present).1, ?_, fun dollar =>
    (each '$' dollar).2.2 rfl⟩
  exact (List.map_congr_left fun char present => (each char present).2.1).trans (List.map_id text)

theorem plain_chars {text : List Char}
    (all : text.all (fun char => isCanonicalChar char && isPlain char) = true) :
    text.all isCanonicalChar = true ∧ text.all isPlain = true := by
  simp only [List.all_eq_true, Bool.and_eq_true] at all ⊢
  exact ⟨fun char present => (all char present).1, fun char present => (all char present).2⟩

theorem parts_dollarless {text : List Char} (none : '$' ∉ text) :
    ∀ part ∈ sqlParts text, '$' ∉ part := by
  intro part here dollar
  exact none (mem_parts rfl |>.mp ⟨part, here, dollar⟩).1

theorem head_closed (program : GeneratedSqlProgram) : Closed (canonicalHead program) :=
  Or.inr ⟨' ', canonicalHead_ends program, rfl⟩

/-- The canonical program consists of the parts around its constant and of those in it. -/
theorem canonical_parts (program : GeneratedSqlProgram) : sqlParts (canonicalSql program) =
    sqlParts (canonicalHead program) ++ ['$', '$'] :: (sqlParts (canonicalBody program) ++
      ['$', '$'] :: sqlParts (canonicalTail program)) := by
  have opened : Opened (canonicalTail program) := Or.inr ⟨';', canonicalTail_starts program, rfl⟩
  have whole := @parts_around _ [] _ [] _ (head_closed program) rfl (canonicalBody_starts program)
    (canonicalBody_ends program) rfl opened
  rw [List.append_nil, List.nil_append, List.nil_append, List.append_nil] at whole
  rw [canonicalSql_eq]
  exact whole

/-- A constant behind a plain text is read apart from it. -/
theorem meaning_around {before body after : List Char} (plain : before.all isPlain = true)
    (ascii : before.all isAscii = true) (closed : Closed before) (inside : '$' ∉ body) :
    meaning (before ++ dollarQuoted body ++ after) =
      meaning before ++ (.literal, dollarQuoted body) :: meaning after := by
  rw [List.append_assoc, ← meaning_dollars inside]
  rcases closed with rfl | ⟨char, last, divided⟩
  · rfl
  · obtain ⟨front, rfl⟩ := List.getLast?_eq_some_iff.mp last
    rw [List.all_append, Bool.and_eq_true] at plain ascii
    have narrow : isAscii char = true := by simpa using ascii.2
    have broken : breaks char = true ∧ (isBlank char = true ∨ isMark char = true) := by
      rcases (Bool.or_eq_true _ _).mp divided with space | mark
      · rw [ascii_space narrow] at space
        rw [breaks, space]
        exact ⟨rfl, Or.inl rfl⟩
      · rw [eq_of_beq mark]
        exact ⟨rfl, Or.inr rfl⟩
    rw [List.append_assoc, List.singleton_append, meaning_split plain.1 broken.1,
      meaning_split plain.1 broken.1]
    rcases broken.2 with blank | mark
    · rw [meaning_blank blank, meaning_blank blank, List.append_assoc]
      rfl
    · rw [meaning_mark mark, meaning_mark mark, List.append_assoc]
      rfl

theorem canonical_meaning (program : GeneratedSqlProgram) : meaning (canonicalSql program) =
    meaning (canonicalHead program) ++ (.literal, dollarQuoted (canonicalBody program)) ::
      meaning (canonicalTail program) := by
  obtain ⟨chars, plain⟩ := plain_chars (canonicalHead_chars program)
  rw [canonicalSql_eq]
  exact meaning_around plain (canonical_chars chars).1 (head_closed program)
    (canonical_chars (canonicalBody_chars program)).2.2

theorem canonical_ascii (program : GeneratedSqlProgram) :
    (canonicalSql program).all isAscii = true ∧
      (canonicalSql program).map fold = canonicalSql program := by
  have head := canonical_chars (plain_chars (canonicalHead_chars program)).1
  have body := canonical_chars (canonicalBody_chars program)
  have tail := canonical_chars (plain_chars (canonicalTail_chars program)).1
  have dollars : ['$', '$'].all isAscii = true ∧ ['$', '$'].map fold = ['$', '$'] := by decide
  rw [canonicalSql_eq, dollarQuoted]
  simp only [List.all_append, List.map_append, Bool.and_eq_true]
  rw [head.1, head.2.1, body.1, body.2.1, tail.1, tail.2.1, dollars.1, dollars.2]
  simp

/-- An accepted text has the parts of the canonical one. -/
theorem accepted_parts {sql : List Char} {program : GeneratedSqlProgram}
    (accepted : assertCanonicalGeneratedSql lowerCase sql program = .ok ())
    (ascii : sql.all isAscii = true) :
    (sqlParts sql).map (List.map fold) = sqlParts (canonicalSql program) := by
  obtain ⟨narrow, folded⟩ := canonical_ascii program
  have same := (accepted_same accepted).2.2
  rw [lowerCase.ascii _ (collapsed_ascii ascii), lowerCase.ascii _ (collapsed_ascii narrow)] at same
  calc (sqlParts sql).map (List.map fold)
      = sqlParts ((collapsed sql).map fold) := by rw [fold_parts, collapsed_parts]
    _ = sqlParts ((collapsed (canonicalSql program)).map fold) := by rw [same]
    _ = sqlParts ((canonicalSql program).map fold) := by
        rw [fold_parts, collapsed_parts, fold_parts]
    _ = sqlParts (canonicalSql program) := by rw [folded]

end Acceptance

section Preservation

variable {lowerCase : LowerCase}

/-- The texts around the same constant have the parts of the canonical ones. -/
theorem around_same {before after : List Char} {program : GeneratedSqlProgram}
    (accepted : assertCanonicalGeneratedSql lowerCase
      (before ++ dollarQuoted (canonicalBody program) ++ after) program = .ok ())
    (ascii : (before ++ dollarQuoted (canonicalBody program) ++ after).all isAscii = true) :
    Closed before ∧
      (sqlParts before).map (List.map fold) = sqlParts (canonicalHead program) ∧
        (sqlParts after).map (List.map fold) = sqlParts (canonicalTail program) := by
  have same := accepted_parts accepted ascii
  have headNone := parts_dollarless
    (canonical_chars (plain_chars (canonicalHead_chars program)).1).2.2
  have tailNone := parts_dollarless
    (canonical_chars (plain_chars (canonicalTail_chars program)).1).2.2
  obtain ⟨_, bodyFolded, inside⟩ := canonical_chars (canonicalBody_chars program)
  have bodyNone := parts_dollarless inside
  have dollar : ∀ char, fold char = '$' ↔ char = '$' := fun char => fold_other rfl
  have dollars : ∀ part ∈ sqlParts (before ++ dollarQuoted (canonicalBody program) ++ after),
      '$' ∈ part → part = ['$', '$'] := by
    intro part here among
    have folded : part.map fold ∈ sqlParts (canonicalSql program) :=
      same ▸ List.mem_map_of_mem here
    have kept : '$' ∈ part.map fold := List.mem_map.mpr ⟨'$', among, rfl⟩
    have pair : part.map fold = ['$', '$'] := by
      rw [canonical_parts, List.mem_append, List.mem_cons, List.mem_append, List.mem_cons] at folded
      rcases folded with head | here | body | here | tail
      · exact absurd kept (headNone _ head)
      · exact here
      · exact absurd kept (bodyNone _ body)
      · exact here
      · exact absurd kept (tailNone _ tail)
    have long : part.length = 2 := by
      rw [← part.length_map fold, pair]
      rfl
    obtain ⟨first, second, rfl⟩ := List.length_eq_two.mp long
    rw [List.map_cons, List.map_cons, List.cons.injEq, List.cons.injEq] at pair
    rw [(dollar first).mp pair.1, (dollar second).mp pair.2.1]
  obtain ⟨closed, _, apart⟩ := parts_dollars (canonicalBody_starts program)
    (canonicalBody_ends program) dollars
  have body : (sqlParts (canonicalBody program)).map (List.map fold) =
      sqlParts (canonicalBody program) := by rw [← fold_parts, bodyFolded]
  have pairFolded : ['$', '$'].map fold = ['$', '$'] := by decide
  rw [apart, canonical_parts, List.map_append, List.map_cons, pairFolded, List.map_append,
    List.map_cons, pairFolded, body] at same
  have none : ∀ {parts : List (List Char)}, (∀ part ∈ parts, '$' ∉ part) → ['$', '$'] ∉ parts :=
    fun free here => free _ here List.mem_cons_self
  have counted := congrArg (List.count ['$', '$']) same
  simp only [List.count_append, List.count_cons_self, List.count_eq_zero.mpr (none headNone),
    List.count_eq_zero.mpr (none bodyNone), List.count_eq_zero.mpr (none tailNone)] at counted
  have beforeNone : ['$', '$'] ∉ (sqlParts before).map (List.map fold) :=
    List.count_eq_zero.mp (by omega)
  obtain ⟨front, later⟩ := divided_once beforeNone (none headNone) same
  obtain ⟨_, back⟩ := divided_once (none bodyNone) (none bodyNone) later
  exact ⟨closed, front, back⟩

end Preservation

section Samples

theorem fold_dropWhile (text : List Char) :
    (text.map fold).dropWhile isSpace = (text.dropWhile isSpace).map fold := by
  induction text with
  | nil => rfl
  | cons char rest ih =>
      rw [List.map_cons]
      cases space : isSpace char with
      | true =>
          rw [List.dropWhile_cons_of_pos ((fold_space char).trans space),
            List.dropWhile_cons_of_pos space, ih]
      | false =>
          have folded := (fold_space char).trans space
          rw [List.dropWhile_cons_of_neg (by simp [folded]),
            List.dropWhile_cons_of_neg (by simp [space]), List.map_cons]

theorem fold_trim (text : List Char) :
    trim isSpace (text.map fold) = (trim isSpace text).map fold := by
  have back : ∀ text : List Char,
      (text.map fold).rdropWhile isSpace = (text.rdropWhile isSpace).map fold := by
    intro text
    rw [List.rdropWhile, ← List.map_reverse, fold_dropWhile, ← List.map_reverse, List.rdropWhile]
  rw [trim, fold_dropWhile, back, trim]

theorem fold_spaces (text : List Char) :
    spaces (text.map fold) = (spaces text).map (List.map fold) := by
  cases text with
  | nil => rfl
  | cons char rest =>
      rw [List.map_cons, spaces, repeated, repeated, fold_space, fold_dropWhile]
      split <;> rfl

theorem fold_semicolon (text : List Char) :
    semicolon (text.map fold) = (semicolon text).map (List.map fold) := by
  rw [semicolon, semicolon, fold_dropWhile]
  cases text.dropWhile isSpace with
  | nil => rfl
  | cons char rest =>
      by_cases mark : char = ';'
      · subst mark
        exact congrArg some (fold_dropWhile rest)
      · have folded : fold char ≠ ';' := fun same => mark ((fold_other rfl).mp same)
        simp [folded, mark]

/-- White space and semicolons do not depend on the case of the letters. -/
theorem fold_collapsed (sql : List Char) :
    collapsed (sql.map fold) = (collapsed sql).map fold := by
  rw [collapsed, fold_trim,
    replaceAll_map fold fold_spaces (fun _ _ _ found => (spaces_matched found).1) rfl,
    replaceAll_map fold fold_semicolon (fun _ _ _ found => (semicolon_matched found).1) rfl,
    fold_trim, collapsed]

def isQuiet (char : Char) : Bool :=
  isAscii char && !(['-', '/', '*', '\\', '\x00'].contains char)

/-- A short text without these characters is within the grammar. -/
theorem quiet_text (lowerCase : LowerCase) {sql : List Char} (quiet : sql.all isQuiet = true)
    (short : sql.length ≤ 100000) :
    canonicalSqlText lowerCase sql = .ok (lowerCase.lower (collapsed sql)) := by
  have each : ∀ char ∈ sql, isAscii char = true ∧
      char ∉ ['-', '/', '*', '\\', '\x00'] := by
    intro char present
    have checked := List.all_eq_true.mp quiet char present
    rw [isQuiet, Bool.and_eq_true, Bool.not_eq_true', List.contains_eq_mem,
      decide_eq_false_iff_not] at checked
    exact checked
  have absent : ∀ char ∈ ['-', '/', '*', '\\', '\x00'], char ∉ sql :=
    fun char listed present => (each char present).2 listed
  have size : byteLength sql = sql.length := by
    have one : ∀ char ∈ sql, char.utf8Size = 1 := fun char present =>
      Char.utf8Size_eq_one_iff.mpr (Nat.le_of_lt_succ (of_decide_eq_true (each char present).1))
    rw [byteLength, List.map_congr_left one]
    simp
  have noCommand : ∀ starts, hasCommand starts sql = false := by
    have free : '\\' ∉ sql := absent _ (by decide)
    clear quiet short each absent size
    induction sql with
    | nil => exact fun _ => rfl
    | cons char rest ih =>
        intro starts
        rw [List.mem_cons, not_or] at free
        have other : ((char :: rest).dropWhile isSpace).head? ≠ some '\\' := by
          intro first
          have present := (List.dropWhile_suffix isSpace).subset (List.mem_of_head? first)
          exact absurd (List.mem_cons.mp present) (not_or.mpr free)
        rw [hasCommand, ih free.2, beq_false_of_ne other, Bool.and_false]
        rfl
  have pair : ∀ first second, first ∈ ['-', '/', '*', '\\', '\x00'] →
      ¬ [first, second] <:+: sql :=
    fun first second listed within => absent first listed (within.subset List.mem_cons_self)
  have inside : isOutsideGrammar sql = false := by
    rw [isOutsideGrammar, noCommand, decide_eq_false (pair _ _ (by decide)),
      decide_eq_false (pair _ _ (by decide)), decide_eq_false (pair _ _ (by decide))]
    rfl
  have noNull : sql.contains '\x00' = false := by
    rw [List.contains_eq_mem, decide_eq_false (absent _ (by decide))]
  rw [canonicalSqlText, if_neg]
  rw [size, inside, noNull]
  simpa using short

/-- A text that differs in case only is accepted. -/
theorem folded_accepted (lowerCase : LowerCase) {sql : List Char} {program : GeneratedSqlProgram}
    (quiet : sql.all isQuiet = true) (short : sql.length ≤ 100000)
    (same : sql.map fold = canonicalSql program) :
    assertCanonicalGeneratedSql lowerCase sql program = .ok () := by
  obtain ⟨narrow, folded⟩ := canonical_ascii program
  have ascii : sql.all isAscii = true := by
    rw [List.all_eq_true] at quiet ⊢
    intro char present
    have checked := quiet char present
    rw [isQuiet, Bool.and_eq_true] at checked
    exact checked.1
  have canonicalQuiet : (canonicalSql program).all isQuiet = true := by
    rw [← same, List.all_map]
    rw [List.all_eq_true] at quiet ⊢
    intro char present
    cases word : startsWord char with
    | true =>
        have letter : startsWord (fold char) = true := (fold_word char).trans word
        have listed : fold char ∉ ['-', '/', '*', '\\', '\x00'] := by
          intro among
          have table : ['-', '/', '*', '\\', '\x00'].all (fun other => !startsWord other) = true :=
            rfl
          have other := List.all_eq_true.mp table _ among
          rw [letter] at other
          cases other
        rw [Function.comp_apply, isQuiet, fold_ascii, List.all_eq_true.mp ascii char present,
          List.contains_eq_mem, decide_eq_false listed]
        rfl
    | false =>
        rw [Function.comp_apply, fold_kept word]
        exact quiet char present
  have canonicalShort : (canonicalSql program).length ≤ 100000 := by
    rw [← same, List.length_map]
    exact short
  have lowered : lowerCase.lower (collapsed sql) =
      lowerCase.lower (collapsed (canonicalSql program)) := by
    rw [lowerCase.ascii _ (collapsed_ascii ascii), lowerCase.ascii _ (collapsed_ascii narrow),
      ← fold_collapsed, ← fold_collapsed, same, folded]
  rw [assertCanonicalGeneratedSql, quiet_text lowerCase quiet short,
    quiet_text lowerCase canonicalQuiet canonicalShort, lowered]
  simp only [bind, Except.bind, ne_eq, not_true_eq_false, if_false]
  rfl

/-- This stands for `toLowerCase` on texts that are written in ASCII. -/
def LowerCase.sample : LowerCase where
  lower := List.map fold
  ascii := fun _ _ => rfl

/-- The names that the rollback program looks up are written in upper case in its constant. -/
def shoutedRollback : List Char :=
  canonicalRollbackHead ++ dollarQuoted (canonicalRollbackBody.map Char.toUpper) ++
    canonicalRollbackTail

theorem mem_ofList {char : Char} (text : List Char) (present : text.contains char = true) :
    char ∈ (String.ofList text).toList := by
  rw [String.toList_ofList]
  exact List.contains_iff_mem.mp present

theorem short_first (text : List Char) (piece : text.length ≤ 90) :
    (String.ofList text).toList.length ≤ 90 := by
  rw [String.toList_ofList]
  exact piece

theorem short_ofList (before text : List Char) {size : ℕ} (short : before.length ≤ size)
    (piece : text.length ≤ 90) : (before ++ (String.ofList text).toList).length ≤ size + 90 := by
  rw [String.toList_ofList, List.length_append]
  exact Nat.add_le_add short piece

theorem rollback_length : canonicalRollbackHead.length ≤ 270 ∧ canonicalRollbackBody.length ≤ 540 ∧
    canonicalRollbackTail.length ≤ 90 := by
  refine ⟨?_, ?_, ?_⟩
  · refine short_ofList _ _ (short_ofList _ _ (short_first _ ?_) ?_) ?_
    all_goals decide
  · refine short_ofList _ _ (short_ofList _ _ (short_ofList _ _ (short_ofList _ _ (short_ofList _ _
      (short_first _ ?_) ?_) ?_) ?_) ?_) ?_
    all_goals decide
  · refine short_first _ ?_
    decide

theorem rollbackBody_upper : canonicalRollbackBody.all
    (fun char => isQuiet char.toUpper && fold char.toUpper == char && char.toUpper != '$') = true := by
  unfold canonicalRollbackBody
  iterate 5 rw [List.all_append]
  iterate 5 rw [Bool.and_eq_true]
  and_intros
  all_goals exact all_ofList _ _ (by decide)

theorem quiet_canonical {text : List Char} (chars : text.all isCanonicalChar = true) :
    text.all isQuiet = true := by
  rw [List.all_eq_true] at chars ⊢
  intro char present
  have checked := chars char present
  rw [isCanonicalChar, Bool.and_eq_true, Bool.and_eq_true, Bool.not_eq_true',
    List.contains_eq_mem, decide_eq_false_iff_not] at checked
  have other : char ∉ ['-', '/', '*', '\\', '\x00'] :=
    fun among => checked.2 (List.mem_cons_of_mem '$' among)
  rw [isQuiet, checked.1.1, List.contains_eq_mem, decide_eq_false other]
  rfl

theorem upper_each {char : Char} (present : char ∈ canonicalRollbackBody) :
    isQuiet char.toUpper = true ∧ fold char.toUpper = char ∧ char.toUpper ≠ '$' := by
  have checked := List.all_eq_true.mp rollbackBody_upper char present
  rw [Bool.and_eq_true, Bool.and_eq_true, bne_iff_ne, beq_iff_eq] at checked
  exact ⟨checked.1.1, checked.1.2, checked.2⟩

theorem upper_dollarless : '$' ∉ canonicalRollbackBody.map Char.toUpper := by
  intro dollar
  obtain ⟨char, present, same⟩ := List.mem_map.mp dollar
  exact (upper_each present).2.2 same

theorem shouted_quiet (body : List Char) (quiet : body.all isQuiet = true) :
    (canonicalRollbackHead ++ dollarQuoted body ++ canonicalRollbackTail).all isQuiet = true := by
  have head := quiet_canonical (plain_chars (canonicalHead_chars .rollback)).1
  have tail := quiet_canonical (plain_chars (canonicalTail_chars .rollback)).1
  rw [dollarQuoted, List.all_append, List.all_append, List.all_append, List.all_append, quiet]
  simp only [canonicalHead, canonicalTail] at head tail
  rw [head, tail]
  rfl

theorem shouted_short (body : List Char) (short : body.length ≤ 540) :
    (canonicalRollbackHead ++ dollarQuoted body ++ canonicalRollbackTail).length ≤ 100000 := by
  obtain ⟨head, _, tail⟩ := rollback_length
  simp only [dollarQuoted, List.length_append, List.length_cons, List.length_nil]
  omega

theorem rollback_accepted :
    assertCanonicalGeneratedSql .sample (canonicalSql .rollback) .rollback = .ok () := by
  refine folded_accepted .sample ?_ ?_ (canonical_ascii .rollback).2
  · exact shouted_quiet _ (quiet_canonical (canonicalBody_chars .rollback))
  · exact shouted_short _ rollback_length.2.1

theorem shouted_folded : shoutedRollback.map fold = canonicalSql .rollback := by
  have head := (canonical_chars (plain_chars (canonicalHead_chars .rollback)).1).2.1
  have tail := (canonical_chars (plain_chars (canonicalTail_chars .rollback)).1).2.1
  have body : (canonicalRollbackBody.map Char.toUpper).map fold = canonicalRollbackBody := by
    rw [List.map_map]
    exact (List.map_congr_left fun char present => (upper_each present).2.1).trans (List.map_id _)
  have dollars : ['$', '$'].map fold = ['$', '$'] := by decide
  simp only [canonicalHead, canonicalTail] at head tail
  rw [shoutedRollback, dollarQuoted, List.map_append, List.map_append, List.map_append,
    List.map_append, head, tail, body, dollars]
  rfl

end Samples

end LineageGuard.Validation
