import LineageGuard.Library.SqlLexemes
import LineageGuard.Library.TextParts
import Mathlib.Tactic

/-
This file gives the texts whose tokens mean the same: plain texts, constants between dollars and
the characters that every text with the same meaning shows.
-/

namespace SqlTokens

open Words

section Plain

/-- The character is a token wherever it stands. -/
def isMark (char : Char) : Bool := start char == ([.symbol char], .between)

/-- A plain text holds words, spaces and marks. -/
def isPlain (char : Char) : Bool := isBlank char || startsWord char || isMark char

def breaks (char : Char) : Bool := isBlank char || isMark char

theorem mark_start {char : Char} (mark : isMark char = true) :
    start char = ([.symbol char], .between) := eq_of_beq mark

theorem mark_apart {char : Char} (mark : isMark char = true) :
    isBlank char = false ∧ continuesWord char = false ∧ char ≠ '\x27' := by
  have opens := mark_start mark
  unfold start at opens
  split_ifs at opens with blank word digit quote doubled dollar dash slash
  · cases opens
  · cases opens
  · cases opens
  · cases opens
  · cases opens
  · cases opens
  · cases opens
  · cases opens
  · refine ⟨Bool.eq_false_iff.mpr blank, ?_, quote⟩
    rw [continuesWord, Bool.eq_false_iff.mpr word, Bool.eq_false_iff.mpr digit,
      beq_false_of_ne dollar]
    rfl

theorem blank_apart {char : Char} (blank : isBlank char = true) :
    continuesWord char = false ∧ char ≠ '\x27' := by
  have among : char ∈ [' ', '\t', '\n', '\r', '\x0b', '\x0c'] := by
    rwa [isBlank, List.contains_iff_mem] at blank
  fin_cases among <;> decide

theorem breaks_apart {char : Char} (breaks : breaks char = true) :
    continuesWord char = false ∧ char ≠ '\x27' := by
  rcases (Bool.or_eq_true _ _).mp breaks with blank | mark
  · exact blank_apart blank
  · exact (mark_apart mark).2

theorem word_continues {char : Char} (word : startsWord char = true) :
    continuesWord char = true ∧ isBlank char = false := by
  have continues : continuesWord char = true := by
    rw [continuesWord, word]
    rfl
  refine ⟨continues, Bool.eq_false_iff.mpr fun blank => ?_⟩
  rw [(blank_apart blank).1] at continues
  cases continues

theorem read_blank {char : Char} (blank : isBlank char = true) (rest : List Char) :
    lexemesFrom ⟨.between, []⟩ (char :: rest) = lexemesFrom ⟨.between, []⟩ rest := by
  have opens : start char = ([], .between) := by rw [start, if_pos blank]
  rw [lexemesFrom, Lexing.step, step, opens]
  rfl

theorem read_mark {char : Char} (mark : isMark char = true) (rest : List Char) :
    lexemesFrom ⟨.between, []⟩ (char :: rest) =
      (.symbol char, [char]) :: lexemesFrom ⟨.between, []⟩ rest := by
  rw [lexemesFrom, Lexing.step, step, mark_start mark]
  rfl

theorem read_first {char : Char} (word : startsWord char = true) (rest : List Char) :
    lexemesFrom ⟨.between, []⟩ (char :: rest) =
      lexemesFrom ⟨.word [fold char], [char]⟩ rest := by
  have opens : start char = ([], .word [fold char]) := by
    rw [start, (word_continues word).2, if_neg Bool.false_ne_true, if_pos word]
  rw [lexemesFrom, Lexing.step, step, opens]
  rfl

theorem read_letter {char : Char} (word : startsWord char = true) (text raw rest : List Char) :
    lexemesFrom ⟨.word text, raw⟩ (char :: rest) =
      lexemesFrom ⟨.word (fold char :: text), char :: raw⟩ rest := by
  have moved : step (.word text) char = ([], .word (fold char :: text)) := by
    unfold step
    dsimp only
    rw [if_pos (word_continues word).1]
  rw [lexemesFrom, Lexing.step, moved]
  rfl

theorem read_break {char : Char} (broken : breaks char = true) (text raw rest : List Char) :
    lexemesFrom ⟨.word text, raw⟩ (char :: rest) =
      (.word text.reverse, raw.reverse) :: lexemesFrom ⟨.between, []⟩ (char :: rest) := by
  obtain ⟨ends, quote⟩ := breaks_apart broken
  have moved : step (.word text) char = after (.word text.reverse) char := by
    unfold step
    dsimp only
    rw [ends, if_neg Bool.false_ne_true]
    split
    · exact absurd rfl quote
    · rfl
  rcases (Bool.or_eq_true _ _).mp broken with blank | mark
  · have opens : start char = ([], .between) := by rw [start, if_pos blank]
    rw [read_blank blank, lexemesFrom, Lexing.step, moved, after, opens]
    rfl
  · rw [read_mark mark, lexemesFrom, Lexing.step, moved, after, mark_start mark]
    rfl

/-- The lexer stands between two tokens or in a word. -/
inductive InPlain : Lexing → Prop
  | between : InPlain ⟨.between, []⟩
  | word (text raw : List Char) : InPlain ⟨.word text, raw⟩

theorem plain_cases {char : Char} (plain : isPlain char = true) :
    isBlank char = true ∨ startsWord char = true ∨ isMark char = true := by
  rw [isPlain, Bool.or_eq_true, Bool.or_eq_true] at plain
  tauto

/-- A plain text is read apart from what follows a space or a mark. -/
theorem plain_append {before : List Char} (plain : before.all isPlain = true) {state : Lexing}
    (inPlain : InPlain state) {char : Char} (broken : breaks char = true) (rest : List Char) :
    lexemesFrom state (before ++ char :: rest) =
      lexemesFrom state before ++ lexemesFrom ⟨.between, []⟩ (char :: rest) := by
  induction before generalizing state with
  | nil =>
      cases inPlain with
      | between => rfl
      | word text raw =>
          rw [List.nil_append, read_break broken]
          rfl
  | cons first before ih =>
      rw [List.all_cons, Bool.and_eq_true] at plain
      have later := fun {state} => @ih plain.2 state
      have fresh : lexemesFrom ⟨.between, []⟩ (first :: before ++ char :: rest) =
          lexemesFrom ⟨.between, []⟩ (first :: before) ++
            lexemesFrom ⟨.between, []⟩ (char :: rest) := by
        rw [List.cons_append]
        rcases plain_cases plain.1 with blank | word | mark
        · rw [read_blank blank, read_blank blank, later .between]
        · rw [read_first word, read_first word, later (.word _ _)]
        · rw [read_mark mark, read_mark mark, later .between, List.cons_append]
      cases inPlain with
      | between => exact fresh
      | word text raw =>
          cases word : startsWord first with
          | true => rw [List.cons_append, read_letter word, read_letter word, later (.word _ _)]
          | false =>
              have ends : breaks first = true := by
                have split := plain.1
                rw [isPlain, word, Bool.or_false] at split
                exact split
              rw [List.cons_append, read_break ends, read_break ends, ← List.cons_append, fresh,
                List.cons_append]

theorem fold_capital {char : Char} (first : 'A' ≤ char) (last : char ≤ 'Z') :
    startsWord char = true ∧ startsWord (fold char) = true ∧ fold (fold char) = fold char := by
  obtain ⟨code, low, high, rfl⟩ : ∃ code, 65 ≤ code ∧ code ≤ 90 ∧ char = Char.ofNat code :=
    ⟨char.toNat, first, last, (Char.ofNat_toNat char).symm⟩
  interval_cases code <;> decide

theorem fold_kept {char : Char} (other : startsWord char = false) : fold char = char := by
  rw [fold]
  split_ifs with capital
  · rw [(fold_capital capital.1 capital.2).1] at other
    cases other
  · rfl

theorem fold_word (char : Char) : startsWord (fold char) = startsWord char := by
  by_cases capital : 'A' ≤ char ∧ char ≤ 'Z'
  · obtain ⟨before, after, _⟩ := fold_capital capital.1 capital.2
    rw [before, after]
  · rw [fold, if_neg capital]

theorem fold_fold (char : Char) : fold (fold char) = fold char := by
  by_cases capital : 'A' ≤ char ∧ char ≤ 'Z'
  · exact (fold_capital capital.1 capital.2).2.2
  · have kept : fold char = char := by rw [fold, if_neg capital]
    rw [kept, kept]

/-- The case of its letters does not count in a plain text. -/
theorem plain_fold {text : List Char} (plain : text.all isPlain = true) :
    meaning (text.map fold) = meaning text ∧ ∀ word raw other,
      (lexemesFrom ⟨.word word, raw⟩ (text.map fold)).map Lexeme.meaning =
        (lexemesFrom ⟨.word word, other⟩ text).map Lexeme.meaning := by
  induction text with
  | nil => exact ⟨rfl, fun _ _ _ => rfl⟩
  | cons char rest ih =>
      rw [List.all_cons, Bool.and_eq_true] at plain
      obtain ⟨fresh, spoken⟩ := ih plain.2
      rw [List.map_cons]
      cases word : startsWord char with
      | true =>
          have folded : startsWord (fold char) = true := (fold_word char).trans word
          constructor
          · rw [meaning, lexemes, read_first folded, meaning, lexemes, read_first word, fold_fold,
              spoken]
          · intro before raw other
            rw [read_letter folded, read_letter word, fold_fold, spoken]
      | false =>
          have broken : breaks char = true := by
            have split := plain.1
            rw [isPlain, word, Bool.or_false] at split
            exact split
          have same : meaning (char :: rest.map fold) = meaning (char :: rest) := by
            rcases (Bool.or_eq_true _ _).mp broken with blank | mark
            · rw [meaning, lexemes, read_blank blank, meaning, lexemes, read_blank blank]
              exact fresh
            · rw [meaning, lexemes, read_mark mark, meaning, lexemes, read_mark mark,
                List.map_cons, List.map_cons]
              exact congrArg _ fresh
          rw [fold_kept word]
          refine ⟨same, fun before raw other => ?_⟩
          rw [read_break broken, read_break broken, List.map_cons, List.map_cons]
          exact congrArg _ same

theorem meaning_split {before : List Char} (plain : before.all isPlain = true) {char : Char}
    (broken : breaks char = true) (rest : List Char) :
    meaning (before ++ char :: rest) = meaning before ++ meaning (char :: rest) := by
  rw [meaning, lexemes, plain_append plain .between broken, List.map_append]
  rfl

theorem meaning_blank {char : Char} (blank : isBlank char = true) (rest : List Char) :
    meaning (char :: rest) = meaning rest := by
  rw [meaning, lexemes, read_blank blank]
  rfl

theorem meaning_mark {char : Char} (mark : isMark char = true) (rest : List Char) :
    meaning (char :: rest) = (.symbol char, [char]) :: meaning rest := by
  rw [meaning, lexemes, read_mark mark]
  rfl

/-- A plain text is read part by part. -/
theorem meaning_parts {text : List Char} (plain : text.all isPlain = true) :
    meaning text = (parts isBlank ';' ' ' text).flatMap meaning := by
  induction size : text.length using Nat.strong_induction_on generalizing text with
  | _ size ih =>
      have shorter : ∀ (before after : List Char) (char : Char),
          text = before ++ char :: after → meaning before =
              (parts isBlank ';' ' ' before).flatMap meaning ∧
            meaning after = (parts isBlank ';' ' ' after).flatMap meaning := by
        intro before after char whole
        rw [whole, List.all_append, List.all_cons, Bool.and_eq_true, Bool.and_eq_true] at plain
        rw [whole, List.length_append, List.length_cons] at size
        exact ⟨ih _ (by omega) plain.1 rfl, ih _ (by omega) plain.2.2 rfl⟩
      have front : ∀ (before after : List Char) (char : Char), text = before ++ char :: after →
          before.all isPlain = true := by
        intro before after char whole
        rw [whole, List.all_append, Bool.and_eq_true] at plain
        exact plain.1
      by_cases blank : ∃ char ∈ text, isBlank char = true
      · obtain ⟨char, present, isSpace⟩ := blank
        obtain ⟨before, after, whole⟩ := List.append_of_mem present
        obtain ⟨first, second⟩ := shorter before after char whole
        have broken : breaks char = true := by
          rw [breaks, isSpace]
          rfl
        have apart := @parts_run _ isBlank _ ';' ' ' rfl [char]
          (fun item among => (List.mem_singleton.mp among) ▸ isSpace) (List.cons_ne_nil char [])
          before after
        rw [List.append_assoc] at apart
        rw [whole, meaning_split (front before after char whole) broken, meaning_blank isSpace, first,
          second, ← List.flatMap_append, ← apart]
        rfl
      · by_cases marked : ';' ∈ text
        · obtain ⟨before, after, whole⟩ := List.append_of_mem marked
          obtain ⟨first, second⟩ := shorter before after ';' whole
          have mark : meaning [';'] = [(.symbol ';', [';'])] := by decide
          rw [whole, meaning_split (front before after ';' whole) rfl, meaning_mark (by decide), first,
            second, parts_mark rfl rfl, List.flatMap_append, List.flatMap_cons, mark]
          rfl
        · rw [parts, spread_plain marked]
          by_cases empty : text = []
          · rw [empty, words_nil]
            rfl
          · rw [words_alone (fun char present => Bool.eq_false_iff.mpr fun isSpace =>
              blank ⟨char, present, isSpace⟩) empty, List.flatMap_singleton]

end Plain

section Dollars

/-- A constant between two dollars on each side is spelled with them. -/
def dollarQuoted (body : List Char) : List Char := ['$', '$'] ++ body ++ ['$', '$']

theorem read_body {body : List Char} (inside : '$' ∉ body) (seen raw rest : List Char)
    (before : seen.head? ≠ some '$') :
    lexemesFrom ⟨.body [] seen, raw⟩ (body ++ '$' :: '$' :: rest) =
      (.literal, raw.reverse ++ body ++ ['$', '$']) :: lexemesFrom ⟨.between, []⟩ rest := by
  induction body generalizing seen raw with
  | nil =>
      have goesOn : step (.body [] seen) '$' = ([], .body [] ('$' :: seen)) := by
        rw [step]
        cases seen with
        | nil => rfl
        | cons last seen =>
            have other : ¬ last = '$' := fun same => before (congrArg some same)
            simp [Ne.symm other]
      have closes : step (.body [] ('$' :: seen)) '$' = ([.literal], .between) := by
        rw [step]
        rfl
      rw [List.nil_append, lexemesFrom, Lexing.step, goesOn]
      simp only [List.nil_append]
      rw [lexemesFrom, Lexing.step]
      simp only [Mode.isOutside, Mode.inComment]
      rw [closes]
      simp [Mode.closes]
  | cons char body ih =>
      rw [List.mem_cons, not_or] at inside
      have goesOn : step (.body [] seen) char = ([], .body [] (char :: seen)) := by
        rw [step, if_neg fun closing => inside.1 closing.1.symm]
      have next := ih inside.2 (char :: seen) (char :: raw)
        fun same => inside.1 (Option.some.inj same).symm
      rw [List.cons_append, lexemesFrom, Lexing.step, goesOn]
      simp only [List.nil_append]
      rw [List.reverse_cons, List.append_assoc, List.append_assoc] at next
      rw [List.append_assoc]
      exact next

theorem meaning_dollars {body : List Char} (inside : '$' ∉ body) (rest : List Char) :
    meaning (dollarQuoted body ++ rest) = (.literal, dollarQuoted body) :: meaning rest := by
  have opened : lexemes (dollarQuoted body ++ rest) =
      lexemesFrom ⟨.body [] [], ['$', '$']⟩ (body ++ '$' :: '$' :: rest) := by
    rw [dollarQuoted, List.append_assoc, List.append_assoc]
    rfl
  have nothing : ([] : List Char).head? ≠ some '$' := by decide
  rw [meaning, opened, read_body inside [] _ rest nothing]
  rfl

end Dollars

section Showing

/-- A text keeps these characters of a token. -/
def Lexeme.shown : Lexeme → List Char
  | (.word text, _) => text
  | (_, raw) => raw

theorem shown_meaning (lexeme : Lexeme) : lexeme.meaning.shown = lexeme.shown := by
  obtain ⟨token, raw⟩ := lexeme
  cases token <;> rfl

theorem meaning_literal {lexeme : Lexeme} {raw : List Char}
    (same : lexeme.meaning = (.literal, raw)) : lexeme = (.literal, raw) := by
  obtain ⟨token, spelling⟩ := lexeme
  cases token with
  | word text => cases same
  | _ => exact same

def isAscii (char : Char) : Bool := char.toNat < 128

theorem fold_ascii (char : Char) : isAscii (fold char) = isAscii char := by
  by_cases capital : 'A' ≤ char ∧ char ≤ 'Z'
  · obtain ⟨code, low, high, rfl⟩ : ∃ code, 65 ≤ code ∧ code ≤ 90 ∧ char = Char.ofNat code :=
      ⟨char.toNat, capital.1, capital.2, (Char.ofNat_toNat char).symm⟩
    clear capital
    interval_cases code <;> decide
  · rw [fold, if_neg capital]

theorem shown_ascii {lexeme : Lexeme} (spelled : lexeme.Spelled) :
    lexeme.shown.all isAscii = lexeme.2.all isAscii := by
  obtain ⟨token, raw⟩ := lexeme
  cases token with
  | word text =>
      have same : text = raw.map fold := spelled
      rw [Lexeme.shown, same, List.all_map]
      exact congrArg (raw.all ·) (funext fold_ascii)
  | _ => rfl

/-- No comment begins in the text. -/
def Uncommented (text : List Char) : Prop := ¬ ['-', '-'] <:+: text ∧ ¬ ['/', '*'] <:+: text

/-- Texts with the same meaning have the same characters outside of ASCII in their tokens. -/
theorem meaning_ascii {text : List Char} (code : Uncommented text) :
    ((meaning text).all fun lexeme => lexeme.shown.all isAscii) = text.all isAscii := by
  obtain ⟨spelled, kept⟩ := @lexemesFrom_sound text ⟨.between, []⟩ rfl code.1 code.2
  have shown : ((meaning text).all fun lexeme => lexeme.shown.all isAscii) =
      (lexemes text).all fun lexeme => lexeme.2.all isAscii := by
    rw [meaning, List.all_map, Bool.eq_iff_iff, List.all_eq_true, List.all_eq_true]
    refine forall₂_congr fun lexeme present => ?_
    rw [Function.comp_apply, shown_meaning, shown_ascii (spelled lexeme present)]
  rw [shown, Bool.eq_iff_iff, List.all_eq_true, List.all_eq_true]
  constructor
  · intro narrow char present
    cases blank : isBlank char with
    | true =>
        have among : char ∈ [' ', '\t', '\n', '\r', '\x0b', '\x0c'] := by
          rwa [isBlank, List.contains_iff_mem] at blank
        clear present blank
        fin_cases among <;> decide
    | false =>
        obtain ⟨lexeme, here, inside⟩ := kept char present blank
        exact List.all_eq_true.mp (narrow lexeme here) char inside
  · intro narrow lexeme present
    refine List.all_eq_true.mpr fun char inside => ?_
    exact narrow char ((lexemesFrom_within present).subset inside)

/-- A constant of a text stands in every text with the same meaning. -/
theorem meaning_within {text raw : List Char} (present : (.literal, raw) ∈ meaning text) :
    raw <:+: text := by
  obtain ⟨lexeme, here, same⟩ := List.mem_map.mp present
  have found := lexemesFrom_within here
  rw [meaning_literal same] at found
  exact found

end Showing

end SqlTokens
