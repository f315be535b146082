import LineageGuard.Library.SqlTokens
import Mathlib.Tactic

/-
This file gives the tokens of SQL together with their spelling and the texts that keep them.
-/

namespace SqlTokens

section Lexemes

/-- A token stands with the characters from which it was read. -/
abbrev Lexeme : Type := Token × List Char

/-- The lexer keeps the characters of the token in which it stands, from their end. -/
structure Lexing where
  mode : Mode
  raw : List Char

def Mode.isOutside (mode : Mode) : Bool := mode == .between || mode.inComment

/-- The token ends with the character that is read in these modes, else in front of it. -/
def Mode.closes : Mode → Bool
  | .between | .body _ _ => true
  | _ => false

/-- A character that is no token of its own opens the next one. -/
def Lexing.opened (mode : Mode) (char : Char) : Lexing :=
  ⟨mode, if mode.isOutside then [] else [char]⟩

def Lexing.step (state : Lexing) (char : Char) : List Lexeme × Lexing :=
  let (tokens, mode) := SqlTokens.step state.mode char
  match tokens with
  | [] => ([], ⟨mode, if mode.isOutside then [] else char :: state.raw⟩)
  | [token] =>
      if state.mode.closes then ([(token, (char :: state.raw).reverse)], ⟨mode, []⟩)
      else ([(token, state.raw.reverse)], .opened mode char)
  | first :: second :: _ => ([(first, state.raw.reverse), (second, [char])], ⟨mode, []⟩)

def Lexing.finish (state : Lexing) : List Lexeme :=
  (SqlTokens.finish state.mode).map fun token => (token, state.raw.reverse)

def lexemesFrom : Lexing → List Char → List Lexeme
  | state, [] => state.finish
  | state, char :: rest => (state.step char).1 ++ lexemesFrom (state.step char).2 rest

/-- These are the tokens of a text with their spelling. -/
def lexemes (text : List Char) : List Lexeme := lexemesFrom ⟨.between, []⟩ text

/-- The case of an unquoted word does not count, and every other token counts as it is spelled. -/
def Lexeme.meaning : Lexeme → Lexeme
  | (.word text, _) => (.word text, [])
  | (token, raw) => (token, raw)

/-- Two texts with the same meaning have the same tokens. -/
def meaning (text : List Char) : List Lexeme := (lexemes text).map Lexeme.meaning

end Lexemes

section Steps

def Token.isWord : Token → Bool
  | .word _ => true
  | _ => false

/-- The mode is that of a longer token than a word or a single character. -/
def Mode.inToken : Mode → Bool
  | .number | .literal _ | .escaped | .literalEnd _ | .quoted _ | .quotedEnd _ | .tag _
    | .body _ _ => true
  | _ => false

/-- These are the ways in which a character opens a token. -/
inductive Starts (char : Char) : List Token → Mode → Prop
  | blank (isSpace : isBlank char = true) : Starts char [] .between
  | symbol : Starts char [.symbol char] .between
  | word : Starts char [] (.word [fold char])
  | dash (same : char = '-') : Starts char [] .dash
  | slash (same : char = '/') : Starts char [] .slash
  | opened {mode : Mode} (inside : mode.inToken = true) : Starts char [] mode

theorem start_starts (char : Char) : Starts char (start char).1 (start char).2 := by
  unfold start
  split_ifs with isSpace isWord isDigit quote doubled dollar isDash isSlash
  · exact .blank isSpace
  · exact .word
  · exact .opened rfl
  · exact .opened rfl
  · exact .opened rfl
  · exact .opened rfl
  · exact .dash isDash
  · exact .slash isSlash
  · exact .symbol

/-- These are the ways in which the lexer goes over a character outside of comments. -/
inductive Moves (char : Char) : Mode → List Token → Mode → Prop
  | starts {tokens : List Token} {next : Mode} (starts : Starts char tokens next) :
      Moves char .between tokens next
  | letter (text : List Char) : Moves char (.word text) [] (.word (fold char :: text))
  | grows {mode next : Mode} (inside : next.inToken = true) (filled : mode.isOutside = false) :
      Moves char mode [] next
  | lineComment (same : char = '-') : Moves char .dash [] .lineComment
  | blockComment (same : char = '*') : Moves char .slash [] (.blockComment 0 ' ')
  | closes (tag seen : List Char) : Moves char (.body tag seen) [.literal] .between
  | spoken (text : List Char) {tokens : List Token} {next : Mode}
      (starts : Starts char tokens next) :
      Moves char (.word text) (.word text.reverse :: tokens) next
  | ends {mode next : Mode} {token : Token} {tokens : List Token} (filled : mode.isOutside = false)
      (stays : mode.closes = false) (other : token.isWord = false)
      (starts : Starts char tokens next) : Moves char mode (token :: tokens) next

theorem step_moves {mode : Mode} (char : Char) (code : mode.inComment = false) :
    Moves char mode (step mode char).1 (step mode char).2 := by
  cases mode with
  | between => exact .starts (start_starts char)
  | word text =>
      unfold step
      dsimp only
      split_ifs
      · exact .letter text
      · split
        · exact .grows rfl rfl
        · exact .spoken text (start_starts _)
  | number | literalEnd | quotedEnd =>
      rw [step]
      split_ifs
      · exact .grows rfl rfl
      · exact .ends rfl rfl rfl (start_starts char)
  | dash =>
      rw [step]
      split_ifs with same
      · exact .lineComment same
      · exact .ends rfl rfl rfl (start_starts char)
  | slash =>
      rw [step]
      split_ifs with same
      · exact .blockComment same
      · exact .ends rfl rfl rfl (start_starts char)
  | lineComment | blockComment => cases code
  | escaped => exact .grows rfl rfl
  | literal | quoted =>
      rw [step]
      split_ifs <;> exact .grows rfl rfl
  | tag text =>
      rw [step]
      split_ifs
      · exact .grows rfl rfl
      · exact .grows rfl rfl
      · exact .ends rfl rfl rfl (start_starts char)
  | body tag seen =>
      rw [step]
      split_ifs
      · exact .closes tag seen
      · exact .grows rfl rfl

end Steps

section Spelling

theorem start_cases (char : Char) :
    (∃ mode, start char = ([], mode)) ∨ start char = ([.symbol char], .between) := by
  rw [start]
  split_ifs <;> first | exact Or.inl ⟨_, rfl⟩ | exact Or.inr rfl

/-- The lexer gives no token, one or two. -/
theorem step_cases (mode : Mode) (char : Char) :
    (∃ next, step mode char = ([], next)) ∨
      (∃ token next, step mode char = ([token], next)) ∨
        ∃ first second next, step mode char = ([first, second], next) := by
  have later : ∀ token, (∃ next, after token char = ([], next)) ∨
      (∃ found next, after token char = ([found], next)) ∨
        ∃ first second next, after token char = ([first, second], next) := by
    intro token
    rcases start_cases char with ⟨next, opens⟩ | single
    · exact Or.inr (Or.inl ⟨token, next, by rw [after, opens]⟩)
    · exact Or.inr (Or.inr ⟨token, _, _, by rw [after, single]⟩)
  have quiet : ∀ next : Mode, (∃ found, (([] : List Token), next) = ([], found)) ∨
      (∃ token found, (([] : List Token), next) = ([token], found)) ∨
        ∃ first second found, (([] : List Token), next) = ([first, second], found) :=
    fun next => Or.inl ⟨next, rfl⟩
  cases mode with
  | between =>
      rcases start_cases char with ⟨next, opens⟩ | single
      · exact Or.inl ⟨next, opens⟩
      · exact Or.inr (Or.inl ⟨_, _, single⟩)
  | word text =>
      unfold step
      dsimp only
      split_ifs
      · exact quiet _
      · split
        · exact quiet _
        · exact later _
  | number | dash | slash | literalEnd | quotedEnd =>
      rw [step]
      split_ifs
      · exact quiet _
      · exact later _
  | lineComment | blockComment | literal | escaped | quoted => exact quiet _
  | tag text =>
      rw [step]
      split_ifs
      · exact quiet _
      · exact quiet _
      · exact later _
  | body tag seen =>
      rw [step]
      split_ifs
      · exact Or.inr (Or.inl ⟨_, _, rfl⟩)
      · exact quiet _

/-- The spelling of a token ends with the character that is read or in front of it. -/
theorem step_within {state : Lexing} {char : Char} {lexeme : Lexeme}
    (present : lexeme ∈ (state.step char).1) : lexeme.2 <:+: state.raw.reverse ++ [char] := by
  have before : state.raw.reverse <:+: state.raw.reverse ++ [char] :=
    (List.prefix_append _ _).isInfix
  have moved : (char :: state.raw).reverse = state.raw.reverse ++ [char] := List.reverse_cons
  rcases step_cases state.mode char with ⟨next, quiet⟩ | ⟨token, next, one⟩ |
    ⟨first, second, next, two⟩
  · rw [Lexing.step, quiet] at present
    cases present
  · rw [Lexing.step, one] at present
    simp only at present
    split_ifs at present
    · rw [List.mem_singleton.mp present, moved]
    · rw [List.mem_singleton.mp present]
      exact before
  · rw [Lexing.step, two] at present
    rcases List.mem_pair.mp present with rfl | rfl
    · exact before
    · exact (List.suffix_append _ _).isInfix

/-- The lexer keeps an end of what it has read. -/
theorem step_suffix (state : Lexing) (char : Char) :
    (state.step char).2.raw.reverse <:+ state.raw.reverse ++ [char] := by
  have moved : (char :: state.raw).reverse = state.raw.reverse ++ [char] := List.reverse_cons
  have none : [] <:+ state.raw.reverse ++ [char] := List.nil_suffix
  have alone : [char] <:+ state.raw.reverse ++ [char] := List.suffix_append _ _
  rcases step_cases state.mode char with ⟨next, quiet⟩ | ⟨token, next, one⟩ |
    ⟨first, second, next, two⟩
  · rw [Lexing.step, quiet]
    simp only
    split_ifs
    · exact none
    · rw [moved]
  · rw [Lexing.step, one]
    simp only
    split_ifs
    · exact none
    · simp only [Lexing.opened]
      split_ifs
      · exact none
      · exact alone
  · rw [Lexing.step, two]
    exact none

theorem step_left (state : Lexing) (char : Char) (rest : List Char) :
    (state.step char).2.raw.reverse ++ rest <:+ state.raw.reverse ++ char :: rest := by
  obtain ⟨before, whole⟩ := step_suffix state char
  refine ⟨before, ?_⟩
  rw [← List.append_assoc, whole, List.append_assoc]
  rfl

/-- The spelling of a token stands in the text. -/
theorem lexemesFrom_within {state : Lexing} {text : List Char} {lexeme : Lexeme}
    (present : lexeme ∈ lexemesFrom state text) :
    lexeme.2 <:+: state.raw.reverse ++ text := by
  induction text generalizing state with
  | nil =>
      obtain ⟨token, _, rfl⟩ := List.mem_map.mp present
      rw [List.append_nil]
  | cons char rest ih =>
      rw [lexemesFrom, List.mem_append] at present
      rcases present with here | later
      · have within : state.raw.reverse ++ [char] <+: state.raw.reverse ++ char :: rest :=
          ⟨rest, by rw [List.append_assoc]; rfl⟩
        exact (step_within here).trans within.isInfix
      · exact (ih later).trans (step_left state char rest).isInfix

end Spelling

section Soundness

/-- The text of a word is its spelling in lower case. -/
def Lexeme.Spelled : Lexeme → Prop
  | (.word text, raw) => text = raw.map fold
  | _ => True

/-- What the lexer keeps agrees with its mode. -/
def Lexing.Sound (state : Lexing) : Prop :=
  match state.mode with
  | .between => state.raw = []
  | .word text => text = state.raw.map fold
  | .dash => state.raw = ['-']
  | .slash => state.raw = ['/']
  | .lineComment | .blockComment _ _ => False
  | _ => True

theorem sound_inToken {mode : Mode} (inside : mode.inToken = true) (raw : List Char) :
    Lexing.Sound ⟨mode, raw⟩ := by
  cases mode <;> first | exact trivial | cases inside

theorem inToken_outside {mode : Mode} (inside : mode.inToken = true) : mode.isOutside = false := by
  cases mode <;> first | rfl | cases inside

theorem sound_code {state : Lexing} (sound : state.Sound) : state.mode.inComment = false := by
  obtain ⟨mode, raw⟩ := state
  cases mode <;> first | rfl | exact sound.elim

theorem spelled_other {token : Token} (other : token.isWord = false) (raw : List Char) :
    Lexeme.Spelled (token, raw) := by
  cases token <;> first | exact trivial | cases other

/-- A character that opens a token is kept, and one that is a token stands alone. -/
theorem opened_sound {char : Char} {next : Mode} {tokens : List Token}
    (starts : Starts char tokens next) :
    Lexing.Sound (.opened next char) ∧
      (tokens = [] → isBlank char = false → char ∈ (Lexing.opened next char).raw) := by
  cases starts with
  | blank isSpace => exact ⟨rfl, fun _ filled => absurd (isSpace.symm.trans filled) (by decide)⟩
  | symbol => exact ⟨rfl, fun none => by cases none⟩
  | word => exact ⟨rfl, fun _ _ => List.mem_cons_self⟩
  | dash same => exact ⟨by rw [same]; rfl, fun _ _ => List.mem_cons_self⟩
  | slash same => exact ⟨by rw [same]; rfl, fun _ _ => List.mem_cons_self⟩
  | opened inside =>
      rw [Lexing.opened, inToken_outside inside]
      exact ⟨sound_inToken inside _, fun _ _ => List.mem_cons_self⟩

/-- No character is lost when the lexer goes on. -/
structure Carried (state : Lexing) (char : Char) : Prop where
  sound : (state.step char).2.Sound
  spelled : ∀ lexeme ∈ (state.step char).1, lexeme.Spelled
  kept : ∀ found ∈ char :: state.raw, isBlank found = false →
    found ∈ (state.step char).2.raw ∨ ∃ lexeme ∈ (state.step char).1, found ∈ lexeme.2

/-- The token in which the lexer stood is given, and the character opens the next one. -/
theorem carried_after {mode next : Mode} {raw : List Char} {char : Char} {token : Token}
    {tokens : List Token} (stays : mode.closes = false) (starts : Starts char tokens next)
    (spelled : Lexeme.Spelled (token, raw.reverse))
    (moved : SqlTokens.step mode char = (token :: tokens, next)) : Carried ⟨mode, raw⟩ char := by
  obtain ⟨sound, kept⟩ := opened_sound starts
  have old : ∀ found ∈ raw, found ∈ raw.reverse := fun found => List.mem_reverse.mpr
  cases tokens with
  | nil =>
      have read : Lexing.step ⟨mode, raw⟩ char = ([(token, raw.reverse)], .opened next char) := by
        rw [Lexing.step, moved]
        simp only
        rw [if_neg (by rw [stays]; decide)]
      constructor
      · rw [read]
        exact sound
      · rw [read]
        intro lexeme present
        rw [List.mem_singleton.mp present]
        exact spelled
      · rw [read]
        intro found present filled
        rcases List.mem_cons.mp present with rfl | before
        · exact Or.inl (kept rfl filled)
        · exact Or.inr ⟨_, List.mem_singleton_self _, old found before⟩
  | cons second others =>
      cases starts
      have read : Lexing.step ⟨mode, raw⟩ char =
          ([(token, raw.reverse), (.symbol char, [char])], ⟨.between, []⟩) := by
        rw [Lexing.step, moved]
      constructor
      · rw [read]
        exact rfl
      · rw [read]
        intro lexeme present
        rcases List.mem_pair.mp present with rfl | rfl
        · exact spelled
        · exact trivial
      · rw [read]
        intro found present filled
        rcases List.mem_cons.mp present with rfl | before
        · exact Or.inr ⟨_, List.mem_pair.mpr (Or.inr rfl), List.mem_singleton_self _⟩
        · exact Or.inr ⟨_, List.mem_pair.mpr (Or.inl rfl), old found before⟩

/-- The character is added to those that the lexer keeps. -/
theorem carried_grow {mode next : Mode} {raw : List Char} {char : Char}
    (inside : next.isOutside = false) (sound : Lexing.Sound ⟨next, char :: raw⟩)
    (moved : SqlTokens.step mode char = ([], next)) : Carried ⟨mode, raw⟩ char := by
  have read : Lexing.step ⟨mode, raw⟩ char = ([], ⟨next, char :: raw⟩) := by
    rw [Lexing.step, moved]
    simp only
    rw [inside]
    rfl
  constructor
  · rw [read]
    exact sound
  · rw [read]
    intro lexeme present
    cases present
  · rw [read]
    intro found present filled
    exact Or.inl present

/-- The character closes its token. -/
theorem carried_close {mode : Mode} {raw : List Char} {char : Char} {token : Token}
    (closes : mode.closes = true) (other : token.isWord = false)
    (moved : SqlTokens.step mode char = ([token], .between)) : Carried ⟨mode, raw⟩ char := by
  have read : Lexing.step ⟨mode, raw⟩ char =
      ([(token, (char :: raw).reverse)], ⟨.between, []⟩) := by
    rw [Lexing.step, moved]
    simp only
    rw [if_pos closes]
  constructor
  · rw [read]
    exact rfl
  · rw [read]
    intro lexeme present
    rw [List.mem_singleton.mp present]
    exact spelled_other other _
  · rw [read]
    intro found present filled
    exact Or.inr ⟨_, List.mem_singleton_self _, List.mem_reverse.mpr present⟩

theorem carried_start {char : Char} {next : Mode} {tokens : List Token}
    (starts : Starts char tokens next) (moved : SqlTokens.step .between char = (tokens, next)) :
    Carried ⟨.between, []⟩ char := by
  cases starts with
  | blank isSpace =>
      have read : Lexing.step ⟨.between, []⟩ char = ([], ⟨.between, []⟩) := by
        rw [Lexing.step, moved]
        rfl
      constructor
      · rw [read]
        exact rfl
      · rw [read]
        intro lexeme present
        cases present
      · intro found present filled
        rw [List.mem_singleton.mp present, isSpace] at filled
        cases filled
  | symbol => exact carried_close rfl rfl moved
  | word =>
      refine carried_grow rfl ?_ moved
      exact rfl
  | dash same => exact carried_grow rfl (by rw [same]; rfl) moved
  | slash same => exact carried_grow rfl (by rw [same]; rfl) moved
  | opened inside => exact carried_grow (inToken_outside inside) (sound_inToken inside _) moved

theorem step_carried {state : Lexing} {char : Char} (sound : state.Sound)
    (code : (SqlTokens.step state.mode char).2.inComment = false) : Carried state char := by
  have moves := step_moves char (sound_code sound)
  obtain ⟨mode, raw⟩ := state
  simp only at moves code
  generalize moved : SqlTokens.step mode char = pair at moves code
  obtain ⟨tokens, next⟩ := pair
  simp only at moves code
  cases moves with
  | starts starts =>
      have none : raw = [] := sound
      rw [none]
      exact carried_start starts moved
  | letter text =>
      refine carried_grow rfl ?_ moved
      have before : text = raw.map fold := sound
      rw [Lexing.Sound, before]
      rfl
  | grows inside filled => exact carried_grow (inToken_outside inside) (sound_inToken inside _) moved
  | lineComment same => cases code
  | blockComment same => cases code
  | closes tag seen => exact carried_close rfl rfl moved
  | spoken text starts =>
      have before : text = raw.map fold := sound
      refine carried_after rfl starts ?_ moved
      rw [Lexeme.Spelled, before, List.map_reverse]
  | ends filled stays other starts =>
      exact carried_after stays starts (spelled_other other _) moved

/-- Only two characters next to each other open a comment. -/
theorem no_comment {state : Lexing} {char : Char} {rest : List Char} (sound : state.Sound)
    (line : ¬ ['-', '-'] <:+: state.raw.reverse ++ char :: rest)
    (block : ¬ ['/', '*'] <:+: state.raw.reverse ++ char :: rest) :
    (SqlTokens.step state.mode char).2.inComment = false := by
  have moves := step_moves char (sound_code sound)
  obtain ⟨mode, raw⟩ := state
  simp only at moves line block
  generalize SqlTokens.step mode char = pair at moves
  obtain ⟨tokens, next⟩ := pair
  have code : ∀ {tokens : List Token} {next : Mode}, Starts char tokens next →
      next.inComment = false := by
    intro tokens next starts
    cases starts with
    | opened inside => cases next <;> first | rfl | cases inside
    | _ => rfl
  cases moves with
  | starts starts => exact code starts
  | spoken text starts => exact code starts
  | ends filled stays other starts => exact code starts
  | letter text => rfl
  | closes tag seen => rfl
  | grows inside filled => cases next <;> first | rfl | cases inside
  | lineComment same =>
      have before : raw = ['-'] := sound
      rw [before, same] at line
      exact absurd ⟨[], rest, rfl⟩ line
  | blockComment same =>
      have before : raw = ['/'] := sound
      rw [before, same] at block
      exact absurd ⟨[], rest, rfl⟩ block

/-- Every word of a text without comments is spelled, and every character stands in a token. -/
theorem lexemesFrom_sound {text : List Char} {state : Lexing} (sound : state.Sound)
    (line : ¬ ['-', '-'] <:+: state.raw.reverse ++ text)
    (block : ¬ ['/', '*'] <:+: state.raw.reverse ++ text) :
    (∀ lexeme ∈ lexemesFrom state text, lexeme.Spelled) ∧
      ∀ found ∈ state.raw.reverse ++ text, isBlank found = false →
        ∃ lexeme ∈ lexemesFrom state text, found ∈ lexeme.2 := by
  induction text generalizing state with
  | nil =>
      obtain ⟨mode, raw⟩ := state
      have one : ∀ token, SqlTokens.finish mode = [token] → Lexeme.Spelled (token, raw.reverse) →
          (∀ lexeme ∈ lexemesFrom ⟨mode, raw⟩ [], lexeme.Spelled) ∧
            ∀ found ∈ raw.reverse ++ [], isBlank found = false →
              ∃ lexeme ∈ lexemesFrom ⟨mode, raw⟩ [], found ∈ lexeme.2 := by
        intro token finished spelled
        have given : lexemesFrom ⟨mode, raw⟩ [] = [(token, raw.reverse)] := by
          rw [lexemesFrom, Lexing.finish, finished]
          rfl
        rw [given, List.append_nil]
        refine ⟨fun lexeme present => ?_, fun found present _ => ?_⟩
        · rw [List.mem_singleton.mp present]
          exact spelled
        · exact ⟨_, List.mem_singleton_self _, present⟩
      cases mode with
      | between =>
          have none : raw = [] := sound
          subst none
          refine ⟨fun lexeme present => ?_, fun found present _ => ?_⟩
          · cases present
          · cases present
      | word text =>
          have before : text = raw.map fold := sound
          refine one _ rfl ?_
          rw [Lexeme.Spelled, before, List.map_reverse]
      | lineComment | blockComment => exact sound.elim
      | _ => exact one _ rfl trivial
  | cons char rest ih =>
      have carried := step_carried sound (no_comment sound line block)
      have left := (step_left state char rest).isInfix
      obtain ⟨spelled, kept⟩ := ih carried.sound (fun within => line (within.trans left))
        (fun within => block (within.trans left))
      rw [lexemesFrom]
      refine ⟨fun lexeme present => ?_, fun found present filled => ?_⟩
      · rcases List.mem_append.mp present with here | later
        · exact carried.spelled lexeme here
        · exact spelled lexeme later
      · have place : found ∈ char :: state.raw ∨ found ∈ rest := by
          rw [List.mem_append, List.mem_reverse, List.mem_cons] at present
          rw [List.mem_cons]
          tauto
        rcases place with read | unread
        · rcases carried.kept found read filled with held | ⟨lexeme, here, shown⟩
          · obtain ⟨lexeme, later, shown⟩ :=
              kept found (List.mem_append_left _ (List.mem_reverse.mpr held)) filled
            exact ⟨lexeme, List.mem_append_right _ later, shown⟩
          · exact ⟨lexeme, List.mem_append_left _ here, shown⟩
        · obtain ⟨lexeme, later, shown⟩ := kept found (List.mem_append_right _ unread) filled
          exact ⟨lexeme, List.mem_append_right _ later, shown⟩

end Soundness

end SqlTokens
