import Mathlib.Tactic

/-
This file gives the tokens of SQL under the lexical rules of PostgreSQL and the statements that
rename a column.
-/

namespace SqlTokens

section Lexer

/-- An unquoted word is written in lower case, and a broken token is never closed. -/
inductive Token
  | word (text : List Char)
  | quoted (text : List Char)
  | number
  | literal
  | symbol (char : Char)
  | broken
  deriving DecidableEq

def isBlank (char : Char) : Bool :=
  [' ', '\t', '\n', '\r', '\x0b', '\x0c'].contains char

/-- Every character outside of ASCII may stand in a word. -/
def startsWord (char : Char) : Bool :=
  ('a' ≤ char && char ≤ 'z') || ('A' ≤ char && char ≤ 'Z') || char == '_' || 128 ≤ char.toNat

def isDigit (char : Char) : Bool := '0' ≤ char && char ≤ '9'

def continuesWord (char : Char) : Bool := startsWord char || isDigit char || char == '$'

/-- Letters of ASCII are folded to lower case. -/
def fold (char : Char) : Char :=
  if 'A' ≤ char ∧ char ≤ 'Z' then Char.ofNat (char.toNat + 32) else char

/-- The lexer stands inside of a token or between two of them. Texts are kept from their end. -/
inductive Mode
  | between
  | word (text : List Char)
  | number
  | dash
  | slash
  | lineComment
  | blockComment (depth : ℕ) (last : Char)
  | literal (escapes : Bool)
  | escaped
  | literalEnd (escapes : Bool)
  | quoted (text : List Char)
  | quotedEnd (text : List Char)
  | tag (text : List Char)
  | body (tag : List Char) (seen : List Char)
  deriving DecidableEq

/-- A character opens a token or is one. -/
def start (char : Char) : List Token × Mode :=
  if isBlank char then ([], .between)
  else if startsWord char then ([], .word [fold char])
  else if isDigit char then ([], .number)
  else if char = '\x27' then ([], .literal false)
  else if char = '\x22' then ([], .quoted [])
  else if char = '$' then ([], .tag [])
  else if char = '-' then ([], .dash)
  else if char = '/' then ([], .slash)
  else ([.symbol char], .between)

def after (token : Token) (char : Char) : List Token × Mode :=
  let (tokens, mode) := start char
  (token :: tokens, mode)

/-- A constant with escapes begins with a letter, and other prefixes belong to their constant. -/
def prefixed (text : List Char) : Option Bool :=
  if text = ['e'] then some true
  else if text ∈ [['b'], ['x'], ['n']] then some false
  else none

/-- Block comments nest. -/
def comment (depth : ℕ) (last char : Char) : Mode :=
  if last = '/' ∧ char = '*' then .blockComment (depth + 1) ' '
  else if last = '*' ∧ char = '/' then
    if depth = 0 then .between else .blockComment (depth - 1) ' '
  else .blockComment depth char

def step : Mode → Char → List Token × Mode
  | .between, char => start char
  | .word text, char =>
      if continuesWord char then ([], .word (fold char :: text))
      else
        match prefixed text, char with
        | some escapes, '\x27' => ([], .literal escapes)
        | _, _ => after (.word text.reverse) char
  | .number, char => if continuesWord char || char == '.' then ([], .number) else after .number char
  | .dash, char => if char = '-' then ([], .lineComment) else after (.symbol '-') char
  | .slash, char => if char = '*' then ([], .blockComment 0 ' ') else after (.symbol '/') char
  | .lineComment, char => ([], if char = '\n' ∨ char = '\r' then .between else .lineComment)
  | .blockComment depth last, char => ([], comment depth last char)
  | .literal escapes, char =>
      ([], if char = '\x27' then .literalEnd escapes
        else if escapes && char == '\\' then .escaped else .literal escapes)
  | .escaped, _ => ([], .literal true)
  | .literalEnd escapes, char => if char = '\x27' then ([], .literal escapes) else after .literal char
  | .quoted text, char => ([], if char = '\x22' then .quotedEnd text else .quoted (char :: text))
  | .quotedEnd text, char =>
      if char = '\x22' then ([], .quoted ('\x22' :: text)) else after (.quoted text.reverse) char
  | .tag text, char =>
      if char = '$' then ([], .body text [])
      else if startsWord char || (isDigit char && text != []) then ([], .tag (char :: text))
      else after (.symbol '$') char
  | .body tag seen, char =>
      if char = '$' ∧ (tag ++ ['$']).isPrefixOf seen then ([.literal], .between)
      else ([], .body tag (char :: seen))

def finish : Mode → List Token
  | .between | .lineComment => []
  | .word text => [.word text.reverse]
  | .number => [.number]
  | .dash => [.symbol '-']
  | .slash => [.symbol '/']
  | .literalEnd _ => [.literal]
  | .quotedEnd text => [.quoted text.reverse]
  | _ => [.broken]

def lex : Mode → List Char → List Token
  | mode, [] => finish mode
  | mode, char :: rest => (step mode char).1 ++ lex (step mode char).2 rest

/-- The lexer stands in this mode behind a text. -/
def modeAfter (text : List Char) : Mode := text.foldl (fun mode char => (step mode char).2) .between

/-- The lexer stands inside of a constant or of a quoted name. -/
def Mode.inLiteral : Mode → Bool
  | .literal _ | .escaped | .quoted _ | .body _ _ => true
  | _ => false

def Mode.inComment : Mode → Bool
  | .lineComment | .blockComment _ _ => true
  | _ => false

/-- These are the tokens of a text, without its comments. -/
def tokens (text : List Char) : List Token := lex .between text

end Lexer

section Statements

/-- A statement ends at a semicolon. -/
def statements (tokens : List Token) : List (List Token) :=
  tokens.splitOnP (· == .symbol ';')

inductive RelationKind
  | table | view | materializedView | foreignTable
  deriving DecidableEq

structure ColumnRename where
  kind : RelationKind
  relation : List (List Char)
  column : List Char
  newName : List Char
  deriving DecidableEq

/-- The keyword does not name a column or a relation. -/
def name : Token → Option (List Char)
  | .word text => if text = "column".toList then none else some text
  | .quoted text => some text
  | _ => none

def keyword (text : String) : Token := .word text.toList

/-- The kind of the relation stands after the first word of the statement. -/
def relationKind : List Token → Option (RelationKind × List Token)
  | first :: second :: rest =>
      if first = keyword "table" then some (.table, second :: rest)
      else if first = keyword "view" then some (.view, second :: rest)
      else if first = keyword "materialized" ∧ second = keyword "view" then
        some (.materializedView, rest)
      else if first = keyword "foreign" ∧ second = keyword "table" then some (.foreignTable, rest)
      else none
  | _ => none

def skip (words : List Token) (tokens : List Token) : List Token :=
  if words.isPrefixOf tokens then tokens.drop words.length else tokens

/-- A name may be qualified by others. -/
def qualifiedName : List Token → Option (List (List Char) × List Token)
  | first :: .symbol '.' :: rest => do
      let found ← name first
      let (names, others) ← qualifiedName rest
      return (found :: names, others)
  | first :: rest => do
      let found ← name first
      return ([found], rest)
  | [] => none

/-- This is `ALTER ... RENAME [COLUMN] name TO name`. -/
def columnRename : List Token → Option ColumnRename
  | verb :: rest => do
      guard (verb = keyword "alter")
      let (kind, rest) ← relationKind rest
      let (relation, rest) ←
        qualifiedName (skip [keyword "only"] (skip [keyword "if", keyword "exists"] rest))
      match skip [.symbol '*'] rest with
      | rename :: rest =>
          guard (rename = keyword "rename")
          match skip [keyword "column"] rest with
          | [column, into, newName] =>
              guard (into = keyword "to")
              return ⟨kind, relation, ← name column, ← name newName⟩
          | _ => none
      | [] => none
  | [] => none

/-- These are the statements of a text that rename a column. -/
def columnRenames (text : List Char) : List ColumnRename :=
  (statements (tokens text)).filterMap columnRename

end Statements

end SqlTokens
