import Mathlib.Tactic

/-
This file gives the white space of ECMAScript and the part of its regular expressions in which no
repetition is followed by what it repeats.
-/

namespace Ecma

/-- These are the white space and the line ends of the language. -/
def isSpace (char : Char) : Bool :=
  (9 ≤ char.toNat && char.toNat ≤ 13) || (0x2000 ≤ char.toNat && char.toNat ≤ 0x200a) ||
    [0x20, 0xa0, 0x1680, 0x2028, 0x2029, 0x202f, 0x205f, 0x3000, 0xfeff].contains char.toNat

section Patterns

/-- A pattern gives what follows its match at the start of a text. -/
abbrev Pattern : Type := List Char → Option (List Char)

/-- Without regard to case, two letters of ASCII also match a letter outside of it. -/
def sameLetter (letter char : Char) : Bool :=
  char.toLower == letter.toLower || (letter.toLower == 's' && char == '\u017f') ||
    (letter.toLower == 'k' && char == '\u212a')

def isWordChar (char : Char) : Bool :=
  char.isAlphanum || char == '_' || char == '\u017f' || char == '\u212a'

def literal : List Char → Pattern
  | [], text => some text
  | _ :: _, [] => none
  | letter :: letters, char :: rest => if sameLetter letter char then literal letters rest else none

/-- One or more characters of the class match. -/
def repeated (accepts : Char → Bool) : Pattern
  | char :: rest => if accepts char then some (rest.dropWhile accepts) else none
  | [] => none

def spaces : Pattern := repeated isSpace

/-- The letters of the text are the same as those of the word. -/
def spelled (same : Char → Char → Bool) : List Char → Pattern
  | [], text => some text
  | _ :: _, [] => none
  | letter :: letters, char :: rest => if same char letter then spelled same letters rest else none

def exactly (word : String) : Pattern := spelled (· == ·) word.toList

/-- Without the Unicode flag only letters of ASCII match in both cases. -/
def caseless (word : String) : Pattern :=
  spelled (fun char letter => char.toLower == letter.toLower) word.toList

def firstOf (patterns : List Pattern) : Pattern := fun text => patterns.findSome? (· text)

/-- The pattern matches behind any number of blanks, which it does not begin with. -/
def behind (blank : Char → Bool) (pattern : Pattern) : Pattern := fun text =>
  pattern (text.dropWhile blank)

def wordChars : Pattern := repeated isWordChar

def perhaps (pattern : Pattern) : Pattern := fun text => some ((pattern text).getD text)

def sequence (patterns : List Pattern) : Pattern := fun text =>
  patterns.foldlM (fun rest pattern => pattern rest) text

/-- The matches do not overlap, and the search goes on behind each of them. -/
def countFrom (pattern : Pattern) : ℕ → List Char → ℕ
  | _, [] => 0
  | skipped + 1, _ :: rest => countFrom pattern skipped rest
  | 0, char :: rest =>
      match pattern (char :: rest) with
      | some after => countFrom pattern (rest.length - after.length) rest + 1
      | none => countFrom pattern 0 rest

def countMatches (pattern : Pattern) (text : List Char) : ℕ := countFrom pattern 0 text

def replaceFrom (pattern : Pattern) (replacement : List Char) : ℕ → List Char → List Char
  | _, [] => []
  | skipped + 1, _ :: rest => replaceFrom pattern replacement skipped rest
  | 0, char :: rest =>
      match pattern (char :: rest) with
      | some after =>
          replacement ++ replaceFrom pattern replacement (rest.length - after.length) rest
      | none => char :: replaceFrom pattern replacement 0 rest

/-- Every match of a pattern that takes at least one character is replaced. -/
def replaceAll (pattern : Pattern) (replacement text : List Char) : List Char :=
  replaceFrom pattern replacement 0 text

end Patterns

end Ecma
