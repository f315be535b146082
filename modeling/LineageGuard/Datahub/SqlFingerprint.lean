import LineageGuard.Domain.Hash
import LineageGuard.Library.EcmaText
import LineageGuard.Library.Words
import Mathlib.Tactic

/-
This file translates the fingerprints that the two languages give a statement.
-/

namespace LineageGuard.Datahub

open Words Ecma

section Comments

/-- Both languages replace a closed block comment by a space, and an open one stays. -/
def stripBlocks : Option (List Char) → List Char → List Char
  | none, '/' :: '*' :: rest => stripBlocks (some []) rest
  | none, char :: rest => char :: stripBlocks none rest
  | none, [] => []
  | some _, '*' :: '/' :: rest => ' ' :: stripBlocks none rest
  | some body, char :: rest => stripBlocks (some (char :: body)) rest
  | some body, [] => '/' :: '*' :: body.reverse

/-- A line comment reaches to the next line end and becomes a space. -/
def stripLines (ends : Char → Bool) : Bool → List Char → List Char
  | false, '-' :: '-' :: rest => ' ' :: stripLines ends true rest
  | false, char :: rest => char :: stripLines ends false rest
  | true, char :: rest =>
      if ends char then char :: stripLines ends false rest else stripLines ends true rest
  | _, [] => []

end Comments

section Lowering

/-- These characters are spaces in one of the two languages. -/
def oddSpaces : List Char :=
  ['\x1c', '\x1d', '\x1e', '\x1f', '\u0085', '\ufeff']

/-- Both languages write a text in lower case by the default mapping of Unicode. A character takes
at least one place, whatever stands around it, and the odd spaces have no case. -/
structure Lowering where
  lower : List Char → List Char
  size : Char → ℕ
  size_pos : ∀ char, 0 < size char
  lower_length : ∀ text, (lower text).length = weight size text
  lower_odd : ∀ text, ∀ char ∈ oddSpaces, char ∈ lower text ↔ char ∈ text

end Lowering

section JavaScript

def withoutSqlComments (statement : List Char) : List Char :=
  stripLines (fun char => char == '\r' || char == '\n') false (stripBlocks none statement)

def normalizeSqlStatement (lowering : Lowering) (statement : List Char) : List Char :=
  lowering.lower ((join ' ' (splitRuns Ecma.isSpace
    (trim Ecma.isSpace (withoutSqlComments statement)))).rdropWhile (· == ';'))

def normalizedSqlFingerprint (script : Script) (lowering : Lowering) (statement : List Char) :
    String :=
  script.digest (normalizeSqlStatement lowering statement)

end JavaScript

section Python

/-- These are the characters that `str.split` takes as white space. -/
def isPySpace (char : Char) : Bool :=
  (9 ≤ char.toNat && char.toNat ≤ 13) || (0x1c ≤ char.toNat && char.toNat ≤ 0x1f) ||
    (0x2000 ≤ char.toNat && char.toNat ≤ 0x200a) ||
    [0x20, 0x85, 0xa0, 0x1680, 0x2028, 0x2029, 0x202f, 0x205f, 0x3000].contains char.toNat

def withoutComments (statement : List Char) : List Char :=
  stripLines (fun char => char == '\n') false (stripBlocks none statement)

def normalized (lowering : Lowering) (statement : List Char) : List Char :=
  lowering.lower ((join ' ' (words isPySpace (withoutComments statement))).rdropWhile (· == ';'))

def normalizedPythonFingerprint (script : Script) (lowering : Lowering) (statement : List Char) :
    String :=
  script.digest (normalized lowering statement)

end Python

end LineageGuard.Datahub
