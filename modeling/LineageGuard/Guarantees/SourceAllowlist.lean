import LineageGuard.Domain.SourceAllowlist
import LineageGuard.Library.SqlTokens
import Mathlib.Tactic

/-
This file compares the statements of an accepted source with the matches that accepted it.
-/

namespace LineageGuard.Domain

open Attempt Ecma SqlTokens

section Statements

/-- The statement renames the column of the canonical table, with or without its schema. -/
def IsCanonicalRename (rename : ColumnRename) : Prop :=
  rename.kind = .table ∧
    rename.relation ∈ [["orders".toList], ["commerce".toList, "orders".toList]] ∧
    rename.column = "customer_id".toList ∧ rename.newName = "buyer_id".toList

instance (rename : ColumnRename) : Decidable (IsCanonicalRename rename) :=
  inferInstanceAs (Decidable (_ ∧ _))

/-- One statement of the text renames a column, and it is the canonical one. -/
def OneCanonicalRename (text : List Char) : Prop :=
  ∃ rename, columnRenames text = [rename] ∧ IsCanonicalRename rename

/-- The lines that a patch adds follow its first hunk header, whatever their text starts with. -/
def additions (patch : List Char) : List Char :=
  let lines := patch.splitOn '\n'
  let hunks := lines.dropWhile fun line => !startsWith "@@" line
  ['\n'].intercalate (((if hunks = [] then lines else hunks).filter (startsWith "+")).map (·.drop 1))

/-- The patterns match as often as statements of the added lines rename a column. -/
structure PatternsCountStatements (patch : List Char) : Prop where
  all : (columnRenames (additions patch)).length =
    countMatches anyRenameColumn (addedText patch)
  canonical :
    ((columnRenames (additions patch)).filter fun rename => IsCanonicalRename rename).length =
      countMatches renameStatement (addedText patch)

/-- Where both patterns match once, they count statements when the one statement is canonical. -/
theorem oneCanonicalRename_iff {patch : List Char}
    (all : countMatches anyRenameColumn (addedText patch) = 1)
    (canonical : countMatches renameStatement (addedText patch) = 1) :
    OneCanonicalRename (additions patch) ↔ PatternsCountStatements patch := by
  constructor
  · rintro ⟨rename, one, isCanonical⟩
    exact ⟨by rw [one, all]; rfl, by simp [one, canonical, isCanonical]⟩
  · rintro ⟨renames, canonicals⟩
    rw [all] at renames
    obtain ⟨rename, one⟩ := List.length_eq_one_iff.mp renames
    refine ⟨rename, one, ?_⟩
    by_contra other
    simp [one, canonical, other] at canonicals

end Statements

section Acceptance

variable {script : Script} {collation : Collation String} {isUrl : String → Bool}
variable {input : SourceAllowlistInput}
variable {envelope : SourceChangeEnvelope}

theorem selectMigration_ok {files : List SourceFileInput} {migration : SourceFileInput}
    (selected : selectMigration files = .ok migration) : files.filter isSql = [migration] := by
  rw [selectMigration] at selected
  split at selected
  · cases selected
  · next found one =>
      simp only [bind_ok, require_ok, reject_ok, pure_ok] at selected
      obtain ⟨_, _, _, _, rfl⟩ := selected
      exact one
  · cases selected

theorem assertExactlyOneCanonicalRename_ok {migration : SourceFileInput}
    (accepted : assertExactlyOneCanonicalRename migration = .ok ()) :
    countMatches anyRenameColumn (addedText migration.patch.toList) = 1 ∧
      countMatches renameStatement (addedText migration.patch.toList) = 1 := by
  simp only [assertExactlyOneCanonicalRename, bind_ok, reject_ok, not_lt] at accepted
  obtain ⟨_, _, _, some, _, matched, _, once, more⟩ := accepted
  omega

/-- An accepted source has one migration, and both patterns match its added text once. -/
theorem buildCanonicalSourceEnvelope_ok
    (built : buildCanonicalSourceEnvelope script collation isUrl input = .ok envelope) :
    ∃ migration, input.files.filter isSql = [migration] ∧
      envelope.selectedPath = migration.path ∧
      countMatches anyRenameColumn (addedText migration.patch.toList) = 1 ∧
      countMatches renameStatement (addedText migration.patch.toList) = 1 := by
  simp only [buildCanonicalSourceEnvelope, bind_ok, require_ok, pure_ok] at built
  obtain ⟨_, _, _, _, _, _, migration, selected, _, once, _, _, rfl⟩ := built
  exact ⟨migration, selectMigration_ok selected, rfl, assertExactlyOneCanonicalRename_ok once⟩

end Acceptance

section Sample

/-- This line renames the column to a name. -/
def renamingLine (newName : String) : String :=
  "+ALTER TABLE commerce.orders RENAME COLUMN customer_id TO " ++ newName ++ ";"

/-- The migration of this source is one added line. -/
def renamingTo (newName : String) : SourceAllowlistInput where
  repository := "a/b"
  expectedRepository := "a/b"
  prNumber := 1
  prUrl := "u"
  prState := "open"
  baseSha := String.ofList (List.replicate 40 'a')
  headSha := String.ofList (List.replicate 40 'b')
  files := [⟨"walkthrough/migrations/1.sql", renamingLine newName, none⟩]

theorem renamingTo_built : ∀ newName ∈ ["buyer_id", "buyer_identifier"],
    ∃ envelope, buildCanonicalSourceEnvelope (Script.probe 0 []) localeCollation (fun _ => true)
      (renamingTo newName) = .ok envelope := by
  have canonical : (buildCanonicalSourceEnvelope (Script.probe 0 []) localeCollation
      (fun _ => true) (renamingTo "buyer_id")).isOk = true := by
    decide +kernel
  have longer : (buildCanonicalSourceEnvelope (Script.probe 0 []) localeCollation
      (fun _ => true) (renamingTo "buyer_identifier")).isOk = true := by
    decide +kernel
  have built : ∀ newName ∈ ["buyer_id", "buyer_identifier"],
      (buildCanonicalSourceEnvelope (Script.probe 0 []) localeCollation (fun _ => true)
        (renamingTo newName)).isOk = true := by
    simp only [List.forall_mem_cons, List.not_mem_nil, false_implies, implies_true, and_true]
    exact ⟨canonical, longer⟩
  intro newName listed
  have isOk := built newName listed
  cases result : buildCanonicalSourceEnvelope (Script.probe 0 []) localeCollation (fun _ => true)
      (renamingTo newName) with
  | ok envelope => exact ⟨envelope, rfl⟩
  | error failure =>
      rw [result] at isOk
      cases isOk

theorem renamingTo_patch {newName : String} {migration : SourceFileInput}
    (present : migration ∈ (renamingTo newName).files) :
    migration.patch = renamingLine newName := by
  rw [renamingTo, List.mem_singleton] at present
  rw [present]

end Sample

end LineageGuard.Domain
