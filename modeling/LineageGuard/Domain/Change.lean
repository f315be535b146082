import LineageGuard.Domain.Migration
import Mathlib.Tactic

/-
This file translates the schema of a proposed change.
-/

namespace LineageGuard.Domain

open Json

inductive ChangeSource
  | github | fixture
  deriving DecidableEq

def ChangeSource.word : ChangeSource → String
  | .github => "GITHUB"
  | .fixture => "FIXTURE"

/-- The dataset, the operation and the two fields of a change are literals. -/
structure ProposedChange where
  id : String
  fingerprint : String
  sourcePatchFingerprint : String
  source : ChangeSource
  repository : String
  baseSha : String
  headSha : String
  files : List String
  deriving DecidableEq

def canonicalDatasetRef : Value :=
  .object [("platform", .string "postgres"), ("environment", .string "PROD"),
    ("schema", .string "commerce"), ("dataset", .string "orders")]

/-- These are the members that identify a change. -/
def ProposedChange.identity (change : ProposedChange) : Value :=
  .object [("source", .string change.source.word), ("repository", .string change.repository),
    ("baseSha", .string change.baseSha), ("headSha", .string change.headSha),
    ("datasetRef", canonicalDatasetRef), ("operation", .string "RENAME_FIELD"),
    ("field", .string "customer_id"), ("before", .object [("field", .string "customer_id")]),
    ("after", .object [("field", .string "buyer_id")]), ("files", texts change.files),
    ("sourcePatchFingerprint", .string change.sourcePatchFingerprint)]

/-- A repository is an owner and a name around one slash. -/
def isRepository (text : String) : Bool :=
  match segments text.toList with
  | [owner, name] => !owner.isEmpty && !name.isEmpty && owner.all isNameChar && name.all isNameChar
  | _ => false

def safeRepositoryPathIssues (value : String) (path : List PathItem) : List Issue :=
  lengthIssues 1 240 value path ++
  issueUnless (isRelative value.toList) (.custom "Path must be relative") path ++
  issueUnless (isNormalized value.toList) (.custom "Path must be normalized") path

def ProposedChange.shapeIssues (change : ProposedChange) : List Issue :=
  issueUnless (isPrefixedId "chg_" change.id) .invalidFormat [.field "id"] ++
  fingerprintIssues change.fingerprint [.field "fingerprint"] ++
  fingerprintIssues change.sourcePatchFingerprint [.field "sourcePatchFingerprint"] ++
  lengthIssues 3 200 change.repository [.field "repository"] ++
  issueUnless (isRepository change.repository) .invalidFormat [.field "repository"] ++
  issueUnless (isGitSha change.baseSha) .invalidFormat [.field "baseSha"] ++
  issueUnless (isGitSha change.headSha) .invalidFormat [.field "headSha"] ++
  eachIssues change.files [.field "files"] safeRepositoryPathIssues ++
  countIssues 1 1 change.files [.field "files"]

/-- These are the issues that `proposedChangeSchema` reports. -/
def proposedChangeIssues (script : Script) (change : ProposedChange) : List Issue :=
  change.shapeIssues ++
  issueUnless (change.baseSha ≠ change.headSha) (.custom "Base and head must differ")
    [.field "headSha"] ++
  issueUnless (utf16Length change.baseSha = utf16Length change.headSha)
    (.custom "Base and head must use the same hash algorithm") [.field "headSha"] ++
  issueUnless (change.fingerprint = script.sha256 change.identity)
    (.custom "Change fingerprint is invalid") [.field "fingerprint"] ++
  issueUnless (change.id = script.stableId "chg" change.identity)
    (.custom "Change ID is invalid") [.field "id"]

end LineageGuard.Domain
