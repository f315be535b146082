import LineageGuard.Domain.Migration
import LineageGuard.Library.Attempt
import Mathlib.Tactic

/-
This file translates the identity under which a candidate is published.
-/

namespace LineageGuard.Domain

open Json Attempt

section Identity

variable (script : Script)

/-- The identity of an artifact leaves out its operation. -/
def MigrationArtifact.identity (artifact : MigrationArtifact) : Value :=
  .object [("path", .string artifact.path), ("kind", .string artifact.kind.word),
    ("content", .string artifact.content)]

def sortArtifacts (artifacts : List MigrationArtifact) : List MigrationArtifact :=
  artifacts.mergeSort fun left right => localeLe left.path right.path

def candidateIdentity (candidate : MigrationCandidate) : Value :=
  .object [("strategy", .string "EXPAND_MIGRATE_CONTRACT"),
    ("sourceChangeFingerprint", .string candidate.sourceChangeFingerprint),
    ("sourcePatchFingerprint", .string candidate.sourcePatchFingerprint),
    ("sourceImpactContextFingerprint", .string candidate.sourceImpactContextFingerprint),
    ("sourceDecision", .string "BLOCK"),
    ("sourceEvidenceIds", texts (sorted candidate.sourceEvidenceIds)),
    ("artifacts", .array ((sortArtifacts candidate.artifacts).map MigrationArtifact.identity))]

/-- The members of the identity are written in their own order. -/
def canonicalCandidateFingerprint (candidate : MigrationCandidate) : String :=
  script.digest (script.stringify (candidateIdentity candidate))

end Identity

section Names

/-- A publication name is refused with one of these messages. -/
inductive NameError
  | fingerprint | number
  deriving DecidableEq

def NameError.message : NameError → String
  | .fingerprint => "candidate fingerprint must be 64 hex characters"
  | .number => "source pull request number must be a positive integer"

def fingerprintPrefix (fingerprint : String) (count : ℕ) : String :=
  String.ofList (fingerprint.toList.take count)

/-- A source pull request is optional and its number is an integer. -/
def generatedBranchName (candidateFingerprint : String) (prNumber : Option ℤ) :
    Except NameError String := do
  require (isFingerprint candidateFingerprint) .fingerprint
  match prNumber with
  | none => return "lineageguard/generated/" ++ fingerprintPrefix candidateFingerprint 12
  | some number => do
      require (0 < number) .number
      return "lineageguard/generated/pr-" ++ number.repr ++ "-" ++
        fingerprintPrefix candidateFingerprint 12

def decisionMarker (candidateFingerprint : String) : Except NameError String := do
  require (isFingerprint candidateFingerprint) .fingerprint
  return "lineageguard:decision:v1:candidate-" ++ fingerprintPrefix candidateFingerprint 16

end Names

end LineageGuard.Domain
