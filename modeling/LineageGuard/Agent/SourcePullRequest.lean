import LineageGuard.Domain.ChangeParser
import Mathlib.Tactic

/-
This file translates the two gates through which the worker takes a source pull request.
-/

namespace LineageGuard.Agent

open Json Attempt Domain

section Reader

structure SourcePatch where
  filename : String
  patch : String
  blobSha : Option String
  deriving DecidableEq

structure SourcePRInfo where
  prNumber : ℕ
  prUrl : String
  prState : String
  baseSha : String
  headSha : String
  patches : List SourcePatch
  deriving DecidableEq

structure SourceChange where
  repository : String
  pullRequestNumber : ℕ
  pullRequestUrl : String
  baseSha : String
  headSha : String
  filePath : String
  unifiedDiff : String
  diffFingerprint : String
  deriving DecidableEq

def envelopeFiles (info : SourcePRInfo) : List SourceFileInput :=
  info.patches.map fun patch => ⟨patch.filename, patch.patch, patch.blobSha⟩

def buildSourceEnvelope (script : Script) (collation : Collation String)
    (isUrl : String → Bool) (info : SourcePRInfo) (expectedRepository : String) :
    Except SourceFailure SourceChangeEnvelope :=
  buildCanonicalSourceEnvelope script collation isUrl {
    repository := expectedRepository
    expectedRepository
    prNumber := info.prNumber
    prUrl := info.prUrl
    prState := info.prState
    baseSha := info.baseSha
    headSha := info.headSha
    files := envelopeFiles info }

def isNewFile (selected : SourcePatch) : Bool := startsWith "@@ -0,0" selected.patch.toList

/-- The reader puts these lines in front of a patch. -/
def frameLines (selected : SourcePatch) : List String :=
  if isNewFile selected then
    ["diff --git a/" ++ selected.filename ++ " b/" ++ selected.filename, "new file mode 100644",
      "index 0000000..1234567", "--- /dev/null", "+++ b/" ++ selected.filename]
  else
    ["diff --git a/" ++ selected.filename ++ " b/" ++ selected.filename,
      "--- a/" ++ selected.filename, "+++ b/" ++ selected.filename]

def fullDiff (selected : SourcePatch) : String :=
  "\n".intercalate (frameLines selected ++ [selected.patch])

/-- A rejected pull request has no change. -/
def buildSourceChange (script : Script) (collation : Collation String) (isUrl : String → Bool)
    (info : SourcePRInfo) (repository : String) : Option SourceChange := do
  let envelope ← (buildSourceEnvelope script collation isUrl info repository).toOption
  let selected ← info.patches.find? fun patch => patch.filename = envelope.selectedPath
  return {
    repository
    pullRequestNumber := info.prNumber
    pullRequestUrl := info.prUrl
    baseSha := info.baseSha
    headSha := info.headSha
    filePath := selected.filename
    unifiedDiff := fullDiff selected
    diffFingerprint := "sha256:" ++ script.digest (fullDiff selected).toList }

/-- The run parses the change that the worker built, on the path of its envelope. -/
def parseSourceChange (script : Script) (repository : String) (info : SourcePRInfo)
    (envelope : SourceChangeEnvelope) (change : SourceChange) :
    Except ParseFailure ProposedChange :=
  parseProposedChange script {
    source := .github
    repository
    baseSha := info.baseSha
    headSha := info.headSha
    files := [⟨envelope.selectedPath, change.unifiedDiff⟩] }

end Reader

end LineageGuard.Agent
