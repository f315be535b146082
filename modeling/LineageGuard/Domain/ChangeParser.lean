import LineageGuard.Domain.SourceAllowlist
import LineageGuard.Library.Words
import Mathlib.Tactic

/-
This file translates the parser of a proposed change.
-/

namespace LineageGuard.Domain

open Json Attempt Ecma

section Inputs

/-- The dataset of a file is a literal. -/
structure RepositoryChangeFile where
  path : String
  patch : String
  deriving DecidableEq

structure RepositoryChangeInput where
  source : ChangeSource
  repository : String
  baseSha : String
  headSha : String
  files : List RepositoryChangeFile
  deriving DecidableEq

def RepositoryChangeFile.issues (file : RepositoryChangeFile) (path : List PathItem) :
    List Issue :=
  safeRepositoryPathIssues file.path (below path "path") ++
  lengthIssues 1 32000 file.patch (below path "patch")

/-- These are the issues that `repositoryChangeInputSchema` reports. -/
def repositoryChangeInputIssues (input : RepositoryChangeInput) : List Issue :=
  lengthIssues 3 200 input.repository [.field "repository"] ++
  issueUnless (isRepository input.repository) .invalidFormat [.field "repository"] ++
  issueUnless (isGitSha input.baseSha) .invalidFormat [.field "baseSha"] ++
  issueUnless (isGitSha input.headSha) .invalidFormat [.field "headSha"] ++
  eachIssues input.files [.field "files"] RepositoryChangeFile.issues ++
  countIssues 1 1 input.files [.field "files"] ++
  issueUnless (input.baseSha ≠ input.headSha) (.custom "Base and head IDs must differ")
    [.field "headSha"] ++
  issueUnless (utf16Length input.baseSha = utf16Length input.headSha)
    (.custom "Base and head must use the same hash algorithm") [.field "headSha"]

inductive ParseErrorCode
  | invalidInput | noSupportedChange | multipleSupportedChanges | ambiguousChange
  | unsupportedChange
  deriving DecidableEq

def ParseErrorCode.word : ParseErrorCode → String
  | .invalidInput => "INVALID_INPUT"
  | .noSupportedChange => "NO_SUPPORTED_CHANGE"
  | .multipleSupportedChanges => "MULTIPLE_SUPPORTED_CHANGES"
  | .ambiguousChange => "AMBIGUOUS_CHANGE"
  | .unsupportedChange => "UNSUPPORTED_CHANGE"

/-- The parser returns an error, and the schema of a change throws its issues. -/
inductive ParseFailure
  | refused (code : ParseErrorCode) (message : String) (filePaths : List String)
  | schema (issues : List Issue)
  deriving DecidableEq

end Inputs

section Patterns

def canonicalSql : String := "ALTER TABLE commerce.orders RENAME COLUMN customer_id TO buyer_id;"

/-- This is `migrationPathPattern`. -/
def isMigrationPath (path : List Char) : Bool :=
  isBetween "walkthrough/migrations/" ".sql" isNameChar path

/-- This is `modelPathPattern`. -/
def isModelPath (path : List Char) : Bool :=
  isBetween "walkthrough/models/" ".sql" isPathChar path

structure HunkHeader where
  oldStart : ℕ
  oldCount : ℕ
  newStart : ℕ
  newCount : ℕ
  deriving DecidableEq

def decimal (digits : List Char) : ℕ :=
  digits.foldl (fun value digit => 10 * value + (digit.toNat - '0'.toNat)) 0

def number (text : List Char) : Option (ℕ × List Char) :=
  let digits := text.takeWhile Char.isDigit
  if digits = [] then none else some (decimal digits, text.dropWhile Char.isDigit)

/-- A range counts one line where it does not say how many. -/
def hunkRange (text : List Char) : Option (ℕ × ℕ × List Char) := do
  let (start, rest) ← number text
  match rest with
  | ',' :: counted =>
      let (count, rest) ← number counted
      return (start, count, rest)
  | _ => return (start, 1, rest)

def isLineEnd (char : Char) : Bool := ['\n', '\r', '\u2028', '\u2029'].contains char

/-- This is `hunkHeaderPattern`. -/
def hunkHeader (line : List Char) : Option HunkHeader := do
  let rest ← exactly "@@ -" line
  let (oldStart, oldCount, rest) ← hunkRange rest
  let rest ← exactly " +" rest
  let (newStart, newCount, rest) ← hunkRange rest
  let rest ← exactly " @@" rest
  match rest with
  | [] => return ⟨oldStart, oldCount, newStart, newCount⟩
  | ' ' :: heading =>
      if heading.any isLineEnd then none else return ⟨oldStart, oldCount, newStart, newCount⟩
  | _ => none

/-- This pattern is `/customer_id|buyer_id/i`, and it may match anywhere. -/
def mentionsColumn (text : List Char) : Bool :=
  countMatches (firstOf [caseless "customer_id", caseless "buyer_id"]) text ≠ 0

/-- This pattern is the one of an index line with two digests. -/
def indexDigests (line : List Char) : Option (List Char × List Char) := do
  let isDigest := fun digits : List Char => isHex 40 digits || isHex 64 digits
  let rest ← exactly "index " line
  let before := rest.takeWhile (· ≠ '.')
  let rest ← exactly ".." (rest.dropWhile (· ≠ '.'))
  let after := rest.takeWhile (· ≠ ' ')
  if !isDigest before || !isDigest after then none else
    match rest.dropWhile (· ≠ ' ') with
    | [] => return (before, after)
    | _ :: mode =>
        if mode.length = 6 && mode.all fun digit => '0' ≤ digit && digit ≤ '7' then
          return (before, after)
        else none

end Patterns

section Classification

/-- One empty line at the end is the last line break. -/
def patchLines (patch : List Char) : List (List Char) :=
  let lines := patch.splitOn '\n'
  if lines.getLast? = some [] then lines.dropLast else lines

def isBodyLine (line : List Char) : Bool :=
  startsWith " " line || startsWith "+" line || startsWith "-" line

/-- The lines of a hunk are those that its header counts. -/
def assertBody (header : HunkHeader) (body : List (List Char)) : Except ParseErrorCode Unit := do
  reject (body = []) .invalidInput
  require (body.all isBodyLine) .invalidInput
  require (body.countP (fun line => startsWith " " line || startsWith "-" line) = header.oldCount ∧
    body.countP (fun line => startsWith " " line || startsWith "+" line) = header.newCount)
    .invalidInput

def linesOf (start : String) (body : List (List Char)) : List (List Char) :=
  (body.filter (startsWith start)).map (·.drop 1)

/-- An added line is code when it is neither blank nor a comment. -/
def isCodeLine (line : List Char) : Bool :=
  let trimmed := Words.trim isSpace line
  !trimmed.isEmpty && !startsWith "--" trimmed

def joinedCode (body : List (List Char)) : List Char :=
  [' '].intercalate (((linesOf "+" body).filter isCodeLine).map (Words.trim isSpace))

def occurrences (patch : List Char) : ℕ := countMatches (exactly canonicalSql) patch

def classifyFixture (path patch : List Char) : Except ParseErrorCode Unit := do
  require (isMigrationPath path) .invalidInput
  reject (1 < occurrences patch ∧
    (replaceAll (exactly canonicalSql) [] patch).all isSpace) .multipleSupportedChanges
  if occurrences patch = 1 then
    require (patch = canonicalSql.toList) .ambiguousChange
  else
    .error (if mentionsColumn patch then .unsupportedChange else .noSupportedChange)

def isModeLine (line : List Char) : Bool :=
  startsWith "new file mode " line || startsWith "deleted file mode " line ||
    startsWith "index " line

/-- The statement is what the added lines of code join to. -/
def classifyBody (body : List (List Char)) : Except ParseErrorCode Unit :=
  if 1 < occurrences (joinedCode body) then .error .multipleSupportedChanges
  else if occurrences (joinedCode body) = 1 then
    require (joinedCode body = canonicalSql.toList) .ambiguousChange
  else
    .error (if (linesOf "+" body ++ linesOf "-" body).any mentionsColumn then .unsupportedChange
      else .noSupportedChange)

def classifyMigrationGitDiff (path patch : List Char) : Except ParseErrorCode Unit := do
  reject ('\r' ∈ patch ∨ "Binary files".toList <:+: patch) .invalidInput
  match patchLines patch with
  | [] => .error .invalidInput
  | first :: rest =>
      require (first = "diff --git a/".toList ++ path ++ " b/".toList ++ path) .invalidInput
      match rest.dropWhile isModeLine with
      | oldHeaderLine :: newHeaderLine :: headerLine :: body =>
          let isNewFile := oldHeaderLine = "--- /dev/null".toList
          let isDeletedFile := newHeaderLine = "+++ /dev/null".toList
          require (isNewFile ∨ oldHeaderLine = "--- a/".toList ++ path) .invalidInput
          require (isDeletedFile ∨ newHeaderLine = "+++ b/".toList ++ path) .invalidInput
          let header ← present (hunkHeader headerLine) .invalidInput
          reject (header.newStart < 1) .invalidInput
          if isNewFile then
            require (header.oldStart = 0 ∧ header.oldCount = 0) .invalidInput
          else
            reject (header.oldStart < 1) .invalidInput
          assertBody header body
          classifyBody body
      | _ => .error .invalidInput

def canonicalPairs (removed added : List (List Char)) : ℕ :=
  (removed.zip added).countP fun pair =>
    Words.trim isSpace pair.1 == "customer_id::uuid as customer_id,".toList &&
      Words.trim isSpace pair.2 == "buyer_id::uuid as buyer_id,".toList

/-- The diff of a model replaces one canonical line. -/
def classifyModelBody (body : List (List Char)) : Except ParseErrorCode Unit :=
  let removed := linesOf "-" body
  let added := linesOf "+" body
  if 1 < canonicalPairs removed added then .error .multipleSupportedChanges
  else if canonicalPairs removed added = 1 then
    require (removed.length = 1 ∧ added.length = 1) .ambiguousChange
  else
    .error (if (body.filter fun line => startsWith "-" line || startsWith "+" line).any
      mentionsColumn then .unsupportedChange else .noSupportedChange)

/-- An index line names two different digests of one length. -/
def skipIndexLine (lines : List (List Char)) : Except ParseErrorCode (List (List Char)) :=
  match lines with
  | [] => return []
  | line :: rest =>
      if startsWith "index " line then do
        let (before, after) ← present (indexDigests line) .invalidInput
        reject (before = after ∨ before.length ≠ after.length) .invalidInput
        return rest
      else return lines

def classifyGitDiff (path patch : List Char) : Except ParseErrorCode Unit := do
  if isMigrationPath path then
    classifyMigrationGitDiff path patch
  else
    reject (!isModelPath path ∨ '\r' ∈ patch) .invalidInput
    match patchLines patch with
    | [] => .error .invalidInput
    | first :: rest =>
        require (first = "diff --git a/".toList ++ path ++ " b/".toList ++ path) .invalidInput
        let rest ← skipIndexLine rest
        match rest with
        | oldHeaderLine :: newHeaderLine :: headerLine :: body =>
            require (oldHeaderLine = "--- a/".toList ++ path ∧
              newHeaderLine = "+++ b/".toList ++ path) .invalidInput
            let header ← present (hunkHeader headerLine) .invalidInput
            reject (header.oldStart < 1 ∨ header.newStart < 1) .invalidInput
            assertBody header body
            classifyModelBody body
        | _ => .error .invalidInput

end Classification

section Parsing

/-- These are the members of a change that its identifier and fingerprint are computed from. -/
def identifiedChange (script : Script) (input : RepositoryChangeInput)
    (file : RepositoryChangeFile) : ProposedChange where
  id := ""
  fingerprint := ""
  sourcePatchFingerprint := script.sha256 (.array [.object [("path", .string file.path),
    ("patchFingerprint", .string (script.digest file.patch.toList))]])
  source := input.source
  repository := input.repository
  baseSha := input.baseSha
  headSha := input.headSha
  files := [file.path]

def buildProposedChange (script : Script) (input : RepositoryChangeInput)
    (file : RepositoryChangeFile) : Except ParseFailure ProposedChange := do
  let identity := identifiedChange script input file
  let change := { identity with
    id := script.stableId "chg" identity.identity
    fingerprint := script.sha256 identity.identity }
  let issues := proposedChangeIssues script change
  require (issues = []) (.schema issues)
  return change

def classify (source : ChangeSource) (file : RepositoryChangeFile) : Except ParseErrorCode Unit :=
  match source with
  | .fixture => classifyFixture file.path.toList file.patch.toList
  | .github => classifyGitDiff file.path.toList file.patch.toList

def parseProposedChange (script : Script) (input : RepositoryChangeInput) :
    Except ParseFailure ProposedChange := do
  require (repositoryChangeInputIssues input = [])
    (.refused .invalidInput "Repository input failed strict validation" [])
  match input.files with
  | [] => .error (.refused .invalidInput "Missing changed file" [])
  | file :: _ =>
      (classify input.source file).mapError fun code =>
        .refused code ("Canonical change classification: " ++ code.word) [file.path]
      buildProposedChange script input file

end Parsing

end LineageGuard.Domain
