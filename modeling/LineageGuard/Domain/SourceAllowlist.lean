import LineageGuard.Domain.Change
import LineageGuard.Domain.SourceEnvelope
import LineageGuard.Library.Attempt
import LineageGuard.Library.Collation
import LineageGuard.Library.EcmaText
import Mathlib.Tactic

/-
This file translates the allowlist that a pull request passes before its source is analysed.
-/

namespace LineageGuard.Domain

open Json Attempt Ecma

section Inputs

structure SourceFileInput where
  path : String
  patch : String
  blobSha : Option String
  deriving DecidableEq

structure SourceAllowlistInput where
  repository : String
  expectedRepository : String
  prNumber : ℕ
  prUrl : String
  prState : String
  baseSha : String
  headSha : String
  files : List SourceFileInput
  deriving DecidableEq

inductive SourceRejectionCode
  | ambiguousChange | malformedPatch | noSupportedChange | prNotOpen | repositoryMismatch
  | unrelatedChanges | unsupportedRename
  deriving DecidableEq

/-- A rejection keeps the start of its detail, and a schema reports its issues. -/
inductive SourceFailure
  | rejected (code : SourceRejectionCode) (detail : List Char)
  | schema (issues : List Issue)
  deriving DecidableEq

def SourceFailure.of (code : SourceRejectionCode) (detail : String) : SourceFailure :=
  .rejected code (detail.toList.take 300)

end Inputs

section Patches

def startsWith (start : String) (text : List Char) : Bool := start.toList.isPrefixOf text

def endsWith (close : String) (text : List Char) : Bool := close.toList.isSuffixOf text

/-- This is `renameStatement`. -/
def renameStatement : Pattern :=
  sequence [literal "alter".toList, spaces, literal "table".toList, spaces,
    perhaps (literal "commerce.".toList), literal "orders".toList, spaces, literal "rename".toList,
    spaces, literal "column".toList, spaces, literal "customer_id".toList, spaces,
    literal "to".toList, spaces, literal "buyer_id".toList]

/-- This is `anyRenameColumn`. -/
def anyRenameColumn : Pattern :=
  sequence [literal "rename".toList, spaces, literal "column".toList, spaces, wordChars, spaces,
    literal "to".toList, spaces, wordChars]

/-- Only added lines propose a change. -/
def addedText (patch : List Char) : List Char :=
  ['\n'].intercalate (((patch.splitOn '\n').filter fun line =>
    startsWith "+" line && !startsWith "+++" line).map (·.drop 1))

/-- No character outside of ASCII has a letter of an extension as its lower case. -/
def isInert (path : String) : Bool :=
  [".md", ".txt", ".csv", ".json", ".yml", ".yaml"].any fun extension =>
    endsWith extension (path.toList.map Char.toLower)

end Patches

section Checks

def assertRepository (input : SourceAllowlistInput) : Except SourceFailure Unit :=
  require (input.repository = input.expectedRepository) (.of .repositoryMismatch
    ("expected " ++ input.expectedRepository ++ ", observed " ++ input.repository))

def assertOpen (input : SourceAllowlistInput) : Except SourceFailure Unit :=
  require (input.prState = "open") (.of .prNotOpen
    ("PR #" ++ toString input.prNumber ++ " state is " ++ input.prState))

def isSql (file : SourceFileInput) : Bool := endsWith ".sql" file.path.toList

def assertNoUnrelatedExecutables (files : List SourceFileInput) : Except SourceFailure Unit :=
  let offenders := (files.filter fun file => !isSql file && !isInert file.path).map (·.path)
  require (offenders = []) (.of .unrelatedChanges
    ("executable changes outside the migration: " ++ String.intercalate ", " offenders))

def selectMigration (files : List SourceFileInput) : Except SourceFailure SourceFileInput :=
  match files.filter isSql with
  | [] => .error (.of .noSupportedChange "no .sql migration file present")
  | [migration] => do
      require (startsWith "walkthrough/migrations/" migration.path.toList) (.of .unrelatedChanges
        ("migration must live under walkthrough/migrations/, observed " ++ migration.path))
      reject (migration.patch.toList.all isSpace) (.of .malformedPatch "migration patch is empty")
      return migration
  | many => .error (.of .ambiguousChange
      ("multiple .sql files: " ++ String.intercalate ", " (many.map (·.path))))

def assertExactlyOneCanonicalRename (migration : SourceFileInput) : Except SourceFailure Unit := do
  let added := addedText migration.patch.toList
  reject (added.all isSpace) (.of .noSupportedChange "migration patch adds no lines")
  let allRenames := countMatches anyRenameColumn added
  reject (allRenames = 0) (.of .noSupportedChange "no RENAME COLUMN statement was added")
  let canonical := countMatches renameStatement added
  reject (canonical = 0) (.of .unsupportedRename
    "the added RENAME COLUMN does not match commerce.orders customer_id -> buyer_id")
  reject (1 < canonical) (.of .ambiguousChange
    (toString canonical ++ " canonical rename statements"))
  reject (canonical < allRenames) (.of .ambiguousChange
    (toString allRenames ++ " RENAME COLUMN statements, expected exactly 1"))

end Checks

section Envelopes

/-- Letters and digits are compared so by every locale of the language. -/
def localeCollation : Collation String where
  le := localeLe
  total left right := by
    rw [Bool.or_eq_true]
    exact localeLe_total left right
  trans _ _ _ := localeLe_trans

def EnvelopeFile.json (file : EnvelopeFile) : Value :=
  .object ([("path", .string file.path), ("patchSha256", .string file.patchSha256)] ++
    optional "blobSha" file.blobSha)

/-- The fingerprint covers every other member of an envelope. -/
def SourceChangeEnvelope.identity (envelope : SourceChangeEnvelope) : Value :=
  .object [("origin", .string "GITHUB_PR"), ("repository", .string envelope.repository),
    ("prNumber", .number envelope.prNumber), ("prUrl", .string envelope.prUrl),
    ("prState", .string "open"), ("baseSha", .string envelope.baseSha),
    ("headSha", .string envelope.headSha),
    ("files", .array (envelope.files.map EnvelopeFile.json)),
    ("selectedPath", .string envelope.selectedPath),
    ("normalizedChange", .object [("schema", .string "commerce"), ("table", .string "orders"),
      ("operation", .string "RENAME_COLUMN"), ("fromColumn", .string "customer_id"),
      ("toColumn", .string "buyer_id")])]

def shaIssues (text : String) (path : List PathItem) : List Issue :=
  issueUnless (isHex 40 text.toList) .invalidFormat path

def EnvelopeFile.issues (file : EnvelopeFile) (path : List PathItem) : List Issue :=
  lengthIssues 1 400 file.path (below path "path") ++
  fingerprintIssues file.patchSha256 (below path "patchSha256") ++
  file.blobSha.elim [] fun blobSha => shaIssues blobSha (below path "blobSha")

/-- These are the issues that `sourceChangeEnvelopeSchema` reports. -/
def sourceChangeEnvelopeIssues (script : Script) (isUrl : String → Bool)
    (envelope : SourceChangeEnvelope) : List Issue :=
  let paths := envelope.files.map (·.path)
  lengthIssues 3 140 envelope.repository [.field "repository"] ++
  issueUnless (isRepository envelope.repository) .invalidFormat [.field "repository"] ++
  issueUnless (0 < envelope.prNumber) .tooSmall [.field "prNumber"] ++
  issueUnless (envelope.prNumber < 2 ^ 53) .tooBig [.field "prNumber"] ++
  issueUnless (isUrl envelope.prUrl) .invalidFormat [.field "prUrl"] ++
  lengthIssues 0 500 envelope.prUrl [.field "prUrl"] ++
  shaIssues envelope.baseSha [.field "baseSha"] ++ shaIssues envelope.headSha [.field "headSha"] ++
  eachIssues envelope.files [.field "files"] EnvelopeFile.issues ++
  countIssues 1 50 envelope.files [.field "files"] ++
  lengthIssues 1 400 envelope.selectedPath [.field "selectedPath"] ++
  fingerprintIssues envelope.sourceFingerprint [.field "sourceFingerprint"] ++
  issueUnless (envelope.selectedPath ∈ paths)
    (.custom "selectedPath must name one of the envelope's files") [.field "selectedPath"] ++
  issueUnless paths.Nodup (.custom "envelope file paths must be unique") [.field "files"] ++
  issueUnless (paths = sorted paths) (.custom "envelope files must use canonical path order")
    [.field "files"] ++
  issueUnless (envelope.baseSha ≠ envelope.headSha) (.custom "baseSha and headSha must differ")
    [.field "headSha"] ++
  issueUnless (envelope.sourceFingerprint = script.sha256 envelope.identity)
    (.custom "source fingerprint is invalid") [.field "sourceFingerprint"]

/-- The accepted source is bound to its envelope, and its paths are compared by the collation of the
script. -/
def buildCanonicalSourceEnvelope (script : Script) (collation : Collation String)
    (isUrl : String → Bool) (input : SourceAllowlistInput) :
    Except SourceFailure SourceChangeEnvelope := do
  assertRepository input
  assertOpen input
  assertNoUnrelatedExecutables input.files
  let migration ← selectMigration input.files
  assertExactlyOneCanonicalRename migration
  let files := collation.sortBy (·.path) (input.files.map fun file =>
    (⟨file.path, script.digest file.patch.toList, file.blobSha⟩ : EnvelopeFile))
  let identity : SourceChangeEnvelope := ⟨input.repository, input.prNumber, input.prUrl,
    input.baseSha, input.headSha, files, migration.path, ""⟩
  let envelope := { identity with sourceFingerprint := script.sha256 identity.identity }
  let issues := sourceChangeEnvelopeIssues script isUrl envelope
  require (issues = []) (.schema issues)
  return envelope

end Envelopes

end LineageGuard.Domain
