import LineageGuard.Acceptance.TreeDelta
import LineageGuard.Agent.WritebackPort
import LineageGuard.Domain.SourceAllowlist
import LineageGuard.Github.Validation
import LineageGuard.Library.Inspection
import Mathlib.Tactic

/-
This file translates the readers of the acceptance harness, whose answers nothing has checked.
-/

namespace LineageGuard.Acceptance.Inspect

open Json Attempt Domain Ecma Inspection Agent.WritebackPort

section Requests

variable {Number : Type}

/-- The source is unbound by the allowlist or by a value of another type. -/
inductive Reason
  | text (reason : String)
  | unbound (failure : Option SourceFailure)

abbrev Inspected (Value : Type) : Type := Reading Reason Value

def uninspectable (reason : String) : Stop Reason := .uninspectable (.text reason)

/-- No reader asks for one path twice. -/
abbrev Server (Number : Type) : Type := String → Fetched Number

def get (token absent method : String) (server : Server Number) (path : String) :
    Inspected (JsonValue Number) := do
  reject (utf16Length token < 8) (uninspectable absent)
  match server path with
  | .rejected message => .error (uninspectable (method ++ path ++ " → " ++ message))
  | .refused status => .error (uninspectable (method ++ path ++ " → HTTP " ++ toString status))
  | .unreadable message => .error (uninspectable (method ++ path ++ " → " ++ message))
  | .answered body => return body

def githubGet (token : String) : Server Number → String → Inspected (JsonValue Number) :=
  get token "no GitHub token available to read with" "GET "

def gmsGet (token : String) : Server Number → String → Inspected (JsonValue Number) :=
  get token "no DataHub read token available" "GMS "

end Requests

section Members

variable {Number : Type}

/-- This is `value?.key`. -/
def member (key : String) (value : JsonValue Number) : Option (JsonValue Number) :=
  (property key value).toOption.join

def isNull : JsonValue Number → Bool
  | .null => true
  | _ => false

/-- A member of `null` raises an error. -/
def someObject (value : JsonValue Number) : Inspected Unit := reject (isNull value) .thrown

def asText : JsonValue Number → Option String
  | .string text => some text
  | _ => none

def asArray : JsonValue Number → Option (List (JsonValue Number))
  | .array items => some items
  | _ => none

def memberText (key : String) (value : JsonValue Number) : Option String :=
  (member key value).bind asText

def memberArray (key : String) (value : JsonValue Number) : Option (List (JsonValue Number)) :=
  (member key value).bind asArray

/-- This is `value?.key === true`. -/
def memberTrue (key : String) (value : JsonValue Number) : Bool :=
  match member key value with
  | some (.bool flag) => flag
  | _ => false

/-- This is `value.key ?? ""`. -/
def memberOrEmpty (key : String) (value : JsonValue Number) : JsonValue Number :=
  match member key value with
  | none => .string ""
  | some .null => .string ""
  | some found => found

end Members

section Views

variable {Number : Type}

/-- The number and the body come from the answer as they are. -/
structure PullRequestView (Number : Type) where
  number : Option (JsonValue Number)
  state : String
  draft : Bool
  headRef : String
  headSha : String
  baseRef : String
  baseSha : String
  body : JsonValue Number

def pullRequestView (pr : JsonValue Number) : Option (PullRequestView Number) := do
  let state ← memberText "state" pr
  let headRef ← (member "head" pr).bind (memberText "ref")
  let headSha ← (member "head" pr).bind (memberText "sha")
  let baseRef ← (member "base" pr).bind (memberText "ref")
  let baseSha ← (member "base" pr).bind (memberText "sha")
  return ⟨member "number" pr, state, memberTrue "draft" pr, headRef, headSha, baseRef, baseSha,
    memberOrEmpty "body" pr⟩

/-- The identifiers of the commit and of its parents come from the answer as they are. -/
structure CommitView (Number : Type) where
  sha : Option (JsonValue Number)
  treeSha : String
  parents : List (Option (JsonValue Number))

variable [DecidableEq Number]

/-- A list or an object is the same as itself only. -/
def sameKey : Option (JsonValue Number) → Option (JsonValue Number) → Bool
  | none, none => true
  | some .null, some .null => true
  | some (.bool left), some (.bool right) => left == right
  | some (.number left), some (.number right) => decide (left = right)
  | some (.string left), some (.string right) => left == right
  | _, _ => false

abbrev Blobs (Number : Type) : Type := List (Option (JsonValue Number) × Option (JsonValue Number))

def setBlob (blobs : Blobs Number) (path sha : Option (JsonValue Number)) : Blobs Number :=
  if blobs.any fun blob => sameKey blob.1 path then
    blobs.map fun blob => if sameKey blob.1 path then (path, sha) else blob
  else blobs ++ [(path, sha)]

def isBlob (entry : JsonValue Number) : Bool := memberText "type" entry == some "blob"

def blobsOf (tree : List (JsonValue Number)) : Blobs Number :=
  (tree.filter isBlob).foldl (fun blobs entry =>
    setBlob blobs (member "path" entry) (member "sha" entry)) []

end Views

section GitHub

variable {Number : Type} (token : String) (server : Server Number)

def pullPath (prNumber : ℕ) : String := "/pulls/" ++ toString prNumber

def pullRequestName (prNumber : ℕ) : String := "pull request #" ++ toString prNumber

def readPullRequest (prNumber : ℕ) : Inspected (PullRequestView Number) := do
  let pr ← githubGet token server (pullPath prNumber)
  someObject pr
  present (pullRequestView pr)
    (uninspectable (pullRequestName prNumber ++ " response is malformed"))

def commitPath (sha : String) : String := "/git/commits/" ++ sha

def readCommit (sha : String) : Inspected (CommitView Number) := do
  let commit ← githubGet token server (commitPath sha)
  someObject commit
  let malformed := uninspectable ("commit " ++ short sha ++ " response is malformed")
  let treeSha ← present ((member "tree" commit).bind (memberText "sha")) malformed
  let parents ← present (memberArray "parents" commit) malformed
  parents.forM someObject
  return ⟨member "sha" commit, treeSha, parents.map (member "sha")⟩

def treePath (treeSha : String) : String := "/git/trees/" ++ treeSha ++ "?recursive=1"

def readTreeBlobs [DecidableEq Number] (treeSha : String) : Inspected (Blobs Number) := do
  let listing ← githubGet token server (treePath treeSha)
  someObject listing
  reject (memberTrue "truncated" listing)
    (uninspectable ("tree " ++ short treeSha ++ " listing was truncated by the API"))
  let tree ← present (memberArray "tree" listing)
    (uninspectable ("tree " ++ short treeSha ++ " response is malformed"))
  tree.forM someObject
  return blobsOf tree

end GitHub

section Sources

variable {Number : Type} (token : String) (server : Server Number)

/-- The patch comes from the answer as it is. -/
structure LiveFile (Number : Type) where
  path : String
  patch : JsonValue Number
  blobSha : Option String

def liveFile (file : JsonValue Number) : Option (LiveFile Number) := do
  let path ← memberText "filename" file
  return ⟨path, memberOrEmpty "patch" file, memberText "sha" file⟩

def readFile (prNumber : ℕ) (file : JsonValue Number) : Inspected (LiveFile Number) := do
  someObject file
  present (liveFile file)
    (uninspectable (pullRequestName prNumber ++ " file entry is malformed"))

def filesPerPage : ℕ := 100

def maxPages : ℕ := 5

def filesPath (prNumber page : ℕ) : String :=
  pullPath prNumber ++ "/files?per_page=" ++ toString filesPerPage ++ "&page=" ++ toString page

/-- The first argument is the number of the pages that may still be read. -/
def readFiles (prNumber : ℕ) : ℕ → ℕ → Inspected (List (LiveFile Number))
  | 0, _ => .error (uninspectable
      (pullRequestName prNumber ++ " has more files than the reader pages"))
  | remaining + 1, page => do
      let batch ← githubGet token server (filesPath prNumber page)
      let items ← present (asArray batch)
        (uninspectable (pullRequestName prNumber ++ " files response is malformed"))
      let files ← items.mapM (readFile prNumber)
      if items.length < filesPerPage then return files
      let others ← readFiles prNumber remaining (page + 1)
      return files ++ others

/-- The numbers of the script that are natural and the texts that it hashes for other values. -/
structure Numerals (Number : Type) where
  natural : Number → Option ℕ
  hashed : JsonValue Number → Option String

structure SourceIdentity where
  sourceFingerprint : String
  selectedPath : String
  files : List String
  deriving DecidableEq

variable (script : Script) (collation : Collation String) (isUrl : String → Bool)
  (numerals : Numerals Number)

def PullRequestView.natural (view : PullRequestView Number) : Option ℕ :=
  match view.number with
  | some (.number number) => numerals.natural number
  | _ => none

def LiveFile.input (file : LiveFile Number) : SourceFileInput :=
  ⟨file.path, (asText file.patch).getD "", file.blobSha⟩

def sourceInput (repository : String) (view : PullRequestView Number) (prNumber : ℕ)
    (files : List (LiveFile Number)) : SourceAllowlistInput :=
  ⟨repository, repository, prNumber,
    "https://github.com/" ++ repository ++ "/pull/" ++ toString prNumber, view.state,
    view.baseSha, view.headSha, files.map LiveFile.input⟩

def patchSha256 : JsonValue Number → Option String
  | .string text => some (script.digest text.toList)
  | patch => numerals.hashed patch

def envelopeFile (file : LiveFile Number) : Option EnvelopeFile :=
  (patchSha256 script numerals file.patch).map fun sha => ⟨file.path, sha, file.blobSha⟩

/-- These are the checks that precede the hashing of the files. -/
def acceptedMigration (input : SourceAllowlistInput) : Except SourceFailure SourceFileInput := do
  assertRepository input
  assertOpen input
  assertNoUnrelatedExecutables input.files
  let migration ← selectMigration input.files
  assertExactlyOneCanonicalRename migration
  return migration

def createSourceChangeEnvelope (identity : SourceChangeEnvelope) :
    Except SourceFailure SourceChangeEnvelope := do
  let envelope := { identity with sourceFingerprint := script.sha256 identity.identity }
  let issues := sourceChangeEnvelopeIssues script isUrl envelope
  require (issues = []) (.schema issues)
  return envelope

/-- This is `buildCanonicalSourceEnvelope` for patches of any type, and the error is left out where
a value of another type may raise it. -/
def bindSource (repository : String) (view : PullRequestView Number)
    (files : List (LiveFile Number)) : Except (Option SourceFailure) SourceChangeEnvelope := do
  let prNumber ← present (view.natural numerals) none
  require (∀ file ∈ files, isSql file.input → (asText file.patch).isSome) none
  let input := sourceInput repository view prNumber files
  let migration ← (acceptedMigration input).mapError some
  let hashed ← present (files.mapM (envelopeFile script numerals)) none
  (createSourceChangeEnvelope script isUrl ⟨repository, prNumber, input.prUrl, view.baseSha,
    view.headSha, collation.sortBy (·.path) hashed, migration.path, ""⟩).mapError some

def sourceIdentity (files : List (LiveFile Number)) (envelope : SourceChangeEnvelope) :
    SourceIdentity :=
  ⟨envelope.sourceFingerprint, envelope.selectedPath, files.map (·.path)⟩

def readPullRequestSourceIdentity (prNumber : ℕ) (repository : String) :
    Inspected SourceIdentity := do
  let view ← readPullRequest token server prNumber
  let files ← readFiles token server prNumber maxPages 1
  let envelope ← (bindSource script collation isUrl numerals repository view files).mapError
    fun failure => .uninspectable (.unbound failure)
  return sourceIdentity files envelope

end Sources

section DataHub

/-- These are the facts about a dataset that the harness compares. -/
structure DataHubDecisionState where
  markers : List String
  decisionElementCount : ℕ
  totalElementCount : ℕ
  fields : List (String × String)
  lineageguardTags : List String
  duplicateTags : Bool
  deriving DecidableEq

def isMarkerChar (char : Char) : Bool := char.isAlphanum || char == '-'

/-- This is the pattern of a decision marker. -/
def markerPattern : Pattern := sequence [exactly decisionNamespace, repeated isMarkerChar]

/-- The matches do not overlap, and the search goes on behind each of them. -/
def matchesFrom (pattern : Pattern) : ℕ → List Char → List String
  | _, [] => []
  | skipped + 1, _ :: rest => matchesFrom pattern skipped rest
  | 0, char :: rest =>
      match pattern (char :: rest) with
      | some after =>
          String.ofList ((char :: rest).take (rest.length + 1 - after.length)) ::
            matchesFrom pattern (rest.length - after.length) rest
      | none => matchesFrom pattern 0 rest

def decisionMarkers (description : String) : List String :=
  matchesFrom markerPattern 0 description.toList

/-- The key and the value of a line stand on both sides of its first colon with a blank. -/
def splitField : List Char → Option (List Char × List Char)
  | [] => none
  | ':' :: ' ' :: value => some ([], value)
  | char :: rest => (splitField rest).map fun parts => (char :: parts.1, parts.2)

def decisionField (line : List Char) : Option (String × String) :=
  ((splitField line).filter fun parts => parts.1 ≠ []).map fun parts =>
    (String.ofList parts.1, String.ofList parts.2)

def parseDecisionFields (description : String) : List (String × String) :=
  OrderedMap.ofList ((description.toList.splitOn '\n').filterMap decisionField)

def isLineageguard (tag : String) : Bool := decide ("lineageguard".toList <:+: tag.toList)

variable {Number : Type} [Zero Number] [DecidableEq Number]

/-- The envelope is the one that the port of the worker unwraps. -/
def aspectValue (response : JsonValue Number) : Inspected (JsonValue Number) :=
  (extractAspectValue response).mapError fun _ => .thrown

def listed (key : String) (value : JsonValue Number) : List (JsonValue Number) :=
  (memberArray key value).getD []

/-- Only texts have matches, and `null` stands for an empty one. -/
def elementMarkers (element : JsonValue Number) : Inspected (List String) :=
  match memberOrEmpty "description" element with
  | .string description => .ok (decisionMarkers description)
  | _ => .error .thrown

def aspectPath (datasetUrn aspect : String) : String :=
  "/aspects/" ++ Github.encodeURIComponent datasetUrn ++ "?aspect=" ++ aspect ++ "&version=0"

/-- Only a single decision has fields. -/
def decisionFields : List (JsonValue Number) → List (String × String)
  | [element] => parseDecisionFields ((memberText "description" element).getD "")
  | _ => []

/-- The state is computed after both aspects are read. -/
def decisionState (memory tags : JsonValue Number) : Inspected DataHubDecisionState := do
  let memoryValue ← aspectValue memory
  let elements := listed "elements" memoryValue
  let decisionElements ← (filterItems (mentions decisionNamespace) elements).mapError fun _ =>
    .thrown
  let markers ← decisionElements.mapM elementMarkers
  let tagsValue ← aspectValue tags
  let entries := listed "tags" tagsValue
  entries.forM someObject
  let lineageguardTags := (entries.filterMap (memberText "tag")).filter isLineageguard
  return ⟨OrderedMap.members markers.flatten, decisionElements.length, elements.length,
    decisionFields decisionElements, lineageguardTags, !decide lineageguardTags.Nodup⟩

def readDataHubDecisionState (token : String) (server : Server Number) (datasetUrn : String) :
    Inspected DataHubDecisionState := do
  let memory ← gmsGet token server (aspectPath datasetUrn "institutionalMemory")
  let tags ← gmsGet token server (aspectPath datasetUrn "globalTags")
  decisionState memory tags

end DataHub

end LineageGuard.Acceptance.Inspect
