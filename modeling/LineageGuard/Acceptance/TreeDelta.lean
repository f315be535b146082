import LineageGuard.Library.Attempt
import LineageGuard.Library.OrderedMap
import Mathlib.Tactic

/-
This file translates the two comparisons of a published tree with its artifacts.
-/

namespace LineageGuard.Acceptance

open Attempt

section Responses

structure TreeEntry where
  path : String
  mode : String
  type : String
  sha : String
  deriving DecidableEq

structure TreeResponse where
  truncated : Option Bool
  tree : List TreeEntry
  deriving DecidableEq

structure BlobResponse where
  encoding : Option String
  content : Option String
  deriving DecidableEq

structure GitHubArtifact where
  path : String
  content : String
  deriving DecidableEq

def sextet (char : Char) : Option ℕ :=
  if 'A' ≤ char ∧ char ≤ 'Z' then some (char.toNat - 65)
  else if 'a' ≤ char ∧ char ≤ 'z' then some (char.toNat - 71)
  else if '0' ≤ char ∧ char ≤ '9' then some (char.toNat + 4)
  else if char = '+' ∨ char = '-' then some 62
  else if char = '/' ∨ char = '_' then some 63
  else none

def octets : List ℕ → List ℕ
  | first :: second :: third :: fourth :: rest =>
      [first * 4 + second / 16, second % 16 * 16 + third / 4, third % 4 * 64 + fourth] ++
        octets rest
  | [first, second, third] => [first * 4 + second / 16, second % 16 * 16 + third / 4]
  | [first, second] => [first * 4 + second / 16]
  | _ => []

/-- The decoder passes over characters outside of its alphabet and stops at the padding. -/
def base64Bytes (text : List Char) : List ℕ :=
  octets ((text.takeWhile (· != '=')).filterMap sextet)

variable (utf8 : List ℕ → String)

/-- This is `Buffer.from(content, "base64").toString("utf8")`. -/
def decoded (content : List Char) : String := utf8 (base64Bytes content)

/-- The line ends of a content are removed. -/
def dropLineEnds : List Char → List Char
  | '\r' :: '\n' :: rest => dropLineEnds rest
  | '\n' :: rest => dropLineEnds rest
  | char :: rest => char :: dropLineEnds rest
  | [] => []

end Responses

section Acceptance

structure CheckResult where
  name : String
  ok : Bool
  detail : String
  deriving DecidableEq

def short (sha : String) : String := String.ofList (sha.toList.take 12)

/-- The listing keeps the blobs, each with its identifier. -/
def readTreeBlobs (treeSha : String) (response : TreeResponse) :
    Except String (List (String × String)) := do
  reject (response.truncated = some true)
    ("tree " ++ short treeSha ++ " listing was truncated by the API")
  return OrderedMap.ofList ((response.tree.filter fun entry => entry.type = "blob").map fun entry =>
    (entry.path, entry.sha))

def readBlobBytes (utf8 : List ℕ → String) (readBlob : String → BlobResponse) (blobSha : String) :
    Except String String :=
  match readBlob blobSha with
  | ⟨some "base64", some content⟩ => .ok (decoded utf8 content.toList)
  | _ => .error ("blob " ++ short blobSha ++ " is not base64-encoded content")

def changedBlobs (baseBlobs headBlobs : List (String × String)) : List String :=
  (headBlobs.filter fun entry => baseBlobs.lookup entry.1 ≠ some entry.2).map Prod.fst ++
    (baseBlobs.map Prod.fst).filter fun path => path ∉ headBlobs.map Prod.fst

def treeDelta (baseBlobs headBlobs : List (String × String)) (artifacts : List GitHubArtifact) :
    CheckResult :=
  let expectedPaths := OrderedMap.members (artifacts.map (·.path))
  let changed := changedBlobs baseBlobs headBlobs
  let unauthorized := changed.filter fun path => path ∉ expectedPaths
  let absent := expectedPaths.filter fun path => path ∉ changed
  if unauthorized = [] ∧ absent = [] then
    ⟨"generated tree delta", true,
      "exactly " ++ toString expectedPaths.length ++ " artifact paths differ from the base tree"⟩
  else ⟨"generated tree delta", false,
    if unauthorized ≠ [] then "unauthorized paths changed: " ++ String.intercalate ", " unauthorized
    else "expected artifacts absent from the delta: " ++ String.intercalate ", " absent⟩

/-- An artifact fails when its blob is absent or has other bytes. -/
def byteFailures (utf8 : List ℕ → String) (readBlob : String → BlobResponse)
    (headBlobs : List (String × String)) : List GitHubArtifact → Except String (List String)
  | [] => return []
  | artifact :: rest =>
      match headBlobs.lookup artifact.path with
      | none => do
          let others ← byteFailures utf8 readBlob headBlobs rest
          return (artifact.path ++ " (absent from tree)") :: others
      | some blobSha => do
          let bytes ← readBlobBytes utf8 readBlob blobSha
          let others ← byteFailures utf8 readBlob headBlobs rest
          return if bytes ≠ artifact.content then artifact.path :: others else others

def blobBytes (utf8 : List ℕ → String) (readBlob : String → BlobResponse)
    (headBlobs : List (String × String)) (artifacts : List GitHubArtifact) : CheckResult :=
  match byteFailures utf8 readBlob headBlobs artifacts with
  | .error reason => ⟨"generated blob bytes", false, reason⟩
  | .ok [] => ⟨"generated blob bytes", true, "all " ++ toString artifacts.length ++
      " blobs byte-identical to the validated artifacts"⟩
  | .ok failures => ⟨"generated blob bytes", false,
      "bytes differ: " ++ String.intercalate ", " failures⟩

/-- These are the checks of `verifyGitHub` on the trees of a commit and of its parent. -/
def verifyTrees (utf8 : List ℕ → String) (readBlob : String → BlobResponse)
    (headSha baseSha : String) (head base : TreeResponse) (artifacts : List GitHubArtifact) :
    List CheckResult :=
  match readTreeBlobs headSha head with
  | .error reason => [⟨"generated tree delta", false, reason⟩]
  | .ok headBlobs =>
      match readTreeBlobs baseSha base with
      | .error reason => [⟨"generated tree delta", false, reason⟩]
      | .ok baseBlobs => [treeDelta baseBlobs headBlobs artifacts,
          blobBytes utf8 readBlob headBlobs artifacts]

def accepted (results : List CheckResult) : Bool := results.all (·.ok)

end Acceptance

section Reconciliation

def readEntry (entries : List (String × TreeEntry)) (entry : TreeEntry) :
    Except String (List (String × TreeEntry)) := do
  reject (entry.path = "" ∨ entry.mode = "" ∨ entry.type = "" ∨ entry.sha = "" ∨
      entry.path ∈ entries.map Prod.fst)
    "GitHub tree payload contains a malformed or duplicate entry"
  return OrderedMap.set entries entry.path entry

def readTree (response : TreeResponse) : Except String (List (String × TreeEntry)) := do
  require (response.truncated = some false) "GitHub recursive tree response is truncated"
  response.tree.foldlM readEntry []

def treeIdentity (entry : Option TreeEntry) : Option String :=
  entry.map fun entry => entry.mode ++ ":" ++ entry.type ++ ":" ++ entry.sha

def isAuthorizedTreeAncestor (path : String) (baseEntry headEntry : Option TreeEntry)
    (artifactPaths : List String) : Bool :=
  let present := [baseEntry, headEntry].filterMap id
  decide (0 < present.length) &&
    present.all (fun entry => entry.type == "tree" && entry.mode == "040000") &&
    artifactPaths.any fun artifactPath => (path ++ "/").toList.isPrefixOf artifactPath.toList

def changedEntries (baseEntries headEntries : List (String × TreeEntry)) : List String :=
  OrderedMap.members ((headEntries.filter fun entry =>
      treeIdentity (baseEntries.lookup entry.1) ≠ treeIdentity (some entry.2)).map Prod.fst ++
    (baseEntries.map Prod.fst).filter fun path => path ∉ headEntries.map Prod.fst)

def orNone (paths : List String) : String :=
  if paths = [] then "none" else String.intercalate ", " paths

def assertExactTreeDelta (baseEntries headEntries : List (String × TreeEntry))
    (artifacts : List GitHubArtifact) : Except String Unit := do
  let expected := OrderedMap.members (artifacts.map (·.path))
  require (expected.length = artifacts.length) "Generated artifact paths are duplicated"
  let changed := changedEntries baseEntries headEntries
  let unexpected := changed.filter fun path => path ∉ expected ∧
    isAuthorizedTreeAncestor path (baseEntries.lookup path) (headEntries.lookup path) expected = false
  let absent := expected.filter fun path => path ∉ changed
  require (unexpected = [] ∧ absent = []) ("Existing GitHub tree delta is not exact (unexpected: " ++
    orNone unexpected ++ "; absent: " ++ orNone absent ++ ")")

def assertArtifactBytes (utf8 : List ℕ → String) (readBlob : String → BlobResponse)
    (headEntries : List (String × TreeEntry)) (artifact : GitHubArtifact) : Except String Unit := do
  let entry ← present ((headEntries.lookup artifact.path).filter fun entry =>
      entry.type == "blob" && entry.mode == "100644")
    ("Existing GitHub artifact is missing or not a regular blob: " ++ artifact.path)
  let blob := readBlob entry.sha
  let content ← present (blob.content.filter fun content =>
      blob.encoding == some "base64" && content != "")
    ("Existing GitHub blob is unreadable: " ++ artifact.path)
  require (decoded utf8 (dropLineEnds content.toList) = artifact.content)
    ("Existing GitHub blob bytes differ: " ++ artifact.path)

def assertExactArtifactBytes (utf8 : List ℕ → String) (readBlob : String → BlobResponse)
    (headEntries : List (String × TreeEntry)) (artifacts : List GitHubArtifact) :
    Except String Unit :=
  artifacts.forM (assertArtifactBytes utf8 readBlob headEntries)

/-- These are the checks of the reconciler on the trees of a commit and of its parent. -/
def reconcileTrees (utf8 : List ℕ → String) (readBlob : String → BlobResponse)
    (head base : TreeResponse) (artifacts : List GitHubArtifact) : Except String Unit := do
  let headEntries ← readTree head
  let baseEntries ← readTree base
  assertExactTreeDelta baseEntries headEntries artifacts
  assertExactArtifactBytes utf8 readBlob headEntries artifacts

end Reconciliation

end LineageGuard.Acceptance
