import LineageGuard.Acceptance.TreeDelta
import LineageGuard.Agent.Pipeline
import LineageGuard.Domain.CandidateIdentity
import LineageGuard.Domain.RiskBinding
import LineageGuard.Github.Authorization
import LineageGuard.Library.Dialogue
import Mathlib.Tactic

/-
This file translates the port of the worker that publishes a candidate as a draft pull request.
-/

namespace LineageGuard.Agent.PublicationPort

open Json Dialogue Domain Attempt Acceptance

section Requests

/-- An answer has the members that the port reads, and each of them may be missing. -/
structure CommitResponse where
  parents : Option (List (Option String))
  treeSha : Option String
  committerDate : Option String

/-- A count that is no integer counts as missing. -/
structure CompareResponse where
  status : Option String
  aheadBy : Option ℤ
  behindBy : Option ℤ
  baseCommitSha : Option String
  mergeBaseSha : Option String

/-- Each side of a pull request has a branch, a commit and a repository. -/
structure PullSide where
  ref : Option String
  sha : Option String
  fullName : Option String
  deriving DecidableEq

structure PullRequestResponse where
  htmlUrl : Option String
  number : Option ℕ
  draft : Option Bool
  base : PullSide
  head : PullSide
  deriving DecidableEq

structure CommitIdentity where
  name : String
  email : String
  date : String

/-- The author of a commit is its committer. -/
structure NewCommit where
  message : String
  tree : String
  parent : String
  identity : CommitIdentity

/-- The pull request is a draft. -/
structure NewPull where
  title : String
  body : String
  head : String
  base : String

/-- The port reads with the first requests and writes with the last five. -/
inductive Request
  | ref (branch : String)
  | commit (sha : String)
  | compare (base head : String)
  | tree (sha : String)
  | blob (sha : String)
  | pulls (branch base : String)
  | createBlob (content : String)
  | createTree (baseTree : String) (entries : List TreeEntry)
  | createCommit (commit : NewCommit)
  | createRef (ref sha : String)
  | createPull (pull : NewPull)

/-- A new pull request has a link and a number. -/
abbrev Answer : Request → Type
  | .ref _ => Option String
  | .commit _ => CommitResponse
  | .compare _ _ => CompareResponse
  | .tree _ => TreeResponse
  | .blob _ => BlobResponse
  | .pulls _ _ => List PullRequestResponse
  | .createBlob _ => String
  | .createTree _ _ => String
  | .createCommit _ => String
  | .createRef _ _ => Unit
  | .createPull _ => String × ℕ

/-- The detail of a refusal is the beginning of its body. -/
inductive Fetched (Value : Type)
  | answered (value : Value)
  | refused (status : ℕ) (detail : String)
  | failed (message : String)

abbrev Response (request : Request) : Type := Fetched (Answer request)

abbrev Requests (Value : Type) : Type := Program Request Response String Value

def settle {Value : Type} (outcome : Except String Value) : Requests Value := .done outcome

def apiError (status : ℕ) (detail : String) : String :=
  "GitHub API " ++ toString status ++ ": " ++ detail

/-- Every request but the one for the head is answered or raises. -/
def ghFetch (request : Request) : Requests (Answer request) := do
  let fetched : Fetched (Answer request) ← Program.perform request
  match fetched with
  | .answered value => return value
  | .refused status detail => .fail (apiError status detail)
  | .failed message => .fail message

/-- An empty text counts as missing. -/
def filled (text : Option String) (error : String) : Except String String :=
  present (text.filter (· ≠ "")) error

end Requests

section Reconciliation

structure ReconcileGitHubEffectOptions where
  owner : String
  repo : String
  branchName : String
  baseBranch : String
  baseSha : String
  artifacts : List GitHubArtifact

variable (script : Script) (utf8 : List ℕ → String) (options : ReconcileGitHubEffectOptions)

def readHeadSha : Requests (Option String) := do
  let fetched : Fetched (Option String) ← Program.perform (Request.ref options.branchName)
  match fetched with
  | .answered sha => do
      let found ← settle (filled sha "GitHub ref response has no head SHA")
      return some found
  | .refused 404 _ => return none
  | .refused status detail => .fail (apiError status detail)
  | .failed message => .fail message

def publicationBaseSha (commit : CommitResponse) : Except String String :=
  match commit.parents with
  | some [some parent] => do
      require (isGitSha parent)
        "Existing GitHub commit must have exactly one valid publication base parent"
      return parent
  | _ => .error "Existing GitHub commit must have exactly one valid publication base parent"

/-- A safe integer is below 2^53. -/
def isCount : Option ℤ → Bool
  | some count => decide (0 ≤ count ∧ count < 2 ^ 53)
  | none => false

def compareShapeIsValid (publicationBase : String) (response : CompareResponse) : Prop :=
  isCount response.aheadBy ∧ isCount response.behindBy ∧ isGitSha publicationBase ∧
    response.baseCommitSha = some publicationBase ∧ response.mergeBaseSha = some publicationBase

instance (publicationBase : String) (response : CompareResponse) :
    Decidable (compareShapeIsValid publicationBase response) :=
  inferInstanceAs (Decidable (_ ∧ _))

def isIdentical (publicationBase : String) (response : CompareResponse) : Prop :=
  response.status = some "identical" ∧ publicationBase = options.baseSha ∧
    response.aheadBy = some 0 ∧ response.behindBy = some 0

instance (publicationBase : String) (response : CompareResponse) :
    Decidable (isIdentical options publicationBase response) :=
  inferInstanceAs (Decidable (_ ∧ _))

def isAdvanced (publicationBase : String) (response : CompareResponse) : Prop :=
  response.status = some "ahead" ∧ publicationBase ≠ options.baseSha ∧
    response.aheadBy.any (0 < ·) ∧ response.behindBy = some 0

instance (publicationBase : String) (response : CompareResponse) :
    Decidable (isAdvanced options publicationBase response) :=
  inferInstanceAs (Decidable (_ ∧ _))

def assertPublicationBaseReachable (publicationBase : String) : Requests Unit := do
  settle (require (isGitSha options.baseSha) "Current target head is not a valid Git SHA")
  let response ← ghFetch (.compare publicationBase options.baseSha)
  settle (require (compareShapeIsValid publicationBase response ∧
      (isIdentical options publicationBase response ∨ isAdvanced options publicationBase response))
    "GitHub publication base is not an ancestor of the current target head")

def requireTreeSha (commit : CommitResponse) (label : String) : Except String String :=
  filled commit.treeSha (label ++ " GitHub commit has no tree SHA")

abbrev TreeEntries : Type := List (String × TreeEntry)

def readTreeEntries (treeSha : String) : Requests TreeEntries := do
  let response ← ghFetch (.tree treeSha)
  settle (readTree response)

/-- An artifact is a regular file with the decoded content. -/
def assertArtifact (headEntries : TreeEntries) (artifact : GitHubArtifact) : Requests Unit := do
  let entry ← settle (present ((headEntries.lookup artifact.path).filter fun entry =>
      entry.type == "blob" && entry.mode == "100644")
    ("Existing GitHub artifact is missing or not a regular blob: " ++ artifact.path))
  let blob ← ghFetch (.blob entry.sha)
  let content ← settle (present (blob.content.filter fun content =>
      blob.encoding == some "base64" && content != "")
    ("Existing GitHub blob is unreadable: " ++ artifact.path))
  settle (require (decoded utf8 (dropLineEnds content.toList) = artifact.content)
    ("Existing GitHub blob bytes differ: " ++ artifact.path))

def fullName : String := options.owner ++ "/" ++ options.repo

def bindingIsExact (pull : PullRequestResponse) (headSha publicationBase : String) : Prop :=
  pull.base = ⟨some options.baseBranch, some publicationBase, some (fullName options)⟩ ∧
    pull.head = ⟨some options.branchName, some headSha, some (fullName options)⟩

instance (pull : PullRequestResponse) (headSha publicationBase : String) :
    Decidable (bindingIsExact options pull headSha publicationBase) :=
  inferInstanceAs (Decidable (_ ∧ _))

/-- The link and the number of a draft are there. -/
def draftOf (pull : PullRequestResponse) : Option (String × ℕ) := do
  let htmlUrl ← pull.htmlUrl
  let number ← pull.number
  if pull.draft = some true ∧ htmlUrl ≠ "" ∧ number ≠ 0 then some (htmlUrl, number) else none

def checkPulls (pulls : List PullRequestResponse) (headSha publicationBase : String) :
    Except String (String × ℕ) :=
  match pulls with
  | [pull] => do
      let draft ← present (draftOf pull)
        "Existing GitHub effect does not have a valid draft pull request"
      require (bindingIsExact options pull headSha publicationBase)
        "Existing GitHub pull request binding is not exact"
      return draft
  | _ => .error "Existing GitHub effect requires exactly one open draft pull request"

def readExactDraftPullRequest (headSha publicationBase : String) : Requests (String × ℕ) := do
  let pulls ← ghFetch (.pulls options.branchName options.baseBranch)
  settle (checkPulls options pulls headSha publicationBase)

def receiptFingerprint (prUrl headSha : String) : String :=
  script.digest (script.stringify (.object [("prUrl", .string prUrl), ("headSha", .string headSha)]))

/-- The head has one parent, and only the artifacts differ between the two. -/
def checkHead (headSha : String) : Requests String := do
  let headCommit ← ghFetch (.commit headSha)
  let publicationBase ← settle (publicationBaseSha headCommit)
  assertPublicationBaseReachable options publicationBase
  let baseCommit ← ghFetch (.commit publicationBase)
  let headEntries ← readTreeEntries (← settle (requireTreeSha headCommit "Head"))
  let baseEntries ← readTreeEntries (← settle (requireTreeSha baseCommit "Base"))
  settle (assertExactTreeDelta baseEntries headEntries options.artifacts)
  options.artifacts.forM (assertArtifact utf8 headEntries)
  return publicationBase

def reconcileHead (headSha : String) : Requests GitHubReviewOutput := do
  let publicationBase ← checkHead utf8 options headSha
  let (prUrl, prNumber) ← readExactDraftPullRequest options headSha publicationBase
  return ⟨prUrl, prNumber, headSha, options.branchName, receiptFingerprint script prUrl headSha,
    .skippedExact, some publicationBase⟩

/-- A missing branch has no receipt. -/
def reconcileGitHubEffect : Requests (Option GitHubReviewOutput) := do
  match ← readHeadSha options with
  | none => return none
  | some headSha => do
      let receipt ← reconcileHead script utf8 options headSha
      return some receipt

end Reconciliation

section Commits

/-- A zero of the shape stands for a digit. -/
def shaped (shape : String) (text : List Char) : Bool :=
  decide (shape.toList.length = text.length) &&
    (shape.toList.zip text).all fun (mark, char) =>
      if mark = '0' then char.isDigit else mark == char

def isZone (text : List Char) : Bool :=
  shaped "Z" text || shaped "+00:00" text || shaped "-00:00" text

def isRfc3339 (date : String) : Bool :=
  let rest := date.toList.drop 19
  shaped "0000-00-00T00:00:00" (date.toList.take 19) &&
    (isZone rest || [".0", ".00", ".000"].any fun fraction =>
      shaped fraction (rest.take fraction.length) && isZone (rest.drop fraction.length))

structure CommitMetadata where
  treeSha : String
  identity : CommitIdentity

variable (calendar : Github.Calendar)

/-- The date of the base makes the new commit reproducible. -/
def deterministicCommitMetadata (baseCommit : CommitResponse) : Except String CommitMetadata := do
  let treeSha ← filled baseCommit.treeSha "Base GitHub commit has no tree SHA"
  let timestamp ← present ((baseCommit.committerDate.filter isRfc3339).bind calendar.parseDate)
    "Base GitHub commit has no valid RFC3339 date"
  return ⟨treeSha, "LineageGuard Bot", "lineageguard-bot@users.noreply.github.com",
    calendar.toISOString timestamp⟩

end Commits

section Publication

/-- The environment of the worker gives these values. -/
structure Environment where
  owner : String
  repo : String
  baseBranch : String
  sourcePrNumber : Option ℤ

variable (script : Script) (calendar : Github.Calendar) (utf8 : List ℕ → String)
variable (environment : Environment) (input : GitHubReviewInput)

def artifactsOf : List GitHubArtifact :=
  input.candidate.artifacts.map fun artifact => ⟨artifact.path, artifact.content⟩

def publicationName : Except NameError String :=
  generatedBranchName (canonicalCandidateFingerprint script input.candidate)
    environment.sourcePrNumber

/-- The message of a commit does not depend on the run. -/
def commitMessage : String :=
  "LineageGuard migration for candidate " ++
    fingerprintPrefix (canonicalCandidateFingerprint script input.candidate) 12 ++
    "\n\nSafe migration: customer_id → buyer_id (expand-migrate-contract)"

def buildPrBody : String :=
  let rules := ", ".intercalate (input.comparison.triggeredRuleIds.map RiskRuleId.word)
  "\n".intercalate (["## LineageGuard Safe Migration", "", "**Run:** `" ++ input.runId ++ "`",
      "**Transition:** " ++ input.comparison.transition,
      "**Triggered rules:** " ++ (if rules = "" then "none" else rules),
      "**Evidence items:** " ++ toString input.context.evidence.length, "",
      "### Strategy: Expand-Migrate-Contract", "",
      "This migration safely renames `customer_id` → `buyer_id` using the " ++
        "expand-migrate-contract pattern:", "",
      "1. **Expand:** Add `buyer_id` column with sync trigger",
      "2. **Migrate:** Update controlled consumers (dbt models)",
      "3. **Contract:** Deprecate `customer_id` after observation window", "",
      "### Generated Artifacts", ""] ++
    input.candidate.artifacts.map (fun artifact =>
      "- `" ++ artifact.path ++ "` (" ++ artifact.kind.word ++ ")") ++
    ["", "---", "_Generated by LineageGuard_"])

def newPull (branchName : String) : NewPull :=
  ⟨"LineageGuard: safe migration for customer_id → buyer_id", buildPrBody input, branchName,
    environment.baseBranch⟩

def createBlobs : List GitHubArtifact → Requests (List TreeEntry)
  | [] => return []
  | artifact :: rest => do
      let sha ← ghFetch (.createBlob artifact.content)
      let others ← createBlobs rest
      return ⟨artifact.path, "100644", "blob", sha⟩ :: others

/-- The commit is complete before the branch points at it. -/
def createCommit (baseSha : String) : Requests String := do
  let baseCommit ← ghFetch (.commit baseSha)
  let metadata ← settle (deterministicCommitMetadata calendar baseCommit)
  let treeEntries ← createBlobs (artifactsOf input)
  let treeSha ← ghFetch (.createTree metadata.treeSha treeEntries)
  ghFetch (.createCommit ⟨commitMessage script input, treeSha, baseSha, metadata.identity⟩)

def shortened (text : String) (count : ℕ) : String := String.ofList (text.toList.take count)

/-- The whole effect is read again after a pull request whose creation failed. -/
def recoverPull (options : ReconcileGitHubEffectOptions) (commitSha : String) :
    Requests (String × ℕ) := do
  match ← reconcileGitHubEffect script utf8 options with
  | none => .fail "generated branch is missing"
  | some recovered =>
      if recovered.headSha = commitSha then return (recovered.prUrl, recovered.prNumber)
      else
        .fail ("recovered head " ++ shortened recovered.headSha 12 ++
          " does not match local commit " ++ shortened commitSha 12)

def recoveryError (creation recovery : String) : String :=
  "GitHub PR creation failed and exact recovery failed: " ++ shortened creation 120 ++ "; " ++
    shortened recovery 160

def openPull (options : ReconcileGitHubEffectOptions) (commitSha : String) :
    Requests (String × ℕ) :=
  (ghFetch (.createPull (newPull environment input options.branchName))).recover fun creation =>
    (recoverPull script utf8 options commitSha).recover fun recovery =>
      .fail (recoveryError creation recovery)

/-- A branch that exists already is never moved. -/
def publish (options : ReconcileGitHubEffectOptions) : Requests GitHubReviewOutput := do
  let commitSha ← createCommit script calendar input options.baseSha
  ghFetch (.createRef ("refs/heads/" ++ options.branchName) commitSha)
  let (prUrl, prNumber) ← openPull script utf8 environment input options commitSha
  return ⟨prUrl, prNumber, commitSha, options.branchName, receiptFingerprint script prUrl commitSha,
    .created, some options.baseSha⟩

def createReview : Requests GitHubReviewOutput := do
  let branchName ← settle ((publicationName script environment input).mapError NameError.message)
  let baseRef ← ghFetch (.ref environment.baseBranch)
  let baseSha ← settle (filled baseRef "Cannot resolve base branch SHA")
  let options : ReconcileGitHubEffectOptions := ⟨environment.owner, environment.repo, branchName,
    environment.baseBranch, baseSha, artifactsOf input⟩
  match ← reconcileGitHubEffect script utf8 options with
  | some receipt => return receipt
  | none => publish script calendar utf8 environment input options

end Publication

end LineageGuard.Agent.PublicationPort
