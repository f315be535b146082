import LineageGuard.Github.Authorization
import Mathlib.Tactic

/-
This file translates the live GitHub port as a program over its transport, its authority and its
clock.
-/

namespace LineageGuard.Github

open Json Domain Attempt Dialogue

section Values

abbrev Members := List (String × Value)

def object : Option Value → Option Members
  | some (.object members) => some members
  | _ => none

def member (members : Option Members) (key : String) : Option Value :=
  members.bind fun found => found.lookup key

def text : Option Value → Option String
  | some (.string content) => if content.utf8ByteSize ≤ 200000 then some content else none
  | _ => none

/-- A positive number is exact below 2^53. -/
def integer : Option Value → Option ℕ
  | some (.number value) => if 0 < value ∧ value < 2 ^ 53 then some value.toNat else none
  | _ => none

def isBool (expected : Bool) : Option Value → Bool
  | some (.bool value) => value == expected
  | _ => false

def isWord (expected : String) : Option Value → Bool
  | some (.string content) => content == expected
  | _ => false

def entries : Option Value → List Value
  | some (.array items) => items
  | _ => []

structure TreeEntry where
  path : String
  mode : String
  kind : String
  sha : String
  deriving DecidableEq

def strictRecord (value : Option Value) (requiredKeys allowedKeys : List String) :
    Option Members := do
  let members ← object value
  if (members.all fun (key, _) => allowedKeys.contains key) &&
      requiredKeys.all fun key => (members.lookup key).isSome then
    some members
  else none

def strictArray (value : Option Value) (maxLength : ℕ) : Option (List Value) :=
  match value with
  | some (.array items) => if items.length ≤ maxLength then some items else none
  | _ => none

/-- An optional link is a text of this length at most. -/
def linkAccepted : Option Value → Bool
  | none => true
  | some (.string content) => decide (utf16Length content ≤ 1000)
  | _ => false

def sizeAccepted : Option Value → Bool
  | none => true
  | some (.number value) => decide (0 ≤ value ∧ value < 2 ^ 53)
  | _ => false

def treeFailure (operation : GitHubOperation) (message : String) : GitHubEffectError :=
  ⟨if operation = .reconcile then .remoteConflict else .remoteFailure, operation, .never, message,
    none⟩

def parseTreeEntry (raw : Value) : Option TreeEntry := do
  let entry ← strictRecord (some raw) ["path", "mode", "type", "sha"]
    ["path", "mode", "type", "sha", "size", "url"]
  let path ← text (member (some entry) "path")
  let mode ← text (member (some entry) "mode")
  let kind ← text (member (some entry) "type")
  let sha ← text (member (some entry) "sha")
  if path ≠ "" ∧ utf16Length path ≤ 240 ∧ mode ≠ "" ∧ utf16Length mode ≤ 12 ∧
      kind ∈ ["blob", "tree", "commit"] ∧ isGitSha sha ∧
      sizeAccepted (member (some entry) "size") ∧ linkAccepted (member (some entry) "url") then
    some ⟨path, mode, kind, sha⟩
  else none

def parseTreeEntries (operation : GitHubOperation) :
    List String → List Value → Except GitHubEffectError (List TreeEntry)
  | _, [] => .ok []
  | seen, raw :: rest => do
      let entry ← present (parseTreeEntry raw)
        (treeFailure operation "Remote commit tree contains malformed or duplicate entries")
      reject (entry.path ∈ seen)
        (treeFailure operation "Remote commit tree contains malformed or duplicate entries")
      let others ← parseTreeEntries operation (entry.path :: seen) rest
      return entry :: others

def parseTreeResponse (body : Value) (expectedSha : String) (operation : GitHubOperation) :
    Except GitHubEffectError (List TreeEntry) := do
  let failure :=
    treeFailure operation "Remote commit tree envelope is malformed or incomplete"
  let response ← present (strictRecord (some body) ["sha", "truncated", "tree"]
    ["sha", "url", "truncated", "tree"]) failure
  let items ← present (strictArray (member (some response) "tree") 20000) failure
  require (text (member (some response) "sha") = some expectedSha ∧
    isBool false (member (some response) "truncated") = true ∧
    linkAccepted (member (some response) "url") = true) failure
  parseTreeEntries operation [] items

def entryAt (tree : List TreeEntry) (path : String) : Option TreeEntry :=
  tree.find? fun entry => entry.path = path

end Values

section Bytes

def base64Alphabet : List Char :=
  "ABCDEFGHIJKLMNOPQRSTUVWXYZabcdefghijklmnopqrstuvwxyz0123456789+/".toList

def base64Digit (value : ℕ) : Char := base64Alphabet.getD value 'A'

def base64Value (char : Char) : Option ℕ := base64Alphabet.idxOf? char

/-- Three bytes are written as four digits. -/
def encodeBase64 : List ℕ → List Char
  | [] => []
  | [first] => [base64Digit (first / 4), base64Digit (first % 4 * 16), '=', '=']
  | [first, second] => [base64Digit (first / 4), base64Digit (first % 4 * 16 + second / 16),
      base64Digit (second % 16 * 4), '=']
  | first :: second :: third :: rest =>
      [base64Digit (first / 4), base64Digit (first % 4 * 16 + second / 16),
        base64Digit (second % 16 * 4 + third / 64), base64Digit (third % 64)] ++ encodeBase64 rest

/-- Only the last group may be padded. -/
def decodeGroups : List Char → Option (List ℕ)
  | [] => some []
  | [first, second, '=', '='] => do
      let high ← base64Value first
      let low ← base64Value second
      return [high * 4 + low / 16]
  | [first, second, third, '='] => do
      let high ← base64Value first
      let middle ← base64Value second
      let low ← base64Value third
      return [high * 4 + middle / 16, middle % 16 * 16 + low / 4]
  | first :: second :: third :: fourth :: rest => do
      let one ← base64Value first
      let two ← base64Value second
      let three ← base64Value third
      let four ← base64Value fourth
      let others ← decodeGroups rest
      return [one * 4 + two / 16, two % 16 * 16 + three / 4, three % 4 * 64 + four] ++ others
  | _ => none

/-- A line feed is removed together with a carriage return before it. -/
def removeLineBreaks : List Char → List Char
  | [] => []
  | '\r' :: '\n' :: rest => removeLineBreaks rest
  | '\n' :: rest => removeLineBreaks rest
  | char :: rest => char :: removeLineBreaks rest

/-- The digits must be those that the encoding of the bytes gives. -/
def decodedBase64 (value : Option Value) : Option (List ℕ) := do
  let encoded ← text value
  if encoded = "" ∨ 133336 < utf16Length encoded then none
  let compact := removeLineBreaks encoded.toList
  let decoded ← decodeGroups compact
  if decoded.length ≤ 100000 ∧ encodeBase64 decoded = compact then some decoded else none

def JsText.bytes (content : JsText) : List ℕ :=
  content.encoded.flatMap fun char => (String.utf8EncodeChar char).map UInt8.toNat

end Bytes

section Errors

def failed (code : GitHubEffectErrorCode) (operation : GitHubOperation) (kind : GitHubRetry)
    (message : String) : GitHubEffectError := ⟨code, operation, kind, message, none⟩

def ambiguous (message : String) : GitHubEffectError :=
  failed .transportAmbiguous .reconcile .reconcile message

def conflict (operation : GitHubOperation) (message : String) : GitHubEffectError :=
  failed .remoteConflict operation .never message

def statusError (status : ℕ) (operation : GitHubOperation) : GitHubEffectError :=
  let answered (code : GitHubEffectErrorCode) (kind : GitHubRetry) (message : String) :
      GitHubEffectError := ⟨code, operation, kind, message, some status⟩
  if status = 401 ∨ status = 403 then
    answered .permissionDenied .never "GitHub credential is not authorized for this operation"
  else if status = 404 then
    answered .notFound .never "Allowlisted GitHub resource was not found"
  else if status = 409 ∨ status = 422 then
    answered .remoteConflict .reconcile "GitHub state conflicts with the requested effect"
  else if status = 408 ∨ status = 429 then
    answered .rateLimited .retry "GitHub request is temporarily unavailable"
  else if 500 ≤ status then
    answered .remoteFailure .retry "GitHub returned a temporary server failure"
  else answered .remoteFailure .never "GitHub rejected the request"

def redirectError (status : ℕ) (operation : GitHubOperation) : GitHubEffectError :=
  ⟨.redirectRejected, operation, .never, "GitHub redirect was rejected", some status⟩

/-- A classified error keeps everything but its message. -/
def normalizeTransportError (failure : TransportFailure) (operation : GitHubOperation)
    (kind : GitHubRetry) : GitHubEffectError :=
  match failure with
  | .classified error =>
      { error with message := "GitHub operation failed with a classified error" }
  | .other => failed (if kind = .reconcile then .transportAmbiguous else .transportRetryable)
      operation kind "GitHub transport failed"

/-- The status of a response is checked before it is returned. -/
def acceptResponse (operation : GitHubOperation) (accepted : List ℕ)
    (reply : Except TransportFailure GitHubHttpResponse) :
    Except TransportFailure GitHubHttpResponse := do
  let response ← reply
  reject (300 ≤ response.status ∧ response.status < 400)
    (.classified (redirectError response.status operation))
  require (response.status ∈ accepted) (.classified (statusError response.status operation))
  return response

end Errors

section Programs

variable (script : Script) (calendar : Calendar) (options : LiveGitHubOptions)
variable (input : GitHubReviewRequest)

/-- A read is repeated while its error asks for it and an attempt is left. -/
def getTimes (operation : GitHubOperation) (accepted : List ℕ) (resource : Resource) :
    ℕ → Dialog GitHubHttpResponse
  | 0 => .fail (failed .remoteFailure operation .never "GitHub request failed")
  | attempts + 1 => do
      let reply : Except TransportFailure GitHubHttpResponse ← ask (.get resource)
      match acceptResponse operation accepted reply with
      | .ok response => return response
      | .error error => do
          let failure := normalizeTransportError error operation .retry
          if failure.retry ≠ .retry ∨ attempts = 0 then .fail failure
          else getTimes operation accepted resource attempts

def get (operation : GitHubOperation) (resource : Resource)
    (accepted : List ℕ := [200, 201]) : Dialog GitHubHttpResponse :=
  getTimes operation accepted resource options.maxAttempts

/-- A mutation is sent once. -/
def post (operation : GitHubOperation) (mutation : Mutation) : Dialog GitHubHttpResponse := do
  let reply : Except TransportFailure GitHubHttpResponse ← ask (.post mutation)
  match acceptResponse operation [200, 201] reply with
  | .ok response => return response
  | .error error => .fail (normalizeTransportError error operation .reconcile)

def verifyRepositoryAndBase : Dialog Unit := do
  let repository := object (some (← get options .verifyRepository .repository).body)
  let permissions := object (member repository "permissions")
  settle (require (text (member repository "full_name") = some input.repository ∧
    isBool true (member permissions "push") = true ∧
    isBool true (member permissions "pull") = true ∧
    isBool true (member permissions "admin") = false)
    (failed .permissionDenied .verifyRepository .never
      "Repository identity or least-privilege credential capabilities do not match policy"))
  let base := object (some (← get options .verifyBase (.branch input.baseBranch)).body)
  let baseObject := object (member base "object")
  settle (require (text (member base "ref") = some ("refs/heads/" ++ input.baseBranch) ∧
    text (member baseObject "type") = some "commit" ∧
    text (member baseObject "sha") = some input.baseSha ∧ isGitSha input.baseSha)
    (conflict .verifyBase "Base branch no longer points at the validated base commit"))

def commitMessage : String :=
  "LineageGuard migration for " ++ input.runId ++ "\n\nLineageGuard-Effect: " ++
    input.intentFingerprint

def headName : Except GitHubEffectError String :=
  deterministicHead input.candidateFingerprint input.sourcePrNumber

def readTree (treeSha : String) : Dialog (List TreeEntry) := do
  let response ← get options .reconcile (.tree treeSha)
  let tree ← settle (parseTreeResponse response.body treeSha .reconcile)
  return tree.filter fun entry => entry.kind ≠ "tree"

def sameEntry (base head : Option TreeEntry) : Bool :=
  match base, head with
  | some base, some head => base.mode = head.mode && base.kind = head.kind && base.sha = head.sha
  | _, _ => false

def operationInBase (base : Option TreeEntry) : GitHubArtifactOperation → Bool
  | .create => base.isNone
  | .modify _ => base.any fun entry => entry.kind = "blob"

/-- The blob at the path of an artifact has its bytes. -/
def verifyBlob (artifact : GitHubArtifact) (head : TreeEntry) : Dialog Unit := do
  let blob := object (some (← get options .reconcile (.blob head.sha)).body)
  let expectedBytes := artifact.content.bytes
  settle (require (text (member blob "sha") = some head.sha ∧
    text (member blob "encoding") = some "base64" ∧
    integer (member blob "size") = some expectedBytes.length ∧
    decodedBase64 (member blob "content") = some expectedBytes ∧
    (observationAt input.validation.artifacts artifact.path).any fun observation =>
      sha256Bytes script artifact.content = observation.materializedSha256)
    (conflict .reconcile "Remote blob bytes do not match signed validation"))

def verifyArtifacts (baseTree headTree : List TreeEntry) : List GitHubArtifact → Dialog Unit
  | [] => return ()
  | artifact :: rest => do
      let error :=
        conflict .reconcile "Remote commit does not contain the exact authorized artifact delta"
      let head ← settle (present (entryAt headTree artifact.path) error)
      settle (require (operationInBase (entryAt baseTree artifact.path) artifact.operation = true ∧
        head.kind = "blob" ∧ head.mode = "100644") error)
      verifyBlob script options input artifact head
      verifyArtifacts baseTree headTree rest

/-- No path changes but those of the artifacts. -/
def deltaAuthorized (baseTree headTree : List TreeEntry) : Bool :=
  ((baseTree ++ headTree).map (·.path)).all fun path =>
    (input.artifacts.map (·.path)).contains path ||
      sameEntry (entryAt baseTree path) (entryAt headTree path)

def verifyReconciledArtifacts (headTreeSha : String) : Dialog Unit := do
  let baseCommit := object (some (← get options .reconcile (.commit input.baseSha)).body)
  let error := conflict .reconcile "Validated base commit cannot be reconciled"
  let baseTreeSha ← settle (present (text (member (object (member baseCommit "tree")) "sha")) error)
  settle (require (text (member baseCommit "sha") = some input.baseSha ∧ isGitSha baseTreeSha)
    error)
  let baseTree ← readTree options baseTreeSha
  let headTree ← readTree options headTreeSha
  settle (require (deltaAuthorized input baseTree headTree = true)
    (conflict .reconcile "Remote commit contains an unauthorized tree delta"))
  verifyArtifacts script options input baseTree headTree input.artifacts

/-- A branch is missing after a missing response and after a body that is no object. -/
def getHead : Dialog (Option Members) := do
  let head ← settle (headName input)
  let response ← get options .reconcile (.branch head) [200, 404]
  return if response.status = 404 then none else object (some response.body)

def pulls : Dialog (List Value) := do
  let head ← settle (headName input)
  let response ← get options .reconcile (.pulls (options.owner ++ ":" ++ head) input.baseBranch)
  settle (present (strictArray (some response.body) 2)
    (failed .remoteFailure .reconcile .never "GitHub pull response is malformed"))

/-- The pull request is exactly the one that the request describes. -/
def PullMatches (head : String) (pull : Members) (headSha : String) : Prop :=
  let base := object (member (some pull) "base")
  let source := object (member (some pull) "head")
  (integer (member (some pull) "number")).map (fun number =>
    "https://github.com/" ++ input.repository ++ "/pull/" ++ number.repr) =
    text (member (some pull) "html_url") ∧
  isWord "open" (member (some pull) "state") = true ∧
  isBool true (member (some pull) "draft") = true ∧
  text (member (some pull) "title") = some input.title ∧
  text (member (some pull) "body") = some (renderPullRequestBody input) ∧
  text (member base "ref") = some input.baseBranch ∧
  text (member base "sha") = some input.baseSha ∧
  text (member (object (member base "repo")) "full_name") = some input.repository ∧
  text (member source "ref") = some head ∧
  text (member source "sha") = some headSha ∧
  text (member (object (member source "repo")) "full_name") = some input.repository

instance (head : String) (pull : Members) (headSha : String) :
    Decidable (PullMatches input head pull headSha) :=
  inferInstanceAs (Decidable (_ ∧ _ ∧ _ ∧ _ ∧ _ ∧ _ ∧ _ ∧ _ ∧ _ ∧ _ ∧ _))

def receipt (pull : Members) (headSha : String) (reconciled : Bool) (outcome : EffectOutcome) :
    Except GitHubEffectError GitHubReviewReceipt := do
  let error := conflict .reconcile
    "Existing pull request does not exactly match the authorized draft review"
  let head ← headName input
  let number ← present (integer (member (some pull) "number")) error
  let url ← present (text (member (some pull) "html_url")) error
  require (PullMatches input head pull headSha) error
  let created ← present ((text (member (some pull) "created_at")).bind calendar.parseDate) error
  let updated ← present ((text (member (some pull) "updated_at")).bind calendar.parseDate) error
  return {
    target := input.target
    repository := input.repository
    baseBranch := input.baseBranch
    baseSha := input.baseSha
    headBranch := head
    headSha := headSha
    prNumber := number
    prUrl := url
    createdAt := calendar.toISOString created
    updatedAt := calendar.toISOString updated
    candidateFingerprint := input.candidateFingerprint
    artifactSetFingerprint := input.artifactSetFingerprint
    validationReceiptFingerprint := input.validationReceiptFingerprint
    approvalFingerprint := input.approvalFingerprint
    intentFingerprint := input.intentFingerprint
    idempotencyKey := input.idempotencyKey
    inputFingerprint := input.inputFingerprint
    reconciled
    outcome }

/-- The branch points at this commit. -/
def branchCommit (head : String) (ref : Members) : Except GitHubEffectError String := do
  let error := conflict .reconcile "Deterministic branch is malformed"
  let refObject := object (member (some ref) "object")
  let headSha ← present (text (member refObject "sha")) error
  require (text (member (some ref) "ref") = some ("refs/heads/" ++ head) ∧
    text (member refObject "type") = some "commit" ∧ isGitSha headSha) error
  return headSha

/-- The commit was made by this effect and has this tree. -/
def commitTree (headSha : String) (commit : Option Members) : Except GitHubEffectError String := do
  let error := conflict .reconcile
    "Deterministic branch was not created by this exact authorized effect"
  let treeSha ← present (text (member (object (member commit "tree")) "sha")) error
  require (text (member commit "sha") = some headSha ∧
    text (member commit "message") = some (commitMessage input) ∧
    (entries (member commit "parents")).map (fun parent => text (member (object (some parent)) "sha")) =
      [some input.baseSha] ∧ isGitSha treeSha) error
  return treeSha

def reconcile (allowIncomplete : Bool) (outcomeOnFound : EffectOutcome) :
    Dialog (Option GitHubReviewReceipt) := do
  match ← getHead options input with
  | none => return none
  | some ref => do
      let head ← settle (headName input)
      let headSha ← settle (branchCommit head ref)
      let commit := object (some (← get options .reconcile (.commit headSha)).body)
      let headTreeSha ← settle (commitTree input headSha commit)
      verifyReconciledArtifacts script options input headTreeSha
      match ← pulls options input with
      | [] =>
          if allowIncomplete then return none
          else .fail (ambiguous "Authorized branch exists but pull request is not observable")
      | [pull] => do
          let found ← settle (present (object (some pull))
            (failed .remoteFailure .reconcile .never "GitHub pull response is malformed"))
          let result ← settle (receipt calendar input found headSha true outcomeOnFound)
          return some result
      | _ => .fail (conflict .reconcile
          "More than one pull request exists for the deterministic branch")

/-- The paths above a path are its beginnings before a slash. -/
def ancestors (path : String) : List String :=
  (List.range ((segments path.toList).length - 1)).map fun index =>
    String.ofList (['/'].intercalate ((segments path.toList).take (index + 1)))

/-- The base tree has room for the artifact or the blob that it replaces. -/
def baseAccepts (basePaths : List TreeEntry) (artifact : GitHubArtifact) : Bool :=
  let existing := entryAt basePaths artifact.path
  !(basePaths.any fun entry => (artifact.path.toList ++ ['/']).isPrefixOf entry.path.toList) &&
  !((ancestors artifact.path).any fun ancestor =>
    (entryAt basePaths ancestor).any fun entry => entry.kind ≠ "tree") &&
  (match artifact.operation with
    | .create => existing.isNone
    | .modify expectedBaseBlobSha => existing.any fun entry =>
        entry.kind = "blob" && entry.sha = expectedBaseBlobSha)

/-- The base tree is read and has room for every artifact. -/
def readBase : Dialog String := do
  let baseCommit := object (some (← get options .readBaseCommit (.commit input.baseSha)).body)
  let error := conflict .readBaseCommit "Validated base commit is unavailable"
  let baseTree ← settle (present (text (member (object (member baseCommit "tree")) "sha")) error)
  settle (require (text (member baseCommit "sha") = some input.baseSha ∧ isGitSha baseTree) error)
  let response ← get options .readBaseCommit (.tree baseTree)
  let basePaths ← settle (parseTreeResponse response.body baseTree .readBaseCommit)
  settle (require (input.artifacts.all (baseAccepts basePaths) = true)
    (conflict .readBaseCommit
      "Validated artifact operation or base blob does not match the exact base tree"))
  return baseTree

def isAttemptFence (text : String) : Bool := isOpaqueReservation text

def consume (canonicalEffectFingerprint : String) : Dialog Unit := do
  let computed ← settle (githubEffectFingerprint script input)
  settle (require (computed = canonicalEffectFingerprint)
    (failed .authorizationRejected .reconcile .never
      "Canonical GitHub effect changed after trusted verification"))
  let reply : AuthorityReply ConsumedAuthorization ←
    ask (.consumeCurrentEffect canonicalEffectFingerprint)
  let malformed := ambiguous "Trusted effect consumption acknowledgement is malformed"
  match reply with
  | .failed => .fail (ambiguous "Trusted effect reservation consumption outcome is unknown")
  | .malformed => .fail malformed
  | .answered consumed => do
      settle (require (consumed.canonicalEffectFingerprint = canonicalEffectFingerprint) malformed)
      let current ← validInvokeBy calendar consumed.invokeBy
      settle (require (current = true ∧ isAttemptFence consumed.attemptFence) malformed)

def malformedReceipt (operation : GitHubOperation) (message : String) : GitHubEffectError :=
  failed .remoteFailure operation .reconcile message

/-- The response names the object that was created. -/
def createdSha (operation : GitHubOperation) (message : String) (response : GitHubHttpResponse) :
    Except GitHubEffectError String := do
  let sha ← present (text (member (object (some response.body)) "sha"))
    (malformedReceipt operation message)
  require (isGitSha sha) (malformedReceipt operation message)
  return sha

def createBlobs : List GitHubArtifact → Dialog (List NewTreeEntry)
  | [] => return []
  | artifact :: rest => do
      let response ← post .createBlob (.blob artifact.content)
      let blobSha ← settle (createdSha .createBlob "GitHub blob receipt is malformed" response)
      let others ← createBlobs rest
      return ⟨artifact.path, blobSha⟩ :: others

/-- The commit is the one that was asked for. -/
def createdCommit (treeSha : String) (response : GitHubHttpResponse) :
    Except GitHubEffectError String := do
  let error := malformedReceipt .createCommit "GitHub commit receipt is malformed"
  let commit := object (some response.body)
  let headSha ← present (text (member commit "sha")) error
  require (isGitSha headSha ∧ text (member commit "message") = some (commitMessage input) ∧
    text (member (object (member commit "tree")) "sha") = some treeSha ∧
    (entries (member commit "parents")).map (fun parent => text (member (object (some parent)) "sha")) =
      [some input.baseSha]) error
  return headSha

def createPull (headSha : String) (outcome : EffectOutcome) : Dialog GitHubReviewReceipt := do
  match ← pulls options input with
  | [] => do
      let head ← settle (headName input)
      let response ← post .createPullRequest
        (.pull input.title (renderPullRequestBody input) head input.baseBranch)
      let pull ← settle (present (object (some response.body))
        (malformedReceipt .createPullRequest "GitHub pull receipt is malformed"))
      settle (receipt calendar input pull headSha false outcome)
  | [existing] => do
      let pull ← settle (present (object (some existing))
        (failed .remoteFailure .createPullRequest .never "GitHub pull response is malformed"))
      settle (receipt calendar input pull headSha true outcome)
  | _ => .fail (conflict .createPullRequest
      "More than one pull request exists for the deterministic branch")

/-- The tree, the commit and the branch follow the blobs. -/
def createBranch (baseTree : String) : Dialog String := do
  let treeEntries ← createBlobs input.artifacts
  let treeSha ← settle (createdSha .createTree "GitHub tree receipt is malformed"
    (← post .createTree (.tree baseTree treeEntries)))
  let headSha ← settle (createdCommit input treeSha
    (← post .createCommit (.commit (commitMessage input) treeSha input.baseSha)))
  let head ← settle (headName input)
  let createdRef := object
    (some (← post .createRef (.ref ("refs/heads/" ++ head) headSha)).body)
  settle (require (text (member createdRef "ref") = some ("refs/heads/" ++ head) ∧
    text (member (object (member createdRef "object")) "sha") = some headSha)
    (malformedReceipt .createRef "GitHub branch receipt is malformed"))
  return headSha

def create (canonicalEffectFingerprint : String) : Dialog GitHubReviewReceipt := do
  let baseTree ← readBase options input
  consume script calendar input canonicalEffectFingerprint
  let headSha ← createBranch input baseTree
  createPull calendar options input headSha .created

/-- The effect is looked for again while an attempt is left. -/
def recoverTimes : ℕ → Dialog GitHubReviewReceipt
  | 0 => .fail (ambiguous "GitHub write outcome remains unknown after bounded reconciliation")
  | attempts + 1 => do
      match ← reconcile script calendar options input true .created with
      | some found => return found
      | none => recoverTimes attempts

def recoverCreation (error : GitHubEffectError) : Dialog GitHubReviewReceipt :=
  let failure := normalizeTransportError (.classified error) .reconcile .reconcile
  if failure.retry = .never then .fail failure
  else recoverTimes script calendar options input options.maxAttempts

def createMigrationReview : Dialog GitHubReviewReceipt := do
  settle (validateRequest script options input)
  let authorization ← resolveAuthorization script calendar input
  verifyRepositoryAndBase options input
  match ← reconcile script calendar options input false .skippedExact with
  | some reconciled => return reconciled
  | none =>
      if authorization.state = .consumed then
        .fail (ambiguous "The authorized effect was already consumed and is not yet observable")
      else
        (create script calendar options input authorization.canonicalEffectFingerprint).recover
          (recoverCreation script calendar options input)

end Programs

end LineageGuard.Github
