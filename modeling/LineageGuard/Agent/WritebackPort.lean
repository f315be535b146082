import LineageGuard.Agent.Pipeline
import LineageGuard.Domain.CandidateIdentity
import LineageGuard.Domain.RiskBinding
import LineageGuard.Library.Dialogue
import LineageGuard.Library.JsonValues
import Mathlib.Data.List.Infix
import Mathlib.Tactic

/-
This file translates the port of the worker that writes a decision to the metadata service.
-/

namespace LineageGuard.Agent.WritebackPort

open Json Dialogue Domain

section Requests

variable {Number : Type}

inductive AspectName
  | globalTags | institutionalMemory
  deriving DecidableEq

/-- The service is reached with one token for its reads and another one for its writes. -/
structure Gms where
  gmsUrl : String
  readToken : String
  mutationToken : String

/-- A request may fail on its way, be refused or have a body that is no value. -/
inductive Fetched (Number : Type)
  | rejected (message : String)
  | refused (status : ℕ)
  | unreadable (message : String)
  | answered (body : JsonValue Number)

/-- The value of a proposal is sent as its text. -/
inductive Request (Number : Type)
  | read (gmsUrl readToken : String) (aspect : AspectName)
  | ingestProposal (gmsUrl mutationToken : String) (aspect : AspectName)
      (value : JsonValue Number)
  | now

abbrev Response (Number : Type) : Request Number → Type
  | .read _ _ _ => Fetched Number
  | .ingestProposal _ _ _ _ => Fetched Number
  | .now => Number

/-- The errors of the language have texts of their own. -/
inductive Failure
  | thrown (message : String)
  | script
  deriving DecidableEq

abbrev Requests (Number Value : Type) : Type :=
  Program (Request Number) (Response Number) Failure Value

abbrev History (Number : Type) : Type := List (Exchange (Request Number) (Response Number))

def settle {Value : Type} (outcome : Except Failure Value) : Requests Number Value :=
  .done outcome

end Requests

section Values

variable {Number : Type}

/-- This is the value of `value.key`, and there is none for `undefined`. -/
def property (key : String) : JsonValue Number → Except Failure (Option (JsonValue Number))
  | .null => .error .script
  | .object members => .ok ((members.find? fun member => member.1 = key).map (·.2))
  | _ => .ok none

/-- This is the list that the methods of an array run through in `value ?? []`. -/
def itemsOf : Option (JsonValue Number) → Except Failure (List (JsonValue Number))
  | none => .ok []
  | some .null => .ok []
  | some (.array items) => .ok items
  | some _ => .error .script

/-- The methods `find` and `some` stop at the first accepted item. -/
def findItem (accepts : JsonValue Number → Except Failure Bool) :
    List (JsonValue Number) → Except Failure (Option (JsonValue Number))
  | [] => .ok none
  | item :: rest => do
      if ← accepts item then return some item
      findItem accepts rest

def filterItems (accepts : JsonValue Number → Except Failure Bool) :
    List (JsonValue Number) → Except Failure (List (JsonValue Number))
  | [] => .ok []
  | item :: rest => do
      let accepted ← accepts item
      let others ← filterItems accepts rest
      return if accepted then item :: others else others

def isText (text : String) : JsonValue Number → Bool
  | .string content => content == text
  | _ => false

/-- This is `value?.includes(text)` as a condition. -/
def includes (text : String) : Option (JsonValue Number) → Except Failure Bool
  | none => .ok false
  | some .null => .ok false
  | some (.string content) => .ok (decide (text.toList <:+: content.toList))
  | some (.array items) => .ok (items.any (isText text))
  | some _ => .error .script

def isClassName (key : String) : Bool := key ≠ "version" && "com.".toList.isPrefixOf key.toList

variable [Zero Number] [DecidableEq Number]

def isTruthy : JsonValue Number → Bool
  | .null => false
  | .bool value => value
  | .number value => value ≠ 0
  | .string text => text ≠ ""
  | _ => true

/-- The value of an aspect is wrapped in the full name of its class. -/
def extractAspectValue (response : JsonValue Number) : Except Failure (JsonValue Number) :=
  match response with
  | .object members =>
      match (members.find? fun member => member.1 = "aspect").map (·.2) with
      | none => .ok .null
      | some aspect =>
          if isTruthy aspect then
            match aspect with
            | .object fields =>
                match fields.filter fun field => isClassName field.1 with
                | [wrapped] => .ok wrapped.2
                | _ =>
                    match fields.find? fun field => field.1 = "value" with
                    | some field => .ok field.2
                    | none => .ok aspect
            | .array _ => .ok aspect
            | _ => .error .script
          else .ok .null
  | _ => .ok .null

end Values

section Documents

variable (script : Script) (input : WritebackInput)

def datasetUrn : String :=
  "urn:li:dataset:(urn:li:dataPlatform:postgres,lineageguard-canonical.lineageguard.commerce.orders,PROD)"

def decisionMarkerOf : Except NameError String :=
  decisionMarker (canonicalCandidateFingerprint script input.candidate)

def documentLines (marker : String) : List String :=
  ["Marker: " ++ marker,
    "Decision: " ++ input.comparison.grounded.decision.word,
    "Latest verified run: " ++ input.runId,
    "Source field: customer_id",
    "Replacement field: buyer_id",
    "Compatibility window: 30 days",
    "Reasons: " ++ ", ".intercalate (input.comparison.triggeredRuleIds.map RiskRuleId.word),
    "Candidate: EXPAND_MIGRATE_CONTRACT",
    "Validation receipt: " ++ fingerprintPrefix input.validationReceiptFingerprint 16,
    "GitHub review: " ++ input.githubPrUrl,
    "GitHub receipt: " ++ fingerprintPrefix input.githubReceiptFingerprint 16,
    "Rollback: walkthrough/migrations/001_rollback.sql"]

def documentContent : Except NameError String := do
  let marker ← decisionMarkerOf script input
  return "\n".intercalate (documentLines input marker)

/-- The receipt tells whether the write was found or verified. -/
def receiptFingerprint (document outcome : String) : String :=
  script.digest (script.stringify (.object [("documentContent", .string document),
    ("datasetUrn", .string datasetUrn), ("runId", .string input.runId),
    (outcome, .bool true)]))

end Documents

section Writing

variable {Number : Type} [Zero Number] [DecidableEq Number] (gms : Gms)
variable (parse : String → Option (JsonValue Number)) (script : Script)

def parsed (text : String) : Except Failure (JsonValue Number) :=
  Attempt.present (parse text) .script

def gmsRead (aspect : AspectName) : Requests Number (JsonValue Number) := do
  let fetched : Fetched Number ← Program.perform (Request.read gms.gmsUrl gms.readToken aspect)
  match fetched with
  | .rejected message => Program.fail (.thrown message)
  | .refused _ => return .null
  | .unreadable message => Program.fail (.thrown message)
  | .answered body => return body

/-- The text of a value is parsed back to the value. -/
def existingData : JsonValue Number → Except Failure (JsonValue Number)
  | .string text => parsed parse text
  | .null => .ok (.object [])
  | value => .ok value

def afterData : JsonValue Number → Except Failure (JsonValue Number)
  | .string text => parsed parse text
  | .object members => .ok (.object members)
  | .array items => .ok (.array items)
  | _ => .ok (.object [])

def existingItems (key : String) (response : JsonValue Number) :
    Except Failure (List (JsonValue Number)) := do
  let value ← extractAspectValue response
  let data ← existingData parse value
  itemsOf (← property key data)

def afterItems (key : String) (response : JsonValue Number) :
    Except Failure (List (JsonValue Number)) := do
  let value ← extractAspectValue response
  let data ← afterData parse value
  itemsOf (← property key data)

def reviewedTag : String := "urn:li:tag:lineageguard-canonical.Reviewed"

def criticalTag : String := "urn:li:tag:lineageguard-canonical.Critical"

def productionTag : String := "urn:li:tag:lineageguard-canonical.Production"

def lgTags : List String := [reviewedTag, criticalTag, productionTag]

def tagIn (tags : List String) (entry : JsonValue Number) : Except Failure Bool := do
  let tag ← property "tag" entry
  return tag.any fun value => tags.any fun name => isText name value

def unrelated (entry : JsonValue Number) : Except Failure Bool := do
  return !(← tagIn lgTags entry)

def tagEntry (tag : String) : JsonValue Number := .object [("tag", .string tag)]

def mentions (text : String) (element : JsonValue Number) : Except Failure Bool := do
  includes text (← property "description" element)

def decisionNamespace : String := "lineageguard:decision:v1:"

def otherElement (element : JsonValue Number) : Except Failure Bool := do
  return !(← mentions decisionNamespace element)

def ingest (aspect : AspectName) (value : JsonValue Number) (failed : String) :
    Requests Number Unit := do
  let fetched : Fetched Number ←
    Program.perform (Request.ingestProposal gms.gmsUrl gms.mutationToken aspect value)
  match fetched with
  | .rejected message => Program.fail (.thrown message)
  | .refused status => Program.fail (.thrown (failed ++ ": HTTP " ++ status.repr))
  | .unreadable _ => return ()
  | .answered _ => return ()

def newElement (input : WritebackInput) (document : String) (time : Number) : JsonValue Number :=
  .object [("url", .string (if input.githubPrUrl = "" then
      "https://lineageguard.local/runs/" ++ input.runId else input.githubPrUrl)),
    ("description", .string document),
    ("createStamp", .object [("time", .number time),
      ("actor", .string "urn:li:corpuser:lineageguard")])]

/-- The tags and the elements are those of the reads before the writing. -/
structure ExistingState (Number : Type) where
  tags : List (JsonValue Number)
  mergedTags : List (JsonValue Number)
  elements : List (JsonValue Number)

def readExisting : Requests Number (ExistingState Number) := do
  let beforeTags ← gmsRead gms .globalTags
  let beforeMemory ← gmsRead gms .institutionalMemory
  let tags ← settle (existingItems parse "tags" beforeTags)
  let kept ← settle (filterItems unrelated tags)
  let elements ← settle (existingItems parse "elements" beforeMemory)
  return ⟨tags, kept ++ lgTags.map tagEntry, elements⟩

/-- The write is a no-op when the first element with the marker is the document. -/
def isCurrent (marker document : String) (existing : ExistingState Number) :
    Except Failure Bool := do
  let decision ← findItem (mentions marker) existing.elements
  let reviewed ← findItem (tagIn [reviewedTag]) existing.tags
  match decision with
  | none => return false
  | some element =>
      let description ← property "description" element
      return description.any (isText document) && reviewed.isSome

def writeTags (existing : ExistingState Number) : Requests Number Unit :=
  ingest gms .globalTags (.object [("tags", .array existing.mergedTags)])
    "DataHub tag writeback failed"

def writeDocument (input : WritebackInput) (document : String)
    (existing : ExistingState Number) : Requests Number Unit := do
  let time : Number ← Program.perform (Request.now : Request Number)
  let preserved ← settle (filterItems otherElement existing.elements)
  ingest gms .institutionalMemory
    (.object [("elements", .array (preserved ++ [newElement input document time]))])
    "DataHub document writeback failed"

def verified (condition : Bool) (message : String) : Requests Number Unit :=
  settle (Attempt.require condition
    (.thrown ("DataHub write-back verification failed: " ++ message)))

/-- Only the number of the unrelated tags is compared. -/
def verifyReadBack (marker : String) (existing : ExistingState Number) :
    Requests Number Unit := do
  let afterTags ← gmsRead gms .globalTags
  let tags ← settle (afterItems parse "tags" afterTags)
  let reviewed ← settle (findItem (tagIn [reviewedTag]) tags)
  verified reviewed.isSome "Reviewed tag not found on read-back"
  let afterMemory ← gmsRead gms .institutionalMemory
  let elements ← settle (afterItems parse "elements" afterMemory)
  let decision ← settle (findItem (mentions marker) elements)
  verified decision.isSome "decision document not found on read-back"
  let preservedBefore ← settle (filterItems unrelated existing.tags)
  let preservedAfter ← settle (filterItems unrelated tags)
  verified (preservedBefore.length ≤ preservedAfter.length) "existing tags were not preserved"

def attempt (input : WritebackInput) (document : String) : Requests Number WritebackOutput := do
  let existing ← readExisting gms parse
  let marker ← settle ((decisionMarkerOf script input).mapError fun error =>
    .thrown error.message)
  if ← settle (isCurrent marker document existing) then
    return ⟨.succeeded, receiptFingerprint script input document "idempotent"⟩
  writeTags gms existing
  writeDocument gms input document existing
  verifyReadBack gms parse marker existing
  return ⟨.succeeded, receiptFingerprint script input document "verified"⟩

def writebackFailed : Failure → Failure
  | .thrown message =>
      .thrown ("DataHub writeback failed: " ++ String.ofList (message.toList.take 300))
  | .script => .script

def write (input : WritebackInput) : Requests Number WritebackOutput := do
  let document ← settle ((documentContent script input).mapError fun error =>
    .thrown error.message)
  (attempt gms parse script input document).conclude fun result => result.mapError writebackFailed

end Writing

section Ports

variable {Number : Type} [Zero Number] [DecidableEq Number]
variable (parse : String → Option (JsonValue Number)) (script : Script)

/-- These are the variables of the process that the port reads. -/
structure Environment where
  mutationToken : Option String
  gmsUrl : Option String
  writebackEnabled : Option String
  readToken : Option String
  token : Option String

def missingReadToken : String :=
  "DataHub writeback requires DATAHUB_READ_TOKEN (or DATAHUB_TOKEN) to be set separately from DATAHUB_MUTATION_TOKEN — refusing to read using the mutation credential."

def sharedToken : String :=
  "DataHub writeback requires DATAHUB_READ_TOKEN to differ from DATAHUB_MUTATION_TOKEN (least-privilege credential separation) — refusing to proceed with a shared token."

/-- The reads never run under the credential of the writes. -/
def credentials (environment : Environment) (mutationToken : String) : Except Failure Gms :=
  let readToken := (environment.readToken.orElse fun _ => environment.token).getD ""
  if readToken = "" then .error (.thrown missingReadToken)
  else if readToken = mutationToken then .error (.thrown sharedToken)
  else .ok ⟨environment.gmsUrl.getD "http://127.0.0.1:8080", readToken, mutationToken⟩

def createWritebackPort (environment : Environment) :
    Option (WritebackInput → Requests Number WritebackOutput) :=
  let mutationToken := environment.mutationToken.getD ""
  if mutationToken = "" ∨ environment.writebackEnabled = some "false" then none
  else some fun input => do
    let gms ← settle (credentials environment mutationToken)
    write gms parse script input

end Ports

end LineageGuard.Agent.WritebackPort
