import LineageGuard.Acceptance.Inspect
import Mathlib.Data.List.ReduceOption
import Mathlib.Tactic

/-
This file states what well-formed answers determine for the readers of the acceptance harness.
-/

namespace LineageGuard.Acceptance.Inspect

open Json Attempt Domain Inspection Agent.WritebackPort

section Types

variable {Number : Type}

/-- An answer shows its body to a reader that has a token. -/
def shown (token : String) (server : Server Number) (path : String) : Option (JsonValue Number) :=
  if utf16Length token < 8 then none
  else match server path with
    | .answered body => some body
    | _ => none

def isObject : JsonValue Number → Bool
  | .object _ => true
  | _ => false

def hasText (key : String) (value : JsonValue Number) : Bool := (memberText key value).isSome

def hasNumber (key : String) (value : JsonValue Number) : Bool :=
  match member key value with
  | some (.number _) => true
  | _ => false

/-- These are the types `boolean`, `string` and `string | null` of an optional member. -/
def optionalBool (key : String) (value : JsonValue Number) : Bool :=
  match member key value with
  | none => true
  | some (.bool _) => true
  | _ => false

def optionalText (key : String) (value : JsonValue Number) : Bool :=
  match member key value with
  | none => true
  | some (.string _) => true
  | _ => false

def nullableText (key : String) (value : JsonValue Number) : Bool :=
  match member key value with
  | some .null => true
  | _ => optionalText key value

/-- The readers give these members on without a look at their types. -/
def PullTyped (pr : JsonValue Number) : Prop :=
  hasNumber "number" pr = true ∧ optionalBool "draft" pr = true ∧ nullableText "body" pr = true

def CommitTyped (commit : JsonValue Number) : Prop :=
  hasText "sha" commit = true ∧
    ∀ parent ∈ listed "parents" commit, hasText "sha" parent = true

def EntryTyped (entry : JsonValue Number) : Prop :=
  hasText "path" entry = true ∧ hasText "type" entry = true ∧ hasText "sha" entry = true

def TreeTyped (listing : JsonValue Number) : Prop :=
  optionalBool "truncated" listing = true ∧ ∀ entry ∈ listed "tree" listing, EntryTyped entry

def FileTyped (file : JsonValue Number) : Prop :=
  optionalText "patch" file = true ∧ optionalText "sha" file = true

instance (pr : JsonValue Number) : Decidable (PullTyped pr) := inferInstanceAs (Decidable (_ ∧ _))

instance (commit : JsonValue Number) : Decidable (CommitTyped commit) :=
  inferInstanceAs (Decidable (_ ∧ _))

instance (entry : JsonValue Number) : Decidable (EntryTyped entry) :=
  inferInstanceAs (Decidable (_ ∧ _))

instance (listing : JsonValue Number) : Decidable (TreeTyped listing) :=
  inferInstanceAs (Decidable (_ ∧ _))

instance (file : JsonValue Number) : Decidable (FileTyped file) :=
  inferInstanceAs (Decidable (_ ∧ _))

end Types

section Knowledge

variable {Number : Type}

/-- A well-formed answer determines the view of a pull request. -/
def knownPullRequest (pr : JsonValue Number) : Option (PullRequestView Number) :=
  if PullTyped pr then pullRequestView pr else none

def knownCommit (commit : JsonValue Number) : Option (CommitView Number) := do
  let treeSha ← (member "tree" commit).bind (memberText "sha")
  let parents ← memberArray "parents" commit
  if CommitTyped commit then
    some ⟨member "sha" commit, treeSha, parents.map (member "sha")⟩
  else none

/-- The blobs of a complete listing are its entries of this type, each under its path. -/
def knownBlobs (listing : JsonValue Number) : Option (List (String × String)) := do
  let tree ← memberArray "tree" listing
  if memberTrue "truncated" listing = false ∧ TreeTyped listing then
    some (OrderedMap.ofList ((tree.filter isBlob).map fun entry =>
      ((memberText "path" entry).getD "", (memberText "sha" entry).getD "")))
  else none

def blobsJson (blobs : List (String × String)) : Blobs Number :=
  blobs.map fun blob => (some (.string blob.1), some (.string blob.2))

variable (token : String) (server : Server Number)

def knownFiles (prNumber : ℕ) : ℕ → ℕ → Option (List (LiveFile Number))
  | 0, _ => none
  | remaining + 1, page => do
      let items ← (shown token server (filesPath prNumber page)).bind asArray
      let files ← items.mapM fun file => if FileTyped file then liveFile file else none
      if items.length < filesPerPage then some files
      else (knownFiles prNumber remaining (page + 1)).map (files ++ ·)

def knownSource (script : Script) (collation : Collation String) (isUrl : String → Bool)
    (numerals : Numerals Number) (prNumber : ℕ) (repository : String) : Option SourceIdentity := do
  let pr ← shown token server (pullPath prNumber)
  let view ← knownPullRequest pr
  let files ← knownFiles token server prNumber maxPages 1
  let number ← view.natural numerals
  let envelope ← (buildCanonicalSourceEnvelope script collation isUrl
    (sourceInput repository view number files)).toOption
  return sourceIdentity files envelope

end Knowledge

section Aspects

def namesDecision (description : String) : Bool :=
  decide (decisionNamespace.toList <:+: description.toList)

def fieldsOf : List String → List (String × String)
  | [decision] => parseDecisionFields decision
  | _ => []

/-- This is the state of a dataset with these descriptions and tags. -/
def stateOf (descriptions tags : List (Option String)) : DataHubDecisionState :=
  let decisions := descriptions.reduceOption.filter namesDecision
  let lineageguardTags := tags.reduceOption.filter isLineageguard
  ⟨OrderedMap.members (decisions.flatMap decisionMarkers), decisions.length, descriptions.length,
    fieldsOf decisions, lineageguardTags, !decide lineageguardTags.Nodup⟩

variable {Number : Type} [Zero Number] [DecidableEq Number]

/-- The envelope of an aspect is an object, and its value has the list. -/
def aspectItems (key : String) (body : JsonValue Number) : Option (List (JsonValue Number)) := do
  let aspect ← member "aspect" body
  let value ← (extractAspectValue body).toOption
  if isObject aspect then memberArray key value else none

def aspectTexts (key text : String) (body : JsonValue Number) : Option (List (Option String)) := do
  let items ← aspectItems key body
  if ∀ item ∈ items, isObject item = true ∧ optionalText text item = true then
    some (items.map (memberText text))
  else none

/-- A missing aspect has no items. -/
def knownTexts (key text : String) (fetched : Fetched Number) : Option (List (Option String)) :=
  match fetched with
  | .answered body => aspectTexts key text body
  | .refused status => if status = 404 then some [] else none
  | _ => none

def knownState (token : String) (server : Server Number) (datasetUrn : String) :
    Option DataHubDecisionState := do
  if utf16Length token < 8 then none
  let descriptions ← knownTexts "elements" "description"
    (server (aspectPath datasetUrn "institutionalMemory"))
  let tags ← knownTexts "tags" "tag" (server (aspectPath datasetUrn "globalTags"))
  return stateOf descriptions tags

end Aspects

section Conditions

variable {Number : Type}

/-- An answer with a null or with an unchecked member of another type misleads a reader. -/
def Sound (checked typed : JsonValue Number → Prop) (body : JsonValue Number) : Prop :=
  isNull body = false ∧ (checked body → typed body)

def PullChecked (pr : JsonValue Number) : Prop := (pullRequestView pr).isSome = true

def CommitChecked (commit : JsonValue Number) : Prop :=
  ((member "tree" commit).bind (memberText "sha")).isSome = true ∧
    (memberArray "parents" commit).isSome = true

def TreeChecked (listing : JsonValue Number) : Prop :=
  memberTrue "truncated" listing = false ∧ (memberArray "tree" listing).isSome = true

end Conditions

end LineageGuard.Acceptance.Inspect
