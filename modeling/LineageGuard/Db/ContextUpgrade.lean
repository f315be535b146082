import LineageGuard.Db.CanonicalJson
import LineageGuard.Domain.ImpactContext
import Mathlib.Tactic

/-
This file translates the rewrite of the stored contexts by the migration 0004.
-/

namespace LineageGuard.Db

open Json Domain

section Documents

/-- This is `value->key`. -/
def member (key : String) : Value → Option Value
  | .object members => members.lookup key
  | _ => none

/-- This is `value#>path`. -/
def memberAt : List String → Value → Option Value
  | [], value => some value
  | key :: rest, value => (member key value).bind (memberAt rest)

/-- This is `value-key`. -/
def without (key : String) : Value → Value
  | .object members => .object (members.filter fun found => found.1 ≠ key)
  | value => value

/-- This is `jsonb_set(value,path,replacement,false)`. -/
def jsonbSet (replacement : Value) : List String → Value → Value
  | [], _ => replacement
  | key :: rest, .object members => .object (members.map fun found =>
      if found.1 = key then (key, jsonbSet replacement rest found.2) else found)
  | _, value => value

end Documents

section Upgrade

variable (script : Script)

def provenancePath : List String := ["context", "resolution", "provenance"]

/-- These payloads hold a context. -/
def isCollected (payload : Value) : Bool :=
  match member "outcome" payload with
  | some (.string outcome) =>
      outcome == "COLLECTED_LIVE" || outcome == "COLLECTED_VERIFIED_REPLAY"
  | _ => false

/-- The migration stops when a provenance is neither an object nor a list with an entry. -/
def isMigratable (payload : Value) : Bool :=
  !isCollected payload || match memberAt provenancePath payload with
    | some (.object _) => true
    | some (.array items) => !items.isEmpty
    | none => true
    | _ => false

/-- The first update wraps a single provenance object. -/
def wrapProvenance (payload : Value) : Value :=
  match memberAt provenancePath payload with
  | some (.object members) =>
      if isCollected payload then
        jsonbSet (.array [.object members]) provenancePath payload
      else payload
  | _ => payload

/-- The second update computes the collection fingerprint again. -/
def refreshFingerprint (payload : Value) : Value :=
  match member "context" payload with
  | some context =>
      if isCollected payload then
        jsonbSet (.string (sqlSha256 script
          (without "collectionFingerprint" (without "impactContextFingerprint" context))))
          ["context", "collectionFingerprint"] payload
      else payload
  | none => payload

/-- These are the payloads of the context bundles after the migration. -/
def migrateContexts (payloads : List Value) : Except String (List Value) :=
  if payloads.all isMigratable then
    .ok (payloads.map fun payload => refreshFingerprint script (wrapProvenance payload))
  else .error "legacy resolution provenance is not safely migratable"

end Upgrade

section Contexts

variable (script : Script) (spelling : Spelling)

def outcome : CollectionOrigin → String
  | .live => "COLLECTED_LIVE"
  | .verifiedReplay .. => "COLLECTED_VERIFIED_REPLAY"

/-- This is the payload of a bundle that holds the context. -/
def contextPayload (context : ImpactContext) : Value :=
  .object [("outcome", .string (outcome context.collectionOrigin)),
    ("context", context.json spelling)]

/-- A legacy context holds the provenance of its resolution as one object. -/
def legacyPayload (data : ImpactContextData) (entry : ResolutionProvenance)
    (impactContextFingerprint collectionFingerprint : String) : Value :=
  .object [("outcome", .string (outcome data.collectionOrigin)), ("context", .object
    ([("impactContextFingerprint", .string impactContextFingerprint),
      ("collectionFingerprint", .string collectionFingerprint)] ++
      data.membersWith spelling (entry.json spelling)))]

/-- The migration keeps the data and the semantic fingerprint of a context. -/
def upgraded (data : ImpactContextData) (impactContextFingerprint : String) : ImpactContext where
  toImpactContextData := data
  impactContextFingerprint := impactContextFingerprint
  collectionFingerprint := sqlSha256 script (.object (data.members spelling))

theorem outcome_collected (origin : CollectionOrigin) (rest : List (String × Value)) :
    isCollected (.object (("outcome", .string (outcome origin)) :: rest)) = true := by
  cases origin <;> rfl

/-- The migration turns a legacy payload into the payload of the upgraded context. -/
theorem migrate_legacy (data : ImpactContextData) (entry : ResolutionProvenance)
    (impactContextFingerprint collectionFingerprint : String)
    (single : data.resolution = [entry]) :
    refreshFingerprint script (wrapProvenance (legacyPayload spelling data entry
      impactContextFingerprint collectionFingerprint)) =
    contextPayload spelling (upgraded script spelling data impactContextFingerprint) := by
  have wrapped : wrapProvenance (legacyPayload spelling data entry impactContextFingerprint
      collectionFingerprint) = contextPayload spelling
        ⟨data, impactContextFingerprint, collectionFingerprint⟩ := by
    have collected := outcome_collected data.collectionOrigin
    simp [wrapProvenance, legacyPayload, contextPayload, memberAt, member, provenancePath,
      ImpactContextData.membersWith, resolutionJson, resolutionMembers, List.lookup_cons,
      ResolutionProvenance.json, collected, jsonbSet, ImpactContext.json,
      ImpactContextData.members, single]
  have collected := outcome_collected data.collectionOrigin
  rw [wrapped]
  simp [refreshFingerprint, contextPayload, member, List.lookup_cons, collected, jsonbSet, without,
    ImpactContext.json, ImpactContextData.members, ImpactContextData.membersWith, upgraded]

theorem legacy_migratable (data : ImpactContextData) (entry : ResolutionProvenance)
    (impactContextFingerprint collectionFingerprint : String) :
    isMigratable (legacyPayload spelling data entry impactContextFingerprint
      collectionFingerprint) = true := by
  simp [isMigratable, legacyPayload, memberAt, member, provenancePath,
    ImpactContextData.membersWith, resolutionJson, resolutionMembers, List.lookup_cons,
    ResolutionProvenance.json]

/-- A table of one legacy payload is migrated. -/
theorem migrateContexts_legacy (data : ImpactContextData) (entry : ResolutionProvenance)
    (impactContextFingerprint collectionFingerprint : String)
    (single : data.resolution = [entry]) :
    migrateContexts script [legacyPayload spelling data entry impactContextFingerprint
      collectionFingerprint] =
    .ok [contextPayload spelling (upgraded script spelling data impactContextFingerprint)] := by
  rw [migrateContexts, List.all_cons, legacy_migratable, List.map_cons,
    migrate_legacy script spelling data entry _ _ single]
  rfl

end Contexts

end LineageGuard.Db
