import LineageGuard.Datahub.Request
import LineageGuard.Domain.ContextReader
import LineageGuard.Library.Attempt
import Mathlib.Tactic

/-
This file translates the verified replay of a live context collection.
-/

namespace LineageGuard.Datahub

open Attempt Domain Json JsonReader

section Manifest

def verifiedReplayScenarioMarker : String := "lineageguard-canonical-customer-id-rename-v1"

def verifiedReplayRedactionMethod : String := "normalized-domain-evidence-only-v1"

def approvedReadTools : List String :=
  ["search", "list_schema_fields", "get_entities", "get_lineage", "get_lineage_paths_between",
    "get_dataset_queries"]

/-- The other members of the identity of a manifest are literals. -/
structure ManifestIdentity where
  sourceCollectedAt : IsoDateTime
  sourceLiveCollectionFingerprint : String
  sourceImpactContextFingerprint : String
  deriving DecidableEq

structure VerifiedReplayManifest extends ManifestIdentity where
  manifestFingerprint : String
  deriving DecidableEq

structure VerifiedReplayBundle where
  manifest : VerifiedReplayManifest
  sourceLiveContext : Domain.ImpactContext
  deriving DecidableEq

variable (spelling : Spelling)

def protocolClientMembers : List (String × Value) :=
  [("package", .string "@modelcontextprotocol/client"), ("version", .string "2.0.0")]

def officialServerMembers : List (String × Value) :=
  [("package", .string "mcp-server-datahub"),
    ("sourceCommit", .string "9a6946daa7d30eb481c82dd8ee5e15ae6526a3c9"),
    ("transport", .string "stdio"), ("version", .string "0.6.0")]

def ManifestIdentity.members (identity : ManifestIdentity) : List (String × Value) :=
  [("schemaVersion", .number 1), ("sourceScenarioMarker", .string verifiedReplayScenarioMarker),
    ("redactionMethod", .string verifiedReplayRedactionMethod),
    ("protocolClient", .object protocolClientMembers),
    ("officialServer", .object officialServerMembers),
    ("approvedReadTools", texts approvedReadTools),
    ("sourceCollectedAt", .string (spelling.date identity.sourceCollectedAt)),
    ("sourceLiveCollectionFingerprint", .string identity.sourceLiveCollectionFingerprint),
    ("sourceImpactContextFingerprint", .string identity.sourceImpactContextFingerprint)]

def ManifestIdentity.json (identity : ManifestIdentity) : Value :=
  .object (identity.members spelling)

def VerifiedReplayManifest.json (manifest : VerifiedReplayManifest) : Value :=
  .object (manifest.toManifestIdentity.members spelling ++
    [("manifestFingerprint", .string manifest.manifestFingerprint)])

def VerifiedReplayBundle.json (bundle : VerifiedReplayBundle) : Value :=
  .object [("manifest", bundle.manifest.json spelling),
    ("sourceLiveContext", bundle.sourceLiveContext.json spelling)]

end Manifest

section Shapes

variable {spelling : Spelling} (dates : DateTexts spelling)

def readProtocolClient : Value → Option Unit :=
  readObject ["package", "version"] fun members => do
    field "package" (readLiteral "@modelcontextprotocol/client") members
    field "version" (readLiteral "2.0.0") members

def readOfficialServer : Value → Option Unit :=
  readObject ["package", "sourceCommit", "transport", "version"] fun members => do
    field "package" (readLiteral "mcp-server-datahub") members
    field "sourceCommit" (readLiteral "9a6946daa7d30eb481c82dd8ee5e15ae6526a3c9") members
    field "transport" (readLiteral "stdio") members
    field "version" (readLiteral "0.6.0") members

/-- This is the shape of `verifiedReplayManifestSchema`. -/
def readManifest : Value → Option VerifiedReplayManifest :=
  readObject ["schemaVersion", "sourceScenarioMarker", "redactionMethod", "protocolClient",
      "officialServer", "approvedReadTools", "sourceCollectedAt",
      "sourceLiveCollectionFingerprint", "sourceImpactContextFingerprint", "manifestFingerprint"]
      fun members => do
    field "schemaVersion" (readNumber 1) members
    field "sourceScenarioMarker" (readLiteral verifiedReplayScenarioMarker) members
    field "redactionMethod" (readLiteral verifiedReplayRedactionMethod) members
    field "protocolClient" readProtocolClient members
    field "officialServer" readOfficialServer members
    field "approvedReadTools" (readTuple (approvedReadTools.map readLiteral)) members
    let sourceCollectedAt ← field "sourceCollectedAt" (readDate dates) members
    let sourceLive ← field "sourceLiveCollectionFingerprint" readString members
    let sourceContext ← field "sourceImpactContextFingerprint" readString members
    let manifestFingerprint ← field "manifestFingerprint" readString members
    pure ⟨⟨sourceCollectedAt, sourceLive, sourceContext⟩, manifestFingerprint⟩

/-- This is the shape of `verifiedReplayBundleSchema`. -/
def readBundle : Value → Option VerifiedReplayBundle :=
  readObject ["manifest", "sourceLiveContext"] fun members => do
    let manifest ← field "manifest" (readManifest dates) members
    let sourceLiveContext ← field "sourceLiveContext" (readImpactContext dates) members
    pure ⟨manifest, sourceLiveContext⟩

end Shapes

section Issues

variable (script : Script) (spelling : Spelling)

def manifestIdentityIssues (identity : ManifestIdentity) (path : List PathItem) : List Issue :=
  dateIssues identity.sourceCollectedAt (below path "sourceCollectedAt") ++
  fingerprintIssues identity.sourceLiveCollectionFingerprint
    (below path "sourceLiveCollectionFingerprint") ++
  fingerprintIssues identity.sourceImpactContextFingerprint
    (below path "sourceImpactContextFingerprint")

/-- These checks bind a manifest to its own fingerprint and to its source. -/
def bundleBindingIssues (bundle : VerifiedReplayBundle) : List Issue :=
  let manifest := bundle.manifest
  let source := bundle.sourceLiveContext
  issueUnless (manifest.manifestFingerprint =
      script.sha256 (manifest.toManifestIdentity.json spelling))
    (.custom "Replay manifest fingerprint is invalid")
    [.field "manifest", .field "manifestFingerprint"] ++
  issueUnless (source.collectionOrigin = .live) (.custom "Replay source must be a live context")
    [.field "sourceLiveContext", .field "collectionOrigin"] ++
  issueUnless (source.collectionStatus = .complete) (.custom "Replay source must be complete")
    [.field "sourceLiveContext", .field "collectionStatus"] ++
  issueUnless (manifest.sourceLiveCollectionFingerprint = source.collectionFingerprint)
    (.custom "Replay manifest is not bound to the live collection")
    [.field "manifest", .field "sourceLiveCollectionFingerprint"] ++
  issueUnless (manifest.sourceImpactContextFingerprint = source.impactContextFingerprint)
    (.custom "Replay manifest is not bound to the semantic context")
    [.field "manifest", .field "sourceImpactContextFingerprint"] ++
  issueUnless (manifest.sourceCollectedAt = source.collectedAt)
    (.custom "Replay manifest collection time is not bound to its source")
    [.field "manifest", .field "sourceCollectedAt"]

/-- The issues of a part carry the path of the part. -/
def within (name : String) (issues : List Issue) : List Issue :=
  issues.map fun issue => { issue with path := .field name :: issue.path }

/-- These are the issues that `verifiedReplayBundleSchema` reports. -/
def verifiedReplayBundleIssues (bundle : VerifiedReplayBundle) : List Issue :=
  manifestIdentityIssues bundle.manifest.toManifestIdentity [.field "manifest"] ++
  fingerprintIssues bundle.manifest.manifestFingerprint
    [.field "manifest", .field "manifestFingerprint"] ++
  within "sourceLiveContext" (impactContextIssues script spelling bundle.sourceLiveContext) ++
  bundleBindingIssues script spelling bundle

/-- A failed collection holds no context. -/
inductive CollectionResult
  | collectedLive (context : Domain.ImpactContext)
  | collectedVerifiedReplay (context : Domain.ImpactContext)
  deriving DecidableEq

def isReplay : CollectionOrigin → Bool
  | .live => false
  | .verifiedReplay .. => true

/-- These are the issues that `impactCollectionResultSchema` reports. -/
def impactCollectionResultIssues : CollectionResult → List Issue
  | .collectedLive context =>
      within "context" (impactContextIssues script spelling context) ++
      issueUnless (context.collectionOrigin = .live)
        (.custom "Live collection result requires live context provenance") [.field "context"]
  | .collectedVerifiedReplay context =>
      within "context" (impactContextIssues script spelling context) ++
      issueUnless (isReplay context.collectionOrigin)
        (.custom "Replay collection result requires verified replay provenance")
        [.field "context"]

end Issues

section Bundles

variable (script : Script) {spelling : Spelling} (dates : DateTexts spelling)

def replayInvalid : Failure :=
  adapterError .replayInvalid
    "Verified DataHub replay bundle is invalid or does not match the request."

/-- This is `parseBundle`. -/
def parseBundle (input : Value) : Except Failure VerifiedReplayBundle := do
  let bundle ← present (readBundle dates input) replayInvalid
  require (verifiedReplayBundleIssues script spelling bundle = []) replayInvalid
  pure bundle

def readLiveResult : Value → Option CollectionResult :=
  readObject ["outcome", "context"] fun members => do
    field "outcome" (readLiteral "COLLECTED_LIVE") members
    let context ← field "context" (readImpactContext dates) members
    pure (.collectedLive context)

def readReplayResult : Value → Option CollectionResult :=
  readObject ["outcome", "context"] fun members => do
    field "outcome" (readLiteral "COLLECTED_VERIFIED_REPLAY") members
    let context ← field "context" (readImpactContext dates) members
    pure (.collectedVerifiedReplay context)

/-- This is `impactCollectionResultSchema.safeParse` for a result that holds a context. -/
def parseCollectionResult (input : Value) : Option CollectionResult := do
  let result ← readLiveResult dates input <|> readReplayResult dates input
  if impactCollectionResultIssues script spelling result = [] then pure result else none

/-- The manifest names its source by its time and its two fingerprints. -/
def sourceIdentity (context : Domain.ImpactContext) : ManifestIdentity :=
  ⟨context.collectedAt, context.collectionFingerprint, context.impactContextFingerprint⟩

variable (spelling) in
def sourceManifest (context : Domain.ImpactContext) : VerifiedReplayManifest :=
  ⟨sourceIdentity context, script.sha256 ((sourceIdentity context).json spelling)⟩

def createVerifiedReplayBundle (liveResult : Value) : Except Failure VerifiedReplayBundle :=
  match parseCollectionResult script dates liveResult with
  | some (.collectedLive sourceLiveContext) => do
      require (sourceLiveContext.collectionStatus = .complete) replayInvalid
      require (manifestIdentityIssues (sourceIdentity sourceLiveContext) [] = []) .other
      parseBundle script dates ((VerifiedReplayBundle.mk
        (sourceManifest script spelling sourceLiveContext) sourceLiveContext).json spelling)
  | _ => .error replayInvalid

structure CollectionInput where
  changeId : String
  request : Value

def replayInputMatches (input : CollectionInput) (bundle : VerifiedReplayBundle) : Bool :=
  (readCanonicalImpactRequest input.request).isSome &&
    decide (input.changeId = bundle.sourceLiveContext.changeId)

/-- The replayed data differ from the source in their origin. -/
def replayData (bundle : VerifiedReplayBundle) : ImpactContextData :=
  { bundle.sourceLiveContext.toImpactContextData with
    collectionOrigin := .verifiedReplay bundle.manifest.manifestFingerprint
      bundle.sourceLiveContext.collectionFingerprint
      bundle.sourceLiveContext.impactContextFingerprint }

variable (spelling) in
def replayContext (bundle : VerifiedReplayBundle) : Domain.ImpactContext :=
  ⟨replayData bundle, computeImpactContextFingerprint script (replayData bundle),
    computeImpactCollectionFingerprint script spelling (replayData bundle)⟩

variable (spelling) in
def replayResult (bundle : VerifiedReplayBundle) : Except Failure CollectionResult := do
  let context := replayContext script spelling bundle
  require (context.impactContextFingerprint = bundle.sourceLiveContext.impactContextFingerprint)
    replayInvalid
  require (impactContextIssues script spelling context = []) .other
  require (impactCollectionResultIssues script spelling (.collectedVerifiedReplay context) = [])
    .other
  pure (.collectedVerifiedReplay context)

variable (spelling) in
/-- This is the method `collect` of the port over a bundle. -/
def collect (bundle : VerifiedReplayBundle) (input : CollectionInput) :
    Except Failure CollectionResult := do
  require (replayInputMatches input bundle = true) replayInvalid
  replayResult script spelling bundle

/-- A port is known by its bundle. -/
def createVerifiedReplayDataHubContextPort (bundle : Value) :
    Except Failure VerifiedReplayBundle := parseBundle script dates bundle

end Bundles

end LineageGuard.Datahub
