import LineageGuard.Library.Interleaving
import LineageGuard.Scenario.Graph
import LineageGuard.Scenario.ReceiptLog
import Mathlib.Tactic

/-
This file translates the bootstrap and the attestation of the live target.
-/

namespace LineageGuard.Target

open Attempt Dialogue Interleaving JsonText Scenario

section Bindings

def canonicalGmsUrl : String := "http://127.0.0.1:8080"

def targetStateSchemaVersion : ℕ := 2

def targetMarkerNamespace : String := "io.lineageguard.target-attestation/v2"

def targetMarkerName : String := "LineageGuard canonical target attestation"

def targetMarkerDescription : String :=
  "Create-only bootstrap marker for the canonical LineageGuard DataHub target."

def serverIdentityNamespace : String := "datahub-telemetry-client-id/v1"

/-- An identifier consists of 64 lower hexadecimal digits. -/
abbrev InstanceId := { text : String // isSha256 text = true }

/-- Every binding has the one schema version and the one canonical URL. -/
structure TargetInstanceBinding where
  liveInstanceId : InstanceId
  serverIdentity : InstanceId
  deriving DecidableEq

/-- These functions belong to the runtime and to the SDK. -/
structure Platform where
  sha256 : String → String
  makeDataplatformInstanceUrn : String → String → String

/-- The runtime and the SDK document these facts. -/
structure Platform.Documented (platform : Platform) : Prop where
  digests : ∀ text, isSha256 (platform.sha256 text) = true
  instances : ∀ name target,
    "urn:li:dataPlatformInstance:".toList <+: (platform.makeDataplatformInstanceUrn name target).toList

def targetMarkerUrn (platform : Platform) : String :=
  platform.makeDataplatformInstanceUrn "datahub" "lineageguard-canonical-target-attestation-v2"

def targetFingerprint (platform : Platform) (binding : TargetInstanceBinding) : String :=
  platform.sha256 (canonicalGmsUrl ++ "|" ++ binding.serverIdentity.val ++ "|" ++
    binding.liveInstanceId.val)

/-- The entries of the properties are in the order of their keys. -/
structure DataPlatformInstanceProperties where
  name : Option String
  description : Option String
  customProperties : Option (List (String × String))
  deriving DecidableEq

def targetMarkerAspect (binding : TargetInstanceBinding) : DataPlatformInstanceProperties where
  name := some targetMarkerName
  description := some targetMarkerDescription
  customProperties := some
    [("lineageguard.canonicalGmsUrl", canonicalGmsUrl),
      ("lineageguard.liveInstanceId", binding.liveInstanceId.val),
      ("lineageguard.namespace", targetMarkerNamespace),
      ("lineageguard.serverIdentitySha256", binding.serverIdentity.val)]

end Bindings

section StateText

def bindingNode (binding : TargetInstanceBinding) : Node :=
  .object [("canonical_url", .string canonicalGmsUrl),
    ("live_instance_id", .string binding.liveInstanceId.val),
    ("schema_version", .number (wholeText targetStateSchemaVersion)),
    ("server_identity", .string binding.serverIdentity.val)]

def encodeBinding (binding : TargetInstanceBinding) : List Char := write (bindingNode binding)

def bindingKeys : List String :=
  ["schema_version", "canonical_url", "live_instance_id", "server_identity"]

/-- This is the type check and the comparison with the one version. -/
def isSchemaVersion : Option Node → Bool
  | some (.number text) => !isRealText text && decide (wholeNumber text = targetStateSchemaVersion)
  | _ => false

def instanceIdOf : Option Node → Option InstanceId
  | some (.string text) => if valid : isSha256 text = true then some ⟨text, valid⟩ else none
  | _ => none

def isCanonicalUrl : Option Node → Bool
  | some (.string text) => decide (text = canonicalGmsUrl)
  | _ => false

def parseBinding : Node → Except String TargetInstanceBinding
  | .object members => do
      require (sameElements (members.map (·.1)) bindingKeys) "TARGET_STATE_INVALID"
      require (isSchemaVersion (memberOf members "schema_version")) "TARGET_STATE_VERSION_INVALID"
      require (isCanonicalUrl (memberOf members "canonical_url")) "TARGET_STATE_URL_MISMATCH"
      let liveInstanceId ← present (instanceIdOf (memberOf members "live_instance_id"))
        "TARGET_STATE_INSTANCE_ID_INVALID"
      let serverIdentity ← present (instanceIdOf (memberOf members "server_identity"))
        "TARGET_STATE_SERVER_IDENTITY_INVALID"
      return ⟨liveInstanceId, serverIdentity⟩
  | _ => .error "TARGET_STATE_INVALID"

def parseState (text : List Char) : Except String TargetInstanceBinding := do
  let raw ← present (loads text) "TARGET_STATE_INVALID"
  parseBinding raw

end StateText

section Calls

/-- These are the operations on the state file and on the server. -/
inductive Call
  | tokenHex
  | openState
  | stateSize
  | readState
  | createState
  | writeState (char : Char)
  | exists (urn : String)
  | markerProperties
  | markerStatus
  | serverConfig
  | telemetryStatus
  | telemetryClientId
  | createMarker (aspect : DataPlatformInstanceProperties)

/-- A status tells whether the entity is removed, and a failed creation replies false. -/
def Reply : Call → Type
  | .tokenHex => InstanceId
  | .openState => Bool
  | .stateSize => ℕ
  | .readState => List Char
  | .createState => Bool
  | .writeState _ => Unit
  | .exists _ => Bool
  | .markerProperties => Option DataPlatformInstanceProperties
  | .markerStatus => Option Bool
  | .serverConfig => Option String
  | .telemetryStatus => Option Bool
  | .telemetryClientId => Option String
  | .createMarker _ => Bool

abbrev Remote (Value : Type) := Program Call Reply String Value

def ask (call : Call) : Remote (Reply call) := Program.perform call

def attempt {Value : Type} (result : Except String Value) : Remote Value := .done result

end Calls

section Store

def loadOptional : Remote (Option TargetInstanceBinding) := do
  let opened : Bool ← ask .openState
  if opened then
    let size : ℕ ← ask .stateSize
    attempt (require (size ≤ 1024) "TARGET_STATE_TOO_LARGE")
    let text : List Char ← ask .readState
    let binding ← attempt (parseState text)
    pure (some binding)
  else pure none

def loadRequired : Remote TargetInstanceBinding := do
  let binding ← loadOptional
  attempt (present binding "TARGET_INSTANCE_STATE_MISSING")

def writeAll : List Char → Remote Unit
  | [] => pure ()
  | char :: rest => do
      let _ : Unit ← ask (.writeState char)
      writeAll rest

/-- The file is created first and its content is written afterwards. -/
def create (serverIdentity : String) : Remote TargetInstanceBinding := do
  let identity ← attempt (present (instanceIdOf (some (.string serverIdentity)))
    "TARGET_SERVER_IDENTITY_INVALID")
  let token : InstanceId ← ask .tokenHex
  let binding : TargetInstanceBinding := ⟨token, identity⟩
  let created : Bool ← ask .createState
  if created then
    writeAll (encodeBinding binding)
    pure binding
  else loadRequired

end Store

section Server

variable (platform : Platform)

def whiteSpaces : List ℕ :=
  [9, 10, 11, 12, 13, 28, 29, 30, 31, 32, 133, 160, 5760, 8192, 8193, 8194, 8195, 8196, 8197, 8198,
    8199, 8200, 8201, 8202, 8232, 8233, 8239, 8287, 12288]

def isClientId (clientId : String) : Bool :=
  decide (8 ≤ clientId.length) && decide (clientId.length ≤ 256) &&
    clientId.toList.all fun char => !whiteSpaces.contains char.toNat && decide (33 ≤ char.toNat)

def identityPayload (name : String) : String := serverIdentityNamespace ++ "\x00" ++ name

/-- The process environment may replace the identity of the server. -/
def readServerIdentity (skip : Bool) : Remote String :=
  if skip then pure (platform.sha256 (identityPayload "local-dev-bypass"))
  else do
    let config : Option String ← ask .serverConfig
    attempt (require (config = some "true") "TARGET_SERVER_CONFIG_INVALID")
    let status : Option Bool ← ask .telemetryStatus
    attempt (require (status ≠ some true) "TARGET_SERVER_IDENTITY_MISSING")
    let telemetry : Option String ← ask .telemetryClientId
    let clientId ← attempt (present (telemetry.filter isClientId) "TARGET_SERVER_IDENTITY_MISSING")
    pure (platform.sha256 (identityPayload clientId))

def absent : List String → Remote Unit
  | [] => pure ()
  | urn :: rest => do
      let found : Bool ← ask (.exists urn)
      attempt (require (found = false) ("TARGET_BOOTSTRAP_CANONICAL_URN_EXISTS:" ++ urn))
      absent rest

def assertCanonicalUrnsAbsent (graph : ExpectedGraph) : Remote Unit :=
  absent graph.allowedMutationUrns

def readMarker : Remote (Option DataPlatformInstanceProperties) := do
  let aspect : Option DataPlatformInstanceProperties ← ask .markerProperties
  match aspect with
  | some aspect => do
      let status : Option Bool ← ask .markerStatus
      attempt (require (status ≠ some true) "TARGET_INSTANCE_MARKER_CONFLICT")
      pure (some aspect)
  | none => do
      let found : Bool ← ask (.exists (targetMarkerUrn platform))
      attempt (require (found = false) "TARGET_INSTANCE_MARKER_CONFLICT")
      pure none

end Server

section Attestation

variable (platform : Platform) (skip : Bool)

/-- The marker is exactly the one of the binding. -/
def checkMarker (binding : TargetInstanceBinding) (marker : DataPlatformInstanceProperties) :
    Except String Unit := do
  let properties ← present marker.customProperties "TARGET_INSTANCE_MARKER_CONFLICT"
  let markerId := properties.lookup "lineageguard.liveInstanceId"
  require (markerId ≠ some "") "TARGET_INSTANCE_MARKER_EMPTY"
  require (markerId = some binding.liveInstanceId.val) "TARGET_INSTANCE_ID_MISMATCH"
  require (marker = targetMarkerAspect binding) "TARGET_INSTANCE_MARKER_CONFLICT"

def attestTargetInstance (canonicalUrl : String) : Remote TargetInstanceBinding := do
  attempt (require (canonicalUrl = canonicalGmsUrl) "CANONICAL_DATAHUB_GMS_URL_REQUIRED")
  let binding ← loadRequired
  let observed ← readServerIdentity platform skip
  attempt (require (observed = binding.serverIdentity.val) "TARGET_SERVER_IDENTITY_MISMATCH")
  let found ← readMarker platform
  let marker ← attempt (present found "TARGET_INSTANCE_MARKER_MISSING")
  attempt (checkMarker binding marker)
  pure binding

structure TargetBootstrapPlan where
  binding : TargetInstanceBinding
  alreadyBootstrapped : Bool
  deriving DecidableEq

/-- A plan without a marker takes the stored binding or stores a new one. -/
def planBinding (serverIdentity : String) (stored : Option TargetInstanceBinding) :
    Remote TargetInstanceBinding :=
  match stored with
  | some binding => do
      attempt (require (binding.serverIdentity.val = serverIdentity)
        "TARGET_SERVER_IDENTITY_MISMATCH")
      pure binding
  | none => create serverIdentity

def prepareTargetBootstrap (graph : ExpectedGraph) (canonicalUrl : String) :
    Remote TargetBootstrapPlan := do
  attempt (require (canonicalUrl = canonicalGmsUrl) "CANONICAL_DATAHUB_GMS_URL_REQUIRED")
  let serverIdentity ← readServerIdentity platform skip
  assertCanonicalUrnsAbsent graph
  let marker ← readMarker platform
  let stored ← loadOptional
  match marker with
  | some _ => do
      let binding ← attempt (present stored "TARGET_INSTANCE_MARKER_CONFLICT")
      let _ ← attestTargetInstance platform skip canonicalUrl
      pure ⟨binding, true⟩
  | none => do
      let binding ← planBinding serverIdentity stored
      pure ⟨binding, false⟩

def createMarker (graph : ExpectedGraph) (binding : TargetInstanceBinding) : Remote Unit := do
  assertCanonicalUrnsAbsent graph
  let marker ← readMarker platform
  attempt (require (marker = none) "TARGET_INSTANCE_MARKER_CONFLICT")
  let observed ← readServerIdentity platform skip
  attempt (require (observed = binding.serverIdentity.val) "TARGET_SERVER_IDENTITY_MISMATCH")
  let created : Bool ← ask (.createMarker (targetMarkerAspect binding))
  attempt (require (created = true) "CREATE_CONFLICT")

/-- The marker is created unless the plan found it. -/
def ensureMarker (graph : ExpectedGraph) (plan : TargetBootstrapPlan) : Remote Unit :=
  if plan.alreadyBootstrapped then pure () else createMarker platform skip graph plan.binding

def completeTargetBootstrap (graph : ExpectedGraph) (plan : TargetBootstrapPlan) :
    Remote TargetInstanceBinding := do
  ensureMarker platform skip graph plan
  let observed ← attestTargetInstance platform skip canonicalGmsUrl
  attempt (require (targetFingerprint platform observed = targetFingerprint platform plan.binding)
    "TARGET_INSTANCE_FINGERPRINT_MISMATCH")
  assertCanonicalUrnsAbsent graph
  pure observed

end Attestation

section Command

/-- The command line, the gate of its environment and both configurations determine a call. -/
structure Invocation where
  execute : Bool
  confirmation : Option String
  walkthroughEnvironment : Option String
  readConfig : Except String String
  bootstrapConfig : Except String String

structure BootstrapResult where
  executed : Bool
  scenarioId : String
  canonicalGmsUrl : String
  markerUrn : String
  alreadyBootstrapped : Option Bool
  targetFingerprint : Option String
  deriving DecidableEq

variable (platform : Platform) (skip : Bool)

def BootstrapResult.start (graph : ExpectedGraph) : BootstrapResult :=
  ⟨false, graph.scenarioId, Target.canonicalGmsUrl, targetMarkerUrn platform, none, none⟩

/-- A plan that found no marker is prepared again before the marker is created. -/
def executeBootstrap (graph : ExpectedGraph) (invocation : Invocation) (server : String) :
    Remote BootstrapResult := do
  let plan ← prepareTargetBootstrap platform skip graph server
  if plan.alreadyBootstrapped then
    pure { BootstrapResult.start platform graph with
      alreadyBootstrapped := some true
      targetFingerprint := some (targetFingerprint platform plan.binding) }
  else
    let repeated ← prepareTargetBootstrap platform skip graph server
    attempt (require (repeated = plan) "TARGET_BOOTSTRAP_PLAN_CHANGED")
    let bootstrapServer ← attempt invocation.bootstrapConfig
    attempt (require (bootstrapServer = canonicalGmsUrl) "DATAHUB_BOOTSTRAP_URL_MISMATCH")
    let binding ← completeTargetBootstrap platform skip graph plan
    pure { BootstrapResult.start platform graph with
      executed := true
      alreadyBootstrapped := some false
      targetFingerprint := some (targetFingerprint platform binding) }

def bootstrapTarget (graph : ExpectedGraph) (invocation : Invocation) : Remote BootstrapResult :=
  if invocation.execute then do
    attempt (require (invocation.walkthroughEnvironment = some "canonical") "CANONICAL_ENV_REQUIRED")
    attempt (require (invocation.confirmation = some graph.scenarioId)
      "SCENARIO_CONFIRMATION_REQUIRED")
    let server ← attempt invocation.readConfig
    executeBootstrap platform skip graph invocation server
  else pure (BootstrapResult.start platform graph)

end Command

section Worlds

/-- The process that created the file holds its descriptor. -/
structure StateFile where
  text : List Char
  writer : ℕ
  deriving DecidableEq

/-- A creation that was sent may still arrive at the server. -/
structure World where
  file : Option StateFile
  marker : Option DataPlatformInstanceProperties
  markerRemoved : Option Bool
  sent : List DataPlatformInstanceProperties
  existing : List String
  deriving DecidableEq

/-- Nothing is stored on either side at first. -/
def World.empty : World := ⟨none, none, none, [], []⟩

/-- These facts of the server do not change. -/
structure Server where
  noCode : Option String
  telemetryRemoved : Option Bool
  clientId : Option String

structure Choice where
  token : InstanceId
  answered : Bool

/-- Canonical entities appear and vanish, and a creation arrives late. -/
inductive Change
  | appear (urn : String)
  | vanish (urn : String)
  | arrive (index : ℕ)

/-- A creation never overwrites the marker. -/
def World.createMarker (world : World) (aspect : DataPlatformInstanceProperties) : World :=
  if world.marker.isNone then { world with marker := some aspect } else world

/-- The marker entity exists as soon as its aspect does. -/
def World.found (platform : Platform) (world : World) (urn : String) : Bool :=
  if urn = targetMarkerUrn platform then world.marker.isSome else world.existing.contains urn

variable (platform : Platform) (server : Server)

def respond (index : ℕ) (choice : Choice) (world : World) : (call : Call) → Reply call × World
  | .tokenHex => (choice.token, world)
  | .openState => (world.file.isSome, world)
  | .stateSize => ((world.file.map fun file => file.text.length).getD (0 : ℕ), world)
  | .readState => ((world.file.map fun file => file.text.take 1025).getD [], world)
  | .createState =>
      if world.file.isNone then (true, { world with file := some ⟨[], index⟩ }) else (false, world)
  | .writeState char =>
      ((), { world with file := world.file.map fun file => ⟨file.text ++ [char], file.writer⟩ })
  | .exists urn => (world.found platform urn, world)
  | .markerProperties => (world.marker, world)
  | .markerStatus => (world.markerRemoved, world)
  | .serverConfig => (server.noCode, world)
  | .telemetryStatus => (server.telemetryRemoved, world)
  | .telemetryClientId => (server.clientId, world)
  | .createMarker aspect =>
      if choice.answered then (world.marker.isNone, world.createMarker aspect)
      else (false, { world with sent := aspect :: world.sent })

def changeWorld (change : Change) (world : World) : World :=
  match change with
  | .appear urn => { world with existing := urn :: world.existing }
  | .vanish urn => { world with existing := world.existing.filter fun other => other ≠ urn }
  | .arrive index =>
      match world.sent[index]? with
      | some aspect => world.createMarker aspect
      | none => world

def target : Semantics World Choice Change Call Reply := ⟨respond platform server, changeWorld⟩

/-- A process bootstraps by the command or by its two parts, or it attests. -/
inductive Task
  | bootstrap (invocation : Invocation)
  | prepareAndComplete (canonicalUrl : String)
  | attest (canonicalUrl : String)

inductive Outcome
  | reported (result : BootstrapResult)
  | bound (binding : TargetInstanceBinding)

def taskProgram (skip : Bool) (graph : ExpectedGraph) : Task → Remote Outcome
  | .bootstrap invocation => do
      let result ← bootstrapTarget platform skip graph invocation
      pure (.reported result)
  | .prepareAndComplete canonicalUrl => do
      let plan ← prepareTargetBootstrap platform skip graph canonicalUrl
      let binding ← completeTargetBootstrap platform skip graph plan
      pure (.bound binding)
  | .attest canonicalUrl => do
      let binding ← attestTargetInstance platform skip canonicalUrl
      pure (.bound binding)

abbrev Processes := Pool World Call Reply String Outcome

def Processes.start : Processes := ⟨World.empty, []⟩

/-- The processes take turns, stop at any call and start at any time. -/
def processStep (skip : Bool) (graph : ExpectedGraph) :
    Processes → Event Choice Change Task → Processes :=
  step (target platform server) (taskProgram platform skip graph) "STOPPED"

end Worlds

end LineageGuard.Target
