import LineageGuard.Scenario.TargetRules
import Mathlib.Tactic

/-
This file proves when a later bootstrap completes after earlier ones stopped at any point.
-/

namespace LineageGuard.Target

open Attempt Dialogue Interleaving JsonText Scenario

section Alone

variable {platform : Platform} {server : Server} {skip : Bool} {graph : ExpectedGraph}
variable {index : ℕ} {choose : Call → Choice} {world : World}

/-- No other process takes a turn while this program runs. -/
abbrev solo (platform : Platform) (server : Server) (index : ℕ) (choose : Call → Choice)
    {Value : Type} (world : World) (program : Remote Value) : World × Except String Value :=
  alone (target platform server) index choose world program

theorem solo_require {condition : Prop} [Decidable condition] {error : String}
    (holds : condition) :
    solo platform server index choose world (attempt (require condition error)) =
      (world, .ok ()) := by
  rw [require_ok.mpr holds]
  rfl

theorem solo_reply {Value : Type} (call : Call) (reply : Reply call) (between : World)
    {next : Reply call → Remote Value}
    (answered : respond platform server index (choose call) world call = (reply, between)) :
    solo platform server index choose world (ask call >>= next) =
      solo platform server index choose between (next reply) := alone_reply answered

theorem solo_identity {identity : String}
    (identified : server.identity platform skip = some identity) :
    solo platform server index choose world (readServerIdentity platform skip) =
      (world, .ok identity) := by
  rw [Server.identity] at identified
  rw [readServerIdentity]
  split_ifs at identified ⊢ with skipped checks
  · cases identified
    rfl
  · obtain ⟨clientId, isClient, rfl⟩ := Option.map_eq_some_iff.mp identified
    have known : present (server.clientId.filter isClientId) "TARGET_SERVER_IDENTITY_MISSING" =
        .ok clientId := present_ok.mpr isClient
    refine (solo_reply .serverConfig server.noCode world rfl).trans ?_
    refine (alone_ok (solo_require checks.1)).trans ?_
    refine (solo_reply .telemetryStatus server.telemetryRemoved world rfl).trans ?_
    refine (alone_ok (solo_require checks.2)).trans ?_
    refine (solo_reply .telemetryClientId server.clientId world rfl).trans ?_
    rw [known]
    rfl

/-- No canonical entity exists on the server. -/
def Clear (platform : Platform) (world : World) (urns : List String) : Prop :=
  ∀ urn ∈ urns, urn ≠ targetMarkerUrn platform ∧ urn ∉ world.existing

theorem solo_absent {urns : List String} (clear : Clear platform world urns) :
    solo platform server index choose world (absent urns) = (world, .ok ()) := by
  induction urns with
  | nil => rfl
  | cons urn rest ih =>
      obtain ⟨apart, missing⟩ := clear urn List.mem_cons_self
      have unseen : world.found platform urn = false := by
        rw [World.found, if_neg apart]
        simpa using missing
      refine (solo_reply (.exists urn) (world.found platform urn) world rfl).trans ?_
      refine (alone_ok (solo_require unseen)).trans ?_
      exact ih fun other present => clear other (List.mem_cons_of_mem _ present)

theorem solo_marker (kept : world.markerRemoved ≠ some true) :
    solo platform server index choose world (readMarker platform) = (world, .ok world.marker) := by
  refine (solo_reply .markerProperties world.marker world rfl).trans ?_
  cases isMarker : world.marker with
  | none =>
      have unseen : world.found platform (targetMarkerUrn platform) = false := by
        rw [World.found, if_pos rfl, isMarker]
        rfl
      refine (solo_reply (.exists _) (world.found platform _) world rfl).trans ?_
      exact alone_ok (solo_require unseen)
  | some aspect =>
      refine (solo_reply .markerStatus world.markerRemoved world rfl).trans ?_
      exact alone_ok (solo_require kept)

theorem solo_missing (missing : world.file = none) :
    solo platform server index choose world loadOptional = (world, .ok none) := by
  refine (solo_reply .openState world.file.isSome world rfl).trans ?_
  rw [missing]
  rfl

/-- The reader of a stored file accepts what the parser accepts. -/
theorem solo_stored {file : StateFile} (stored : world.file = some file) :
    solo platform server index choose world loadOptional =
      (world, do
        require (file.text.length ≤ 1024) "TARGET_STATE_TOO_LARGE"
        let binding ← parseState (file.text.take 1025)
        return some binding) := by
  refine (solo_reply .openState world.file.isSome world rfl).trans ?_
  rw [stored, Option.isSome_some, if_pos rfl]
  refine (solo_reply .stateSize file.text.length world (by rw [respond, stored]; rfl)).trans ?_
  by_cases small : file.text.length ≤ 1024
  · refine (alone_ok (solo_require small)).trans ?_
    refine (solo_reply .readState (file.text.take 1025) world (by rw [respond, stored]; rfl)).trans ?_
    rw [require, if_pos small]
    cases parseState (file.text.take 1025) <;> rfl
  · rw [require, if_neg small]
    rfl

theorem solo_whole {binding : TargetInstanceBinding} (whole : Whole world binding) :
    solo platform server index choose world loadOptional = (world, .ok (some binding)) := by
  obtain ⟨writer, isFile⟩ := whole
  have small := encodeBinding_length binding
  rw [solo_stored isFile, require, if_pos small, List.take_of_length_le (small.trans (by decide)),
    parseState_encodeBinding]
  rfl

/-- Only a part of a binding was written to the file. -/
def HalfWritten (world : World) : Prop :=
  ∃ file ∈ world.file, ∀ binding, file.text ≠ encodeBinding binding

theorem solo_half {identity : Option String} (sound : Sound identity world)
    (half : HalfWritten world) :
    ∃ error, solo platform server index choose world loadOptional = (world, .error error) := by
  obtain ⟨file, isFile, partly⟩ := half
  rw [solo_stored isFile]
  cases require (file.text.length ≤ 1024) "TARGET_STATE_TOO_LARGE" with
  | error error => exact ⟨error, rfl⟩
  | ok _ =>
      cases parsed : parseState (file.text.take 1025) with
      | error error => exact ⟨error, rfl⟩
      | ok binding =>
          obtain ⟨writer, isWhole⟩ : Whole world binding :=
            sound.parsed (by rw [Option.mem_def.mp isFile]; exact parsed)
          rw [Option.mem_def.mp isFile, Option.some.injEq] at isWhole
          exact absurd (congrArg StateFile.text isWhole) (partly binding)

theorem solo_write {written text : List Char} {writer : ℕ}
    (isFile : world.file = some ⟨written, writer⟩) :
    solo platform server index choose world (writeAll text) =
      ({ world with file := some ⟨written ++ text, writer⟩ }, .ok ()) := by
  induction text generalizing world written with
  | nil =>
      rw [List.append_nil, ← isFile]
      rfl
  | cons char rest ih =>
      refine (solo_reply (.writeState char) () { world with
        file := some ⟨written ++ [char], writer⟩ } (by rw [respond, isFile]; rfl)).trans ?_
      rw [ih rfl, List.append_assoc, List.singleton_append]

theorem solo_create (identity : InstanceId) (missing : world.file = none) :
    solo platform server index choose world (create identity.val) =
      ({ world with
          file := some ⟨encodeBinding ⟨(choose .tokenHex).token, identity⟩, index⟩ },
        .ok ⟨(choose .tokenHex).token, identity⟩) := by
  have valid : present (instanceIdOf (some (.string identity.val)))
      "TARGET_SERVER_IDENTITY_INVALID" = .ok identity := present_ok.mpr (instanceIdOf_val identity)
  rw [create, valid]
  refine (solo_reply .tokenHex (choose .tokenHex).token world rfl).trans ?_
  refine (solo_reply .createState true { world with file := some ⟨[], index⟩ }
    (by rw [respond, missing]; rfl)).trans ?_
  rw [if_pos rfl, solo, alone_ok (solo_write rfl)]
  rfl

/-- The server has an identity, and nothing canonical exists. -/
structure Steady (platform : Platform) (server : Server) (skip : Bool) (graph : ExpectedGraph)
    (identity : InstanceId) (world : World) : Prop where
  identified : server.identity platform skip = some identity.val
  clear : Clear platform world graph.allowedMutationUrns
  kept : world.markerRemoved ≠ some true

variable {identity : InstanceId}

theorem solo_attest (steady : Steady platform server skip graph identity world)
    {binding : TargetInstanceBinding} (agreed : Agreed (some identity.val) world binding) :
    solo platform server index choose world (attestTargetInstance platform skip canonicalGmsUrl) =
      (world, .ok binding) := by
  have same : identity.val = binding.serverIdentity.val := Option.some.inj agreed.server
  have loaded : solo platform server index choose world loadRequired = (world, .ok binding) := by
    rw [loadRequired, solo, alone_ok (solo_whole agreed.whole)]
    rfl
  refine (alone_ok (solo_require rfl)).trans ((alone_ok loaded).trans ?_)
  refine (alone_ok (solo_identity steady.identified)).trans ((alone_ok (solo_require same)).trans ?_)
  refine (alone_ok (solo_marker steady.kept)).trans ?_
  rw [agreed.marker, present]
  show alone _ _ _ _ (attempt (checkMarker binding (targetMarkerAspect binding)) >>= _) = _
  rw [checkMarker_ok.mpr rfl]
  rfl

/-- The reads of the preparation come before its decision. -/
theorem solo_prepare (steady : Steady platform server skip graph identity world)
    {stored : Option TargetInstanceBinding}
    (loaded : solo platform server index choose world loadOptional = (world, .ok stored)) :
    solo platform server index choose world
        (prepareTargetBootstrap platform skip graph canonicalGmsUrl) =
      solo platform server index choose world (match world.marker with
        | some _ => do
            let binding ← attempt (present stored "TARGET_INSTANCE_MARKER_CONFLICT")
            let _ ← attestTargetInstance platform skip canonicalGmsUrl
            pure ⟨binding, true⟩
        | none => do
            let binding ← planBinding identity.val stored
            pure ⟨binding, false⟩) := by
  refine (alone_ok (solo_require rfl)).trans ?_
  refine (alone_ok (solo_identity steady.identified)).trans ?_
  refine (alone_ok (solo_absent steady.clear)).trans ?_
  refine (alone_ok (solo_marker steady.kept)).trans ?_
  exact alone_ok loaded

theorem solo_prepare_bound (steady : Steady platform server skip graph identity world)
    {binding : TargetInstanceBinding} (agreed : Agreed (some identity.val) world binding) :
    solo platform server index choose world
        (prepareTargetBootstrap platform skip graph canonicalGmsUrl) =
      (world, .ok ⟨binding, true⟩) := by
  rw [solo_prepare steady (solo_whole agreed.whole), agreed.marker]
  exact alone_ok (solo_attest steady agreed)

theorem solo_prepare_stored (steady : Steady platform server skip graph identity world)
    {binding : TargetInstanceBinding} (whole : Whole world binding)
    (same : binding.serverIdentity = identity) (unmarked : world.marker = none) :
    solo platform server index choose world
        (prepareTargetBootstrap platform skip graph canonicalGmsUrl) =
      (world, .ok ⟨binding, false⟩) := by
  rw [solo_prepare steady (solo_whole whole), unmarked]
  exact alone_ok (alone_ok (solo_require (congrArg Subtype.val same)))

theorem solo_prepare_fresh (steady : Steady platform server skip graph identity world)
    (missing : world.file = none) (unmarked : world.marker = none) :
    solo platform server index choose world
        (prepareTargetBootstrap platform skip graph canonicalGmsUrl) =
      ({ world with
          file := some ⟨encodeBinding ⟨(choose .tokenHex).token, identity⟩, index⟩ },
        .ok ⟨⟨(choose .tokenHex).token, identity⟩, false⟩) := by
  refine (solo_prepare steady (solo_missing missing)).trans ?_
  conv_lhs => rw [unmarked]
  exact alone_ok (solo_create identity missing)

theorem solo_complete (steady : Steady platform server skip graph identity world)
    {binding : TargetInstanceBinding} (whole : Whole world binding)
    (same : binding.serverIdentity = identity) (unmarked : world.marker = none)
    (answered : ∀ call, (choose call).answered = true) :
    solo platform server index choose world
        (completeTargetBootstrap platform skip graph ⟨binding, false⟩) =
      ({ world with marker := some (targetMarkerAspect binding) }, .ok binding) := by
  have marked : Steady platform server skip graph identity
      { world with marker := some (targetMarkerAspect binding) } :=
    ⟨steady.identified, steady.clear, steady.kept⟩
  have agreed : Agreed (some identity.val)
      { world with marker := some (targetMarkerAspect binding) } binding :=
    ⟨whole, rfl, congrArg (fun found => some found.val) same.symm⟩
  have created : solo platform server index choose world
      (ensureMarker platform skip graph ⟨binding, false⟩) =
        ({ world with marker := some (targetMarkerAspect binding) }, .ok ()) := by
    refine (alone_ok (solo_absent steady.clear)).trans ?_
    refine (alone_ok (solo_marker steady.kept)).trans ?_
    refine (alone_ok (solo_require unmarked)).trans ?_
    refine (alone_ok (solo_identity steady.identified)).trans ?_
    refine (alone_ok (solo_require (congrArg Subtype.val same.symm))).trans ?_
    refine (solo_reply (.createMarker _) true
      { world with marker := some (targetMarkerAspect binding) } ?_).trans (solo_require rfl)
    rw [respond, if_pos (answered _), World.createMarker, unmarked]
    rfl
  refine (alone_ok created).trans ((alone_ok (solo_attest marked agreed)).trans ?_)
  refine (alone_ok (solo_require rfl)).trans ?_
  exact alone_ok (solo_absent marked.clear)

end Alone

section Attests

variable {platform : Platform} {server : Server} {skip : Bool}
variable {index : ℕ} {choose : Call → Choice} {world ended : World}

theorem solo_value {First Value : Type} {first : Remote First} {next : First → Remote Value}
    {value : Value}
    (runs : solo platform server index choose world (first >>= next) = (ended, .ok value)) :
    ∃ between found, solo platform server index choose world first = (between, .ok found) ∧
      solo platform server index choose between (next found) = (ended, .ok value) :=
  alone_value runs

theorem solo_checked {First Value : Type} {result : Except String First}
    {next : First → Remote Value} {value : Value}
    (runs : solo platform server index choose world (attempt result >>= next) =
      (ended, .ok value)) :
    ∃ found, result = .ok found ∧
      solo platform server index choose world (next found) = (ended, .ok value) := by
  obtain ⟨between, found, settled, rest⟩ := solo_value runs
  cases settled
  exact ⟨found, rfl, rest⟩

theorem solo_asked {Value : Type} (call : Call) (reply : Reply call)
    {next : Reply call → Remote Value} {value : Value}
    (answered : respond platform server index (choose call) world call = (reply, world))
    (runs : solo platform server index choose world (ask call >>= next) = (ended, .ok value)) :
    solo platform server index choose world (next reply) = (ended, .ok value) := by
  rwa [solo_reply call reply world answered] at runs

theorem solo_identity_found {identity : String}
    (runs : solo platform server index choose world (readServerIdentity platform skip) =
      (ended, .ok identity)) :
    ended = world ∧ server.identity platform skip = some identity := by
  cases isIdentity : server.identity platform skip with
  | some found =>
      rw [solo_identity isIdentity] at runs
      cases runs
      exact ⟨rfl, rfl⟩
  | none =>
      exfalso
      cases skip with
      | true => cases isIdentity
      | false =>
          obtain ⟨_, configured, rest⟩ :=
            solo_checked (solo_asked .serverConfig server.noCode rfl runs)
          obtain ⟨_, standing, rest⟩ :=
            solo_checked (solo_asked .telemetryStatus server.telemetryRemoved rfl rest)
          obtain ⟨clientId, isClient, _⟩ :=
            solo_checked (solo_asked .telemetryClientId server.clientId rfl rest)
          rw [Server.identity, if_neg Bool.false_ne_true,
            if_pos ⟨require_ok.mp configured, require_ok.mp standing⟩, present_ok.mp isClient]
            at isIdentity
          cases isIdentity

theorem solo_marker_found {marker : DataPlatformInstanceProperties}
    (runs : solo platform server index choose world (readMarker platform) =
      (ended, .ok (some marker))) : ended = world ∧ world.marker = some marker := by
  have read := solo_asked .markerProperties world.marker rfl runs
  cases isMarker : world.marker with
  | none =>
      rw [isMarker] at read
      obtain ⟨_, _, rest⟩ := solo_checked (solo_asked (.exists _) (world.found platform _) rfl read)
      exact nomatch rest
  | some aspect =>
      rw [isMarker] at read
      obtain ⟨_, _, rest⟩ := solo_checked (solo_asked .markerStatus world.markerRemoved rfl read)
      cases rest
      exact ⟨rfl, rfl⟩

theorem solo_loaded {binding : TargetInstanceBinding}
    (runs : solo platform server index choose world loadRequired = (ended, .ok binding)) :
    ended = world ∧ ∃ file, world.file = some file ∧ parseState file.text = .ok binding := by
  obtain ⟨between, stored, loaded, rest⟩ := solo_value runs
  have kept : between = ended ∧ stored = some binding := by
    cases stored with
    | none => exact nomatch rest
    | some found =>
        cases rest
        exact ⟨rfl, rfl⟩
  obtain ⟨rfl, rfl⟩ := kept
  cases isFile : world.file with
  | none =>
      rw [solo_missing isFile] at loaded
      exact nomatch loaded
  | some file =>
      rw [solo_stored isFile, Prod.mk.injEq] at loaded
      simp only [bind_ok, require_ok, exists_const, pure_ok, Option.some.injEq,
        exists_eq_right] at loaded
      obtain ⟨same, small, parsed⟩ := loaded
      rw [List.take_of_length_le (small.trans (by decide))] at parsed
      exact ⟨same.symm, file, rfl, parsed⟩

/-- An attestation of any state succeeds only when both sides and the server agree. -/
theorem solo_attested {url : String} {binding : TargetInstanceBinding}
    (runs : solo platform server index choose world (attestTargetInstance platform skip url) =
      (ended, .ok binding)) :
    (∃ file, world.file = some file ∧ parseState file.text = .ok binding) ∧
      world.marker = some (targetMarkerAspect binding) ∧
      server.identity platform skip = some binding.serverIdentity.val := by
  obtain ⟨_, _, loads⟩ := solo_checked runs
  obtain ⟨_, found, loaded, identifies⟩ := solo_value loads
  obtain ⟨rfl, stored⟩ := solo_loaded loaded
  obtain ⟨_, observed, identified, compares⟩ := solo_value identifies
  obtain ⟨rfl, isIdentity⟩ := solo_identity_found identified
  obtain ⟨_, same, reads⟩ := solo_checked compares
  obtain ⟨_, marker, isMarker, checks⟩ := solo_value reads
  obtain ⟨aspect, isAspect, checks⟩ := solo_checked checks
  rw [present_ok.mp isAspect] at isMarker
  obtain ⟨rfl, isMarker⟩ := solo_marker_found isMarker
  obtain ⟨_, checked, returns⟩ := solo_checked checks
  cases returns
  rw [require_ok.mp same] at isIdentity
  exact ⟨stored, isMarker.trans (congrArg some (checkMarker_ok.mp checked)), isIdentity⟩

end Attests

section Commands

variable {platform : Platform} {server : Server} {skip : Bool} {graph : ExpectedGraph}
variable {index : ℕ} {choose : Call → Choice} {world : World} {identity : InstanceId}
variable {invocation : Invocation}

/-- The command is confirmed in the canonical environment with both configurations. -/
structure Ready (graph : ExpectedGraph) (invocation : Invocation) : Prop where
  execute : invocation.execute = true
  environment : invocation.walkthroughEnvironment = some "canonical"
  confirmation : invocation.confirmation = some graph.scenarioId
  read : invocation.readConfig = .ok canonicalGmsUrl
  bootstrap : invocation.bootstrapConfig = .ok canonicalGmsUrl

theorem solo_command (ready : Ready graph invocation) :
    solo platform server index choose world (bootstrapTarget platform skip graph invocation) =
      solo platform server index choose world
        (executeBootstrap platform skip graph invocation canonicalGmsUrl) := by
  rw [bootstrapTarget, if_pos ready.execute, ready.read]
  refine (alone_ok (solo_require ready.environment)).trans ?_
  exact alone_ok (solo_require ready.confirmation)

/-- The result names the fingerprint of the binding on which both sides agree. -/
def Completes (platform : Platform) (identity : Option String)
    (ended : World × Except String BootstrapResult) : Prop :=
  ∃ result binding, ended.2 = .ok result ∧
    result.targetFingerprint = some (targetFingerprint platform binding) ∧
    Agreed identity ended.1 binding

theorem completes_bound (steady : Steady platform server skip graph identity world)
    (ready : Ready graph invocation) {binding : TargetInstanceBinding}
    (agreed : Agreed (some identity.val) world binding) :
    Completes platform (some identity.val) (solo platform server index choose world
      (bootstrapTarget platform skip graph invocation)) := by
  rw [solo_command ready, executeBootstrap, solo, alone_ok (solo_prepare_bound steady agreed)]
  exact ⟨_, binding, rfl, rfl, agreed⟩

/-- The marker is created after the first preparation stored or found the binding. -/
theorem completes_new (ready : Ready graph invocation) {between : World}
    {binding : TargetInstanceBinding}
    (prepared : solo platform server index choose world
      (prepareTargetBootstrap platform skip graph canonicalGmsUrl) = (between, .ok ⟨binding, false⟩))
    (steady : Steady platform server skip graph identity between) (whole : Whole between binding)
    (same : binding.serverIdentity = identity) (unmarked : between.marker = none)
    (answered : ∀ call, (choose call).answered = true) :
    Completes platform (some identity.val) (solo platform server index choose world
      (bootstrapTarget platform skip graph invocation)) := by
  rw [solo_command ready, executeBootstrap, solo, alone_ok prepared, if_neg Bool.false_ne_true,
    alone_ok (solo_prepare_stored steady whole same unmarked), alone_ok (solo_require rfl),
    ready.bootstrap]
  have configured : solo platform server index choose between (attempt (.ok canonicalGmsUrl)) =
      (between, .ok canonicalGmsUrl) := rfl
  rw [alone_ok configured, alone_ok (solo_require rfl),
    alone_ok (solo_complete steady whole same unmarked answered)]
  exact ⟨_, binding, rfl, rfl, whole, rfl, congrArg (fun found => some found.val) same.symm⟩

/-- A bootstrap that nobody disturbs completes unless the state file is half-written. -/
theorem completes_iff (steady : Steady platform server skip graph identity world)
    (sound : Sound (some identity.val) world) (ready : Ready graph invocation)
    (answered : ∀ call, (choose call).answered = true) :
    Completes platform (some identity.val) (solo platform server index choose world
      (bootstrapTarget platform skip graph invocation)) ↔ ¬ HalfWritten world := by
  constructor
  · rintro ⟨result, binding, isResult, _⟩ half
    have unmarked : world.marker = none := (sound.unmarked fun other whole => by
      obtain ⟨file, isFile, partly⟩ := half
      obtain ⟨writer, isWhole⟩ := whole
      rw [Option.mem_def.mp isFile, Option.some.injEq] at isWhole
      exact partly other (congrArg StateFile.text isWhole)).1
    obtain ⟨error, failed⟩ := @solo_half platform server index choose world _ sound half
    have prepared : solo platform server index choose world
        (prepareTargetBootstrap platform skip graph canonicalGmsUrl) = (world, .error error) := by
      refine (alone_ok (solo_require rfl)).trans ?_
      refine (alone_ok (solo_identity steady.identified)).trans ?_
      refine (alone_ok (solo_absent steady.clear)).trans ?_
      refine (alone_ok (solo_marker steady.kept)).trans ?_
      exact alone_error failed
    rw [solo_command ready, executeBootstrap, solo, alone_error prepared] at isResult
    exact nomatch isResult
  · intro whole
    cases isFile : world.file with
    | none =>
        have unmarked := (sound.unmarked fun _ found => nomatch isFile.symm.trans found.choose_spec).1
        refine completes_new ready (solo_prepare_fresh steady isFile unmarked)
          ⟨steady.identified, steady.clear, steady.kept⟩ ⟨index, rfl⟩ rfl unmarked answered
    | some file =>
        obtain ⟨binding, isText⟩ : ∃ binding, file.text = encodeBinding binding := by
          by_contra partly
          exact whole ⟨file, isFile, not_exists.mp partly⟩
        have isWhole : Whole world binding := ⟨file.writer, by rw [isFile, ← isText]⟩
        cases isMarker : world.marker with
        | some marker => exact completes_bound steady ready (sound.agreed isWhole isMarker)
        | none =>
            have same : binding.serverIdentity = identity :=
              Subtype.ext (Option.some.inj (sound.identity_eq isWhole)).symm
            exact completes_new ready (solo_prepare_stored steady isWhole same isMarker) steady
              isWhole same isMarker answered

end Commands

section Writes

variable (platform : Platform) (server : Server) (skip : Bool) (graph : ExpectedGraph)

/-- The event writes the marker. -/
def writesMarker (pool : Processes) (event : Event Choice Change Task) : Bool :=
  decide ((processStep platform server skip graph pool event).world.marker ≠ pool.world.marker)

variable {platform server skip graph}

theorem createMarker_cases (world : World) (aspect : DataPlatformInstanceProperties) :
    (world.createMarker aspect).marker = world.marker ∨
      (world.marker = none ∧ (world.createMarker aspect).marker.isSome = true) := by
  rw [World.createMarker]
  split
  · next unmarked => exact Or.inr ⟨Option.isNone_iff_eq_none.mp unmarked, rfl⟩
  · exact Or.inl rfl

theorem respond_marker (index : ℕ) (choice : Choice) (world : World) (call : Call) :
    (respond platform server index choice world call).2.marker = world.marker ∨
      (world.marker = none ∧
        (respond platform server index choice world call).2.marker.isSome = true) := by
  cases call with
  | createState =>
      rw [respond]
      split <;> exact Or.inl rfl
  | createMarker aspect =>
      rw [respond]
      split
      · exact createMarker_cases world aspect
      · exact Or.inl rfl
  | _ => exact Or.inl rfl

theorem changeWorld_marker (change : Change) (world : World) :
    (changeWorld change world).marker = world.marker ∨
      (world.marker = none ∧ (changeWorld change world).marker.isSome = true) := by
  cases change with
  | appear urn => exact Or.inl rfl
  | vanish urn => exact Or.inl rfl
  | arrive index =>
      rw [changeWorld]
      split
      · exact createMarker_cases world _
      · exact Or.inl rfl

/-- A marker that exists is kept by every event. -/
theorem processStep_marker (pool : Processes) (event : Event Choice Change Task) :
    (processStep platform server skip graph pool event).world.marker = pool.world.marker ∨
      (pool.world.marker = none ∧
        (processStep platform server skip graph pool event).world.marker.isSome = true) := by
  cases event with
  | start task => exact Or.inl rfl
  | proceed index choice =>
      rw [processStep, step, proceed]
      split
      · exact respond_marker index choice pool.world _
      · exact Or.inl rfl
  | stop index =>
      rw [processStep, step, halt]
      split <;> exact Or.inl rfl
  | change change => exact changeWorld_marker change pool.world

theorem marker_once (start : Processes) (events : List (Event Choice Change Task)) :
    ((Runs.history (processStep platform server skip graph) start events).filter
      fun entry => writesMarker platform server skip graph entry.1 entry.2).length ≤ 1 := by
  refine @Runs.history_filter_le_one _ _ _ (fun _ => True)
    (fun pool => pool.world.marker.isSome = true) _ (fun _ _ _ => trivial)
    (fun pool event _ closed => ?_) (fun pool event _ wrote => ?_) (fun pool event _ closed => ?_)
    start trivial events
  · rcases @processStep_marker platform server skip graph pool event with same | ⟨_, some⟩
    · rw [same]
      exact closed
    · exact some
  · rcases @processStep_marker platform server skip graph pool event with same | ⟨_, some⟩
    · exact absurd same (of_decide_eq_true wrote)
    · exact some
  · rcases @processStep_marker platform server skip graph pool event with same | ⟨none, _⟩
    · exact decide_eq_false (not_not.mpr same)
    · rw [none] at closed
      exact nomatch closed

end Writes

section Pauses

variable {platform : Platform} {server : Server} {skip : Bool} {graph : ExpectedGraph}
variable {index : ℕ} {choose : Call → Choice} {world between after : World}
variable {identity : InstanceId} {First Value : Type}

/-- The program runs alone up to a call that it has not performed. -/
def Pauses (platform : Platform) (server : Server) (index : ℕ) (world : World)
    (program : Remote Value) (after : World) : Prop :=
  ∃ call next, Advances (target platform server) index world program after (.ask call next)

theorem Pauses.here (call : Call) (next : Reply call → Remote Value) :
    Pauses platform server index world (ask call >>= next) world :=
  ⟨call, next, .refl _ _⟩

theorem Pauses.bind {first : Remote First} (pauses : Pauses platform server index world first after)
    (next : First → Remote Value) : Pauses platform server index world (first >>= next) after := by
  obtain ⟨call, rest, advances⟩ := pauses
  exact ⟨call, fun reply => rest reply >>= next, advances.bind next⟩

theorem Pauses.reply (choose : Call → Choice) (call : Call) (reply : Reply call)
    {next : Reply call → Remote Value}
    (answered : respond platform server index (choose call) world call = (reply, between))
    (pauses : Pauses platform server index between (next reply) after) :
    Pauses platform server index world (ask call >>= next) after := by
  obtain ⟨later, rest, advances⟩ := pauses
  refine ⟨later, rest, .ask (choose call) ?_⟩
  show Advances _ _ (respond platform server index (choose call) world call).2
    (next (respond platform server index (choose call) world call).1) _ _
  rw [answered]
  exact advances

theorem Pauses.ok (choose : Call → Choice) {first : Remote First} {next : First → Remote Value}
    {value : First}
    (ended : solo platform server index choose world first = (between, .ok value))
    (pauses : Pauses platform server index between (next value) after) :
    Pauses platform server index world (first >>= next) after := by
  obtain ⟨later, rest, advances⟩ := pauses
  have finished : Advances (target platform server) index world first
      (solo platform server index choose world first).1
      (.done (solo platform server index choose world first).2) := Advances.alone _ _ _ _
  rw [ended] at finished
  exact ⟨later, rest, (finished.bind next).trans advances⟩

/-- The state file is created before the first of its characters is written. -/
theorem create_pauses (choose : Call → Choice) (missing : world.file = none) :
    Pauses platform server index world (create identity.val)
      { world with file := some ⟨[], index⟩ } := by
  have valid : present (instanceIdOf (some (.string identity.val)))
      "TARGET_SERVER_IDENTITY_INVALID" = .ok identity := present_ok.mpr (instanceIdOf_val identity)
  rw [create, valid]
  refine Pauses.reply choose .tokenHex (choose .tokenHex).token rfl ?_
  refine Pauses.reply choose .createState true ?_ (Pauses.here _ _)
  rw [respond, missing]
  rfl

theorem bootstrap_pauses (choose : Call → Choice)
    (steady : Steady platform server skip graph identity world) {invocation : Invocation}
    (ready : Ready graph invocation) (missing : world.file = none) (unmarked : world.marker = none) :
    Pauses platform server index world (taskProgram platform skip graph (.bootstrap invocation))
      { world with file := some ⟨[], index⟩ } := by
  refine Pauses.bind ?_ _
  rw [bootstrapTarget, if_pos ready.execute, ready.read]
  refine Pauses.ok choose (solo_require ready.environment) ?_
  refine Pauses.ok choose (solo_require ready.confirmation) ?_
  have configured : solo platform server index choose world (attempt (.ok canonicalGmsUrl)) =
      (world, .ok canonicalGmsUrl) := rfl
  refine Pauses.ok choose configured (Pauses.bind ?_ _)
  refine Pauses.ok choose (solo_require rfl) ?_
  refine Pauses.ok choose (solo_identity steady.identified) ?_
  refine Pauses.ok choose (solo_absent steady.clear) ?_
  refine Pauses.ok choose (solo_marker steady.kept) ?_
  refine Pauses.ok choose (solo_missing missing) ?_
  nth_rewrite 1 [unmarked]
  exact Pauses.bind (create_pauses choose missing) _

end Pauses

section Recovery

variable {platform : Platform} {server : Server} {skip : Bool} {graph : ExpectedGraph}
variable {identity : InstanceId}

/-- No canonical URN is the URN of a platform instance. -/
theorem canonical_apart (documented : platform.Documented) (loaded : Loaded graph) {urn : String}
    (allowed : urn ∈ graph.allowedMutationUrns) : urn ≠ targetMarkerUrn platform := by
  rintro rfl
  obtain ⟨start, isStart, starts⟩ := loaded.allowed_starts allowed
  have others : ∀ start ∈ "urn:li:schemaField:" :: canonicalStarts,
      ¬ start.toList <+: "urn:li:dataPlatformInstance:".toList ∧
        ¬ "urn:li:dataPlatformInstance:".toList <+: start.toList := by decide
  rcases List.prefix_or_prefix_of_prefix starts (documented.instances _ _) with before | after
  · exact (others start isStart).1 before
  · exact (others start isStart).2 after

/-- The later bootstrap starts as the next process, and nobody disturbs it. -/
def laterBootstrap (platform : Platform) (server : Server) (skip : Bool) (graph : ExpectedGraph)
    (pool : Processes) (invocation : Invocation) (choose : Call → Choice) :
    World × Except String Outcome :=
  solo platform server pool.programs.length choose pool.world
    (taskProgram platform skip graph (.bootstrap invocation))

/-- One binding is equal to the local state and to the marker, and its fingerprint is reported. -/
def CompletesWithBinding (platform : Platform) (identity : Option String)
    (ended : World × Except String Outcome) : Prop :=
  ∃ result binding, ended.2 = .ok (.reported result) ∧
    result.targetFingerprint = some (targetFingerprint platform binding) ∧
    Agreed identity ended.1 binding

theorem completesWithBinding_iff {pool : Processes} {invocation : Invocation}
    {choose : Call → Choice} {found : Option String} :
    CompletesWithBinding platform found
        (laterBootstrap platform server skip graph pool invocation choose) ↔
      Completes platform found (solo platform server pool.programs.length choose pool.world
        (bootstrapTarget platform skip graph invocation)) := by
  rw [CompletesWithBinding, Completes, laterBootstrap, taskProgram]
  cases ended : solo platform server pool.programs.length choose pool.world
    (bootstrapTarget platform skip graph invocation) with
  | mk world result =>
      cases result with
      | error error =>
          rw [solo, alone_error ended]
          exact ⟨nofun, nofun⟩
      | ok result =>
          rw [solo, alone_ok ended]
          constructor
          · rintro ⟨result, binding, same, others⟩
            cases same
            exact ⟨_, binding, rfl, others⟩
          · rintro ⟨result, binding, same, others⟩
            cases same
            exact ⟨_, binding, rfl, others⟩

theorem identity_valid (documented : platform.Documented) {found : String}
    (identified : server.identity platform skip = some found) : isSha256 found = true := by
  rw [Server.identity] at identified
  split_ifs at identified
  · cases identified
    exact documented.digests _
  · obtain ⟨_, _, rfl⟩ := Option.map_eq_some_iff.mp identified
    exact documented.digests _

theorem laterBootstrap_iff (documented : platform.Documented) (loaded : Loaded graph)
    {found : String} (identified : server.identity platform skip = some found) {pool : Processes}
    (reached : Runs.Reachable (processStep platform server skip graph) Processes.start pool)
    {invocation : Invocation} {choose : Call → Choice} (ready : Ready graph invocation)
    (answered : ∀ call, (choose call).answered = true)
    (clear : ∀ urn ∈ graph.allowedMutationUrns, urn ∉ pool.world.existing) :
    CompletesWithBinding platform (some found)
        (laterBootstrap platform server skip graph pool invocation choose) ↔
      ¬ HalfWritten pool.world := by
  have kept := (processes_kept reached).1
  rw [identified] at kept
  have steady : Steady platform server skip graph ⟨found, identity_valid documented identified⟩
      pool.world :=
    ⟨identified, fun urn allowed => ⟨canonical_apart documented loaded allowed, clear urn allowed⟩,
      kept.kept⟩
  rw [completesWithBinding_iff]
  exact completes_iff steady kept ready answered

/-- A later bootstrap completes exactly when no earlier process left the state file half-written. -/
theorem bootstrap_recovery (documented : platform.Documented) (loaded : Loaded graph)
    {found : String} (identified : server.identity platform skip = some found) {pool : Processes}
    (reached : Runs.Reachable (processStep platform server skip graph) Processes.start pool) :
    (∀ invocation choose, Ready graph invocation → (∀ call, (choose call).answered = true) →
      (∀ urn ∈ graph.allowedMutationUrns, urn ∉ pool.world.existing) →
        (CompletesWithBinding platform (some found)
            (laterBootstrap platform server skip graph pool invocation choose) ↔
          ¬ HalfWritten pool.world) ∧
        Runs.Reachable (processStep platform server skip graph) Processes.start
          ⟨(laterBootstrap platform server skip graph pool invocation choose).1, pool.programs ++
            [.done (laterBootstrap platform server skip graph pool invocation choose).2]⟩) ∧
    (∀ (index : ℕ) (outcome : Outcome), pool.programs[index]? = some (.done (.ok outcome)) →
      outcome.Backed platform (some found) pool.world) ∧
    (∀ binding other, Agreed (some found) pool.world binding →
      Agreed (some found) pool.world other → other = binding) ∧
    (∀ events, ((Runs.history (processStep platform server skip graph) Processes.start
      events).filter fun entry =>
        writesMarker platform server skip graph entry.1 entry.2).length ≤ 1) ∧
    (∀ index choose world ended url binding, solo platform server index choose world
        (attestTargetInstance platform skip url) = (ended, .ok binding) →
      (∃ file, world.file = some file ∧ parseState file.text = .ok binding) ∧
        world.marker = some (targetMarkerAspect binding) ∧
        found = binding.serverIdentity.val) := by
  have kept := processes_kept reached
  rw [identified] at kept
  refine ⟨fun invocation choose ready answered clear =>
      ⟨laterBootstrap_iff documented loaded identified reached ready answered clear,
        Advances.reached _ _ reached (Advances.alone _ choose _ _)⟩, fun index outcome held => ?_,
    fun binding other agreed also => agreed.whole.unique also.whole,
    fun events => marker_once Processes.start events,
    fun index choose world ended url binding runs => ?_⟩
  · exact kept.2 index _ held pool.world (Relies.same rfl rfl) kept.1
  · obtain ⟨stored, isMarker, same⟩ := solo_attested runs
    exact ⟨stored, isMarker, Option.some.inj (identified.symm.trans same)⟩

end Recovery

section Sample

def sampleClientId : String := "2ad62580-6d67-4f8b-b4a3-5e12ae978fc5"

def sampleIdentity : String := "345c2fb7592a7522685cd4660c7fafcdc568de67ce8c87e3d46e1c8a357acfc7"

def sampleFingerprint : String :=
  "042ef73672708e103a520136011074b8c7b87c246f31c8723c86ddd92ebab0a1"

def samplePlatform : Platform where
  sha256 text := if text = identityPayload sampleClientId then sampleIdentity else sampleFingerprint
  makeDataplatformInstanceUrn name target :=
    "urn:li:dataPlatformInstance:" ++ ("(urn:li:dataPlatform:" ++ name ++ "," ++ target ++ ")")

theorem samplePlatform_documented : samplePlatform.Documented where
  digests text := by
    by_cases isPayload : text = identityPayload sampleClientId
    · rw [show samplePlatform.sha256 text = sampleIdentity from if_pos isPayload]
      decide
    · rw [show samplePlatform.sha256 text = sampleFingerprint from if_neg isPayload]
      decide
  instances name target := starts_append _ _

def sampleServer : Server := ⟨some "true", none, some sampleClientId⟩

theorem sampleServer_identified :
    sampleServer.identity samplePlatform false = some sampleIdentity := by
  have valid : isClientId sampleClientId = true := by decide
  have known : sampleServer.clientId.filter isClientId = some sampleClientId :=
    Option.filter_eq_some_iff.mpr ⟨rfl, valid⟩
  rw [Server.identity, if_neg Bool.false_ne_true, if_pos ⟨rfl, (Option.some_ne_none true).symm⟩, known]
  have digest : (if identityPayload sampleClientId = identityPayload sampleClientId then
      sampleIdentity else sampleFingerprint) = sampleIdentity := if_pos rfl
  exact congrArg some digest

def sampleInvocation : Invocation where
  execute := true
  confirmation := some canonicalGraph.scenarioId
  walkthroughEnvironment := some "canonical"
  readConfig := .ok canonicalGmsUrl
  bootstrapConfig := .ok canonicalGmsUrl

theorem sampleInvocation_ready : Ready canonicalGraph sampleInvocation :=
  ⟨rfl, rfl, rfl, rfl, rfl⟩

def sampleToken : InstanceId :=
  ⟨"0f0f0f0f0f0f0f0f0f0f0f0f0f0f0f0f0f0f0f0f0f0f0f0f0f0f0f0f0f0f0f0f", by decide⟩

def sampleChoose : Call → Choice := fun _ => ⟨sampleToken, true⟩

/-- The first bootstrap of an empty target completes. -/
theorem bootstrap_recovery_sample : CompletesWithBinding samplePlatform (some sampleIdentity)
    (laterBootstrap samplePlatform sampleServer false canonicalGraph Processes.start
      sampleInvocation sampleChoose) := by
  have recovered := bootstrap_recovery samplePlatform_documented canonicalGraph_loaded
    sampleServer_identified (Runs.Reachable.start _ _)
  refine (recovered.1 sampleInvocation sampleChoose sampleInvocation_ready (fun _ => rfl)
    (fun _ _ => List.not_mem_nil)).1.mpr ?_
  rintro ⟨file, isFile, _⟩
  exact nomatch isFile

/-- After a stop between the creation of the state file and its content no bootstrap completes. -/
theorem stopped_creation : ∃ pool, Runs.Reachable
    (processStep samplePlatform sampleServer false canonicalGraph) Processes.start pool ∧
      pool.world.existing = [] ∧ Ready canonicalGraph sampleInvocation ∧
      ¬ CompletesWithBinding samplePlatform (some sampleIdentity) (laterBootstrap samplePlatform
        sampleServer false canonicalGraph pool sampleInvocation sampleChoose) := by
  have steady : Steady samplePlatform sampleServer false canonicalGraph
      ⟨sampleIdentity, identity_valid samplePlatform_documented sampleServer_identified⟩
      World.empty :=
    ⟨sampleServer_identified, fun urn allowed => ⟨canonical_apart samplePlatform_documented
      canonicalGraph_loaded allowed, List.not_mem_nil⟩,
    (Option.some_ne_none true).symm⟩
  obtain ⟨call, next, advances⟩ : Pauses samplePlatform sampleServer 0 World.empty _ _ :=
    bootstrap_pauses sampleChoose steady sampleInvocation_ready rfl rfl
  have paused := Advances.reached (taskProgram samplePlatform false canonicalGraph) "STOPPED"
    (Runs.Reachable.start _ Processes.start) advances
  have stopped := paused.next (.stop 0)
  refine ⟨_, stopped, rfl, sampleInvocation_ready, fun completes => ?_⟩
  refine (laterBootstrap_iff samplePlatform_documented canonicalGraph_loaded
    sampleServer_identified stopped sampleInvocation_ready (fun _ => rfl)
    (fun _ _ => List.not_mem_nil)).mp completes ⟨_, rfl, fun binding empty => ?_⟩
  rw [encodeBinding, bindingNode, write] at empty
  cases empty

end Sample

end LineageGuard.Target
