import LineageGuard.Datahub.Replay
import LineageGuard.Guarantees.PublicationIdentity
import Mathlib.Tactic

/-
This file shows that a verified replay gives the live context again and that a bundle holds the
manifest of its own source.
-/

namespace LineageGuard.Datahub

open Attempt Domain Json JsonReader

section Reads

variable {spelling : Spelling} (dates : DateTexts spelling)

theorem reads_protocolClient : Reads readProtocolClient (.object protocolClientMembers) () := by
  refine reads_record rfl (by decide) fun members agrees => ?_
  refine bind_reads (agrees.field rfl (reads_literal _)) ?_
  exact agrees.field rfl (reads_literal _)

theorem reads_officialServer : Reads readOfficialServer (.object officialServerMembers) () := by
  refine reads_record rfl (by decide) fun members agrees => ?_
  refine bind_reads (agrees.field rfl (reads_literal _)) ?_
  refine bind_reads (agrees.field rfl (reads_literal _)) ?_
  refine bind_reads (agrees.field rfl (reads_literal _)) ?_
  exact agrees.field rfl (reads_literal _)

theorem reads_manifest (manifest : VerifiedReplayManifest) :
    Reads (readManifest dates) (manifest.json spelling) manifest := by
  refine reads_record rfl (by decide) fun members agrees => ?_
  refine bind_reads (agrees.field rfl (reads_number _)) ?_
  refine bind_reads (agrees.field rfl (reads_literal _)) ?_
  refine bind_reads (agrees.field rfl (reads_literal _)) ?_
  refine bind_reads (agrees.field rfl reads_protocolClient) ?_
  refine bind_reads (agrees.field rfl reads_officialServer) ?_
  refine bind_reads (agrees.field rfl (reads_tuple _)) ?_
  refine bind_reads (agrees.field rfl (reads_date dates _)) ?_
  refine bind_reads (agrees.field rfl (reads_string _)) ?_
  refine bind_reads (agrees.field rfl (reads_string _)) ?_
  refine bind_reads (agrees.field rfl (reads_string _)) ?_
  rfl

theorem reads_bundle (bundle : VerifiedReplayBundle) :
    Reads (readBundle dates) (bundle.json spelling) bundle := by
  refine reads_record rfl (by decide) fun members agrees => ?_
  refine bind_reads (agrees.field rfl (reads_manifest dates _)) ?_
  refine bind_reads (agrees.field rfl (reads_context dates _)) ?_
  rfl

/-- This is the live result that holds the context. -/
def liveResultJson (spelling : Spelling) (context : Domain.ImpactContext) : Value :=
  .object [("outcome", .string "COLLECTED_LIVE"), ("context", context.json spelling)]

theorem reads_liveResult (context : Domain.ImpactContext) :
    Reads (readLiveResult dates) (liveResultJson spelling context) (.collectedLive context) := by
  refine reads_record rfl (by decide) fun members agrees => ?_
  refine bind_reads (agrees.field rfl (reads_literal _)) ?_
  refine bind_reads (agrees.field rfl (reads_context dates _)) ?_
  rfl

end Reads

section Manifest

variable {spelling : Spelling} {dates : DateTexts spelling}

theorem readDate_some {value : Value} {date : IsoDateTime}
    (read : readDate dates value = some date) : value = .string (spelling.date date) := by
  obtain ⟨text, isText, isDate⟩ := Option.bind_eq_some_iff.mp read
  rw [readString_some.mp isText, dates.date_read text date isDate]

/-- An object without further members is the one that the tags describe. -/
theorem tags_same {keys : List String} {members : List (String × Value)}
    {expected : List (String × String)} (unique : (members.map Prod.fst).Nodup)
    (known : ∀ key ∈ members.map Prod.fst, key ∈ keys) (isKeys : expected.map Prod.fst = keys)
    (apart : keys.Nodup)
    (each : ∀ pair ∈ expected, members.lookup pair.1 = some (.string pair.2)) :
    Same (.object members)
      (.object (expected.map fun pair => (pair.1, .string pair.2))) := by
  have names : (expected.map fun pair => (pair.1, Value.string pair.2)).map Prod.fst = keys := by
    rw [List.map_map, ← isKeys]
    rfl
  refine object_same unique (names ▸ apart) (names ▸ known) ?_
  intro member present
  obtain ⟨pair, isPair, rfl⟩ := List.mem_map.mp present
  exact ⟨_, each pair isPair, .refl _⟩

theorem readProtocolClient_same {value : Value} {nothing : Unit}
    (read : readProtocolClient value = some nothing) :
    Same value (.object protocolClientMembers) := by
  obtain ⟨members, rfl, unique, known, fields⟩ := readObject_some.mp read
  simp only [Option.bind_eq_bind, Option.bind_eq_some_iff, field_some, readLiteral_some,
    exists_eq_right, exists_const] at fields
  obtain ⟨package, version⟩ := fields
  refine @tags_same _ members [("package", "@modelcontextprotocol/client"),
    ("version", "2.0.0")] unique known rfl (by decide) ?_
  simp [package, version]

theorem readOfficialServer_same {value : Value} {nothing : Unit}
    (read : readOfficialServer value = some nothing) :
    Same value (.object officialServerMembers) := by
  obtain ⟨members, rfl, unique, known, fields⟩ := readObject_some.mp read
  simp only [Option.bind_eq_bind, Option.bind_eq_some_iff, field_some, readLiteral_some,
    exists_eq_right, exists_const] at fields
  obtain ⟨package, commit, transport, version⟩ := fields
  refine @tags_same _ members [("package", "mcp-server-datahub"),
    ("sourceCommit", "9a6946daa7d30eb481c82dd8ee5e15ae6526a3c9"), ("transport", "stdio"),
    ("version", "0.6.0")] unique known rfl (by decide) ?_
  simp [package, commit, transport, version]

/-- The schema leaves no freedom in a manifest but its time and its fingerprints. -/
theorem readManifest_same {value : Value} {manifest : VerifiedReplayManifest}
    (read : readManifest dates value = some manifest) : Same value (manifest.json spelling) := by
  obtain ⟨members, rfl, unique, known, fields⟩ := readObject_some.mp read
  simp only [Option.bind_eq_bind, Option.bind_eq_some_iff, field_some, readLiteral_some,
    readNumber_some, readTuple_some, readString_some, exists_eq_right, exists_const,
    Option.pure_def, Option.some.injEq] at fields
  obtain ⟨version, marker, method, _, ⟨client, isClient, clientRead⟩, _,
    ⟨server, isServer, serverRead⟩, tools, collectedAt, ⟨date, isDate, dateRead⟩, sourceLive,
    isLive, sourceContext, isContext, digest, isDigest, rfl⟩ := fields
  rw [readDate_some dateRead] at isDate
  have apart : ((ManifestIdentity.members spelling ⟨collectedAt, sourceLive, sourceContext⟩ ++
      [("manifestFingerprint", Value.string digest)]).map Prod.fst).Nodup := by
    simp [ManifestIdentity.members]
  refine object_same unique apart known ?_
  rw [ManifestIdentity.members]
  simp only [List.forall_mem_append, List.forall_mem_cons, List.not_mem_nil, false_implies,
    implies_true, and_true]
  exact ⟨⟨⟨_, version, .refl _⟩, ⟨_, marker, .refl _⟩, ⟨_, method, .refl _⟩,
    ⟨client, isClient, readProtocolClient_same clientRead⟩,
    ⟨server, isServer, readOfficialServer_same serverRead⟩, ⟨_, tools, .refl _⟩,
    ⟨_, isDate, .refl _⟩, ⟨_, isLive, .refl _⟩, _, isContext, .refl _⟩, _, isDigest, .refl _⟩

end Manifest

section Bundles

variable {script : Script} {spelling : Spelling} {dates : DateTexts spelling}

/-- A bundle binds its manifest to its source exactly when the manifest is that of the source. -/
theorem bundleBindingIssues_nil {bundle : VerifiedReplayBundle} :
    bundleBindingIssues script spelling bundle = [] ↔
      bundle.manifest = sourceManifest script spelling bundle.sourceLiveContext ∧
        bundle.sourceLiveContext.collectionOrigin = .live ∧
          bundle.sourceLiveContext.collectionStatus = .complete := by
  obtain ⟨⟨⟨collectedAt, sourceLive, sourceContext⟩, digest⟩, source⟩ := bundle
  simp only [bundleBindingIssues, List.append_eq_nil_iff, issueUnless_nil, sourceManifest,
    sourceIdentity, VerifiedReplayManifest.mk.injEq, ManifestIdentity.mk.injEq]
  constructor
  · rintro ⟨⟨⟨⟨⟨isDigest, live⟩, complete⟩, rfl⟩, rfl⟩, rfl⟩
    exact ⟨⟨⟨rfl, rfl, rfl⟩, isDigest⟩, live, complete⟩
  · rintro ⟨⟨⟨rfl, rfl, rfl⟩, isDigest⟩, live, complete⟩
    exact ⟨⟨⟨⟨⟨isDigest, live⟩, complete⟩, rfl⟩, rfl⟩, rfl⟩

@[simp] theorem within_nil {name : String} {issues : List Issue} :
    within name issues = [] ↔ issues = [] := List.map_eq_nil_iff

/-- The data of an accepted context are dated. -/
theorem accepted_date {context : Domain.ImpactContext}
    (accepted : impactContextIssues script spelling context = []) :
    ∀ path, dateIssues context.collectedAt path = [] := by
  obtain ⟨_, _, _, _, _, data⟩ := impactContextIssues_nil.mp accepted
  simp only [contextDataIssues, ImpactContextData.shapeIssues, List.append_eq_nil_iff] at data
  intro path
  exact dateIssues_nil.mpr (dateIssues_nil.mp data.1.1.1.1.1.1.1.1.2)

/-- The schema accepts a bundle exactly when it holds a complete live context with its own
manifest. -/
theorem verifiedReplayBundleIssues_nil {bundle : VerifiedReplayBundle} :
    verifiedReplayBundleIssues script spelling bundle = [] ↔
      impactContextIssues script spelling bundle.sourceLiveContext = [] ∧
        bundle.manifest = sourceManifest script spelling bundle.sourceLiveContext ∧
          bundle.sourceLiveContext.collectionOrigin = .live ∧
            bundle.sourceLiveContext.collectionStatus = .complete := by
  simp only [verifiedReplayBundleIssues, List.append_eq_nil_iff, within_nil,
    bundleBindingIssues_nil]
  constructor
  · rintro ⟨⟨_, accepted⟩, bound⟩
    exact ⟨accepted, bound⟩
  · rintro ⟨accepted, isManifest, bound⟩
    obtain ⟨semantic, collection, _⟩ := impactContextIssues_nil.mp accepted
    have dated := accepted_date accepted
    refine ⟨⟨⟨?_, ?_⟩, accepted⟩, isManifest, bound⟩
    · rw [isManifest]
      simp only [manifestIdentityIssues, sourceManifest, sourceIdentity, List.append_eq_nil_iff,
        fingerprintIssues_nil]
      exact ⟨⟨dated _, collection⟩, semantic⟩
    · rw [isManifest, fingerprintIssues_nil]
      exact digest_fingerprint script _

theorem parseBundle_ok {input : Value} {bundle : VerifiedReplayBundle} :
    parseBundle script dates input = .ok bundle ↔ readBundle dates input = some bundle ∧
      verifiedReplayBundleIssues script spelling bundle = [] := by
  simp only [parseBundle, bind_ok, present_ok, require_ok, pure_ok, exists_const]
  constructor
  · rintro ⟨_, read, accepted, rfl⟩
    exact ⟨read, accepted⟩
  · rintro ⟨read, accepted⟩
    exact ⟨bundle, read, accepted, rfl⟩

/-- The derived bundle of a complete live context is accepted. -/
theorem sourceBundle_accepted {live : Domain.ImpactContext}
    (accepted : impactContextIssues script spelling live = [])
    (isLive : live.collectionOrigin = .live) (complete : live.collectionStatus = .complete)
    {input : Value}
    (same : Same input ((VerifiedReplayBundle.mk (sourceManifest script spelling live)
      live).json spelling)) :
    parseBundle script dates input = .ok ⟨sourceManifest script spelling live, live⟩ := by
  refine parseBundle_ok.mpr ⟨reads_bundle dates _ input same, ?_⟩
  exact verifiedReplayBundleIssues_nil.mpr ⟨accepted, rfl, isLive, complete⟩

theorem parseCollectionResult_some {input : Value} {result : CollectionResult}
    (parsed : parseCollectionResult script dates input = some result) :
    impactCollectionResultIssues script spelling result = [] := by
  simp only [parseCollectionResult, Option.bind_eq_bind, Option.bind_eq_some_iff] at parsed
  obtain ⟨found, _, checked⟩ := parsed
  split at checked
  · next accepted =>
      obtain rfl := Option.some.inj checked
      exact accepted
  · cases checked

/-- An accepted live context comes back from its own result. -/
theorem parseCollectionResult_live {live : Domain.ImpactContext}
    (known : impactContextIssues script spelling live = [])
    (isLive : live.collectionOrigin = .live) :
    parseCollectionResult script dates (liveResultJson spelling live) =
      some (.collectedLive live) := by
  have accepted : impactCollectionResultIssues script spelling (.collectedLive live) = [] := by
    simp only [impactCollectionResultIssues, List.append_eq_nil_iff, within_nil, issueUnless_nil]
    exact ⟨known, isLive⟩
  rw [parseCollectionResult, reads_liveResult dates live _ (.refl _)]
  simp [accepted]

theorem createVerifiedReplayBundle_ok {liveResult : Value} {live : Domain.ImpactContext}
    (parsed : parseCollectionResult script dates liveResult = some (.collectedLive live))
    (complete : live.collectionStatus = .complete) :
    createVerifiedReplayBundle script dates liveResult =
      .ok ⟨sourceManifest script spelling live, live⟩ := by
  have accepted := parseCollectionResult_some parsed
  simp only [impactCollectionResultIssues, List.append_eq_nil_iff, within_nil,
    issueUnless_nil] at accepted
  obtain ⟨known, isLive⟩ := accepted
  obtain ⟨semantic, collection, _⟩ := impactContextIssues_nil.mp known
  have identity : manifestIdentityIssues (sourceIdentity live) [] = [] := by
    simp only [manifestIdentityIssues, sourceIdentity, List.append_eq_nil_iff,
      fingerprintIssues_nil]
    exact ⟨⟨accepted_date known _, collection⟩, semantic⟩
  rw [createVerifiedReplayBundle, parsed]
  simp only [bind_ok, require_ok, exists_const]
  exact ⟨complete, identity, sourceBundle_accepted known isLive complete (.refl _)⟩

end Bundles

section Replay

variable {script : Script} {spelling : Spelling} {bundle : VerifiedReplayBundle}

/-- The semantic identity of a context does not name its origin. -/
theorem replay_semantic : computeImpactContextFingerprint script (replayData bundle) =
    computeImpactContextFingerprint script bundle.sourceLiveContext.toImpactContextData := rfl

/-- The checks of the evidence do not read the origin of the data. -/
theorem evidenceIssues_origin (data : ImpactContextData) (origin : CollectionOrigin)
    (items : List EvidenceItem) : ∀ index known,
      evidenceIssues { data with collectionOrigin := origin } index known items =
        evidenceIssues data index known items := by
  induction items with
  | nil =>
      intro index known
      rfl
  | cons item rest ih =>
      intro index known
      simp only [evidenceIssues, ih]

/-- The replayed data pass the checks that the source passes. -/
theorem replayData_accepted
    (accepted : contextDataIssues script bundle.sourceLiveContext.toImpactContextData = [])
    (manifest : isFingerprint bundle.manifest.manifestFingerprint = true)
    (collection : isFingerprint bundle.sourceLiveContext.collectionFingerprint = true)
    (semantic : isFingerprint bundle.sourceLiveContext.impactContextFingerprint = true) :
    contextDataIssues script (replayData bundle) = [] := by
  have origin : ∀ path, (replayData bundle).collectionOrigin.issues path = [] := by
    intro path
    simp only [replayData, CollectionOrigin.issues, List.append_eq_nil_iff,
      fingerprintIssues_nil]
    exact ⟨⟨manifest, collection⟩, semantic⟩
  have loop : evidenceIssues (replayData bundle) 0 (resolutionInvocations (replayData bundle))
      (replayData bundle).evidence = evidenceIssues bundle.sourceLiveContext.toImpactContextData 0
        (resolutionInvocations bundle.sourceLiveContext.toImpactContextData)
        bundle.sourceLiveContext.evidence := evidenceIssues_origin _ _ _ _ _
  simp only [contextDataIssues, loop, List.append_eq_nil_iff] at accepted ⊢
  obtain ⟨⟨⟨⟨shape, order⟩, items⟩, status⟩, failures⟩ := accepted
  refine ⟨⟨⟨⟨?_, order⟩, items⟩, status⟩, failures⟩
  simp only [ImpactContextData.shapeIssues, List.append_eq_nil_iff] at shape ⊢
  obtain ⟨⟨⟨⟨⟨⟨⟨⟨change, _⟩, rest⟩, count⟩, date⟩, each⟩, most⟩, failed⟩, few⟩ := shape
  exact ⟨⟨⟨⟨⟨⟨⟨⟨change, origin _⟩, rest⟩, count⟩, date⟩, each⟩, most⟩, failed⟩, few⟩

/-- The port over an accepted bundle replays its source. -/
theorem replayResult_ok (accepted : verifiedReplayBundleIssues script spelling bundle = []) :
    impactContextIssues script spelling (replayContext script spelling bundle) = [] ∧
      replayResult script spelling bundle =
        .ok (.collectedVerifiedReplay (replayContext script spelling bundle)) := by
  obtain ⟨known, isManifest, _⟩ := verifiedReplayBundleIssues_nil.mp accepted
  obtain ⟨semantic, collection, isSemantic, _, _, data⟩ := impactContextIssues_nil.mp known
  have manifest : isFingerprint bundle.manifest.manifestFingerprint = true := by
    rw [isManifest]
    exact digest_fingerprint script _
  have replayed : impactContextIssues script spelling (replayContext script spelling bundle) =
      [] := by
    refine fingerprinted_accepted ?_ (replayData_accepted data manifest collection semantic)
    rw [replay_semantic, ← isSemantic]
    simp [replayData, replayBound]
  refine ⟨replayed, ?_⟩
  simp only [replayResult, bind_ok, require_ok, pure_ok, exists_const]
  refine ⟨isSemantic.symm, replayed, ?_, trivial⟩
  simp only [impactCollectionResultIssues, List.append_eq_nil_iff, within_nil, issueUnless_nil]
  exact ⟨replayed, rfl⟩

end Replay

section Result

/-- The replay of a live context differs from it in its origin and its collection fingerprint. -/
structure Replays (script : Script) (spelling : Spelling) (live context : Domain.ImpactContext) :
    Prop where
  accepted : impactContextIssues script spelling context = []
  replayed : isReplay context.collectionOrigin = true
  same : { context with
    collectionOrigin := live.collectionOrigin
    collectionFingerprint := live.collectionFingerprint } = live

/-- A bundle of a complete live collection replays it after every round trip, and an accepted
bundle holds the manifest that is derived from its own source. -/
theorem verified_replay_faithful (script : Script) {spelling : Spelling}
    (dates : DateTexts spelling) :
    (∀ liveResult live,
      parseCollectionResult script dates liveResult = some (.collectedLive live) →
      live.collectionStatus = .complete →
      ∃ bundle, createVerifiedReplayBundle script dates liveResult = .ok bundle ∧
        ∀ input, Same input (bundle.json spelling) →
          createVerifiedReplayDataHubContextPort script dates input = .ok bundle ∧
          ∀ request, Same request canonicalImpactRequest →
            ∃ context, collect script spelling bundle ⟨live.changeId, request⟩ =
                .ok (.collectedVerifiedReplay context) ∧
              Replays script spelling live context ∧
              context.impactContextFingerprint = live.impactContextFingerprint) ∧
    ∀ input bundle, createVerifiedReplayDataHubContextPort script dates input = .ok bundle →
      createVerifiedReplayBundle script dates (liveResultJson spelling bundle.sourceLiveContext) =
        .ok bundle ∧
      ∃ members manifest, input = .object members ∧
        members.lookup "manifest" = some manifest ∧
        Same manifest
          ((sourceManifest script spelling bundle.sourceLiveContext).json spelling) := by
  constructor
  · intro liveResult live parsed complete
    have checked := parseCollectionResult_some parsed
    simp only [impactCollectionResultIssues, List.append_eq_nil_iff, within_nil,
      issueUnless_nil] at checked
    obtain ⟨known, isLive⟩ := checked
    refine ⟨_, createVerifiedReplayBundle_ok parsed complete, ?_⟩
    intro input same
    refine ⟨sourceBundle_accepted known isLive complete same, ?_⟩
    intro request sameRequest
    have bound : verifiedReplayBundleIssues script spelling
        ⟨sourceManifest script spelling live, live⟩ = [] :=
      verifiedReplayBundleIssues_nil.mpr ⟨known, rfl, isLive, complete⟩
    obtain ⟨accepted, replayed⟩ := replayResult_ok bound
    obtain ⟨_, _, semantic, _⟩ := impactContextIssues_nil.mp known
    refine ⟨_, ?_, ⟨accepted, rfl, ?_⟩, semantic.symm⟩
    · rw [collect, bind_ok]
      refine ⟨(), require_ok.mpr ?_, replayed⟩
      rw [replayInputMatches, reads_request request sameRequest]
      simp
    · show (⟨live.toImpactContextData, computeImpactContextFingerprint script
        live.toImpactContextData, live.collectionFingerprint⟩ : Domain.ImpactContext) = live
      rw [← semantic]
  · intro input bundle parsed
    obtain ⟨read, accepted⟩ := parseBundle_ok.mp parsed
    obtain ⟨known, isManifest, isLive, complete⟩ := verifiedReplayBundleIssues_nil.mp accepted
    have whole : bundle = ⟨sourceManifest script spelling bundle.sourceLiveContext,
        bundle.sourceLiveContext⟩ := by
      rw [← isManifest]
    constructor
    · rw [createVerifiedReplayBundle_ok (parseCollectionResult_live known isLive) complete,
        ← whole]
    · obtain ⟨members, rfl, _, _, fields⟩ := readObject_some.mp read
      simp only [Option.bind_eq_bind, Option.bind_eq_some_iff, field_some] at fields
      obtain ⟨manifest, ⟨value, isValue, isRead⟩, _, _, isBundle⟩ := fields
      cases isBundle
      refine ⟨members, value, rfl, isValue, ?_⟩
      rw [← isManifest]
      exact readManifest_same isRead

/-- A date is written with as many characters of two kinds as its parts count. -/
def tally (first second : ℕ) : String :=
  String.ofList (List.replicate first 'i' ++ List.replicate second 's')

def sampleSpelling : Spelling where
  id identifier := toString identifier.suffix
  fingerprint value := hexText value.digest
  date text := tally text.instant text.spelling

def sampleDates : DateTexts sampleSpelling where
  read text :=
    let date : IsoDateTime := ⟨text.toList.count 'i', text.toList.count 's'⟩
    if tally date.instant date.spelling = text then some date else none
  read_date date := by
    have first : (tally date.instant date.spelling).toList.count 'i' = date.instant := by
      simp [tally, List.count_replicate]
    have second : (tally date.instant date.spelling).toList.count 's' = date.spelling := by
      simp [tally, List.count_replicate]
    simp only [sampleSpelling, first, second, if_true]
  date_read text date read := by
    simp only at read
    split at read
    · next written =>
        rw [← Option.some.inj read]
        exact written
    · cases read

def sampleLive : Domain.ImpactContext :=
  ⟨Agent.sampleComplete 'a' 0,
    computeImpactContextFingerprint Agent.sampleScript (Agent.sampleComplete 'a' 0),
    computeImpactCollectionFingerprint Agent.sampleScript sampleSpelling
      (Agent.sampleComplete 'a' 0)⟩

theorem sampleLive_parsed : parseCollectionResult Agent.sampleScript sampleDates
    (liveResultJson sampleSpelling sampleLive) = some (.collectedLive sampleLive) :=
  parseCollectionResult_live
    (fingerprinted_accepted rfl (Agent.sampleComplete_accepted 'a' 0)) rfl

theorem verified_replay_faithful_sample : ∃ bundle,
    createVerifiedReplayBundle Agent.sampleScript sampleDates
      (liveResultJson sampleSpelling sampleLive) = .ok bundle ∧
    createVerifiedReplayDataHubContextPort Agent.sampleScript sampleDates
      (bundle.json sampleSpelling) = .ok bundle := by
  obtain ⟨bundle, created, ports⟩ :=
    (verified_replay_faithful Agent.sampleScript sampleDates).1 _ _ sampleLive_parsed rfl
  exact ⟨bundle, created, (ports _ (.refl _)).1⟩

end Result

end LineageGuard.Datahub
