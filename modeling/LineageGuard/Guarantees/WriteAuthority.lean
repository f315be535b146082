import LineageGuard.Datahub.Writeback
import LineageGuard.Store.Documents
import Mathlib.Tactic

/-
This file compares the fingerprint that the store gives an effect with the one that the write-back
port requires.
-/

namespace LineageGuard.Datahub

open Json Domain Attempt Dialogue

section Fingerprints

variable (script : Script) (request : DataHubWritebackRequest)

/-- An effect input has at most these keys. -/
theorem effectInput_key {payload : Option Value} {key : String}
    (present : key ∈ (effectInputMembers payload).map Prod.fst) :
    key = "domain" ∨ key = "payload" := by
  cases payload with
  | none => exact Or.inl (by simpa [effectInputMembers] using present)
  | some value => simpa [effectInputMembers] using present

/-- The text of the binding is not the text of any effect input. -/
theorem binding_apart (payload : Option Value) :
    script.stableJson (authorityBinding script request) ≠
      script.stableJson (.object (effectInputMembers payload)) := by
  rw [authorityBinding]
  apply script.stableJson_apart
  · simp [DataHubWritebackRequest.members]
  · simp [effectInputMembers]
  · intro key isKey
    rcases effectInput_key isKey with rfl | rfl <;> simp [DataHubWritebackRequest.members]

end Fingerprints

section Refusals

variable {script : Script} {runtime : Runtime} {dependencies : LiveDependencies}
variable {unsafeRequest request : DataHubWritebackRequest}

/-- The store answers with its fingerprint of the payload, or it rejects. -/
def FromStore (script : Script) (payload : Option Value) : Exchange Call Reply → Prop
  | ⟨.verifyCurrentEffectReservation _ _, .ok verified⟩ =>
      verified.canonicalEffectFingerprint = effectInputFingerprint script payload
  | ⟨.verifyCurrentEffectReservation _ _, .error failure⟩ => failure = .other
  | _ => True

/-- An accepted request starts with the verification of its reservation. -/
theorem write_accepted
    (accepted : checkRequest script runtime dependencies unsafeRequest = .ok request) :
    write script runtime dependencies unsafeRequest =
      .ask (.verifyCurrentEffectReservation dependencies.currentEffectClaim
        (canonicalEffectFingerprint script request)) fun reply =>
          settle (acceptReservation script runtime request reply) >>=
            writeVerified script runtime dependencies request := by
  rw [write, accepted]
  rfl

/-- No other answer of the store than one with the fingerprint of the port is accepted. -/
theorem acceptReservation_refused {payload : Option Value}
    (other : effectInputFingerprint script payload ≠ canonicalEffectFingerprint script request)
    {claim fingerprint : String} {reply : Except Failure VerifiedReservation}
    (answered : FromStore script payload ⟨.verifyCurrentEffectReservation claim fingerprint, reply⟩) :
    ∃ message, acceptReservation script runtime request reply =
      .error (adapterError .authorityInvalid message) := by
  cases reply with
  | error failure =>
      have raised : failure = .other := answered
      subst raised
      exact ⟨_, rfl⟩
  | ok verified =>
      have stored : verified.canonicalEffectFingerprint = effectInputFingerprint script payload :=
        answered
      have refused : verified.canonicalEffectFingerprint ≠
          canonicalEffectFingerprint script request := by
        rwa [stored]
      simp only [acceptReservation, reject]
      rw [if_pos (Or.inr (Or.inl refused))]
      exact ⟨_, rfl⟩

/-- No accepted request has the fingerprint of an effect payload, and so the port refuses every
reservation that the store gives. -/
theorem store_authority_refused (script : Script) (runtime : Runtime)
    (dependencies : LiveDependencies) (unsafeRequest request : DataHubWritebackRequest)
    (accepted : checkRequest script runtime dependencies unsafeRequest = .ok request)
    (distinct : ∀ payload, effectInputFingerprint script payload =
        canonicalEffectFingerprint script request →
      script.stableJson (.object (effectInputMembers payload)) =
        script.stableJson (authorityBinding script request))
    (payload : Option Value) :
    effectInputFingerprint script payload ≠ canonicalEffectFingerprint script request ∧
    ∀ trace result, Runs (write script runtime dependencies unsafeRequest) trace result →
      (∀ exchange ∈ trace, FromStore script payload exchange) →
      (∀ exchange ∈ trace, ∀ tool arguments, exchange.call ≠ .invoke tool arguments) ∧
      ∃ message, result = .error (adapterError .authorityInvalid message) := by
  have other : effectInputFingerprint script payload ≠
      canonicalEffectFingerprint script request := by
    intro same
    exact binding_apart script request payload (distinct payload same).symm
  refine ⟨other, fun trace result runs answered => ?_⟩
  rw [write_accepted accepted] at runs
  cases runs with
  | ask reply rest =>
      have refusal : ∃ message, acceptReservation script runtime request reply =
          .error (adapterError .authorityInvalid message) :=
        acceptReservation_refused other (answered _ List.mem_cons_self)
      obtain ⟨message, refused⟩ := refusal
      simp only [refused] at rest
      cases rest with
      | done =>
          refine ⟨fun exchange present tool arguments => ?_, message, rfl⟩
          rw [List.mem_singleton.mp present]
          exact Call.noConfusion

end Refusals

section Sample

def sampleUrl : String := "https://github.com/o/r/pull/1"

def sampleParts : Url := ⟨"https:", "github.com", "", "", "", "", "", "/o/r/pull/1"⟩

/-- The deadline of the examples is a second after their clock. -/
def sampleRuntime : Runtime where
  parseUrl text := if text = sampleUrl then some sampleParts else none
  parseDate text := if text = "1970-01-01T00:00:01.000Z" then some 1000 else none
  toISOString _ := "1970-01-01T00:00:00.000Z"

/-- The digest tells exactly the effect inputs of the store from all other objects. -/
def sampleScript : Script := Script.marking ('\x7b' :: quote "domain")

def sampleDependencies : LiveDependencies := ⟨"claim", true, none⟩

/-- The requests of the examples differ in their run. -/
def sampleRequestFor (run : String) : DataHubWritebackRequest where
  artifactFingerprint := hexText 0
  approvalFingerprint := hexText 0
  candidateFingerprint := hexText 0
  decision := .review
  documentPayloadHash := hexText 0
  expectedMetadataFingerprint := hexText 0
  expectedMetadataVersion := "1"
  expectedReviewTagDefinitionFingerprint := hexText 0
  githubPrUrl := sampleUrl
  githubReceiptFingerprint := hexText 0
  idempotencyKey := run
  intentId := run
  reasonEvidenceIds := ["e"]
  rollbackRef := "r"
  runId := run
  scenarioMarker := canonicalScenarioMarker
  sourceCollectionFingerprint := hexText 0
  sourceUrn := canonicalDatasetUrn
  tagPayloadHash := hexText 0
  targetInstanceFingerprint := hexText 0
  validationReceiptFingerprint := hexText 0

theorem hexText_fingerprint (value : ℕ) : isFingerprint (hexText value) = true :=
  isFingerprint_of (hexText_length value) (hexText_chars value)

theorem sampleUrl_accepted : trim sampleUrl = sampleUrl ∧ utf16Length sampleUrl ≤ 2048 ∧
    isPullUrl sampleParts = true ∧ isUrn canonicalDatasetUrn = true ∧
    1 ≤ utf16Length canonicalScenarioMarker ∧ utf16Length canonicalScenarioMarker ≤ 256 := by
  decide

theorem sampleRequest_shaped {run : String} (identified : isIdentifier run = true) :
    (sampleRequestFor run).Shaped := by
  obtain ⟨_, short, _, urn, filled, brief⟩ := sampleUrl_accepted
  have shapes : areReasons ["e"] = true ∧ isRepositoryArtifactPath "r" = true := by
    decide
  refine ⟨?_, ?_, ?_, shapes.1, shapes.2, urn, short⟩
  · simp [sampleRequestFor, hexText_fingerprint]
  · simp [sampleRequestFor, identified]
  · simp only [sampleRequestFor, List.forall_mem_cons]
    exact ⟨by decide, ⟨filled, brief⟩, by simp⟩

theorem sampleRequest_trimmed (run : String) :
    (sampleRequestFor run).trimmed = sampleRequestFor run := by
  simp [DataHubWritebackRequest.trimmed, sampleRequestFor, sampleUrl_accepted.1]

theorem sampleRequest_parsed {run : String} (identified : isIdentifier run = true) :
    parseRequest sampleRuntime (sampleRequestFor run) = .ok (sampleRequestFor run) := by
  simp only [parseRequest, sampleRequest_trimmed, bind_ok, present_ok, require_ok, pure_ok]
  exact ⟨sampleParts, rfl, (), ⟨sampleUrl_accepted.2.2.1, sampleRequest_shaped identified⟩,
    trivial⟩

theorem sampleScript_sha256 {members : List (String × Value)} (filled : members ≠ [])
    (missing : "domain" ∉ members.map Prod.fst) :
    sampleScript.sha256 (.object members) = hexText 0 :=
  Script.marking_sha256 filled missing

theorem sampleRequest_accepted {run : String} (identified : isIdentifier run = true) :
    checkRequest sampleScript sampleRuntime sampleDependencies (sampleRequestFor run) =
      .ok (sampleRequestFor run) := by
  have document : sampleScript.sha256 (documentArguments sampleScript (sampleRequestFor run)) =
      hexText 0 := sampleScript_sha256 (by simp) (by simp)
  have tag : sampleScript.sha256 (tagArguments (sampleRequestFor run)) = hexText 0 :=
    sampleScript_sha256 (by simp) (by simp)
  have valid : validateRequest sampleScript sampleRuntime (sampleRequestFor run) =
      .ok (sampleRequestFor run) := by
    simp only [validateRequest, sampleRequest_parsed identified, bind_ok, require_ok, pure_ok]
    exact ⟨_, rfl, (), ⟨rfl, rfl⟩, (), ⟨document, tag⟩, rfl⟩
  simp only [checkRequest, valid, bind_ok, require_ok, pure_ok]
  exact ⟨(), rfl, _, rfl, (), by simp [sampleDependencies], rfl⟩

def sampleRequest : DataHubWritebackRequest := sampleRequestFor "a"

theorem sampleRequest_fingerprint :
    canonicalEffectFingerprint sampleScript sampleRequest = hexText 0 :=
  sampleScript_sha256 (by simp [DataHubWritebackRequest.members])
    (by simp [DataHubWritebackRequest.members])

/-- The text of an effect input starts with its domain. -/
theorem effectInput_start (script : Script) (payload : Option Value) : ∃ rest,
    script.stableJson (.object (effectInputMembers payload)) =
      '\x7b' :: (quote "domain" ++ rest) := by
  have ordered : localeLe "domain" "payload" = true := by decide
  cases payload <;>
    simp [Script.stableJson, effectInputMembers, canonical, canonicalMembers, ordered,
      Script.stringify, Script.stringifyMembers, commaJoin]

/-- The fingerprint of the store and that of the port differ for every effect input. -/
theorem sample_distinct (payload : Option Value) :
    effectInputFingerprint sampleScript payload ≠
      canonicalEffectFingerprint sampleScript sampleRequest := by
  have store : effectInputFingerprint sampleScript payload = hexText 1 := by
    obtain ⟨rest, shape⟩ := effectInput_start sampleScript payload
    rw [effectInputFingerprint, Script.sha256, shape]
    simp [sampleScript, Script.marking]
  rw [sampleRequest_fingerprint, store]
  intro same
  exact absurd (hexText_last same) (by decide)

/-- No effect payload has the fingerprint that the port requires of this accepted request. -/
theorem fingerprints_disagree :
    checkRequest sampleScript sampleRuntime sampleDependencies sampleRequest =
      .ok sampleRequest ∧
    ¬ ∃ payload, effectInputFingerprint sampleScript payload =
      canonicalEffectFingerprint sampleScript sampleRequest := by
  refine ⟨sampleRequest_accepted rfl, ?_⟩
  rintro ⟨payload, same⟩
  exact sample_distinct payload same

theorem store_authority_refused_sample :
    effectInputFingerprint sampleScript (some .null) ≠
      canonicalEffectFingerprint sampleScript sampleRequest ∧
    ∀ trace result,
      Runs (write sampleScript sampleRuntime sampleDependencies sampleRequest) trace result →
      (∀ exchange ∈ trace, FromStore sampleScript (some .null) exchange) →
      (∀ exchange ∈ trace, ∀ tool arguments, exchange.call ≠ .invoke tool arguments) ∧
      ∃ message, result = .error (adapterError .authorityInvalid message) :=
  store_authority_refused sampleScript sampleRuntime sampleDependencies sampleRequest
    sampleRequest (sampleRequest_accepted rfl)
    (fun payload same => absurd same (sample_distinct payload)) (some .null)

end Sample

end LineageGuard.Datahub
