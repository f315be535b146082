import LineageGuard.Db.CanonicalJson
import LineageGuard.Store.Documents
import Mathlib.Tactic

/-
This file compares the digests of the payloads that the script and the database both hash.
-/

namespace LineageGuard

open Json Domain

/-- These payloads are hashed on both sides while a run is executed. -/
inductive HashedPayload
  | candidate (candidate : Domain.MigrationCandidate)
  | runEventStream (events : List RunEvent)
  | signedReceipt (receipt : Domain.SignedLiveValidationReceipt)
  | approval (payload : ApprovalPayload)

namespace HashedPayload

def json (spelling : Spelling) : HashedPayload → Value
  | .candidate value => value.json
  | .runEventStream events => runEventStreamValue spelling events
  | .signedReceipt receipt => signedReceiptValue spelling receipt
  | .approval payload => payload.json spelling

/-- An approval payload is built by the store and has no schema of its own. -/
def issues (script : Script) (spelling : Spelling) : HashedPayload → List Issue
  | .candidate value => migrationCandidateIssues value
  | .runEventStream events => runEventStreamIssues events
  | .signedReceipt receipt => signedLiveValidationReceiptIssues script spelling receipt
  | .approval _ => []

end HashedPayload

section Keys

/-- The objects of the payloads have these shapes. -/
inductive FenceShape
  | model | artifact | owner | unresolvedOwner | step | candidate | observation | check
  | headers | payload | signed | receipt | stream | approval

namespace FenceShape

def keys : FenceShape → List String
  | .model => ["operation", "expectedBaseSha", "content", "kind", "path"]
  | .artifact => ["operation", "content", "kind", "path"]
  | .owner => ["kind", "ownerUrn", "affectedAssetUrns", "reason"]
  | .unresolvedOwner => ["kind", "evidenceId", "affectedAssetUrn", "fallbackAuthority", "reason"]
  | .step => ["id", "phase", "title", "rationale", "affectedEvidenceIds", "artifactTargets"]
  | .candidate => ["strategy", "sourceChangeFingerprint", "sourcePatchFingerprint",
      "sourceImpactContextFingerprint", "sourceDecision", "sourceEvidenceIds", "summary", "steps",
      "artifacts", "requiredReviewers", "compatibilityWindowDays", "rollbackPlan"]
  | .observation => ["path", "candidateArtifactFingerprint", "materializedSha256"]
  | .check => ["check", "status", "artifactPaths", "artifactObservations", "artifactSetFingerprint",
      "validatorImplementationId", "validatorVersion", "validatorDigest", "commandId", "exitCode",
      "startedAt", "finishedAt", "stdoutFingerprint", "stderrFingerprint", "outputFingerprint",
      "runId", "sandboxId", "worktreeId", "leaseId", "workerId", "generation"]
  | .headers => ["schemaVersion", "purpose", "algorithm", "issuer", "keyId", "candidateFingerprint",
      "changeFingerprint", "impactContextFingerprint",
      "authoritativeGroundedAssessmentFingerprint", "authoritativeGroundedDecision",
      "authorizedRunEventStreamFingerprint", "leaseAcquiredAt", "leaseExpiresAt", "runId",
      "sandboxId", "worktreeId", "leaseId", "workerId", "generation"]
  | .payload => ["status", "artifactPaths", "artifactObservations", "artifactSetFingerprint",
      "checks", "completedAt"]
  | .signed => ["domain", "receipt"]
  | .receipt => ["protectedHeaders", "payload", "signedPayloadFingerprint", "signature"]
  | .stream => ["domain", "events"]
  | .approval => ["domain", "runId", "effectKind", "target", "inputFingerprint",
      "validationReceiptId", "validationReceiptFingerprint", "validationCompletedAt",
      "approvedBy", "approvedAt", "expiresAt"]

theorem ordered (shape : FenceShape) : Ordered shape.keys := by
  cases shape <;> decide +kernel

/-- An object of the shape agrees exactly when its members do. -/
theorem agrees (shape : FenceShape) {members : List (String × Value)}
    (named : members.map Prod.fst = shape.keys) :
    OrdersAgree (.object members) ↔ ∀ member ∈ members, OrdersAgree member.2 :=
  object_agrees shape.keys named shape.ordered

end FenceShape

end Keys

section Orders

variable (spelling : Spelling)

theorem artifact_agrees (artifact : MigrationArtifact) : OrdersAgree artifact.json := by
  cases kind : artifact.kind <;> simp only [MigrationArtifact.json, kind, ArtifactKind.members]
  case dbtModel expectedBaseSha =>
    rw [FenceShape.agrees .model rfl]
    simp
  all_goals
    rw [FenceShape.agrees .artifact rfl]
    simp

theorem reviewer_agrees (reviewer : MigrationReviewer) : OrdersAgree reviewer.json := by
  cases reviewer with
  | owner ownerUrn affectedAssetUrns reason =>
      rw [MigrationReviewer.json, FenceShape.agrees .owner rfl]
      simp [texts]
  | unresolvedOwner evidenceId affectedAssetUrn reason =>
      rw [MigrationReviewer.json, FenceShape.agrees .unresolvedOwner rfl]
      simp

theorem step_agrees (step : MigrationStep) : OrdersAgree step.json := by
  rw [MigrationStep.json, FenceShape.agrees .step rfl]
  simp [texts]

theorem candidate_agrees (candidate : Domain.MigrationCandidate) :
    OrdersAgree candidate.json := by
  rw [Domain.MigrationCandidate.json, FenceShape.agrees .candidate rfl]
  simp [texts, artifact_agrees, reviewer_agrees, step_agrees]

theorem observations_agrees (observations : List ExecutedArtifactObservation) :
    OrdersAgree (observationsJson observations) := by
  rw [observationsJson, array_agrees, List.forall_mem_map]
  intro observation _
  rw [ExecutedArtifactObservation.json, FenceShape.agrees .observation rfl]
  simp

theorem check_agrees (check : ExecutedValidationCheck) : OrdersAgree (check.json spelling) := by
  rw [ExecutedValidationCheck.json, FenceShape.agrees .check rfl]
  simp [texts, observations_agrees, ExecutionFence.members]

theorem headers_agrees (headers : LiveValidationProtectedHeaders) :
    OrdersAgree (headers.json spelling) := by
  rw [LiveValidationProtectedHeaders.json, FenceShape.agrees .headers rfl]
  simp [ExecutionFence.members]

theorem payload_agrees (payload : LiveValidationPayload) :
    OrdersAgree (payload.json spelling) := by
  rw [LiveValidationPayload.json, FenceShape.agrees .payload rfl]
  simp [texts, observations_agrees, check_agrees]

theorem receipt_agrees (receipt : Domain.SignedLiveValidationReceipt) :
    OrdersAgree (signedReceiptValue spelling receipt) := by
  rw [signedReceiptValue, FenceShape.agrees .signed rfl]
  simp only [List.forall_mem_cons, string_agrees, true_and, List.not_mem_nil, false_implies,
    implies_true, and_true, Domain.SignedLiveValidationReceipt.json]
  rw [FenceShape.agrees .receipt rfl]
  simp [LiveValidationUnsignedEnvelope.members, headers_agrees, payload_agrees]

/-- The keys of the two shared shapes and of each type of event are ordered alike. -/
theorem event_agrees (event : RunEvent) : OrdersAgree (event.json spelling) := by
  have ordered : Ordered (["eventId", "runId", "sequence", "occurredAt", "leaseId", "workerId",
      "generation", "type"] ++ (event.body.members spelling).map Prod.fst) := by
    cases event.body with
    | statusChanged source target detail =>
        cases detail <;>
          simp only [RunEventBody.members, Domain.optional, Option.map_none, Option.map_some,
            Option.toList_none, Option.toList_some, List.append_nil, List.cons_append,
            List.nil_append, List.map_cons, List.map_nil] <;>
          decide
    | leaseAcquired | leaseRenewed | leaseReleased | leaseExpired | retryScheduled =>
        simp only [RunEventBody.members, List.map_cons, List.map_nil]
        decide
  have values : ∀ member ∈ event.body.members spelling, OrdersAgree member.2 := by
    cases event.body with
    | statusChanged source target detail =>
        simp only [RunEventBody.members, List.forall_mem_append]
        exact ⟨by simp, by cases detail <;> simp [Domain.optional]⟩
    | leaseAcquired | leaseRenewed | leaseReleased | leaseExpired | retryScheduled =>
        simp [RunEventBody.members]
  rw [RunEvent.json, object_agrees _ (by rw [List.map_append]; rfl) ordered,
    List.forall_mem_append]
  exact ⟨by simp, values⟩

theorem stream_agrees (events : List RunEvent) :
    OrdersAgree (runEventStreamValue spelling events) := by
  rw [runEventStreamValue, FenceShape.agrees .stream rfl]
  simp [event_agrees]

theorem approval_agrees (payload : ApprovalPayload) : OrdersAgree (payload.json spelling) := by
  rw [ApprovalPayload.json, FenceShape.agrees .approval rfl]
  simp

end Orders

section Numbers

variable (spelling : Spelling)

theorem artifact_plain (artifact : MigrationArtifact) : Plain artifact.json := by
  cases kind : artifact.kind <;>
    simp [MigrationArtifact.json, kind, ArtifactKind.members, Plain, plainMembers_iff]

theorem reviewer_plain (reviewer : MigrationReviewer) : Plain reviewer.json := by
  cases reviewer <;>
    simp [MigrationReviewer.json, texts, Plain, plainMembers_iff, plainItems_iff]

theorem step_plain (step : MigrationStep) : Plain step.json := by
  simp [MigrationStep.json, texts, Plain, plainMembers_iff, plainItems_iff]

/-- The window of an accepted candidate has at most ninety days. -/
theorem candidate_plain {candidate : Domain.MigrationCandidate}
    (accepted : migrationCandidateIssues candidate = []) : Plain candidate.json := by
  simp only [migrationCandidateIssues, Domain.MigrationCandidate.shapeIssues,
    List.append_eq_nil_iff, issueUnless_nil] at accepted
  obtain ⟨⟨⟨⟨_, least⟩, most⟩, _⟩, _⟩ := accepted
  have small : candidate.compatibilityWindowDays.natAbs < 1000000000000000000000 := by omega
  simp [Domain.MigrationCandidate.json, texts, Plain, plainMembers_iff, plainItems_iff,
    artifact_plain, reviewer_plain, step_plain, small]

theorem observations_plain (observations : List ExecutedArtifactObservation) :
    Plain (observationsJson observations) := by
  simp [observationsJson, ExecutedArtifactObservation.json, Plain, plainMembers_iff,
    plainItems_iff]

theorem fence_plain {fence : ExecutionFence} {path : List PathItem}
    (accepted : fence.issues path = []) :
    ∀ member ∈ fence.members spelling, Plain member.2 := by
  simp only [ExecutionFence.issues, List.append_eq_nil_iff, issueUnless_nil] at accepted
  have small : fence.generation < 1000000000000000000000 := by omega
  simp [ExecutionFence.members, Plain, small]

theorem check_plain {check : ExecutedValidationCheck} {path : List PathItem}
    (accepted : check.fence.issues path = []) : Plain (check.json spelling) := by
  rw [ExecutedValidationCheck.json, Plain, plainMembers_iff, List.forall_mem_append]
  refine ⟨?_, fence_plain spelling accepted⟩
  simp [Plain, texts, plainItems_iff, observations_plain]

theorem headers_plain {headers : LiveValidationProtectedHeaders} {path : List PathItem}
    (accepted : headers.fence.issues path = []) : Plain (headers.json spelling) := by
  rw [LiveValidationProtectedHeaders.json, Plain, plainMembers_iff, List.forall_mem_append]
  exact ⟨by simp [Plain], fence_plain spelling accepted⟩

theorem receipt_plain {script : Script} {receipt : Domain.SignedLiveValidationReceipt}
    (accepted : signedLiveValidationReceiptIssues script spelling receipt = []) :
    Plain (signedReceiptValue spelling receipt) := by
  obtain ⟨shape, shapes⟩ := receipt_shapes accepted
  have headers := headers_plain spelling (LiveValidationProtectedHeaders.fence_issues shape)
  have each : ∀ check ∈ receipt.payload.checks, Plain (check.json spelling) := by
    intro check present
    obtain ⟨path, clean⟩ := shapes check present
    exact check_plain spelling (ExecutedValidationCheck.fence_issues clean)
  simpa [signedReceiptValue, Domain.SignedLiveValidationReceipt.json,
    LiveValidationUnsignedEnvelope.members, LiveValidationPayload.json, texts, Plain,
    plainMembers_iff, plainItems_iff, headers, observations_plain] using each

/-- The positions of a stored stream are below its bound. -/
theorem Stored.sequence_lt {runId : RunId} {events : List RunEvent}
    (stored : Stored runId events) : ∀ event ∈ events, event.sequence < 300 := by
  induction events using List.reverseRecOn with
  | nil => simp
  | append_singleton rest last ih =>
      obtain ⟨earlier, room, _, accepted⟩ := stored_append.mp stored
      intro event present
      rcases List.mem_append.mp present with old | added
      · exact ih earlier event old
      · rw [List.mem_singleton.mp added]
        simp only [StreamState.issues, StreamState.commonIssues, StreamState.add,
          List.append_eq_nil_iff, issueUnless_nil, replay_index] at accepted
        omega

theorem event_plain {event : RunEvent} (shaped : runEventIssues event = [])
    (placed : event.sequence < 300) : Plain (event.json spelling) := by
  simp only [runEventIssues, eventBaseIssues, List.append_eq_nil_iff, issueUnless_nil] at shaped
  obtain ⟨⟨_, bounded⟩, body⟩ := shaped
  have sequence : event.sequence < 1000000000000000000000 := by omega
  have generation : event.generation < 1000000000000000000000 := by omega
  have values : ∀ member ∈ event.body.members spelling, Plain member.2 := by
    cases shape : event.body with
    | statusChanged source target detail =>
        cases detail <;> simp [RunEventBody.members, Domain.optional, Plain]
    | retryScheduled operation attempt retryAt reason =>
        simp only [eventBodyIssues, shape, List.append_eq_nil_iff, issueUnless_nil] at body
        have attempts : attempt < 1000000000000000000000 := by omega
        simp [RunEventBody.members, Plain, attempts]
    | leaseAcquired | leaseRenewed | leaseReleased | leaseExpired =>
        simp [RunEventBody.members, Plain]
  rw [RunEvent.json, Plain, plainMembers_iff, List.forall_mem_append]
  exact ⟨by simp [Plain, sequence, generation], values⟩

theorem stream_plain {events : List RunEvent} (accepted : runEventStreamIssues events = []) :
    Plain (runEventStreamValue spelling events) := by
  have each : ∀ event ∈ events, Plain (event.json spelling) := by
    cases events with
    | nil => simp
    | cons first rest =>
        have belongs : ∀ event ∈ (first :: rest).head?, event.runId = first.runId := by simp
        have stored := (streamIssues_nil (by simp) belongs).mp accepted
        intro event present
        exact event_plain spelling (stored.shaped event present) (stored.sequence_lt event present)
  simpa [runEventStreamValue, Plain, plainMembers_iff, plainItems_iff] using each

theorem approval_plain (payload : ApprovalPayload) : Plain (payload.json spelling) := by
  simp [ApprovalPayload.json, Plain, plainMembers_iff]

end Numbers

section Agreement

variable {script : Script} {spelling : Spelling} {payload : HashedPayload}

theorem HashedPayload.agrees (spelling : Spelling) (payload : HashedPayload) :
    OrdersAgree (payload.json spelling) := by
  cases payload with
  | candidate value => exact candidate_agrees value
  | runEventStream events => exact stream_agrees spelling events
  | signedReceipt receipt => exact receipt_agrees spelling receipt
  | approval payload => exact approval_agrees spelling payload

theorem HashedPayload.plain (accepted : payload.issues script spelling = []) :
    Plain (payload.json spelling) := by
  cases payload with
  | candidate value => exact candidate_plain accepted
  | runEventStream events => exact stream_plain spelling accepted
  | signedReceipt receipt => exact receipt_plain spelling accepted
  | approval payload => exact approval_plain spelling payload

/-- The script and the database hash every accepted payload to the same digest. -/
theorem fences_agree (script : Script) (spelling : Spelling) (payload : HashedPayload)
    (accepted : payload.issues script spelling = []) :
    script.sha256 (payload.json spelling) = sqlSha256 script (payload.json spelling) :=
  sha256_agrees (payload.plain accepted) (payload.agrees spelling)

def sampleEvent : RunEvent :=
  ⟨⟨0⟩, ⟨0⟩, 0, toISOString 0, ⟨0⟩, "worker", 1, .leaseAcquired (toISOString 1)⟩

theorem fences_agree_sample :
    (Script.probe 0 []).sha256 (runEventStreamValue .sample [sampleEvent]) =
    sqlSha256 (Script.probe 0 []) (runEventStreamValue .sample [sampleEvent]) :=
  fences_agree (Script.probe 0 []) .sample (.runEventStream [sampleEvent]) (by decide)

end Agreement

end LineageGuard
