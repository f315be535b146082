import LineageGuard.Guarantees.WriteSafety
import Mathlib.Tactic

/-
This file follows a second write on the dataset that a successful write has left behind.
-/

namespace LineageGuard.Datahub

open Json Domain Attempt Dialogue

section Blocked

variable {script : Script} {runtime : Runtime} {dependencies : LiveDependencies}
variable {request : DataHubWritebackRequest} {past : Trace} {verified : VerifiedReservation}

/-- Every reservation that the authority confirmed is still unconsumed. -/
def FreshAuthority (trace : Trace) : Prop :=
  ∀ claim fingerprint verified,
    ⟨.verifyCurrentEffectReservation claim fingerprint, .ok verified⟩ ∈ trace →
      verified.state = .reserved

/-- The first observation has the reviewed tag. -/
def Tagged (trace : Trace) : Prop :=
  ∀ before, (reads trace).head? = some (.ok before) → canonicalReviewedTagUrn ∈ before.tagUrns

/-- The write fails, and once it has observed the dataset it fails with a conflict. -/
def Blocked {Value : Type} (past : Trace) (result : Except Failure Value) : Prop :=
  FreshAuthority past → Tagged past → ∃ failure, result = .error failure ∧
    ∀ before, (reads past).head? = some (.ok before) →
      ∃ message, failure = adapterError .conflict message

theorem FreshAuthority.before {later : Trace} (fresh : FreshAuthority (past ++ later)) :
    FreshAuthority past :=
  fun claim fingerprint verified present =>
    fresh claim fingerprint verified (List.mem_append_left _ present)

theorem Tagged.before {later : Trace} (tagged : Tagged (past ++ later)) : Tagged past := by
  intro before first
  apply tagged before
  rw [reads_append, List.head?_append, first]
  rfl

theorem Blocked.unread {Value : Type} {failure : Failure} (unread : reads past = []) :
    Blocked past (.error failure : Except Failure Value) := by
  intro _ _
  refine ⟨failure, rfl, fun before first => ?_⟩
  rw [unread] at first
  cases first

theorem Blocked.quiet {Value : Type} {failure : Failure} {exchange : Exchange Call Reply}
    (blocked : Blocked past (.error failure : Except Failure Value))
    (quiet : Quiet exchange.call) {Result : Type} :
    Blocked (past ++ [exchange]) (.error failure : Except Failure Result) := by
  intro fresh tagged
  rw [Tagged, quiet.reads] at tagged
  obtain ⟨raised, same, conflict⟩ := blocked fresh.before tagged
  cases same
  exact ⟨failure, rfl, by rwa [quiet.reads]⟩

/-- The tag of another write is a conflict for a reservation that is not consumed. -/
theorem classifyBefore_reserved {existing : WriteProof} (reserved : verified.state = .reserved)
    (tagged : existing.tag = true) :
    ∃ message, classifyBefore verified existing = .error (adapterError .conflict message) := by
  cases document : existing.document <;>
    simp [classifyBefore, reject, reserved, tagged, document, bind, Except.bind]

theorem proofState_tag {snapshot : ExactDataHubEntitySnapshot} {proof : WriteProof}
    {payloads : InternalDataHubWritebackPayloads}
    (shown : proofState script snapshot payloads = .ok proof) :
    proof.tag = snapshot.tagUrns.contains payloads.reviewStatusTagUrn := by
  simp only [proofState, bind_ok, reject_ok, pure_ok] at shown
  obtain ⟨_, _, rfl⟩ := shown
  rfl

/-- The only document of a dataset has the identity of the payloads and their content. -/
theorem proofState_exact {snapshot : ExactDataHubEntitySnapshot} {proof : DataHubDocumentProof}
    {payloads : InternalDataHubWritebackPayloads} (only : snapshot.documentProofs = [proof])
    (same : proof.id = payloads.document.id) (exact : proof.Exact script payloads) :
    proofState script snapshot payloads =
      .ok ⟨true, snapshot.tagUrns.contains payloads.reviewStatusTagUrn⟩ := by
  simp [proofState, reject, only, same, exact, bind, Except.bind, pure, Except.pure]

/-- The only document of a dataset has the identity of the payloads and another content. -/
theorem proofState_foreign {snapshot : ExactDataHubEntitySnapshot} {proof : DataHubDocumentProof}
    {payloads : InternalDataHubWritebackPayloads} (only : snapshot.documentProofs = [proof])
    (same : proof.id = payloads.document.id) (foreign : ¬ proof.Exact script payloads) :
    ∃ message, proofState script snapshot payloads = .error (adapterError .conflict message) := by
  simp [proofState, reject, only, same, foreign, bind, Except.bind]

theorem start_blocked {claim fingerprint : String}
    (confirmed : ⟨.verifyCurrentEffectReservation claim fingerprint, .ok verified⟩ ∈ past)
    (unread : reads past = []) :
    Holds (fun _ _ => True) Blocked past (start script runtime request verified) := by
  apply Holds.bind
  apply readExact_holds trivial
  intro reply
  have first : (reads (past ++ [⟨readCall script request, reply⟩])).head? = some reply := by
    rw [reads_append, unread]
    rfl
  cases result : observed script request .before reply with
  | error failure =>
      intro _ _
      refine ⟨failure, rfl, fun before isFirst => ?_⟩
      rcases observed_error result with rfl | ⟨snapshot, message, rfl, rfl⟩
      · rw [first] at isFirst
        cases isFirst
      · exact ⟨message, rfl⟩
  | ok pair =>
      obtain ⟨before, existing⟩ := pair
      obtain ⟨rfl, _, shown⟩ := observed_ok.mp result
      apply settle_holds
      cases classified : classifyBefore verified existing with
      | error failure =>
          intro fresh tagged
          have reserved := fresh claim fingerprint verified (List.mem_append_left _ confirmed)
          have isTagged : existing.tag = true := by
            rw [proofState_tag shown, List.contains_iff_mem]
            exact tagged before first
          obtain ⟨message, conflict⟩ := classifyBefore_reserved reserved isTagged
          rw [conflict] at classified
          refine ⟨failure, rfl, fun _ _ => ⟨message, (Except.error.inj classified).symm⟩⟩
      | ok done =>
          apply Holds.of_ending fun _ _ => trivial
          intro later result fresh tagged
          have reserved := fresh claim fingerprint verified
            (List.mem_append_left _ (List.mem_append_left _ confirmed))
          have isTagged : existing.tag = true := by
            rw [proofState_tag shown, List.contains_iff_mem]
            exact tagged.before before first
          obtain ⟨message, conflict⟩ := classifyBefore_reserved reserved isTagged
          rw [conflict] at classified
          cases classified

theorem write_blocked (unsafeRequest : DataHubWritebackRequest) :
    Holds (fun _ _ => True) Blocked [] (write script runtime dependencies unsafeRequest) := by
  rw [write]
  cases accepted : checkRequest script runtime dependencies unsafeRequest with
  | error failure => exact Blocked.unread rfl
  | ok request =>
      apply settle_holds
      apply Holds.bind
      apply ask_holds trivial
      intro reply
      show Continues _ _ _ _ (acceptReservation script runtime request reply)
      cases accepted : acceptReservation script runtime request reply with
      | error failure => exact Blocked.unread rfl
      | ok verified =>
          obtain ⟨rfl, _⟩ := acceptReservation_ok accepted
          show Holds (fun _ _ => True) Blocked _
            (writeVerified script runtime dependencies request verified)
          apply ask_holds trivial
          intro opened
          apply settle_holds
          cases opened with
          | error failure => exact Blocked.unread rfl
          | ok done =>
              apply Holds.bind
              apply Holds.closeOnError
              apply (start_blocked List.mem_cons_self rfl).mono fun _ _ allowed => allowed
              intro later result blocked
              cases result with
              | error failure =>
                  exact ⟨trivial, fun closed => blocked.quiet
                    (show Quiet (Exchange.mk Call.closeReader closed).call from trivial)⟩
              | ok stage =>
                  apply Holds.of_ending fun _ _ => trivial
                  intro more result fresh tagged
                  obtain ⟨failure, same, _⟩ := blocked fresh.before tagged.before
                  cases same

/-- Once a write has succeeded, every write with a reservation of its own that observes the tags
left behind ends in a conflict. -/
theorem later_write_conflicts (script : Script) (runtime : Runtime)
    (dependencies laterDependencies : LiveDependencies)
    (unsafeRequest laterRequest : DataHubWritebackRequest) (trace laterTrace : Trace)
    (receipt : DataHubWritebackReceipt) (result : Except Failure DataHubWritebackReceipt)
    (left : ExactDataHubEntitySnapshot)
    (written : Runs (write script runtime dependencies unsafeRequest) trace (.ok receipt))
    (success : receipt.status = .succeeded)
    (last : (reads trace).getLast? = some (.ok left))
    (later : Runs (write script runtime laterDependencies laterRequest) laterTrace result)
    (fresh : FreshAuthority laterTrace)
    (current : ∀ before, (reads laterTrace).head? = some (.ok before) →
      ∀ tag ∈ left.tagUrns, tag ∈ before.tagUrns) :
    ∃ failure, result = .error failure ∧
      ∀ before, (reads laterTrace).head? = some (.ok before) →
        ∃ message, failure = adapterError .conflict message := by
  have final := ((write_final unsafeRequest).run written).2.succeeded receipt rfl success
  obtain ⟨first, after, _, isLast, _, tags⟩ := final
  rw [List.nil_append, last, Option.some.injEq, Except.ok.injEq] at isLast
  subst isLast
  have reviewed : canonicalReviewedTagUrn ∈ left.tagUrns := by
    rw [tags.mem_iff, List.mem_dedup]
    exact List.mem_append_right _ List.mem_cons_self
  exact ((write_blocked laterRequest).run later).2 fresh fun before isFirst =>
    current before isFirst _ reviewed

end Blocked

section Sample

/-- The proof of the document that the write of the first run creates. -/
def sampleProof : DataHubDocumentProof where
  contentHash := sampleScript.digest (decisionDocumentContent sampleRequest).toList
  id := decisionDocumentId sampleScript sampleRequest
  marker := decisionDocumentMarker sampleRequest
  title := decisionDocumentTitle sampleRequest

/-- The write of the first run has left its document and later the reviewed tag. -/
def sampleAfter (tagged : Bool) : ExactDataHubEntitySnapshot :=
  { sampleBefore with
    documentProofs := [sampleProof]
    tagUrns := if tagged then [canonicalReviewedTagUrn] else [] }

theorem sampleAfter_observed (tagged : Bool) :
    observed sampleScript sampleRequest .after (.ok (sampleAfter tagged)) =
      .ok (sampleAfter tagged, ⟨true, tagged⟩) := by
  have exact : sampleProof.Exact sampleScript
      (deriveInternalDataHubWritebackPayloads sampleScript sampleRequest) := by
    simp [DataHubDocumentProof.Exact, sampleProof, deriveInternalDataHubWritebackPayloads]
  have same : sampleProof.id =
      (deriveInternalDataHubWritebackPayloads sampleScript sampleRequest).document.id := rfl
  rw [observed_ok]
  refine ⟨rfl, ?_, ?_⟩
  · simp [validateSnapshot, require, sampleAfter, sampleBefore, sampleRequest, sampleRequestFor]
  · rw [proofState_exact rfl same exact]
    cases tagged <;> rfl

theorem sampleAfter_preserved : tagsPreservedExactly sampleScript
    (deriveInternalDataHubWritebackPayloads sampleScript sampleRequest) sampleBefore
      (sampleAfter true) := rfl

/-- The write of a new run of the same candidate. -/
def sampleLater : DataHubWritebackRequest := sampleRequestFor "b"

/-- The first write of the candidate succeeds. -/
theorem sample_succeeds : ∃ trace receipt,
    Runs (write sampleScript sampleRuntime sampleDependencies sampleRequest) trace (.ok receipt) ∧
      receipt.status = .succeeded ∧ (reads trace).getLast? = some (.ok (sampleAfter true)) :=
  sampleFresh.succeeds ⟨hexText 0⟩ ⟨hexText 0⟩ (sampleAfter_observed false)
    (sampleAfter_observed true) sampleAfter_preserved

/-- The document of the first run is not the document of the new one. -/
theorem sampleProof_foreign : ¬ sampleProof.Exact sampleScript
    (deriveInternalDataHubWritebackPayloads sampleScript sampleLater) := by
  rintro ⟨marker, _⟩
  have names : decisionDocumentMarker sampleRequest ≠ decisionDocumentMarker sampleLater := by
    decide
  exact names marker

theorem sampleLater_observed : ∃ message,
    observed sampleScript sampleLater .before (.ok (sampleAfter true)) =
      .error (adapterError .conflict message) := by
  have valid : validateSnapshot (sampleAfter true) sampleLater .before = .ok () := by
    simp [validateSnapshot, require, sampleAfter, sampleBefore, sampleLater, sampleRequestFor]
  have identity : sampleProof.id =
      (deriveInternalDataHubWritebackPayloads sampleScript sampleLater).document.id := rfl
  have only : (sampleAfter true).documentProofs = [sampleProof] := rfl
  obtain ⟨message, foreign⟩ := proofState_foreign only identity sampleProof_foreign
  exact ⟨message, by simp [observed, valid, foreign, bind, Except.bind]⟩

theorem sampleLater_reservation : acceptReservation sampleScript sampleRuntime sampleLater
    (.ok sampleVerified) = .ok sampleVerified := by
  have bound : canonicalEffectFingerprint sampleScript sampleLater =
      canonicalEffectFingerprint sampleScript sampleRequest := by
    rw [sampleRequest_fingerprint]
    exact sampleScript_sha256 (by simp [DataHubWritebackRequest.members])
      (by simp [DataHubWritebackRequest.members])
  have accepted := sampleFresh.reservation
  rw [acceptReservation] at accepted ⊢
  rwa [bound]

/-- The write of the new run ends with a conflict before it sends anything. -/
theorem sampleLater_conflicts : ∃ trace message,
    Runs (write sampleScript sampleRuntime sampleDependencies sampleLater) trace
      (.error (adapterError .conflict message)) ∧ FreshAuthority trace ∧
    reads trace = [.ok (sampleAfter true)] := by
  obtain ⟨message, refused⟩ := sampleLater_observed
  refine ⟨_, message, write_refuses (sampleRequest_accepted rfl) sampleLater_reservation refused,
    ?_, rfl⟩
  intro claim fingerprint verified present
  have same : verified = sampleVerified := by
    simp [readCall] at present
    exact present.2
  rw [same]
  rfl

/-- The first write of a candidate succeeds, and then its second run is never written. -/
theorem second_write_conflicts :
    (∃ trace receipt, Runs (write sampleScript sampleRuntime sampleDependencies sampleRequest)
      trace (.ok receipt) ∧ receipt.status = .succeeded ∧
      (reads trace).getLast? = some (.ok (sampleAfter true))) ∧
    checkRequest sampleScript sampleRuntime sampleDependencies sampleLater = .ok sampleLater ∧
    ∀ trace receipt, FreshAuthority trace →
      (∀ before, (reads trace).head? = some (.ok before) →
        before.tagUrns = (sampleAfter true).tagUrns) →
      ¬ Runs (write sampleScript sampleRuntime sampleDependencies sampleLater) trace
        (.ok receipt) := by
  refine ⟨sample_succeeds, sampleRequest_accepted rfl, ?_⟩
  intro trace receipt fresh current runs
  have tagged : Tagged trace := by
    intro before first
    rw [current before first]
    exact List.mem_cons_self
  obtain ⟨failure, same, _⟩ := ((write_blocked sampleLater).run runs).2 fresh tagged
  cases same

theorem later_write_conflicts_sample : ∃ trace laterTrace receipt result,
    (∃ failure, result = .error failure ∧
      ∀ before, (reads laterTrace).head? = some (.ok before) →
        ∃ message, failure = adapterError .conflict message) ∧
    Runs (write sampleScript sampleRuntime sampleDependencies sampleRequest) trace
      (.ok receipt) ∧
    Runs (write sampleScript sampleRuntime sampleDependencies sampleLater) laterTrace result := by
  obtain ⟨trace, receipt, written, success, last⟩ := sample_succeeds
  obtain ⟨laterTrace, message, later, fresh, observation⟩ := sampleLater_conflicts
  refine ⟨trace, laterTrace, receipt, _, ?_, written, later⟩
  apply later_write_conflicts sampleScript sampleRuntime sampleDependencies sampleDependencies
    sampleRequest sampleLater trace laterTrace receipt _ (sampleAfter true) written success last
    later fresh
  intro before first tag present
  rw [observation] at first
  cases first
  exact present

end Sample

end LineageGuard.Datahub
