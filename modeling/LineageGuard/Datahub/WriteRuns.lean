import LineageGuard.Datahub.WriteRules
import Mathlib.Tactic

/-
This file follows a write that finds an untouched dataset and a reservation of its own.
-/

namespace LineageGuard.Datahub

open Json Domain Attempt Dialogue

variable {script : Script} {runtime : Runtime} {dependencies : LiveDependencies}
variable {unsafeRequest request : DataHubWritebackRequest} {verified : VerifiedReservation}
variable {consumed : ConsumedAuthority} {before : ExactDataHubEntitySnapshot} {now : ℤ}

/-- A refused first observation ends the write. -/
theorem write_refuses {reply : Except Failure ExactDataHubEntitySnapshot} {failure : Failure}
    (accepted : checkRequest script runtime dependencies unsafeRequest = .ok request)
    (reservation : acceptReservation script runtime request (.ok verified) = .ok verified)
    (refused : observed script request .before reply = .error failure) :
    Runs (write script runtime dependencies unsafeRequest)
      [⟨.verifyCurrentEffectReservation dependencies.currentEffectClaim
          (canonicalEffectFingerprint script request), .ok verified⟩,
        ⟨.readerFactory, .ok ()⟩, ⟨readCall script request, reply⟩, ⟨.closeReader, .ok ()⟩]
      (.error failure) := by
  have read : Runs (readExact script request .before) [⟨readCall script request, reply⟩]
      (.error failure) := by
    apply ask_runs
    rw [refused]
    exact .done _
  have starts : Runs (start script runtime request verified) [⟨readCall script request, reply⟩]
      (.error failure) := read.bind_error
  have raises : Runs (closeReader >>= fun _ => Program.fail failure) [⟨.closeReader, .ok ()⟩]
      (.error failure : Except Failure (Stage (ExactDataHubEntitySnapshot × WriteProof))) :=
    ask_runs (.done _)
  rw [write, accepted]
  apply ask_runs
  apply settle_runs reservation
  apply ask_runs
  apply settle_runs rfl
  exact (starts.recover_error raises).bind_error

/-- The request, the authority and the first observation let a write begin. -/
structure Fresh (script : Script) (runtime : Runtime) (dependencies : LiveDependencies)
    (unsafeRequest request : DataHubWritebackRequest) (verified : VerifiedReservation)
    (consumed : ConsumedAuthority) (before : ExactDataHubEntitySnapshot) (now : ℤ) : Prop where
  accepted : checkRequest script runtime dependencies unsafeRequest = .ok request
  reserved : verified.state = .reserved
  reservation : acceptReservation script runtime request (.ok verified) = .ok verified
  untouched : observed script request .before (.ok before) = .ok (before, ⟨false, false⟩)
  bound : consumed.canonicalEffectFingerprint = canonicalEffectFingerprint script request
  fence : validateFence runtime consumed = .ok ()
  current : ¬ Expired runtime consumed.invokeBy now

namespace Fresh

/-- These exchanges come before the document is sent. -/
def opening (script : Script) (dependencies : LiveDependencies)
    (request : DataHubWritebackRequest) (verified : VerifiedReservation)
    (consumed : ConsumedAuthority) (before : ExactDataHubEntitySnapshot) (now : ℤ) : Trace :=
  [⟨.verifyCurrentEffectReservation dependencies.currentEffectClaim
      (canonicalEffectFingerprint script request), .ok verified⟩,
    ⟨.readerFactory, .ok ()⟩, ⟨readCall script request, .ok before⟩,
    ⟨.mutationClientFactory, .ok ()⟩,
    ⟨.consumeCurrentEffect dependencies.currentEffectClaim
      (canonicalEffectFingerprint script request), .ok consumed⟩,
    ⟨.clock, now⟩, ⟨.clock, now⟩]

def closings : Trace := [⟨.closeReader, .ok ()⟩, ⟨.closeMutationClient, .ok ()⟩]

variable (fresh : Fresh script runtime dependencies unsafeRequest request verified consumed before
  now)

include fresh

theorem validates : Runs (validateConsumedAuthority runtime consumed) [⟨.clock, now⟩] (.ok ()) := by
  apply settle_runs fresh.fence
  apply ask_runs
  have current : reject (Expired runtime consumed.invokeBy now) invalidFence = .ok () :=
    reject_ok.mpr fresh.current
  rw [current]
  exact .done _

theorem invokes (tool : MutationToolName) (arguments : Value)
    (reply : Except Failure MutationInvocation) :
    Runs (invoke runtime consumed tool arguments)
      [⟨.clock, now⟩, ⟨.invoke tool arguments, reply⟩] reply :=
  fresh.validates.bind_ok (ask_runs (.done reply))

theorem unconsumed : verified.consumed = none := by
  rw [VerifiedReservation.consumed, fresh.reserved]
  rfl

theorem consumes :
    Runs (consumeAuthority script runtime dependencies request verified)
      [⟨.consumeCurrentEffect dependencies.currentEffectClaim
        (canonicalEffectFingerprint script request), .ok consumed⟩, ⟨.clock, now⟩]
      (.ok consumed) := by
  have taken : acceptConsumption script request (.ok consumed) = .ok consumed := by
    simp only [acceptConsumption, bind_ok, require_ok, pure_ok]
    exact ⟨(), fresh.bound, trivial⟩
  rw [consumeAuthority, fresh.unconsumed]
  apply ask_runs
  apply settle_runs taken
  exact fresh.validates.bind_ok (.done _)

theorem starts :
    Runs (start script runtime request verified)
      [⟨readCall script request, .ok before⟩, ⟨.mutationClientFactory, .ok ()⟩]
      (.ok (.continued (before, ⟨false, false⟩))) := by
  have read : Runs (readExact script request .before) [⟨readCall script request, .ok before⟩]
      (.ok (before, ⟨false, false⟩)) := by
    apply ask_runs
    rw [fresh.untouched]
    exact .done _
  have classified : classifyBefore verified ⟨false, false⟩ = .ok () := by
    simp [classifyBefore, bind_ok, reject_ok]
  apply read.bind_ok
  apply settle_runs classified
  show Runs (if _ then _ else if _ then _ else _) _ _
  rw [if_neg (by simp), if_neg (by simp [fresh.reserved])]
  apply ask_runs
  exact settle_runs rfl (.done _)

/-- A write continues after its opening with the document. -/
theorem runs {trace : Trace} {result : Except Failure DataHubWritebackReceipt}
    (continues : Runs (saveDocument script runtime request before ⟨false, false⟩ consumed >>=
      fun stage =>
        match stage with
        | .finished final => pure final
        | .continued invocations =>
            proveDocument script runtime request before consumed invocations) trace result) :
    Runs (write script runtime dependencies unsafeRequest)
      (opening script dependencies request verified consumed before now ++ trace ++ closings)
      result := by
  have mutates : Runs (mutate script runtime dependencies request verified before
      ⟨false, false⟩) ([⟨.consumeCurrentEffect dependencies.currentEffectClaim
        (canonicalEffectFingerprint script request), .ok consumed⟩, ⟨.clock, now⟩] ++
        ([⟨.clock, now⟩] ++ trace)) result :=
    fresh.consumes.bind_ok (fresh.validates.bind_ok continues)
  have closes : Runs closeBoth closings (.ok ()) :=
    ask_runs (ask_runs (.done _))
  have begins : Runs ((start script runtime request verified).closeOnError closeReader)
      [⟨readCall script request, .ok before⟩, ⟨.mutationClientFactory, .ok ()⟩]
      (.ok (.continued (before, ⟨false, false⟩))) := fresh.starts.recover_ok
  rw [write, fresh.accepted, opening, List.cons_append, List.cons_append, List.cons_append,
    List.cons_append]
  apply ask_runs
  apply settle_runs fresh.reservation
  apply ask_runs
  apply settle_runs rfl
  exact begins.bind_ok (mutates.closing closes)

/-- A final failure of the document ends the write. -/
theorem refuses {failure : Failure} (final : failure.isRetryable = false) :
    Runs (write script runtime dependencies unsafeRequest)
      (opening script dependencies request verified consumed before now ++
        [⟨.clock, now⟩, ⟨.invoke .saveDocument (documentArguments script request),
          .error failure⟩] ++ closings) (.error failure) := by
  apply fresh.runs
  apply Runs.bind_error
  rw [saveDocument, if_neg (by simp)]
  have sent := fresh.invokes .saveDocument (documentArguments script request) (.error failure)
  apply sent.bind_error.recover_error
  show Runs (if failure.isRetryable = true then _ else _) [] _
  rw [if_neg (by simp [final])]
  exact .done _

theorem saves (invocation : MutationInvocation) :
    Runs (saveDocument script runtime request before ⟨false, false⟩ consumed)
      ([⟨.clock, now⟩, ⟨.invoke .saveDocument (documentArguments script request),
        .ok invocation⟩] ++ []) (.ok (.continued [invocation])) := by
  rw [saveDocument, if_neg (by simp)]
  have sent := fresh.invokes .saveDocument (documentArguments script request) (.ok invocation)
  exact (sent.bind_ok (.done _)).recover_ok

theorem tags {invocations : List MutationInvocation} (invocation : MutationInvocation) :
    Runs (addTags script runtime request before consumed ⟨true, false⟩ invocations)
      ([⟨.clock, now⟩, ⟨.invoke .addTags (tagArguments request), .ok invocation⟩] ++ [])
      (.ok (.continued (invocations ++ [invocation]))) := by
  rw [addTags, if_neg (by simp)]
  have sent := fresh.invokes .addTags (tagArguments request) (.ok invocation)
  exact (sent.bind_ok (.done _)).recover_ok

omit fresh in
theorem reads_after {snapshot : ExactDataHubEntitySnapshot} {proof : WriteProof}
    (shown : observed script request .after (.ok snapshot) = .ok (snapshot, proof)) :
    Runs (readExact script request .after) [⟨readCall script request, .ok snapshot⟩]
      (.ok (snapshot, proof)) := by
  apply ask_runs
  rw [shown]
  exact .done _

/-- Two accepted mutations with their two proofs end the write with a receipt of success. -/
theorem succeeds {afterDocument after : ExactDataHubEntitySnapshot}
    (document : MutationInvocation) (tag : MutationInvocation)
    (saved : observed script request .after (.ok afterDocument) =
      .ok (afterDocument, ⟨true, false⟩))
    (tagged : observed script request .after (.ok after) = .ok (after, ⟨true, true⟩))
    (preserved : tagsPreservedExactly script
      (deriveInternalDataHubWritebackPayloads script request) before after) :
    ∃ trace receipt, Runs (write script runtime dependencies unsafeRequest) trace (.ok receipt) ∧
      receipt.status = .succeeded ∧ (reads trace).getLast? = some (.ok after) := by
  have finishes : Runs (readExact script request .after >>= fun found =>
      currentReceipt script runtime request before found.1 found.2 [document, tag]
        (some consumed))
      ([⟨readCall script request, .ok after⟩] ++ [⟨.clock, now⟩]) (.ok (receipt script request
        (deriveInternalDataHubWritebackPayloads script request) before after ⟨true, true⟩
        (runtime.toISOString now) [document, tag] (some consumed))) :=
    (reads_after tagged).bind_ok (ask_runs (.done _))
  have proves : Runs (proveDocument script runtime request before consumed [document]) _ _ :=
    (reads_after saved).bind_ok ((fresh.tags tag).bind_ok finishes)
  have written := fresh.runs ((fresh.saves document).bind_ok proves)
  refine ⟨_, _, written, ?_, ?_⟩
  · exact if_pos ⟨rfl, rfl, preserved⟩
  · simp only [reads, opening, closings, readCall, List.filterMap_append, List.filterMap_cons,
      List.filterMap_nil, readReply]
    rfl

end Fresh

end LineageGuard.Datahub
