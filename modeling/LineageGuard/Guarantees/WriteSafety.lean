import LineageGuard.Datahub.WriteRuns
import LineageGuard.Guarantees.WriteAuthority
import Mathlib.Tactic

/-
This file proves what one call of the write-back port does under every behaviour of its
dependencies.
-/

namespace LineageGuard.Datahub

open Json Domain Attempt Dialogue

section Specification

variable (script : Script) (runtime : Runtime) (request : DataHubWritebackRequest)

def Invoked (tool : MutationToolName) (trace : Trace) : Prop :=
  ∃ exchange ∈ trace, ∃ arguments, exchange.call = .invoke tool arguments

def Mutated (trace : Trace) : Prop := ∃ tool, Invoked tool trace

/-- The authority has given this consumption or has confirmed it. -/
def Granted (trace : Trace) (consumed : ConsumedAuthority) : Prop :=
  (∃ claim fingerprint, ⟨.consumeCurrentEffect claim fingerprint, .ok consumed⟩ ∈ trace) ∨
    ∃ claim fingerprint verified,
      ⟨.verifyCurrentEffectReservation claim fingerprint, .ok verified⟩ ∈ trace ∧
        verified.consumed = some consumed

/-- A consumption of the fingerprint was granted and the last exchange shows that its deadline has
not passed. -/
def Authorized (trace : Trace) : Prop :=
  ∃ consumed, Granted trace consumed ∧
    consumed.canonicalEffectFingerprint = canonicalEffectFingerprint script request ∧
    ∃ earlier now deadline, trace = earlier ++ [⟨.clock, now⟩] ∧
      runtime.parseDate consumed.invokeBy = some deadline ∧ now ≤ deadline

/-- The snapshot has exactly the decision document of the request. -/
def ShowsDocument (snapshot : ExactDataHubEntitySnapshot) : Prop :=
  let payloads := deriveInternalDataHubWritebackPayloads script request
  ∃ proof ∈ snapshot.documentProofs, proof.id = payloads.document.id ∧
    proof.Exact script payloads

/-- The last observation shows the document. -/
def Proven (trace : Trace) : Prop :=
  ∃ snapshot, (reads trace).getLast? = some (.ok snapshot) ∧ ShowsDocument script request snapshot

/-- The last observation shows the document and the tags of the first one with the reviewed tag. -/
def FinalState (trace : Trace) : Prop :=
  ∃ before after, (reads trace).head? = some (.ok before) ∧
    (reads trace).getLast? = some (.ok after) ∧ ShowsDocument script request after ∧
    after.tagUrns.Perm (before.tagUrns ++ [canonicalReviewedTagUrn]).dedup

def Failure.IsAmbiguous : Failure → Prop
  | .adapter error => error.code = .ambiguous
  | .other => False

/-- These are the guarantees of a write with its exchanges and its result. -/
structure SafeWrite (trace : Trace) (result : Except Failure DataHubWritebackReceipt) : Prop where
  authorized : ∀ past tool arguments reply future,
    trace = past ++ ⟨.invoke tool arguments, reply⟩ :: future →
      Authorized script runtime request past
  once : ∀ past tool arguments reply future,
    trace = past ++ ⟨.invoke tool arguments, reply⟩ :: future → ¬ Invoked tool past
  proven : ∀ past arguments reply future,
    trace = past ++ ⟨.invoke .addTags arguments, reply⟩ :: future → Proven script request past
  succeeded : ∀ receipt, result = .ok receipt → receipt.status = .succeeded →
    FinalState script request trace
  ambiguous : Mutated trace → ∀ failure, result = .error failure → failure.IsAmbiguous

/-- After a mutation the document must not be refused finally, and a read must give a valid
snapshot without a foreign document or an ambiguous error. -/
def Acceptable : Exchange Call Reply → Prop
  | ⟨.invoke .saveDocument _, .error failure⟩ =>
      failure.isRetryable = true ∨ failure.IsAmbiguous
  | ⟨.readExact _ _ _, .error failure⟩ => failure.IsAmbiguous
  | ⟨.readExact _ _ _, .ok snapshot⟩ => validateSnapshot snapshot request .after = .ok () ∧
      ∃ proof, proofState script snapshot
        (deriveInternalDataHubWritebackPayloads script request) = .ok proof
  | _ => True

/-- Every answer from the first mutation on is acceptable. -/
def Answered (trace : Trace) : Prop :=
  ∀ past exchange future, trace = past ++ exchange :: future → Mutated (past ++ [exchange]) →
    Acceptable script request exchange

end Specification

section Traces

variable {script : Script} {runtime : Runtime} {request : DataHubWritebackRequest}
variable {past : Trace} {exchange : Exchange Call Reply}

theorem invoked_append (tool : MutationToolName) (past later : Trace) :
    Invoked tool (past ++ later) ↔ Invoked tool past ∨ Invoked tool later := by
  simp only [Invoked, List.mem_append, or_and_right, exists_or]

theorem mutated_append (past later : Trace) :
    Mutated (past ++ later) ↔ Mutated past ∨ Mutated later := by
  simp only [Mutated, invoked_append, exists_or]

theorem reads_append (past later : Trace) : reads (past ++ later) = reads past ++ reads later :=
  List.filterMap_append

theorem answered_nil : Answered script request [] := by
  intro past exchange future split
  exact absurd split (by simp)

theorem answered_append : Answered script request (past ++ [exchange]) ↔
    Answered script request past ∧
      (Mutated (past ++ [exchange]) → Acceptable script request exchange) := by
  constructor
  · intro answered
    refine ⟨fun before found after split mutated => ?_, answered past exchange [] rfl⟩
    exact answered before found (after ++ [exchange]) (by simp [split]) mutated
  · rintro ⟨answered, last⟩ before found after split mutated
    rcases List.eq_nil_or_concat after with rfl | ⟨later, final, rfl⟩
    · obtain ⟨rfl, same⟩ := List.append_inj' split rfl
      rw [List.cons.injEq] at same
      rw [← same.1] at mutated ⊢
      exact last mutated
    · have parts : past ++ [exchange] = (before ++ found :: later) ++ [final] := by
        simpa using split
      exact answered before found later (List.append_inj' parts rfl).1 mutated

/-- Without a mutation there is nothing to answer. -/
theorem answered_unmutated (unmutated : ¬ Mutated past) : Answered script request past := by
  intro before found after split mutated
  apply absurd _ unmutated
  rw [split, List.append_cons, mutated_append]
  exact Or.inl mutated

/-- These calls neither read nor mutate the dataset. -/
def Quiet : Call → Prop
  | .readExact _ _ _ | .invoke _ _ => False
  | _ => True

theorem clock_quiet (now : ℤ) : Quiet (⟨.clock, now⟩ : Exchange Call Reply).call := trivial

theorem Quiet.acceptable (quiet : Quiet exchange.call) : Acceptable script request exchange := by
  obtain ⟨call, reply⟩ := exchange
  cases call <;> trivial

theorem Quiet.reads (quiet : Quiet exchange.call) :
    reads (past ++ [exchange]) = Datahub.reads past := by
  obtain ⟨call, reply⟩ := exchange
  cases call <;> first | exact False.elim quiet | simp [Datahub.reads, readReply]

theorem Quiet.invoked (quiet : Quiet exchange.call) (tool : MutationToolName) :
    Invoked tool (past ++ [exchange]) ↔ Invoked tool past := by
  rw [invoked_append, or_iff_left]
  rintro ⟨found, present, arguments, same⟩
  rw [List.mem_singleton.mp present] at same
  rw [same] at quiet
  exact quiet

theorem Quiet.mutated (quiet : Quiet exchange.call) :
    Mutated (past ++ [exchange]) ↔ Mutated past := by
  simp only [Mutated, quiet.invoked]

theorem Quiet.answered (quiet : Quiet exchange.call) :
    Answered script request (past ++ [exchange]) ↔ Answered script request past := by
  rw [answered_append]
  exact and_iff_left fun _ => quiet.acceptable

end Traces

section Endings

variable {script : Script} {runtime : Runtime} {request : DataHubWritebackRequest}
variable {dependencies : LiveDependencies} {past : Trace} {exchange : Exchange Call Reply}
variable {before after : ExactDataHubEntitySnapshot} {consumed : ConsumedAuthority}

/-- A mutation is sent under its authority, once, and a tag only to a proven document. -/
def Allowed (script : Script) (runtime : Runtime) (request : DataHubWritebackRequest)
    (past : Trace) : Call → Prop
  | .invoke tool _ => Authorized script runtime request past ∧ ¬ Invoked tool past ∧
      (tool = .addTags → Proven script request past)
  | _ => True

/-- A receipt of success shows the final state, and after a mutation every error is ambiguous
exactly when every answer was acceptable. -/
structure Ending (script : Script) (request : DataHubWritebackRequest) (past : Trace)
    (result : Except Failure DataHubWritebackReceipt) : Prop where
  succeeded : ∀ receipt, result = .ok receipt → receipt.status = .succeeded →
    FinalState script request past
  ambiguous : Mutated past →
    ((∀ failure, result = .error failure → failure.IsAmbiguous) ↔ Answered script request past)

theorem Ending.error {failure : Failure}
    (answered : Mutated past → (failure.IsAmbiguous ↔ Answered script request past)) :
    Ending script request past (.error failure) where
  succeeded _ same := nomatch same
  ambiguous mutated := by
    rw [← answered mutated]
    exact ⟨fun every => every failure rfl, fun one raised same => Except.error.inj same ▸ one⟩

theorem Ending.unmutated {failure : Failure} (unmutated : ¬ Mutated past) :
    Ending script request past (.error failure) :=
  .error fun mutated => absurd mutated unmutated

/-- A quiet exchange changes neither the promises nor the observations. -/
theorem Ending.quiet {result : Except Failure DataHubWritebackReceipt}
    (ending : Ending script request past result) (exchange : Exchange Call Reply)
    (quiet : Quiet exchange.call) : Ending script request (past ++ [exchange]) result where
  succeeded receipt isResult success := by
    rw [FinalState, quiet.reads]
    exact ending.succeeded receipt isResult success
  ambiguous mutated := by
    rw [quiet.answered]
    exact ending.ambiguous (quiet.mutated.mp mutated)

end Endings

section Observed

variable {script : Script} {request : DataHubWritebackRequest} {phase : Phase}
variable {snapshot : ExactDataHubEntitySnapshot} {proof : WriteProof} {failure : Failure}
variable {payloads : InternalDataHubWritebackPayloads} {past : Trace}

theorem conflict_final (message : String) : ¬ (adapterError .conflict message).IsAmbiguous :=
  DataHubAdapterErrorCode.noConfusion

theorem validateSnapshot_error (refused : validateSnapshot snapshot request phase = .error failure) :
    ∃ message, failure = adapterError .conflict message := by
  simp only [validateSnapshot, require] at refused
  split at refused <;> [skip; exact ⟨_, (Except.error.inj refused).symm⟩]
  split at refused <;> [skip; exact ⟨_, (Except.error.inj refused).symm⟩]
  split at refused <;> [skip; exact ⟨_, (Except.error.inj refused).symm⟩]
  split at refused <;> [skip; exact ⟨_, (Except.error.inj refused).symm⟩]
  split at refused
  · cases refused
  · exact ⟨_, (Except.error.inj refused).symm⟩

theorem proofState_error (refused : proofState script snapshot payloads = .error failure) :
    ∃ message, failure = adapterError .conflict message := by
  simp only [proofState, reject] at refused
  split at refused
  · exact ⟨_, (Except.error.inj refused).symm⟩
  · cases refused

theorem observed_ok {reply : Except Failure ExactDataHubEntitySnapshot} :
    observed script request phase reply = .ok (snapshot, proof) ↔ reply = .ok snapshot ∧
      validateSnapshot snapshot request phase = .ok () ∧
      proofState script snapshot (deriveInternalDataHubWritebackPayloads script request) =
        .ok proof := by
  simp only [observed, bind_ok, pure_ok, Prod.mk.injEq]
  constructor
  · rintro ⟨found, isFound, _, valid, shown, isShown, rfl, rfl⟩
    exact ⟨isFound, valid, isShown⟩
  · rintro ⟨isFound, valid, isShown⟩
    exact ⟨snapshot, isFound, (), valid, proof, isShown, rfl, rfl⟩

/-- A refused observation is a failed read or a conflict of its snapshot. -/
theorem observed_error {reply : Except Failure ExactDataHubEntitySnapshot}
    (refused : observed script request phase reply = .error failure) :
    reply = .error failure ∨ ∃ snapshot message, reply = .ok snapshot ∧
      failure = adapterError .conflict message := by
  cases reply with
  | error raised => exact Or.inl (congrArg Except.error (Except.error.inj refused))
  | ok snapshot =>
      refine Or.inr ?_
      cases valid : validateSnapshot snapshot request phase with
      | error raised =>
          obtain ⟨message, rfl⟩ := validateSnapshot_error valid
          simp only [observed, bind, Except.bind, valid] at refused
          exact ⟨snapshot, message, rfl, (Except.error.inj refused).symm⟩
      | ok done =>
          cases shown : proofState script snapshot
              (deriveInternalDataHubWritebackPayloads script request) with
          | error raised =>
              obtain ⟨message, rfl⟩ := proofState_error shown
              simp only [observed, bind, Except.bind, valid, shown] at refused
              exact ⟨snapshot, message, rfl, (Except.error.inj refused).symm⟩
          | ok proof =>
              simp only [observed, bind, Except.bind, valid, shown] at refused
              cases refused

/-- A refused read after a mutation is ambiguous exactly when it is acceptable. -/
theorem observed_acceptable {reply : Except Failure ExactDataHubEntitySnapshot}
    (refused : observed script request .after reply = .error failure) :
    failure.IsAmbiguous ↔ Acceptable script request ⟨readCall script request, reply⟩ := by
  rcases observed_error refused with rfl | ⟨snapshot, message, rfl, rfl⟩
  · exact Iff.rfl
  · apply iff_of_false (conflict_final message)
    rintro ⟨valid, proof, shown⟩
    rw [observed_ok.mpr ⟨rfl, valid, shown⟩] at refused
    cases refused

theorem readExact_failed {reply : Except Failure ExactDataHubEntitySnapshot}
    (answered : Answered script request past)
    (refused : observed script request .after reply = .error failure) :
    Ending script request (past ++ [⟨readCall script request, reply⟩]) (.error failure) := by
  apply Ending.error
  intro mutated
  rw [observed_acceptable refused, answered_append]
  exact ⟨fun acceptable => ⟨answered, fun _ => acceptable⟩, fun both => both.2 mutated⟩

end Observed

section Receipts

variable {script : Script} {runtime : Runtime} {request : DataHubWritebackRequest}
variable {payloads : InternalDataHubWritebackPayloads} {past : Trace}
variable {before after : ExactDataHubEntitySnapshot} {proof : WriteProof}
variable {invocations : List MutationInvocation} {authority : Option ConsumedAuthority}

/-- A list of texts is determined by its canonical text. -/
theorem stableJson_texts {first second : List String}
    (same : script.stableJson (texts first) = script.stableJson (texts second)) :
    first = second := by
  rw [script.stableJson_eq (texts_plain first), script.stableJson_eq (texts_plain second)] at same
  have items := canonical_array (text_inj same)
  simp only [List.map_map] at items
  exact List.map_injective_iff.mpr (fun _ _ equal => Value.string.inj equal) items

theorem sorted_perm (contents : List String) : (sorted contents).Perm contents :=
  List.perm_insertionSort _ _

/-- The final tags are the first ones with the reviewed tag. -/
theorem tagsPreserved_perm (preserved : tagsPreservedExactly script payloads before after) :
    after.tagUrns.Perm (before.tagUrns ++ [payloads.reviewStatusTagUrn]).dedup := by
  have same : expectedFinalTags before payloads = sorted after.tagUrns :=
    stableJson_texts preserved
  have expected := sorted_perm (before.tagUrns ++ [payloads.reviewStatusTagUrn]).dedup
  rw [show sorted _ = sorted after.tagUrns from same] at expected
  exact (sorted_perm after.tagUrns).symm.trans expected

theorem receipt_succeeded {completedAt : String} (success : (receipt script request payloads
    before after proof completedAt invocations authority).status = .succeeded) :
    proof.document = true ∧ tagsPreservedExactly script payloads before after := by
  by_contra fails
  have status : (receipt script request payloads before after proof completedAt invocations
      authority).status = .ambiguous := by
    simp only [receipt]
    exact if_neg fun all => fails ⟨all.1, all.2.2⟩
  rw [status] at success
  cases success

theorem proofState_document
    (shown : proofState script after (deriveInternalDataHubWritebackPayloads script request) =
      .ok proof) (present : proof.document = true) : ShowsDocument script request after := by
  simp only [proofState, bind_ok, reject_ok, pure_ok] at shown
  obtain ⟨_, _, rfl⟩ := shown
  simp only [List.any_eq_true, List.mem_filter, decide_eq_true_eq] at present
  obtain ⟨found, ⟨isFound, same⟩, exact⟩ := present
  exact ⟨found, isFound, same, exact⟩

/-- A receipt of the first and the last observation shows the final state if it succeeds. -/
theorem receipt_final {completedAt : String} (first : (reads past).head? = some (.ok before))
    (last : (reads past).getLast? = some (.ok after))
    (shown : proofState script after (deriveInternalDataHubWritebackPayloads script request) =
      .ok proof)
    (success : (receipt script request (deriveInternalDataHubWritebackPayloads script request)
      before after proof completedAt invocations authority).status = .succeeded) :
    FinalState script request past := by
  obtain ⟨document, preserved⟩ := receipt_succeeded success
  exact ⟨before, after, first, last, proofState_document shown document,
    tagsPreserved_perm preserved⟩

theorem Ending.receipt {completedAt : String} (answered : Answered script request past)
    (first : (reads past).head? = some (.ok before))
    (last : (reads past).getLast? = some (.ok after))
    (shown : proofState script after (deriveInternalDataHubWritebackPayloads script request) =
      .ok proof) :
    Ending script request past (.ok (Datahub.receipt script request
      (deriveInternalDataHubWritebackPayloads script request) before after proof completedAt
      invocations authority)) where
  succeeded given same success := by
    rw [← Except.ok.inj same] at success
    exact receipt_final first last shown success
  ambiguous _ := iff_of_true (fun _ same => nomatch same) answered

theorem currentReceipt_final (answered : Answered script request past)
    (first : (reads past).head? = some (.ok before))
    (last : (reads past).getLast? = some (.ok after))
    (shown : proofState script after (deriveInternalDataHubWritebackPayloads script request) =
      .ok proof) :
    Holds (Allowed script runtime request) (Ending script request) past
      (currentReceipt script runtime request before after proof invocations authority) := by
  apply currentReceipt_holds trivial
  intro now
  exact (Ending.receipt answered first last shown).quiet _ (clock_quiet now)

end Receipts

section Stages

variable {script : Script} {runtime : Runtime} {request : DataHubWritebackRequest}
variable {past : Trace} {before : ExactDataHubEntitySnapshot} {consumed : ConsumedAuthority}

/-- The write has an authority and a first observation, and every answer was acceptable. -/
structure Going (script : Script) (request : DataHubWritebackRequest) (past : Trace)
    (before : ExactDataHubEntitySnapshot) (consumed : ConsumedAuthority) : Prop where
  first : (reads past).head? = some (.ok before)
  granted : Granted past consumed
  bound : consumed.canonicalEffectFingerprint = canonicalEffectFingerprint script request
  answered : Answered script request past

theorem Granted.append (granted : Granted past consumed) (later : Trace) :
    Granted (past ++ later) consumed := by
  rcases granted with ⟨claim, fingerprint, present⟩ |
    ⟨claim, fingerprint, verified, present, same⟩
  · exact Or.inl ⟨claim, fingerprint, List.mem_append_left _ present⟩
  · exact Or.inr ⟨claim, fingerprint, verified, List.mem_append_left _ present, same⟩

theorem Going.append (going : Going script request past before consumed)
    (exchange : Exchange Call Reply) (acceptable : Acceptable script request exchange) :
    Going script request (past ++ [exchange]) before consumed where
  first := by
    rw [reads_append, List.head?_append, going.first]
    rfl
  granted := going.granted.append _
  bound := going.bound
  answered := answered_append.mpr ⟨going.answered, fun _ => acceptable⟩

theorem Going.clock (going : Going script request past before consumed) (now : ℤ) :
    Going script request (past ++ [⟨.clock, now⟩]) before consumed := going.append _ trivial

theorem Going.authorized (going : Going script request past before consumed) {now : ℤ}
    (fence : validateFence runtime consumed = .ok ())
    (current : ¬ Expired runtime consumed.invokeBy now) :
    Authorized script runtime request (past ++ [⟨.clock, now⟩]) := by
  simp only [validateFence, reject_ok, not_or] at fence
  obtain ⟨deadline, parsed⟩ := Option.ne_none_iff_exists'.mp fence.2.2.2
  refine ⟨consumed, going.granted.append _, going.bound, past, now, deadline, rfl, parsed, ?_⟩
  by_contra late
  exact current ⟨deadline, parsed, by omega⟩

/-- A mutation is sent after a check of the deadline, and its own reply ends the invocation. -/
theorem invoke_holds {ending : Trace → Except Failure MutationInvocation → Prop}
    {tool : MutationToolName} {arguments : Value}
    (going : Going script request past before consumed) (unsent : ¬ Invoked tool past)
    (proven : tool = .addTags → Proven script request past)
    (invalid : ending past (.error invalidFence))
    (expired : ∀ now : ℤ, ending (past ++ [⟨.clock, now⟩]) (.error invalidFence))
    (sent : ∀ (now : ℤ) reply,
      ending (past ++ [⟨.clock, now⟩] ++ [⟨.invoke tool arguments, reply⟩]) reply) :
    Holds (Allowed script runtime request) ending past
      (invoke runtime consumed tool arguments) := by
  apply Holds.bind
  apply validateConsumedAuthority_holds trivial invalid expired
  intro now fence current
  refine ⟨⟨going.authorized fence current, ?_, fun isTag => ?_⟩, sent now⟩
  · rwa [(clock_quiet now).invoked]
  · rw [Proven, (clock_quiet now).reads]
    exact proven isTag

/-- A read after the first one shows a checked snapshot or fails. -/
theorem readExact_going
    {ending : Trace → Except Failure (ExactDataHubEntitySnapshot × WriteProof) → Prop}
    (going : Going script request past before consumed)
    (failed : ∀ reply failure, observed script request .after reply = .error failure →
      ending (past ++ [⟨readCall script request, reply⟩]) (.error failure))
    (shown : ∀ snapshot proof,
      Going script request (past ++ [⟨readCall script request, .ok snapshot⟩]) before consumed →
      proofState script snapshot (deriveInternalDataHubWritebackPayloads script request) =
        .ok proof →
      ending (past ++ [⟨readCall script request, .ok snapshot⟩]) (.ok (snapshot, proof))) :
    Holds (Allowed script runtime request) ending past (readExact script request .after) := by
  apply readExact_holds trivial
  intro reply
  cases result : observed script request .after reply with
  | error failure => exact failed reply failure result
  | ok pair =>
      obtain ⟨rfl, valid, isShown⟩ := observed_ok.mp result
      exact shown pair.1 pair.2 (going.append _ ⟨valid, pair.2, isShown⟩) isShown

theorem reads_last (past : Trace) (reply : Except Failure ExactDataHubEntitySnapshot) :
    (reads (past ++ [⟨readCall script request, reply⟩])).getLast? = some reply := by
  rw [reads_append]
  exact List.getLast?_concat

theorem read_unsent (past : Trace) (reply : Except Failure ExactDataHubEntitySnapshot)
    (tool : MutationToolName) :
    Invoked tool (past ++ [⟨readCall script request, reply⟩]) ↔ Invoked tool past := by
  rw [invoked_append, or_iff_left]
  rintro ⟨found, present, arguments, same⟩
  rw [List.mem_singleton.mp present] at same
  cases same

/-- A receipt that finishes a stage ends the write. -/
theorem finish_holds {next : Stage (List MutationInvocation) → Dialog DataHubWritebackReceipt}
    {program : Dialog DataHubWritebackReceipt}
    (finished : ∀ final, next (.finished final) = pure final)
    (holds : Holds (Allowed script runtime request) (Ending script request) past program) :
    Holds (Allowed script runtime request)
      (Continues (Allowed script runtime request) (Ending script request) next) past
      (program >>= fun final => pure (.finished final)) := by
  apply Holds.bind
  apply holds.mono fun _ _ allowed => allowed
  intro later result ending
  cases result with
  | error failure => exact ending
  | ok final =>
      show Holds _ _ later (next (.finished final))
      rw [finished]
      exact ending

theorem readBack_final {next : Stage (List MutationInvocation) → Dialog DataHubWritebackReceipt}
    {invocations : List MutationInvocation}
    (finished : ∀ final, next (.finished final) = pure final)
    (going : Going script request past before consumed) :
    Holds (Allowed script runtime request)
      (Continues (Allowed script runtime request) (Ending script request) next) past
      (do
        let (incomplete, proof) ← readExact script request .after
        let final ← currentReceipt script runtime request before incomplete proof invocations
          (some consumed)
        return .finished final) := by
  apply Holds.bind
  apply readExact_going going
  · exact fun reply failure refused => readExact_failed going.answered refused
  · intro snapshot proof next shown
    exact finish_holds finished
      (currentReceipt_final next.answered next.first (reads_last past _) shown)

theorem addTags_holds {next : Stage (List MutationInvocation) → Dialog DataHubWritebackReceipt}
    {documentProof : WriteProof} {invocations : List MutationInvocation}
    (finished : ∀ final, next (.finished final) = pure final)
    (continued : ∀ later sent, Going script request later before consumed →
      Holds (Allowed script runtime request) (Ending script request) later
        (next (.continued sent)))
    (going : Going script request past before consumed) (unsent : ¬ Invoked .addTags past)
    (proven : Proven script request past) :
    Holds (Allowed script runtime request)
      (Continues (Allowed script runtime request) (Ending script request) next) past
      (addTags script runtime request before consumed documentProof invocations) := by
  rw [addTags]
  split
  · exact continued past invocations going
  · apply Holds.recover
    apply Holds.bind
    apply invoke_holds going unsent fun _ => proven
    · exact readBack_final finished going
    · exact fun now => readBack_final finished (going.clock now)
    · intro now reply
      have later := (going.clock now).append ⟨.invoke .addTags (tagArguments request), reply⟩
      cases reply with
      | ok invocation => exact continued _ _ (later trivial)
      | error failure =>
          show Holds _ _ _ (if failure.isRetryable = true then _ else _)
          split
          · exact continued _ _ (later trivial)
          · exact readBack_final finished (later trivial)

theorem proveDocument_final (invocations : List MutationInvocation)
    (going : Going script request past before consumed) (unsent : ¬ Invoked .addTags past) :
    Holds (Allowed script runtime request) (Ending script request) past
      (proveDocument script runtime request before consumed invocations) := by
  apply Holds.bind
  apply readExact_going going
  · exact fun reply failure refused => readExact_failed going.answered refused
  · intro snapshot proof next shown
    show Holds _ _ _ (if proof.document = true then _ else _)
    split
    · next present =>
      apply Holds.bind
      apply addTags_holds (fun _ => rfl) _ next
      · rwa [read_unsent]
      · exact ⟨snapshot, reads_last past _, proofState_document shown present⟩
      · intro later sent going
        apply Holds.bind
        apply readExact_going going
        · exact fun reply failure refused => readExact_failed going.answered refused
        · intro final proof final' shown
          exact currentReceipt_final final'.answered final'.first (reads_last later _) shown
    · exact currentReceipt_final next.answered next.first (reads_last past _) shown

theorem saveDocument_holds
    {next : Stage (List MutationInvocation) → Dialog DataHubWritebackReceipt}
    {existing : WriteProof} (finished : ∀ final, next (.finished final) = pure final)
    (continued : ∀ later sent, Going script request later before consumed →
      ¬ Invoked .addTags later →
      Holds (Allowed script runtime request) (Ending script request) later
        (next (.continued sent)))
    (going : Going script request past before consumed) (unmutated : ¬ Mutated past) :
    Holds (Allowed script runtime request)
      (Continues (Allowed script runtime request) (Ending script request) next) past
      (saveDocument script runtime request before existing consumed) := by
  have untagged : ¬ Invoked .addTags past := fun sent => unmutated ⟨_, sent⟩
  rw [saveDocument]
  split
  · exact continued past [] going untagged
  · apply Holds.recover
    apply Holds.bind
    apply invoke_holds going fun sent => unmutated ⟨.saveDocument, sent⟩
    · intro isTag
      cases isTag
    · exact Ending.unmutated unmutated
    · intro now
      apply Ending.unmutated
      rwa [(clock_quiet now).mutated]
    · intro now reply
      have clocked := going.clock now
      have unsent : ¬ Invoked .addTags (past ++ [⟨.clock, now⟩] ++
          [⟨.invoke .saveDocument (documentArguments script request), reply⟩]) := by
        rw [invoked_append, (clock_quiet now).invoked]
        rintro (sent | ⟨found, present, arguments, same⟩)
        · exact untagged sent
        · rw [List.mem_singleton.mp present] at same
          cases same
      cases reply with
      | ok invocation => exact continued _ _ (clocked.append _ trivial) unsent
      | error failure =>
          show Holds _ _ _ (if failure.isRetryable = true then _ else _)
          split
          · next retryable =>
            have later := clocked.append ⟨.invoke .saveDocument
              (documentArguments script request), .error failure⟩ (Or.inl retryable)
            apply Holds.bind
            apply readExact_going later
            · exact fun reply failure refused => readExact_failed later.answered refused
            · intro snapshot proof going shown
              show Holds _ _ _ (if proof.document = true then _ else _)
              split
              · exact continued _ _ going (by rwa [read_unsent])
              · exact finish_holds finished
                  (currentReceipt_final going.answered going.first (reads_last _ _) shown)
          · next final =>
            apply Ending.error
            intro mutated
            rw [answered_append]
            constructor
            · exact fun ambiguous => ⟨clocked.answered, fun _ => Or.inr ambiguous⟩
            · exact fun both => (both.2 mutated).resolve_left final

end Stages

section Writes

variable {script : Script} {runtime : Runtime} {dependencies : LiveDependencies}
variable {request : DataHubWritebackRequest} {past : Trace} {verified : VerifiedReservation}
variable {before : ExactDataHubEntitySnapshot}

/-- The reservation is bound to the request and no mutation was sent. -/
structure Verified (script : Script) (request : DataHubWritebackRequest) (past : Trace)
    (verified : VerifiedReservation) : Prop where
  confirmed : ∃ claim fingerprint,
    ⟨.verifyCurrentEffectReservation claim fingerprint, .ok verified⟩ ∈ past
  bound : verified.canonicalEffectFingerprint = canonicalEffectFingerprint script request
  unmutated : ¬ Mutated past

theorem Verified.append (holds : Verified script request past verified)
    (exchange : Exchange Call Reply)
    (quiet : ∀ tool arguments, exchange.call ≠ .invoke tool arguments) :
    Verified script request (past ++ [exchange]) verified where
  confirmed := by
    obtain ⟨claim, fingerprint, present⟩ := holds.confirmed
    exact ⟨claim, fingerprint, List.mem_append_left _ present⟩
  bound := holds.bound
  unmutated := by
    rw [mutated_append, not_or]
    refine ⟨holds.unmutated, ?_⟩
    rintro ⟨tool, found, present, arguments, same⟩
    rw [List.mem_singleton.mp present] at same
    exact quiet tool arguments same

theorem Verified.clock (holds : Verified script request past verified) (now : ℤ) :
    Verified script request (past ++ [⟨.clock, now⟩]) verified :=
  holds.append _ fun _ _ => Call.noConfusion

theorem consumed_some {consumed : ConsumedAuthority} (same : verified.consumed = some consumed) :
    consumed.canonicalEffectFingerprint = verified.canonicalEffectFingerprint := by
  rw [VerifiedReservation.consumed] at same
  split at same
  · rw [← Option.some.inj same]
  · cases same

theorem consumeAuthority_holds {ending : Trace → Except Failure ConsumedAuthority → Prop}
    (holds : Verified script request past verified) (first : reads past = [.ok before])
    (refused : ∀ later failure, Verified script request later verified →
      ending later (.error failure))
    (given : ∀ later consumed, Going script request later before consumed →
      ¬ Mutated later → ending later (.ok consumed)) :
    Holds (Allowed script runtime request) ending past
      (consumeAuthority script runtime dependencies request verified) := by
  rw [consumeAuthority]
  split
  · next consumed same =>
    obtain ⟨claim, fingerprint, present⟩ := holds.confirmed
    apply given past consumed _ holds.unmutated
    exact ⟨by rw [first]; rfl, Or.inr ⟨claim, fingerprint, verified, present, same⟩,
      (consumed_some same).trans holds.bound, answered_unmutated holds.unmutated⟩
  · apply ask_holds trivial
    intro reply
    have later := holds.append ⟨.consumeCurrentEffect dependencies.currentEffectClaim
      (canonicalEffectFingerprint script request), reply⟩ fun _ _ => Call.noConfusion
    have quiet : Quiet (Exchange.mk (Call.consumeCurrentEffect dependencies.currentEffectClaim
      (canonicalEffectFingerprint script request)) reply).call := trivial
    apply settle_holds
    cases accepted : acceptConsumption script request reply with
    | error failure => exact refused _ failure later
    | ok consumed =>
        have granted : reply = .ok consumed ∧
            consumed.canonicalEffectFingerprint = canonicalEffectFingerprint script request := by
          cases reply with
          | error failure => cases failure <;> cases accepted
          | ok given =>
              simp only [acceptConsumption, bind_ok, require_ok, pure_ok] at accepted
              obtain ⟨_, bound, rfl⟩ := accepted
              exact ⟨rfl, bound⟩
        apply Holds.bind
        apply validateConsumedAuthority_holds trivial
        · exact refused _ _ later
        · exact fun now => refused _ _ (later.clock now)
        · intro now _ _
          have clocked := later.clock now
          apply given _ consumed _ clocked.unmutated
          refine ⟨?_, ?_, granted.2, answered_unmutated clocked.unmutated⟩
          · rw [(clock_quiet now).reads, quiet.reads, first]
            rfl
          · rw [granted.1]
            exact Or.inl ⟨_, _, List.mem_append_left _
              (List.mem_append_right _ List.mem_cons_self)⟩

theorem mutate_final {existing : WriteProof} (holds : Verified script request past verified)
    (first : reads past = [.ok before]) :
    Holds (Allowed script runtime request) (Ending script request) past
      (mutate script runtime dependencies request verified before existing) := by
  apply Holds.bind
  apply consumeAuthority_holds holds first
  · exact fun later failure refused => Ending.unmutated refused.unmutated
  · intro later consumed going unmutated
    apply Holds.bind
    apply validateConsumedAuthority_holds trivial
    · exact Ending.unmutated unmutated
    · intro now
      apply Ending.unmutated
      rwa [(clock_quiet now).mutated]
    · intro now _ _
      apply Holds.bind
      apply saveDocument_holds (fun _ => rfl) _ (going.clock now)
      · rwa [(clock_quiet now).mutated]
      · exact fun later invocations going untagged =>
          proveDocument_final invocations going untagged

theorem start_holds
    {ending : Trace → Except Failure (Stage (ExactDataHubEntitySnapshot × WriteProof)) → Prop}
    (holds : Verified script request past verified) (unread : reads past = [])
    (refused : ∀ later failure, Verified script request later verified →
      ending later (.error failure))
    (finished : ∀ later final, Ending script request later (.ok final) →
      ending later (.ok (.finished final)))
    (continued : ∀ later before existing, Verified script request later verified →
      reads later = [.ok before] → ending later (.ok (.continued (before, existing)))) :
    Holds (Allowed script runtime request) ending past
      (start script runtime request verified) := by
  apply Holds.bind
  apply readExact_holds trivial
  intro reply
  have later := holds.append ⟨readCall script request, reply⟩ fun _ _ => Call.noConfusion
  cases result : observed script request .before reply with
  | error failure => exact refused _ failure later
  | ok pair =>
      obtain ⟨before, existing⟩ := pair
      obtain ⟨rfl, _, shown⟩ := observed_ok.mp result
      have first : reads (past ++ [⟨readCall script request, .ok before⟩]) = [.ok before] := by
        rw [reads_append, unread]
        rfl
      apply settle_holds
      cases classified : classifyBefore verified existing with
      | error failure => exact refused _ failure later
      | ok done =>
          have proceeds : ∀ later, Verified script request later verified →
              reads later = [.ok before] →
              Holds (Allowed script runtime request) ending later (do
                let reply : Except Failure Unit ← ask .mutationClientFactory
                settle reply
                return .continued (before, existing)) := by
            intro later holds first
            apply ask_holds trivial
            intro opened
            have next := holds.append ⟨.mutationClientFactory, opened⟩ fun _ _ =>
              Call.noConfusion
            have quiet : Quiet (Exchange.mk Call.mutationClientFactory opened).call := trivial
            apply settle_holds
            cases opened with
            | error failure => exact refused _ failure next
            | ok done => exact continued _ before existing next (by rw [quiet.reads, first])
          have finishes : ∀ later, Verified script request later verified →
              reads later = [.ok before] →
              Holds (Allowed script runtime request) ending later (do
                let final ← currentReceipt script runtime request before before existing []
                  verified.consumed
                return .finished final) := by
            intro later holds first
            apply Holds.bind
            apply currentReceipt_holds trivial
            intro now
            apply finished
            apply Ending.quiet _ _ (clock_quiet now)
            exact .receipt (answered_unmutated holds.unmutated) (by rw [first]; rfl)
              (by rw [first]; rfl) shown
          show Holds _ _ _ (if _ then _ else if _ then _ else _)
          split
          · exact finishes _ later first
          · split
            · apply ask_holds trivial
              intro now
              have seen : reads (past ++ [⟨readCall script request, .ok before⟩] ++
                  [⟨.clock, now⟩]) = [.ok before] := by
                rw [(clock_quiet now).reads, first]
              show Holds _ _ _ (if _ then _ else _)
              split
              · exact finishes _ (later.clock now) seen
              · exact proceeds _ (later.clock now) seen
            · exact proceeds _ later first

theorem closed_holds {result : Except Failure DataHubWritebackReceipt} (ending : Ending script request past result) :
    Holds (Allowed script runtime request) (Ending script request) past
      (closeBoth >>= fun _ => .done result) :=
  ⟨trivial, fun closed => ⟨trivial, fun both =>
    (ending.quiet ⟨.closeReader, closed⟩ trivial).quiet ⟨.closeMutationClient, both⟩ trivial⟩⟩

theorem writeVerified_final (holds : Verified script request past verified)
    (unread : reads past = []) :
    Holds (Allowed script runtime request) (Ending script request) past
      (writeVerified script runtime dependencies request verified) := by
  apply ask_holds trivial
  intro opened
  have later := holds.append ⟨.readerFactory, opened⟩ fun _ _ => Call.noConfusion
  have quiet : Quiet (Exchange.mk Call.readerFactory opened).call := trivial
  apply settle_holds
  cases opened with
  | error failure => exact Ending.unmutated later.unmutated
  | ok done =>
      apply Holds.bind
      apply Holds.closeOnError
      apply start_holds later (by rw [quiet.reads, unread])
      · intro later failure refused
        refine ⟨trivial, fun closed => ?_⟩
        exact (Ending.unmutated refused.unmutated).quiet ⟨.closeReader, closed⟩ trivial
      · intro later final ending
        exact ⟨trivial, fun closed => ending.quiet ⟨.closeReader, closed⟩ trivial⟩
      · intro later before existing holds first
        apply Holds.closing
        apply (mutate_final holds first).mono fun _ _ allowed => allowed
        exact fun later result ending => closed_holds ending

theorem acceptReservation_ok {reply : Except Failure VerifiedReservation}
    (accepted : acceptReservation script runtime request reply = .ok verified) :
    reply = .ok verified ∧
      verified.canonicalEffectFingerprint = canonicalEffectFingerprint script request := by
  cases reply with
  | error failure => cases failure <;> cases accepted
  | ok given =>
      simp only [acceptReservation, bind_ok, reject_ok, pure_ok, not_or] at accepted
      obtain ⟨_, ⟨_, bound, _⟩, _, _, rfl⟩ := accepted
      exact ⟨rfl, not_not.mp bound⟩

theorem verifyReservation_final (unmutated : ¬ Mutated past) (unread : reads past = []) :
    Holds (Allowed script runtime request) (Ending script request) past
      (verifyReservation script runtime dependencies request >>=
        writeVerified script runtime dependencies request) := by
  apply Holds.bind
  apply ask_holds trivial
  intro reply
  have quiet : Quiet (Exchange.mk (Call.verifyCurrentEffectReservation
    dependencies.currentEffectClaim (canonicalEffectFingerprint script request)) reply).call :=
      trivial
  have still : ¬ Mutated (past ++ [⟨.verifyCurrentEffectReservation
      dependencies.currentEffectClaim (canonicalEffectFingerprint script request), reply⟩]) := by
    rwa [quiet.mutated]
  show Continues _ _ _ _ (acceptReservation script runtime request reply)
  cases accepted : acceptReservation script runtime request reply with
  | error failure => exact Ending.unmutated still
  | ok verified =>
      obtain ⟨same, bound⟩ := acceptReservation_ok accepted
      apply writeVerified_final _ (by rw [quiet.reads, unread])
      subst same
      exact ⟨⟨_, _, List.mem_append_right _ List.mem_cons_self⟩, bound, still⟩

theorem checkRequest_trimmed {unsafeRequest : DataHubWritebackRequest}
    (accepted : checkRequest script runtime dependencies unsafeRequest = .ok request) :
    request = unsafeRequest.trimmed := by
  simp only [checkRequest, validateRequest, parseRequest, bind_ok, require_ok, present_ok,
    pure_ok] at accepted
  obtain ⟨_, _, _, ⟨_, ⟨_, _, _, _, rfl⟩, _, _, _, _, rfl⟩, _, _, rfl⟩ := accepted
  rfl

theorem write_final (unsafeRequest : DataHubWritebackRequest) :
    Holds (Allowed script runtime unsafeRequest.trimmed) (Ending script unsafeRequest.trimmed) []
      (write script runtime dependencies unsafeRequest) := by
  have unmutated : ¬ Mutated [] := by simp [Mutated, Invoked]
  rw [write]
  cases accepted : checkRequest script runtime dependencies unsafeRequest with
  | error failure => exact Ending.unmutated unmutated
  | ok request =>
      rw [checkRequest_trimmed accepted]
      exact verifyReservation_final unmutated rfl

/-- A write keeps all its guarantees exactly when every answer from the first mutation on is
acceptable. -/
theorem write_safe (script : Script) (runtime : Runtime) (dependencies : LiveDependencies)
    (unsafeRequest : DataHubWritebackRequest) (trace : Trace)
    (result : Except Failure DataHubWritebackReceipt)
    (runs : Runs (write script runtime dependencies unsafeRequest) trace result) :
    SafeWrite script runtime unsafeRequest.trimmed trace result ↔
      Answered script unsafeRequest.trimmed trace := by
  obtain ⟨allowed, ending⟩ := (write_final unsafeRequest).run runs
  rw [List.nil_append] at ending
  constructor
  · intro safe
    by_cases mutated : Mutated trace
    · exact (ending.ambiguous mutated).mp (safe.ambiguous mutated)
    · exact answered_unmutated mutated
  · intro answered
    constructor
    · intro past tool arguments reply future split
      exact (allowed past _ future split).1
    · intro past tool arguments reply future split
      exact (allowed past _ future split).2.1
    · intro past arguments reply future split
      exact (allowed past _ future split).2.2 rfl
    · exact ending.succeeded
    · exact fun mutated => (ending.ambiguous mutated).mpr answered

end Writes

section Sample

def sampleDeadline : String := "1970-01-01T00:00:01.000Z"

def sampleVerified : VerifiedReservation :=
  ⟨none, none, hexText 0, sampleDeadline, "r", .reserved⟩

def sampleConsumed : ConsumedAuthority := ⟨"f", "a", hexText 0, sampleDeadline, "r"⟩

/-- The dataset has no decision and no tag. -/
def sampleBefore : ExactDataHubEntitySnapshot where
  documentProofs := []
  knownTagUrns := [canonicalReviewedTagUrn]
  observedAt := "1970-01-01T00:00:00.000Z"
  relevantMetadataFingerprint := hexText 0
  reviewTagDefinitionFingerprint := some (hexText 0)
  scenarioMarker := canonicalScenarioMarker
  tagUrns := []
  urn := canonicalDatasetUrn
  version := "1"

theorem sampleFresh : Fresh sampleScript sampleRuntime sampleDependencies sampleRequest
    sampleRequest sampleVerified sampleConsumed sampleBefore 0 where
  accepted := sampleRequest_accepted rfl
  reserved := rfl
  reservation := by
    simp only [acceptReservation, bind_ok, reject_ok, pure_ok]
    refine ⟨(), ?_, (), rfl, trivial⟩
    rw [sampleRequest_fingerprint]
    simp [sampleVerified, sampleRuntime, sampleDeadline]
    decide
  untouched := by
    rw [observed_ok]
    refine ⟨rfl, ?_, rfl⟩
    simp [validateSnapshot, require, sampleBefore, sampleRequest, sampleRequestFor]
  bound := sampleRequest_fingerprint.symm
  fence := by
    simp only [validateFence, reject_ok]
    simp [sampleConsumed, sampleRuntime, sampleDeadline, hexText_fingerprint]
    decide
  current := by
    rintro ⟨deadline, parsed, late⟩
    have same : (1000 : ℤ) = deadline := Option.some.inj parsed
    omega

/-- A tool that refuses the document finally ends the write with its own error. -/
theorem write_unsafe : ∃ trace result,
    Runs (write sampleScript sampleRuntime sampleDependencies sampleRequest) trace result ∧
    ¬ SafeWrite sampleScript sampleRuntime sampleRequest.trimmed trace result := by
  have final : (adapterError .toolFailure "").isRetryable = false := rfl
  refine ⟨_, _, sampleFresh.refuses final, fun safe => ?_⟩
  have sent : Mutated (Fresh.opening sampleScript sampleDependencies sampleRequest sampleVerified
      sampleConsumed sampleBefore 0 ++ [⟨.clock, (0 : ℤ)⟩,
        ⟨.invoke .saveDocument (documentArguments sampleScript sampleRequest),
          .error (adapterError .toolFailure "")⟩] ++ Fresh.closings) :=
    ⟨.saveDocument, _, List.mem_append_left _ (List.mem_append_right _
      (List.mem_cons_of_mem _ List.mem_cons_self)), _, rfl⟩
  exact DataHubAdapterErrorCode.noConfusion (safe.ambiguous sent _ rfl)

theorem write_safe_sample : ∃ trace result,
    Runs (write sampleScript sampleRuntime sampleDependencies sampleRequest) trace result ∧
    (SafeWrite sampleScript sampleRuntime sampleRequest.trimmed trace result ↔
      Answered sampleScript sampleRequest.trimmed trace) := by
  have final : (adapterError .toolFailure "").isRetryable = false := rfl
  exact ⟨_, _, sampleFresh.refuses final, write_safe sampleScript sampleRuntime
    sampleDependencies sampleRequest _ _ (sampleFresh.refuses final)⟩

end Sample

end LineageGuard.Datahub
