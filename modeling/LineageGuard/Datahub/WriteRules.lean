import LineageGuard.Datahub.Writeback
import Mathlib.Tactic

/-
This file gives one rule for each part of the write-back program.
-/

namespace LineageGuard.Datahub

open Json Domain Attempt Dialogue

abbrev Trace := List (Exchange Call Reply)

def readReply : Exchange Call Reply → Option (Except Failure ExactDataHubEntitySnapshot)
  | ⟨.readExact _ _ _, reply⟩ => some reply
  | _ => none

/-- These are the answers of the reader in their order. -/
def reads (trace : Trace) : List (Except Failure ExactDataHubEntitySnapshot) :=
  trace.filterMap readReply

section Parts

variable {script : Script} {runtime : Runtime} {dependencies : LiveDependencies}
variable {request : DataHubWritebackRequest}
variable {guard : Trace → Call → Prop} {past : Trace} {Value Result : Type}

theorem ask_holds {ending : Trace → Except Failure Result → Prop} {call : Call}
    {next : Reply call → Dialog Result} (allowed : guard past call)
    (holds : ∀ reply, Holds guard ending (past ++ [⟨call, reply⟩]) (next reply)) :
    Holds guard ending past (ask call >>= next) := ⟨allowed, holds⟩

theorem settle_holds {ending : Trace → Except Failure Result → Prop}
    {result : Except Failure Value} {next : Value → Dialog Result}
    (holds : Continues guard ending next past result) :
    Holds guard ending past (settle result >>= next) := by
  cases result <;> exact holds

theorem ask_runs {call : Call} {reply : Reply call} {next : Reply call → Dialog Result}
    {trace : Trace} {result : Except Failure Result} (runs : Runs (next reply) trace result) :
    Runs (ask call >>= next) (⟨call, reply⟩ :: trace) result := Runs.ask reply runs

theorem settle_runs {outcome : Except Failure Value} {value : Value}
    {next : Value → Dialog Result} {trace : Trace} {result : Except Failure Result}
    (settled : outcome = .ok value) (runs : Runs (next value) trace result) :
    Runs (settle outcome >>= next) trace result := by
  subst settled
  exact runs

theorem validateConsumedAuthority_holds {ending : Trace → Except Failure Unit → Prop}
    {consumed : ConsumedAuthority} (allowed : guard past .clock)
    (invalid : ending past (.error invalidFence))
    (expired : ∀ now : ℤ, ending (past ++ [⟨.clock, now⟩]) (.error invalidFence))
    (current : ∀ now : ℤ, validateFence runtime consumed = .ok () →
      ¬ Expired runtime consumed.invokeBy now → ending (past ++ [⟨.clock, now⟩]) (.ok ())) :
    Holds guard ending past (validateConsumedAuthority runtime consumed) := by
  apply settle_holds
  cases fence : validateFence runtime consumed with
  | error failure =>
      have raised : failure = invalidFence := by
        simp only [validateFence, reject] at fence
        split at fence
        · exact (Except.error.inj fence).symm
        · cases fence
      rw [raised]
      exact invalid
  | ok done =>
      refine ⟨allowed, fun now => ?_⟩
      show ending _ (reject _ _)
      by_cases late : Expired runtime consumed.invokeBy now
      · rw [reject, if_pos late]
        exact expired now
      · rw [reject, if_neg late]
        exact current now fence late

theorem readExact_holds
    {ending : Trace → Except Failure (ExactDataHubEntitySnapshot × WriteProof) → Prop}
    {phase : Phase} (allowed : guard past (readCall script request))
    (holds : ∀ reply, ending (past ++ [⟨readCall script request, reply⟩])
      (observed script request phase reply)) :
    Holds guard ending past (readExact script request phase) := ⟨allowed, holds⟩

theorem currentReceipt_holds
    {ending : Trace → Except Failure DataHubWritebackReceipt → Prop}
    {before after : ExactDataHubEntitySnapshot} {proof : WriteProof}
    {invocations : List MutationInvocation} {authority : Option ConsumedAuthority}
    (allowed : guard past .clock)
    (holds : ∀ now : ℤ, ending (past ++ [⟨.clock, now⟩]) (.ok (receipt script request
      (deriveInternalDataHubWritebackPayloads script request) before after proof
      (runtime.toISOString now) invocations authority))) :
    Holds guard ending past (currentReceipt script runtime request before after proof invocations
      authority) := ⟨allowed, holds⟩

end Parts

end LineageGuard.Datahub
