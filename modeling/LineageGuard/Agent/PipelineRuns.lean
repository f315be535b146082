import LineageGuard.Agent.Pipeline
import Mathlib.Tactic

/-
This file proves what a run of the pipeline calls and how it ends under every behaviour of its
ports.
-/

namespace LineageGuard.Agent

open Attempt Domain Dialogue

abbrev Trace := List (Exchange Call Reply)

section Specification

variable (steps : PipelineSteps) (input : RunInput)

/-- The pipeline continues after an exchange that succeeds. -/
def Succeeds : Exchange Call Reply → Prop
  | ⟨_, .error _⟩ => False
  | ⟨.notify _ (.failed _ _), .ok _⟩ => False
  | ⟨.notify _ _, .ok _⟩ => True
  | ⟨.clock .repositoryOnly, .ok date⟩ => ∃ change baseline, steps.parseChange input = .ok change ∧
      evaluateRepositoryBaseline steps.script change date = .ok baseline
  | ⟨.clock .datahubGrounded, .ok _⟩ => True
  | ⟨.collect _, .ok collection⟩ => ∃ context, collectedContext collection = .ok context ∧
      assertExactlyFourConsumers steps.script (deriveImpactConsumers context.evidence) = .ok ()
  | ⟨.directLLMCall _, .ok planText⟩ => ∃ plan, steps.readPlan planText = .ok plan
  | ⟨.reattestSource, .ok observed⟩ => ∃ analysed, input.sourceEnvelope = some analysed ∧
      SameSource analysed observed
  | ⟨.validate _ _, .ok output⟩ => output.allPass = true
  | ⟨.createReview _, .ok _⟩ => True
  | ⟨.write _, .ok output⟩ => output.status = .succeeded

/-- The effects of the pipeline follow one another. -/
def Call.rank : Call → ℕ
  | .validate _ _ => 1
  | .createReview _ => 2
  | .write _ => 3
  | _ => 0

/-- The values of a publication follow from the answers of the ports. -/
structure Prepared (past : Trace) (context : ImpactContext) (comparison : RiskComparison)
    (candidate : MigrationCandidate) : Prop where
  computed : ∃ change baselineAt baseline groundedAt collection prompt planText plan,
    steps.parseChange input = .ok change ∧
    ⟨.clock .repositoryOnly, .ok baselineAt⟩ ∈ past ∧
    evaluateRepositoryBaseline steps.script change baselineAt = .ok baseline ∧
    ⟨.collect change.id, .ok collection⟩ ∈ past ∧ collectedContext collection = .ok context ∧
    assertExactlyFourConsumers steps.script (deriveImpactConsumers context.evidence) = .ok () ∧
    ⟨.clock .datahubGrounded, .ok groundedAt⟩ ∈ past ∧
    compareAuthoritativeRisk steps.script steps.spelling change context baseline.evaluatedAt
      groundedAt = .ok comparison ∧
    ⟨.directLLMCall prompt, .ok planText⟩ ∈ past ∧ steps.readPlan planText = .ok plan ∧
    buildCanonicalCandidate steps.collates change context comparison (some plan.rationale) =
      .ok candidate ∧
    steps.bindMigrationCandidate candidate change context comparison.grounded = .ok ()
  decided : comparison.grounded.decision ≠ .allow

/-- A run that is bound to a live source attests it once more and finds it unchanged. -/
def Attested (trace : Trace) : Prop :=
  ∀ analysed, input.sourceEnvelope = some analysed → input.reattestSource = true →
    ∃ observed, ⟨.reattestSource, .ok observed⟩ ∈ trace ∧ SameSource analysed observed

/-- All checks have passed for the candidate, and the source is attested after that. -/
def Validated (past : Trace) (candidate : MigrationCandidate) (fingerprint : String) : Prop :=
  ∃ before output after, past = before ++ ⟨.validate input.runId candidate, .ok output⟩ :: after ∧
    output.allPass = true ∧ output.receiptFingerprint = fingerprint ∧ Attested input after

/-- Each effect is called once, after the effects that it depends on and after no failure. -/
def Ordered (past : Trace) : Call → Prop
  | .notify _ (.failed _ _) => True
  | .createReview review => (∀ exchange ∈ past, Succeeds steps input exchange) ∧
      (∀ exchange ∈ past, exchange.call.rank < 2) ∧
      Prepared steps input past review.context review.comparison review.candidate ∧
      ∃ fingerprint, Validated input past review.candidate fingerprint
  | .write request => (∀ exchange ∈ past, Succeeds steps input exchange) ∧
      (∀ exchange ∈ past, exchange.call.rank < 3) ∧
      ∃ receipt, ⟨.createReview ⟨input.runId, request.candidate, request.comparison,
        request.context⟩, .ok receipt⟩ ∈ past ∧ receipt.prUrl = request.githubPrUrl ∧
        receipt.receiptFingerprint = request.githubReceiptFingerprint ∧
        Validated input past request.candidate request.validationReceiptFingerprint
  | _ => ∀ exchange ∈ past, Succeeds steps input exchange

/-- The status of a notice for the run is this. -/
def notified : Exchange Call Reply → Option RunStatus
  | ⟨.notify runId notice, _⟩ => if runId = input.runId then some notice.status else none
  | _ => none

def lastStatus (trace : Trace) : Option RunStatus := (trace.filterMap (notified input)).getLast?

def Delivered (trace : Trace) : Prop :=
  ∀ runId notice reply, ⟨.notify runId notice, reply⟩ ∈ trace → reply = .ok ()

def failedStatuses : List RunStatus :=
  [.failedContext, .failedGeneration, .failedValidation, .failedGithub, .failedWriteback]

/-- The validation has passed and both effects have succeeded. -/
def Published (trace : Trace) : Prop :=
  (∃ runId candidate output, ⟨.validate runId candidate, .ok output⟩ ∈ trace ∧
    output.allPass = true) ∧
  (∃ review receipt, ⟨.createReview review, .ok receipt⟩ ∈ trace) ∧
  ∃ request output, ⟨.write request, .ok output⟩ ∈ trace ∧ output.status = .succeeded

/-- The grounded decision was to allow the change. -/
def Permitted (trace : Trace) : Prop :=
  ∃ runId triggeredRules comparison,
    ⟨.notify runId (.riskDecided .allow triggeredRules comparison), .ok ()⟩ ∈ trace

/-- The result has a final status, which is the last one notified. -/
structure Concluded (trace : Trace) (result : PipelineResult) : Prop where
  last : lastStatus input trace = some result.finalStatus
  final : result.finalStatus = .completed ∨ result.finalStatus ∈ failedStatuses
  completed : result.finalStatus = .completed ↔ Published trace ∨ Permitted trace

/-- The handler that catches what this call throws describes it in this way. -/
def caughtBy : Call → Option Description
  | .collect _ | .clock .datahubGrounded => some .template
  | .directLLMCall _ => some .sliceOrString
  | .reattestSource | .validate _ _ | .createReview _ | .write _ => some .slice
  | .notify _ _ | .clock .repositoryOnly => none

/-- A handler can describe what was thrown, and the baseline can be assessed at the date. -/
def Handled : Exchange Call Reply → Prop
  | ⟨call, .error thrown⟩ =>
      ∃ description, caughtBy call = some description ∧ description.reads thrown = true
  | ⟨.clock .repositoryOnly, .ok date⟩ => ∃ change baseline, steps.parseChange input = .ok change ∧
      evaluateRepositoryBaseline steps.script change date = .ok baseline
  | _ => True

/-- The change is parsed and everything that the ports do is handled. -/
def Absorbed (trace : Trace) : Prop :=
  (∃ change, steps.parseChange input = .ok change) ∧
    ∀ exchange ∈ trace, Handled steps input exchange

end Specification

section Exchanges

variable {steps : PipelineSteps} {input : RunInput} {past : Trace} {exchange : Exchange Call Reply}

theorem Succeeds.handled (succeeds : Succeeds steps input exchange) :
    Handled steps input exchange := by
  obtain ⟨call, reply⟩ := exchange
  cases reply with
  | error thrown => cases call <;> exact succeeds.elim
  | ok answer =>
      cases call with
      | clock assessment =>
          cases assessment with
          | repositoryOnly => exact succeeds
          | datahubGrounded => trivial
      | _ => trivial

/-- Only one notice allows the change. -/
def Call.Undecided : Call → Prop
  | .notify _ (.riskDecided .allow _ _) => False
  | _ => True

/-- An exchange of this kind neither fails nor allows the change. -/
def Steady (steps : PipelineSteps) (input : RunInput) (rank : ℕ) (exchange : Exchange Call Reply) :
    Prop :=
  Succeeds steps input exchange ∧ exchange.call.rank < rank ∧ exchange.call.Undecided

/-- The run has parsed its change and has only had exchanges of this kind. -/
structure Progress (steps : PipelineSteps) (input : RunInput) (rank : ℕ) (past : Trace) : Prop where
  parsed : ∃ change, steps.parseChange input = .ok change
  steady : ∀ exchange ∈ past, Steady steps input rank exchange

variable {rank : ℕ}

theorem Progress.succeeded (progress : Progress steps input rank past) :
    ∀ exchange ∈ past, Succeeds steps input exchange :=
  fun exchange present => (progress.steady exchange present).1

theorem Progress.below (progress : Progress steps input rank past) :
    ∀ exchange ∈ past, exchange.call.rank < rank :=
  fun exchange present => (progress.steady exchange present).2.1

theorem Progress.absorbed (progress : Progress steps input rank past) :
    Absorbed steps input past :=
  ⟨progress.parsed, fun exchange present => (progress.succeeded exchange present).handled⟩

theorem Progress.append (progress : Progress steps input rank past)
    (steady : Steady steps input rank exchange) :
    Progress steps input rank (past ++ [exchange]) where
  parsed := progress.parsed
  steady := by
    intro found present
    rcases List.mem_append.mp present with earlier | last
    · exact progress.steady found earlier
    · rw [List.mem_singleton.mp last]
      exact steady

theorem Progress.mono {higher : ℕ} (progress : Progress steps input rank past)
    (le : rank ≤ higher) : Progress steps input higher past where
  parsed := progress.parsed
  steady exchange present := by
    obtain ⟨succeeds, below, forbids⟩ := progress.steady exchange present
    exact ⟨succeeds, lt_of_lt_of_le below le, forbids⟩

theorem absorbed_append : Absorbed steps input (past ++ [exchange]) ↔
    Absorbed steps input past ∧ Handled steps input exchange := by
  simp only [Absorbed, List.mem_append, List.mem_singleton, or_imp, forall_and, forall_eq,
    and_assoc]

/-- Nothing was written and the change was not allowed. -/
structure Unfinished (past : Trace) : Prop where
  unwritten : ∀ request output, ⟨.write request, .ok output⟩ ∈ past → output.status ≠ .succeeded
  undecided : ∀ runId rules comparison,
    ⟨.notify runId (.riskDecided .allow rules comparison), .ok ()⟩ ∉ past

theorem Progress.unfinished (progress : Progress steps input 3 past) : Unfinished past where
  unwritten _ _ present := absurd (progress.below _ present) (lt_irrefl 3)
  undecided _ _ _ present := (progress.steady _ present).2.2

theorem Unfinished.append (unfinished : Unfinished past) (single : Unfinished [exchange]) :
    Unfinished (past ++ [exchange]) where
  unwritten request output present := by
    rcases List.mem_append.mp present with earlier | last
    · exact unfinished.unwritten request output earlier
    · exact single.unwritten request output last
  undecided runId rules comparison present := by
    rcases List.mem_append.mp present with earlier | last
    · exact unfinished.undecided runId rules comparison earlier
    · exact single.undecided runId rules comparison last

/-- A failure does not finish a run. -/
theorem Unfinished.raised {call : Call} {thrown : Thrown} :
    Unfinished [(⟨call, .error thrown⟩ : Exchange Call Reply)] where
  unwritten request output present := by
    cases List.mem_singleton.mp present
  undecided runId rules comparison present := by
    cases List.mem_singleton.mp present

theorem Unfinished.single (below : exchange.call.rank < 3) (undecided : exchange.call.Undecided) :
    Unfinished [exchange] where
  unwritten request output present := by
    rw [← List.mem_singleton.mp present] at below
    exact absurd below (lt_irrefl 3)
  undecided runId rules comparison present := by
    rw [← List.mem_singleton.mp present] at undecided
    exact undecided

/-- A step after an answer is reached when everything before it succeeds. -/
theorem Progress.reached (progress : Progress steps input 3 past)
    (below : exchange.call.rank < 3) (undecided : exchange.call.Undecided)
    (handled : Handled steps input exchange) :
    Unfinished (past ++ [exchange]) ∧ Absorbed steps input (past ++ [exchange]) :=
  ⟨progress.unfinished.append (Unfinished.single below undecided),
    absorbed_append.mpr ⟨progress.absorbed, handled⟩⟩

theorem Unfinished.not_finished (unfinished : Unfinished past) :
    ¬ (Published past ∨ Permitted past) := by
  rintro (⟨_, _, request, output, present, succeeded⟩ | ⟨runId, rules, comparison, present⟩)
  · exact unfinished.unwritten request output present succeeded
  · exact unfinished.undecided runId rules comparison present

theorem lastStatus_append (notice : Notice) (reply : Reply (.notify input.runId notice)) :
    lastStatus input (past ++ [⟨.notify input.runId notice, reply⟩]) = some notice.status := by
  simp [lastStatus, notified]

theorem undelivered {notice : Notice} {thrown : Thrown} {later : Trace} :
    ¬ Delivered (past ++ ⟨.notify input.runId notice, .error thrown⟩ :: later) := by
  intro delivered
  have same := delivered input.runId notice (.error thrown) (by simp)
  cases same

end Exchanges

section Endings

variable {config : AgentPipelineConfig} {steps : PipelineSteps} {input : RunInput}
variable {past : Trace} {description : Description} {status : RunStatus} {thrown : Thrown}

/-- When all notices are delivered, a run ends with a result exactly when everything is handled. -/
def Ends (steps : PipelineSteps) (input : RunInput) (past : Trace)
    (outcome : Except Raised PipelineResult) : Prop :=
  Delivered past → match outcome with
    | .ok result => Concluded input past result ∧ Absorbed steps input past
    | .error _ => ¬ Absorbed steps input past

abbrev Sound (steps : PipelineSteps) (input : RunInput) (past : Trace)
    (program : Dialog PipelineResult) : Prop :=
  Holds (Ordered steps input) (Ends steps input) past program

/-- A stage breaks on an error of its own or on what a port has thrown last. -/
def Broken (steps : PipelineSteps) (input : RunInput) (description : Description) (past : Trace)
    (thrown : Thrown) : Prop :=
  Delivered past → Unfinished past ∧
    (Absorbed steps input past ∧ thrown = raisedError ∨
      ∃ before call, past = before ++ [⟨call, .error thrown⟩] ∧ Absorbed steps input before ∧
        caughtBy call = some description)

/-- A stage finishes the run, continues it or breaks. -/
def StageEnds {Value : Type} (steps : PipelineSteps) (input : RunInput)
    (description : Description) (next : Value → Dialog PipelineResult) (past : Trace) :
    Except Raised (Stage Value) → Prop
  | .ok (.finished result) => Ends steps input past (.ok result)
  | .ok (.continued value) => Sound steps input past (next value)
  | .error raised => Broken steps input description past raised.thrown

theorem raisedError_reads (description : Description) : description.reads raisedError = true := by
  cases description <;> rfl

/-- What the handler reads is absorbed, and what it does not read is not. -/
theorem Broken.absorbed (broken : Broken steps input description past thrown)
    (delivered : Delivered past) :
    Absorbed steps input past ↔ description.reads thrown = true := by
  obtain ⟨_, ⟨absorbed, rfl⟩ | ⟨before, call, rfl, absorbed, caught⟩⟩ := broken delivered
  · exact iff_of_true absorbed (raisedError_reads description)
  · rw [absorbed_append, Handled]
    constructor
    · rintro ⟨_, other, isOther, reads⟩
      rw [caught, Option.some.injEq] at isOther
      rwa [isOther]
    · exact fun reads => ⟨absorbed, description, caught, reads⟩

theorem delivered_append {exchange : Exchange Call Reply}
    (delivered : Delivered (past ++ [exchange])) : Delivered past :=
  fun runId notice reply present => delivered runId notice reply (List.mem_append_left _ present)

/-- A failure that is notified concludes the run. -/
theorem failed_ends {checks : Option (List String)} (result : PipelineResult)
    (isStatus : result.finalStatus = status) (failed : status ∈ failedStatuses)
    (unfinished : Unfinished past) (absorbed : Absorbed steps input past) :
    Ends steps input (past ++ [⟨.notify input.runId (.failed status checks), .ok ()⟩])
      (.ok result) := by
  intro delivered
  have notified : Unfinished [⟨.notify input.runId (.failed status checks), .ok ()⟩] :=
    Unfinished.single (Nat.zero_lt_succ 2) trivial
  have incomplete : status ≠ .completed := by
    intro completed
    rw [completed] at failed
    exact absurd failed (by decide)
  have concluded : Concluded input
      (past ++ [⟨.notify input.runId (.failed status checks), .ok ()⟩]) result := by
    constructor
    · rw [lastStatus_append, isStatus]
      rfl
    · rw [isStatus]
      exact Or.inr failed
    · rw [isStatus]
      exact iff_of_false incomplete (unfinished.append notified).not_finished
  exact ⟨concluded, absorbed_append.mpr ⟨absorbed, trivial⟩⟩

theorem finishFailed_holds {Value : Type} {ending : Trace → Except Raised (Stage Value) → Prop}
    {checks : Option (List String)} (result : PipelineResult) (failed : status ∈ failedStatuses)
    (before : Delivered past → Unfinished past ∧ Absorbed steps input past)
    (finishes : ∀ past result, Ends steps input past (.ok result) →
      ending past (.ok (.finished result)))
    (breaks : ∀ past raised, ¬ Delivered past → ending past (.error raised)) :
    Holds (Ordered steps input) ending past (finishFailed input result status checks) := by
  refine ⟨trivial, fun reply => ?_⟩
  cases reply with
  | error thrown => exact breaks _ _ undelivered
  | ok answer =>
      apply finishes
      intro delivered
      obtain ⟨unfinished, absorbed⟩ := before (delivered_append delivered)
      have ended : Ends steps input (past ++ [⟨.notify input.runId (.failed status checks), .ok ()⟩])
          (.ok { result with finalStatus := status }) :=
        failed_ends _ rfl failed unfinished absorbed
      exact ended delivered

/-- A stage without its port finishes the run. -/
theorem finishFailed_sound {Value : Type} {next : Value → Dialog PipelineResult}
    {checks : Option (List String)} (result : PipelineResult) (failed : status ∈ failedStatuses)
    (before : Delivered past → Unfinished past ∧ Absorbed steps input past) :
    Sound steps input past (andThen (finishFailed input result status checks) next) := by
  apply Holds.bind
  apply finishFailed_holds result failed before
  · exact fun past result ended => ended
  · exact fun past raised undelivered delivered => absurd delivered undelivered

/-- The handler finishes a run whose stage is broken. -/
theorem caught_sound {Value : Type} {stage : Dialog (Stage Value)}
    {next : Value → Dialog PipelineResult} (failed : status ∈ failedStatuses)
    (holds : Holds (Ordered steps input) (StageEnds steps input description next) past stage) :
    Sound steps input past (andThen (caught input description status stage) next) := by
  apply Holds.bind
  apply Holds.recover
  apply holds.mono (fun _ _ allowed => allowed)
  intro past outcome ended
  cases outcome with
  | ok value =>
      cases value with
      | finished result => exact ended
      | continued value => exact ended
  | error raised =>
      show Holds _ _ past (if _ then _ else _)
      split
      · rename_i reads
        apply finishFailed_holds raised.result failed
        · exact fun delivered => ⟨(ended delivered).1, (ended.absorbed delivered).mpr reads⟩
        · exact fun past result ended => ended
        · exact fun past raised undelivered delivered => absurd delivered undelivered
      · rename_i unread
        intro delivered absorbed
        exact unread ((ended.absorbed delivered).mp absorbed)

variable {Value Found : Type} {next : Value → Dialog PipelineResult} {rank : ℕ}

/-- A stage breaks when its port raises. -/
theorem ask_stage {call : Call} {result : PipelineResult}
    {continues : Answer call → Dialog (Stage Value)} (progress : Progress steps input 3 past)
    (allowed : Ordered steps input past call) (caught : caughtBy call = some description)
    (answered : ∀ answer, Holds (Ordered steps input) (StageEnds steps input description next)
      (past ++ [⟨call, .ok answer⟩]) (continues answer)) :
    Holds (Ordered steps input) (StageEnds steps input description next) past
      (ask result call >>= continues) := by
  refine ⟨allowed, fun reply => ?_⟩
  cases reply with
  | ok answer => exact answered answer
  | error thrown =>
      intro delivered
      exact ⟨progress.unfinished.append Unfinished.raised,
        Or.inr ⟨past, call, rfl, progress.absorbed, caught⟩⟩

/-- A notice that is not delivered ends the run in any way. -/
theorem notify_stage {notice : Notice} {result : PipelineResult}
    {continues : Unit → Dialog (Stage Value)}
    (allowed : Ordered steps input past (.notify input.runId notice))
    (answered : Holds (Ordered steps input) (StageEnds steps input description next)
      (past ++ [⟨.notify input.runId notice, .ok ()⟩]) (continues ())) :
    Holds (Ordered steps input) (StageEnds steps input description next) past
      (notify input result notice >>= continues) := by
  refine ⟨allowed, fun reply => ?_⟩
  cases reply with
  | ok answer => exact answered
  | error thrown => exact fun delivered => absurd delivered undelivered

/-- A stage breaks when a step of its own fails. -/
theorem settle_stage {Failure : Type} {outcome : Except Failure Found}
    {result : PipelineResult} {continues : Found → Dialog (Stage Value)}
    (reached : Unfinished past ∧ Absorbed steps input past)
    (answered : ∀ value, outcome = .ok value → Holds (Ordered steps input)
      (StageEnds steps input description next) past (continues value)) :
    Holds (Ordered steps input) (StageEnds steps input description next) past
      (settle result outcome >>= continues) := by
  cases outcome with
  | ok value => exact answered value rfl
  | error failure =>
      exact fun delivered => ⟨reached.1, Or.inl ⟨reached.2, rfl⟩⟩

/-- The last notice of a stage leads to the next stage. -/
theorem notify_continued {notice : Notice} {result : PipelineResult} {value : Value}
    (allowed : Ordered steps input past (.notify input.runId notice))
    (answered : Sound steps input (past ++ [⟨.notify input.runId notice, .ok ()⟩]) (next value)) :
    Holds (Ordered steps input) (StageEnds steps input description next) past
      (notify input result notice >>= fun _ => pure (.continued value)) :=
  notify_stage allowed answered

/-- Outside the stages a notice only has to be delivered. -/
theorem notify_sound {notice : Notice} {result : PipelineResult}
    {continues : Unit → Dialog PipelineResult}
    (allowed : Ordered steps input past (.notify input.runId notice))
    (answered : Sound steps input (past ++ [⟨.notify input.runId notice, .ok ()⟩])
      (continues ())) : Sound steps input past (notify input result notice >>= continues) := by
  refine ⟨allowed, fun reply => ?_⟩
  cases reply with
  | ok answer => exact answered
  | error thrown => exact fun delivered => absurd delivered undelivered

/-- Outside the stages nothing catches what a port raises. -/
theorem ask_sound {call : Call} {result : PipelineResult}
    {continues : Answer call → Dialog PipelineResult} (allowed : Ordered steps input past call)
    (uncaught : caughtBy call = none)
    (answered : ∀ answer, Sound steps input (past ++ [⟨call, .ok answer⟩]) (continues answer)) :
    Sound steps input past (ask result call >>= continues) := by
  refine ⟨allowed, fun reply => ?_⟩
  cases reply with
  | ok answer => exact answered answer
  | error thrown =>
      intro delivered absorbed
      obtain ⟨description, caught, _⟩ := (absorbed_append.mp absorbed).2
      rw [uncaught] at caught
      cases caught

/-- The attestation of the source leads on when it finds the source unchanged. -/
theorem assertSourceUnchanged_stage {checkpoint : String} {result : PipelineResult}
    {continues : Unit → Dialog (Stage Value)} (progress : Progress steps input rank past)
    (positive : 0 < rank) (le : rank ≤ 3)
    (answered : ∀ later, Progress steps input rank (past ++ later) → Attested input later →
      Holds (Ordered steps input) (StageEnds steps input .slice next) (past ++ later)
        (continues ())) :
    Holds (Ordered steps input) (StageEnds steps input .slice next) past
      (assertSourceUnchanged input result checkpoint >>= continues) := by
  have unbound : Attested input [] → Holds (Ordered steps input)
      (StageEnds steps input .slice next) past (continues ()) := by
    intro attested
    have same := answered [] (by rwa [List.append_nil]) attested
    rwa [List.append_nil] at same
  unfold assertSourceUnchanged
  split
  · rename_i analysed isAnalysed isReattested
    rw [Program.bind_assoc]
    refine ask_stage (progress.mono le) progress.succeeded rfl fun observed => ?_
    have reached : Unfinished (past ++ [⟨.reattestSource, .ok observed⟩]) ∧
        Absorbed steps input (past ++ [⟨.reattestSource, .ok observed⟩]) :=
      (progress.mono le).reached (Nat.zero_lt_succ 2) trivial trivial
    refine settle_stage reached fun done unchanged => ?_
    have same : SameSource analysed observed := assertNoSourceDrift_ok.mp unchanged
    apply answered
    · exact progress.append ⟨⟨analysed, isAnalysed, same⟩, positive, trivial⟩
    · intro other isOther reattests
      rw [isAnalysed, Option.some.injEq] at isOther
      exact ⟨observed, List.mem_singleton_self _, isOther ▸ same⟩
  · rename_i unattested
    apply unbound
    intro analysed isAnalysed reattests
    exact absurd reattests (unattested analysed isAnalysed)

end Endings

section Stages

variable {config : AgentPipelineConfig} {steps : PipelineSteps} {input : RunInput}
variable {past : Trace} {change : ProposedChange} {context : ImpactContext}
variable {comparison : RiskComparison} {candidate : MigrationCandidate}

theorem collectStage_sound (result : PipelineResult) (progress : Progress steps input 1 past)
    {next : ImpactContext × PipelineResult → Dialog PipelineResult}
    (continues : ∀ later collection context result, Progress steps input 1 (past ++ later) →
      ⟨.collect change.id, .ok collection⟩ ∈ past ++ later →
      collectedContext collection = .ok context →
      assertExactlyFourConsumers steps.script (deriveImpactConsumers context.evidence) = .ok () →
      Sound steps input (past ++ later) (next (context, result))) :
    Sound steps input past (andThen (collectStage steps input result change) next) := by
  apply caught_sound (by decide)
  refine ask_stage (progress.mono (by decide)) progress.succeeded rfl fun collection => ?_
  have reached : Unfinished (past ++ [⟨.collect change.id, .ok collection⟩]) ∧
      Absorbed steps input (past ++ [⟨.collect change.id, .ok collection⟩]) :=
    (progress.mono (by decide)).reached (Nat.zero_lt_succ 2) trivial trivial
  refine settle_stage reached fun context collected => ?_
  refine settle_stage reached fun four isFour => ?_
  have answered : Progress steps input 1 (past ++ [⟨.collect change.id, .ok collection⟩]) :=
    progress.append ⟨⟨context, collected, isFour⟩, Nat.zero_lt_one, trivial⟩
  refine notify_continued answered.succeeded ?_
  rw [List.append_assoc]
  apply continues _ collection context _ _ (by simp) collected isFour
  rw [← List.append_assoc]
  exact answered.append ⟨trivial, Nat.zero_lt_one, trivial⟩

/-- A decision that allows the change ends differently from the other decisions. -/
theorem decideStage_sound (result : PipelineResult) (baseline : RiskAssessment)
    (progress : Progress steps input 1 past)
    {next : RiskComparison × PipelineResult → Dialog PipelineResult}
    (allowed : ∀ later comparison result, comparison.grounded.decision = .allow →
      (∀ exchange ∈ past ++ later, Succeeds steps input exchange) →
      Absorbed steps input (past ++ later) → Permitted (past ++ later) →
      Sound steps input (past ++ later) (next (comparison, result)))
    (refused : ∀ later groundedAt comparison result, comparison.grounded.decision ≠ .allow →
      Progress steps input 1 (past ++ later) →
      ⟨.clock .datahubGrounded, .ok groundedAt⟩ ∈ past ++ later →
      compareAuthoritativeRisk steps.script steps.spelling change context baseline.evaluatedAt
        groundedAt = .ok comparison →
      Sound steps input (past ++ later) (next (comparison, result))) :
    Sound steps input past
      (andThen (decideStage steps input result change context baseline) next) := by
  apply caught_sound (by decide)
  refine ask_stage (progress.mono (by decide)) progress.succeeded rfl fun groundedAt => ?_
  have answered : Progress steps input 1 (past ++ [⟨.clock .datahubGrounded, .ok groundedAt⟩]) :=
    progress.append ⟨trivial, Nat.zero_lt_one, trivial⟩
  have reached : Unfinished (past ++ [⟨.clock .datahubGrounded, .ok groundedAt⟩]) ∧
      Absorbed steps input (past ++ [⟨.clock .datahubGrounded, .ok groundedAt⟩]) :=
    (progress.mono (by decide)).reached (Nat.zero_lt_succ 2) trivial trivial
  generalize compared : compareAuthoritativeRisk steps.script steps.spelling change context
    baseline.evaluatedAt groundedAt = outcome
  refine settle_stage reached fun comparison isComparison => ?_
  rw [isComparison] at compared
  refine notify_continued answered.succeeded ?_
  by_cases decision : comparison.grounded.decision = .allow
  · rw [List.append_assoc]
    apply allowed _ comparison _ decision
    · intro exchange present
      rw [← List.append_assoc] at present
      rcases List.mem_append.mp present with earlier | last
      · exact answered.succeeded exchange earlier
      · rw [List.mem_singleton.mp last]
        trivial
    · rw [← List.append_assoc]
      exact absorbed_append.mpr ⟨answered.absorbed, trivial⟩
    · rw [decision]
      exact ⟨input.runId, comparison.triggeredRuleIds, comparison, by simp⟩
  · rw [List.append_assoc]
    apply refused _ groundedAt comparison _ decision _ (by simp) compared
    rw [← List.append_assoc]
    refine answered.append ⟨trivial, Nat.zero_lt_one, ?_⟩
    cases isDecision : comparison.grounded.decision with
    | allow => exact absurd isDecision decision
    | review => trivial
    | block => trivial

theorem planStage_sound (result : PipelineResult) (progress : Progress steps input 1 past)
    {next : MigrationPlan → Dialog PipelineResult}
    (continues : ∀ later prompt planText plan, Progress steps input 1 (past ++ later) →
      ⟨.directLLMCall prompt, .ok planText⟩ ∈ past ++ later → steps.readPlan planText = .ok plan →
      Sound steps input (past ++ later) (next plan)) :
    Sound steps input past (andThen (planStage steps input result context) next) := by
  apply caught_sound (by decide)
  refine ask_stage (progress.mono (by decide)) progress.succeeded rfl fun planText => ?_
  refine settle_stage ((progress.mono (by decide)).reached (Nat.zero_lt_succ 2) trivial trivial)
    fun plan isPlan => ?_
  have answered : Progress steps input 1
      (past ++ [⟨.directLLMCall (steps.planPrompt input context), .ok planText⟩]) :=
    progress.append ⟨⟨plan, isPlan⟩, Nat.zero_lt_one, trivial⟩
  refine notify_continued answered.succeeded ?_
  rw [List.append_assoc]
  apply continues _ (steps.planPrompt input context) planText plan _ (by simp) isPlan
  rw [← List.append_assoc]
  exact answered.append ⟨trivial, Nat.zero_lt_one, trivial⟩

theorem buildStage_sound (result : PipelineResult) (plan : MigrationPlan)
    (progress : Progress steps input 1 past)
    {next : MigrationCandidate × PipelineResult → Dialog PipelineResult}
    (continues : ∀ later candidate result, Progress steps input 1 (past ++ later) →
      buildCanonicalCandidate steps.collates change context comparison (some plan.rationale) =
        .ok candidate →
      steps.bindMigrationCandidate candidate change context comparison.grounded = .ok () →
      Sound steps input (past ++ later) (next (candidate, result))) :
    Sound steps input past
      (andThen (buildStage steps input result change context comparison plan) next) := by
  apply caught_sound (by decide)
  have reached := And.intro (progress.mono (by decide : 1 ≤ 3)).unfinished progress.absorbed
  refine settle_stage reached fun candidate built => ?_
  refine settle_stage reached fun bound isBound => ?_
  refine notify_continued progress.succeeded ?_
  exact continues _ candidate _ (progress.append ⟨trivial, Nat.zero_lt_one, trivial⟩) built isBound

/-- All checks have passed for the candidate. -/
def Checked (input : RunInput) (past : Trace) (candidate : MigrationCandidate)
    (fingerprint : String) : Prop :=
  ∃ output, ⟨.validate input.runId candidate, .ok output⟩ ∈ past ∧ output.allPass = true ∧
    output.receiptFingerprint = fingerprint

theorem Attested.mono {trace longer : Trace} (attested : Attested input trace)
    (subset : trace ⊆ longer) : Attested input longer := by
  intro analysed isAnalysed reattests
  obtain ⟨observed, present, same⟩ := attested analysed isAnalysed reattests
  exact ⟨observed, subset present, same⟩

theorem Validated.append {fingerprint : String}
    (validated : Validated input past candidate fingerprint) (later : Trace) :
    Validated input (past ++ later) candidate fingerprint := by
  obtain ⟨before, output, after, rfl, passed, isFingerprint, attested⟩ := validated
  exact ⟨before, output, after ++ later, by simp, passed, isFingerprint,
    attested.mono (List.subset_append_left after later)⟩

/-- An attestation that follows the checks completes the validation. -/
theorem Checked.validated {fingerprint : String} {later : Trace}
    (checked : Checked input past candidate fingerprint) (attested : Attested input later) :
    Validated input (past ++ later) candidate fingerprint := by
  obtain ⟨output, present, passed, isFingerprint⟩ := checked
  obtain ⟨before, after, rfl⟩ := List.append_of_mem present
  exact ⟨before, output, after ++ later, by simp, passed, isFingerprint,
    attested.mono (List.subset_append_right after later)⟩

theorem Prepared.append (prepared : Prepared steps input past context comparison candidate)
    (later : Trace) : Prepared steps input (past ++ later) context comparison candidate where
  computed := by
    obtain ⟨change, baselineAt, baseline, groundedAt, collection, prompt, planText, plan, parsed,
      atBaseline, assessed, collected, isContext, four, atGrounded, compared, planned, isPlan,
      built⟩ := prepared.computed
    exact ⟨change, baselineAt, baseline, groundedAt, collection, prompt, planText, plan, parsed,
      List.mem_append_left later atBaseline, assessed, List.mem_append_left later collected,
      isContext, four, List.mem_append_left later atGrounded, compared,
      List.mem_append_left later planned, isPlan, built⟩
  decided := prepared.decided

theorem validateStage_sound (result : PipelineResult) (progress : Progress steps input 1 past)
    {next : String × PipelineResult → Dialog PipelineResult}
    (continues : ∀ later fingerprint result, Progress steps input 2 (past ++ later) →
      Checked input (past ++ later) candidate fingerprint →
      Sound steps input (past ++ later) (next (fingerprint, result))) :
    Sound steps input past
      (andThen (validateStage config steps input result candidate) next) := by
  unfold validateStage
  split
  · apply caught_sound (by decide)
    refine assertSourceUnchanged_stage progress Nat.zero_lt_one (by decide) fun attestation
      attested _ => ?_
    refine ask_stage (attested.mono (by decide)) attested.succeeded rfl fun output => ?_
    have reached : Unfinished (past ++ attestation ++
          [⟨.validate input.runId candidate, .ok output⟩]) ∧
        Absorbed steps input (past ++ attestation ++
          [⟨.validate input.runId candidate, .ok output⟩]) :=
      (attested.mono (by decide)).reached (Nat.lt_succ_of_lt Nat.one_lt_two) trivial trivial
    by_cases passed : output.allPass = true
    · have answered : Progress steps input 2 (past ++ attestation ++
          [⟨.validate input.runId candidate, .ok output⟩]) :=
        (attested.mono (by decide)).append ⟨passed, Nat.one_lt_two, trivial⟩
      simp only [passed, if_true]
      refine notify_continued answered.succeeded ?_
      rw [List.append_assoc, List.append_assoc]
      apply continues
      · rw [← List.append_assoc, ← List.append_assoc]
        exact answered.append ⟨trivial, Nat.zero_lt_two, trivial⟩
      · exact ⟨output, by simp, passed, rfl⟩
    · simp only [passed, Bool.false_eq_true, if_false]
      apply finishFailed_holds _ (by decide) fun _ => reached
      · exact fun past result ended => ended
      · exact fun past raised undelivered delivered => absurd delivered undelivered
  · exact finishFailed_sound result (by decide)
      fun _ => ⟨(progress.mono (by decide)).unfinished, progress.absorbed⟩

theorem reviewStage_sound (result : PipelineResult) (progress : Progress steps input 2 past)
    {fingerprint : String} (checked : Checked input past candidate fingerprint)
    (prepared : Prepared steps input past context comparison candidate)
    {next : GitHubReviewOutput × PipelineResult → Dialog PipelineResult}
    (continues : ∀ later receipt result, Progress steps input 3 (past ++ later) →
      ⟨.createReview ⟨input.runId, candidate, comparison, context⟩, .ok receipt⟩ ∈ past ++ later →
      Validated input (past ++ later) candidate fingerprint →
      Sound steps input (past ++ later) (next (receipt, result))) :
    Sound steps input past
      (andThen (reviewStage config input result candidate comparison context) next) := by
  unfold reviewStage
  split
  · apply caught_sound (by decide)
    refine assertSourceUnchanged_stage progress Nat.zero_lt_two (by decide) fun attestation
      attested unchanged => ?_
    have validated := checked.validated unchanged
    refine ask_stage (attested.mono (by decide)) ?_ rfl fun receipt => ?_
    · exact ⟨attested.succeeded, attested.below, prepared.append attestation, fingerprint,
        validated⟩
    · have answered : Progress steps input 3 (past ++ attestation ++
          [⟨.createReview ⟨input.runId, candidate, comparison, context⟩, .ok receipt⟩]) :=
        (attested.mono (by decide)).append ⟨trivial, Nat.lt_succ_self 2, trivial⟩
      refine notify_continued answered.succeeded ?_
      rw [List.append_assoc, List.append_assoc]
      apply continues
      · rw [← List.append_assoc, ← List.append_assoc]
        exact answered.append ⟨trivial, Nat.zero_lt_succ 2, trivial⟩
      · simp
      · rw [← List.append_assoc]
        exact validated.append _
  · exact finishFailed_sound result (by decide)
      fun _ => ⟨(progress.mono (by decide)).unfinished, progress.absorbed⟩

theorem writeStage_sound (result : PipelineResult) (progress : Progress steps input 3 past)
    {fingerprint : String} {receipt : GitHubReviewOutput}
    (reviewed : ⟨.createReview ⟨input.runId, candidate, comparison, context⟩, .ok receipt⟩ ∈ past)
    (validated : Validated input past candidate fingerprint)
    {next : PipelineResult → Dialog PipelineResult}
    (continues : ∀ later result,
      (∀ exchange ∈ past ++ later, Succeeds steps input exchange) →
      Absorbed steps input (past ++ later) → Published (past ++ later) →
      Sound steps input (past ++ later) (next result)) :
    Sound steps input past (andThen (writeStage config input result candidate comparison context
      receipt fingerprint) next) := by
  unfold writeStage
  split
  · apply caught_sound (by decide)
    refine ask_stage progress ?_ rfl fun output => ?_
    · exact ⟨progress.succeeded, progress.below, receipt, reviewed, rfl, rfl, validated⟩
    · have absorbed : Absorbed steps input (past ++ [⟨.write ⟨input.runId, comparison, context,
          candidate, receipt.prUrl, receipt.receiptFingerprint, fingerprint⟩, .ok output⟩]) :=
        absorbed_append.mpr ⟨progress.absorbed, trivial⟩
      cases status : output.status with
      | ambiguous =>
          refine ⟨trivial, fun reply => ?_⟩
          cases reply with
          | error thrown => exact fun delivered => absurd delivered undelivered
          | ok answer =>
              show Ends steps input _ (.ok _)
              apply failed_ends _ (rfl : _ = RunStatus.failedWriteback) (by decide) _ absorbed
              refine progress.unfinished.append ⟨?_, ?_⟩
              · intro request written present
                cases List.mem_singleton.mp present
                rw [status]
                exact WritebackOutputStatus.noConfusion
              · intro runId rules other present
                cases List.mem_singleton.mp present
      | succeeded =>
          have succeeded : ∀ exchange ∈ past ++ [⟨.write ⟨input.runId, comparison, context,
              candidate, receipt.prUrl, receipt.receiptFingerprint, fingerprint⟩, .ok output⟩],
              Succeeds steps input exchange := by
            intro exchange present
            rcases List.mem_append.mp present with earlier | last
            · exact progress.succeeded exchange earlier
            · rw [List.mem_singleton.mp last]
              exact status
          refine notify_continued succeeded ?_
          rw [List.append_assoc]
          apply continues
          · intro exchange present
            rw [← List.append_assoc] at present
            rcases List.mem_append.mp present with earlier | last
            · exact succeeded exchange earlier
            · rw [List.mem_singleton.mp last]
              trivial
          · rw [← List.append_assoc]
            exact absorbed_append.mpr ⟨absorbed, trivial⟩
          · obtain ⟨before, checked, after, rfl, passed, _⟩ := validated
            exact ⟨⟨input.runId, candidate, checked, by simp, passed⟩,
              ⟨_, receipt, List.mem_append_left _ reviewed⟩, _, output, by simp, status⟩
  · exact finishFailed_sound result (by decide)
      fun _ => ⟨progress.unfinished, progress.absorbed⟩

/-- The last notice of a run that is published or permitted completes it. -/
theorem completed_sound {notice : Notice} (result : PipelineResult)
    (completes : notice.status = .completed) (isFinished : result.finalStatus = .completed)
    (allowed : Ordered steps input past (.notify input.runId notice))
    (handled : ∀ reply, Handled steps input ⟨.notify input.runId notice, .ok reply⟩)
    (absorbed : Absorbed steps input past) (done : Published past ∨ Permitted past) :
    Sound steps input past (notify input result notice >>= fun _ => pure result) := by
  apply notify_sound allowed
  intro delivered
  refine ⟨⟨?_, Or.inl isFinished, iff_of_true isFinished ?_⟩,
    absorbed_append.mpr ⟨absorbed, handled ()⟩⟩
  · rw [lastStatus_append, completes, isFinished]
  · rcases done with ⟨⟨runId, checked, output, validated, passed⟩, ⟨review, receipt, reviewed⟩,
      request, written, present, succeeded⟩ | ⟨runId, rules, comparison, present⟩
    · exact Or.inl ⟨⟨runId, checked, output, List.mem_append_left _ validated, passed⟩,
        ⟨review, receipt, List.mem_append_left _ reviewed⟩,
        request, written, List.mem_append_left _ present, succeeded⟩
    · exact Or.inr ⟨runId, rules, comparison, List.mem_append_left _ present⟩

/-- The stages after the decision keep the order of the effects. -/
theorem publish_sound (result : PipelineResult) (progress : Progress steps input 1 past)
    (prepared : ∀ later prompt planText plan candidate,
      ⟨.directLLMCall prompt, .ok planText⟩ ∈ past ++ later → steps.readPlan planText = .ok plan →
      buildCanonicalCandidate steps.collates change context comparison (some plan.rationale) =
        .ok candidate →
      steps.bindMigrationCandidate candidate change context comparison.grounded = .ok () →
      Prepared steps input (past ++ later) context comparison candidate) :
    Sound steps input past (publish config steps input result change context comparison) := by
  apply planStage_sound result progress
  intro planning prompt planText plan planned answered isPlan
  apply buildStage_sound result plan planned
  intro building candidate result built isBuilt isBound
  have isPrepared := (prepared planning prompt planText plan candidate answered isPlan isBuilt
    isBound).append building
  apply validateStage_sound result built
  intro validating fingerprint result validated checked
  apply reviewStage_sound result validated checked (isPrepared.append validating)
  intro reviewing receipt result reviewed present isValidated
  apply writeStage_sound result reviewed present isValidated
  intro writing result succeeded absorbed published
  apply completed_sound { result with finalStatus := .completed }
  · rfl
  · rfl
  · exact succeeded
  · exact fun reply => trivial
  · exact absorbed
  · exact Or.inl published

/-- The stages after the baseline keep the order of the effects. -/
theorem collected_sound {result : PipelineResult} {baselineAt : IsoDateTime}
    {baseline : RiskAssessment} (parsed : steps.parseChange input = .ok change)
    (assessed : evaluateRepositoryBaseline steps.script change baselineAt = .ok baseline)
    (progress : Progress steps input 1 past)
    (atBaseline : ⟨.clock .repositoryOnly, .ok baselineAt⟩ ∈ past) :
    Sound steps input past
      (andThen (collectStage steps input result change) fun (context, result) =>
        andThen (decideStage steps input result change context baseline) fun (comparison, result) =>
          if comparison.grounded.decision = .allow then do
            let result := { result with finalStatus := .completed }
            notify input result .allowed
            return result
          else publish config steps input result change context comparison) := by
  apply collectStage_sound result progress
  intro collecting collection context result collected answered isContext four
  apply decideStage_sound result baseline collected
  · intro deciding comparison result decision succeeded absorbed permitted
    simp only [decision, if_true]
    apply completed_sound { result with finalStatus := .completed }
    · rfl
    · rfl
    · exact succeeded
    · exact fun reply => trivial
    · exact absorbed
    · exact Or.inr permitted
  · intro deciding groundedAt comparison result decision decided atGrounded compared
    simp only [decision, if_false]
    apply publish_sound result decided
    intro planning prompt planText plan candidate planned isPlan built bound
    refine ⟨⟨change, baselineAt, baseline, groundedAt, collection, prompt, planText, plan, parsed,
      ?_, assessed, ?_, isContext, four, ?_, compared, planned, isPlan, built, bound⟩, decision⟩
    · simp [atBaseline]
    · exact List.mem_append_left _ (List.mem_append_left _ answered)
    · exact List.mem_append_left _ atGrounded

end Stages

section Execution

variable (config : AgentPipelineConfig) (steps : PipelineSteps) (input : RunInput)

/-- The run keeps the order of the effects and ends as its answers allow. -/
theorem execute_sound : Sound steps input [] (execute config steps input) := by
  apply notify_sound
  · intro exchange present
    cases present
  rw [List.nil_append]
  generalize parsed : steps.parseChange input = outcome
  cases outcome with
  | error failure =>
      intro delivered absorbed
      obtain ⟨change, isChange⟩ := absorbed.1
      rw [parsed] at isChange
      cases isChange
  | ok change =>
      have started : Progress steps input 1
          [⟨.notify input.runId .changeParsed, .ok ()⟩] := by
        refine ⟨⟨change, parsed⟩, fun exchange present => ?_⟩
        rw [List.mem_singleton.mp present]
        exact ⟨trivial, Nat.zero_lt_one, trivial⟩
      refine ask_sound started.succeeded rfl fun baselineAt => ?_
      generalize assessed : evaluateRepositoryBaseline steps.script change baselineAt = outcome
      cases outcome with
      | error failure =>
          intro delivered absorbed
          obtain ⟨other, baseline, isOther, isBaseline⟩ := (absorbed_append.mp absorbed).2
          rw [parsed, Except.ok.injEq] at isOther
          rw [← isOther, assessed] at isBaseline
          cases isBaseline
      | ok baseline =>
          have answered : Progress steps input 1 ([⟨.notify input.runId .changeParsed, .ok ()⟩] ++
              [⟨.clock .repositoryOnly, .ok baselineAt⟩]) :=
            started.append ⟨⟨change, baseline, parsed, assessed⟩, Nat.zero_lt_one, trivial⟩
          refine notify_sound answered.succeeded ?_
          have told : Progress steps input 1 ([⟨.notify input.runId .changeParsed, .ok ()⟩] ++
              [⟨.clock .repositoryOnly, .ok baselineAt⟩] ++
              [⟨.notify input.runId (.baselineAssessed baseline.decision), .ok ()⟩]) :=
            answered.append ⟨trivial, Nat.zero_lt_one, trivial⟩
          refine notify_sound told.succeeded ?_
          have collecting : Progress steps input 1 ([⟨.notify input.runId .changeParsed, .ok ()⟩] ++
              [⟨.clock .repositoryOnly, .ok baselineAt⟩] ++
              [⟨.notify input.runId (.baselineAssessed baseline.decision), .ok ()⟩] ++
              [⟨.notify input.runId .contextCollecting, .ok ()⟩]) :=
            told.append ⟨trivial, Nat.zero_lt_one, trivial⟩
          exact collected_sound parsed assessed collecting (by simp)

end Execution

end LineageGuard.Agent
