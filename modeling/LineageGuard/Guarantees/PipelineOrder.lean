import LineageGuard.Agent.PipelineRuns
import LineageGuard.Domain.CompleteContext
import LineageGuard.Guarantees.PublicationIdentity
import Mathlib.Tactic

/-
This file proves the order of the effects of a pipeline run and the agreement of its last status.
-/

namespace LineageGuard.Agent

open Attempt Domain Dialogue

section Guarantees

variable {config : AgentPipelineConfig} {steps : PipelineSteps} {input : RunInput}
variable {trace : Trace} {outcome : Except Raised PipelineResult}

/-- These are the guarantees of a run for the order of its effects. -/
structure OrderedEffects (steps : PipelineSteps) (input : RunInput) (trace : Trace) : Prop where
  review : ∀ past review reply future, trace = past ++ ⟨.createReview review, reply⟩ :: future →
    (∀ exchange ∈ past, ∀ other, exchange.call ≠ .createReview other) ∧
      Prepared steps input past review.context review.comparison review.candidate ∧
      ∃ fingerprint, Validated input past review.candidate fingerprint
  write : ∀ past request reply future, trace = past ++ ⟨.write request, reply⟩ :: future →
    (∀ exchange ∈ past, ∀ other, exchange.call ≠ .write other) ∧
      ∃ receipt, ⟨.createReview ⟨input.runId, request.candidate, request.comparison,
        request.context⟩, .ok receipt⟩ ∈ past ∧ receipt.prUrl = request.githubPrUrl ∧
        receipt.receiptFingerprint = request.githubReceiptFingerprint ∧
        Validated input past request.candidate request.validationReceiptFingerprint
  stopped : ∀ past exchange future, trace = past ++ exchange :: future →
    (∃ failure ∈ past, ¬ Succeeds steps input failure) →
      ∃ runId status checks, exchange.call = .notify runId (.failed status checks)

theorem Ordered.failure {past : Trace} {call : Call} (ordered : Ordered steps input past call)
    (failed : ∃ failure ∈ past, ¬ Succeeds steps input failure) :
    ∃ runId status checks, call = .notify runId (.failed status checks) := by
  obtain ⟨failure, present, fails⟩ := failed
  cases call with
  | notify runId notice =>
      cases notice with
      | failed status checks => exact ⟨runId, status, checks, rfl⟩
      | _ => exact absurd (ordered failure present) fails
  | createReview review => exact absurd (ordered.1 failure present) fails
  | write request => exact absurd (ordered.1 failure present) fails
  | _ => exact absurd (ordered failure present) fails

theorem effects_ordered (config : AgentPipelineConfig) (steps : PipelineSteps) (input : RunInput)
    (trace : Trace) (outcome : Except Raised PipelineResult)
    (runs : Runs (execute config steps input) trace outcome) :
    OrderedEffects steps input trace := by
  have calls := ((execute_sound config steps input).run runs).1
  constructor
  · intro past review reply future split
    obtain ⟨_, below, prepared, validated⟩ := calls past _ future split
    refine ⟨fun exchange present other same => ?_, prepared, validated⟩
    have earlier := below exchange present
    rw [same] at earlier
    exact absurd earlier (lt_irrefl 2)
  · intro past request reply future split
    obtain ⟨_, below, reviewed⟩ := calls past _ future split
    refine ⟨fun exchange present other same => ?_, reviewed⟩
    have earlier := below exchange present
    rw [same] at earlier
    exact absurd earlier (lt_irrefl 3)
  · intro past exchange future split failed
    exact Ordered.failure (calls past exchange future split) failed

theorem terminal_status_agrees (config : AgentPipelineConfig) (steps : PipelineSteps)
    (input : RunInput) (trace : Trace) (outcome : Except Raised PipelineResult)
    (runs : Runs (execute config steps input) trace outcome) (delivered : Delivered trace) :
    (∃ result, outcome = .ok result ∧ Concluded input trace result) ↔
      Absorbed steps input trace := by
  have ended : Ends steps input trace outcome := ((execute_sound config steps input).run runs).2
  cases outcome with
  | ok result =>
      obtain ⟨concluded, absorbed⟩ := ended delivered
      exact iff_of_true ⟨result, rfl, concluded⟩ absorbed
  | error raised =>
      refine iff_of_false ?_ (ended delivered)
      rintro ⟨result, same, _⟩
      cases same

end Guarantees

section FullRuns

variable {steps : PipelineSteps} {input : RunInput} {result : PipelineResult}
variable {before after : Trace} {outcome : Except Raised PipelineResult}

theorem Runs.asked {Value : Type} (call : Call) {continues : Answer call → Dialog Value}
    {outcome : Except Raised Value} (answer : Answer call)
    (rest : Runs (continues answer) after outcome) :
    Runs (ask result call >>= continues) (⟨call, .ok answer⟩ :: after) outcome := by
  have asked : Runs (.ask call fun reply : Reply call => Program.bind
      (.done (reply.mapError fun thrown => (⟨thrown, result⟩ : Raised))) continues)
      (⟨call, .ok answer⟩ :: after) outcome := .ask _ rest
  exact asked

theorem Runs.notified {Value : Type} {notice : Notice} {continues : Unit → Dialog Value}
    {outcome : Except Raised Value} (rest : Runs (continues ()) after outcome) :
    Runs (notify input result notice >>= continues)
      (⟨.notify input.runId notice, .ok ()⟩ :: after) outcome :=
  Runs.asked (.notify input.runId notice) () rest

theorem Runs.settled {Failure Found Value : Type} {found : Except Failure Found} {value : Found}
    {continues : Found → Dialog Value} {outcome : Except Raised Value} (isValue : found = .ok value)
    (rest : Runs (continues value) after outcome) :
    Runs (settle result found >>= continues) after outcome := by
  rw [isValue]
  exact rest

theorem Runs.staged {Value : Type} {description : Description} {status : RunStatus}
    {stage : Dialog (Stage Value)} {next : Value → Dialog PipelineResult} {value : Value}
    (runs : Runs stage before (.ok (.continued value))) (rest : Runs (next value) after outcome) :
    Runs (andThen (caught input description status stage) next) (before ++ after) outcome :=
  runs.recover_ok.bind_ok rest

/-- A run in which every port answers has these exchanges. -/
def fullTrace (steps : PipelineSteps) (input : RunInput) (change : ProposedChange)
    (context : Domain.ImpactContext) (baseline : RiskAssessment) (baselineAt groundedAt : IsoDateTime)
    (comparison : RiskComparison) (planText : String) (plan : MigrationPlan)
    (candidate : Domain.MigrationCandidate) (attests : Trace) (output : ValidationOutput)
    (receipt : GitHubReviewOutput) (written : WritebackOutput) : Trace :=
  ⟨.notify input.runId .changeParsed, .ok ()⟩ :: ⟨.clock .repositoryOnly, .ok baselineAt⟩ ::
  ⟨.notify input.runId (.baselineAssessed baseline.decision), .ok ()⟩ ::
  ⟨.notify input.runId .contextCollecting, .ok ()⟩ ::
  ([⟨.collect change.id, .ok (.collected context)⟩,
    ⟨.notify input.runId (.contextCollected (deriveImpactConsumers context.evidence).length
      context.evidence.length context), .ok ()⟩] ++
  ([⟨.clock .datahubGrounded, .ok groundedAt⟩,
    ⟨.notify input.runId (.riskDecided comparison.grounded.decision comparison.triggeredRuleIds
      comparison), .ok ()⟩] ++
  ([⟨.directLLMCall (steps.planPrompt input context), .ok planText⟩,
    ⟨.notify input.runId (.migrationPlanned plan.strategy), .ok ()⟩] ++
  ([⟨.notify input.runId (.patchGenerated candidate.artifacts.length candidate), .ok ()⟩] ++
  ((attests ++ [⟨.validate input.runId candidate, .ok output⟩,
    ⟨.notify input.runId (.validated candidate.artifacts.length output.receiptFingerprint
      (validationReceiptJson steps candidate output)), .ok ()⟩]) ++
  ((attests ++ [⟨.createReview ⟨input.runId, candidate, comparison, context⟩, .ok receipt⟩,
    ⟨.notify input.runId (.reviewArtifactCreated receipt), .ok ()⟩]) ++
  ([⟨.write ⟨input.runId, comparison, context, candidate, receipt.prUrl, receipt.receiptFingerprint,
      output.receiptFingerprint⟩, .ok written⟩,
    ⟨.notify input.runId (.writebackPending written.status.word written.receiptFingerprint),
      .ok ()⟩] ++
  [⟨.notify input.runId (.completed candidate.artifacts.length (some receipt.prUrl)
    (some WritebackOutputStatus.succeeded.word)), .ok ()⟩])))))))

variable {change : ProposedChange} {context : Domain.ImpactContext} {baseline : RiskAssessment}
variable {baselineAt groundedAt : IsoDateTime} {comparison : RiskComparison} {planText : String}
variable {plan : MigrationPlan} {candidate : Domain.MigrationCandidate} {attests : Trace}
variable {output : ValidationOutput} {receipt : GitHubReviewOutput} {written : WritebackOutput}

theorem full_runs (parsed : steps.parseChange input = .ok change)
    (assessed : evaluateRepositoryBaseline steps.script change baselineAt = .ok baseline)
    (four : assertExactlyFourConsumers steps.script (deriveImpactConsumers context.evidence) =
      .ok ())
    (compared : compareAuthoritativeRisk steps.script steps.spelling change context
      baseline.evaluatedAt groundedAt = .ok comparison)
    (decision : comparison.grounded.decision ≠ .allow)
    (isPlan : steps.readPlan planText = .ok plan)
    (built : buildCanonicalCandidate steps.collates change context comparison
      (some plan.rationale) = .ok candidate)
    (bound : steps.bindMigrationCandidate candidate change context comparison.grounded = .ok ())
    (attested : ∀ result checkpoint,
      Runs (assertSourceUnchanged input result checkpoint) attests (.ok ()))
    (passed : output.allPass = true) (succeeded : written.status = .succeeded) :
    ∃ result, Runs (execute ⟨true, true, true⟩ steps input)
      (fullTrace steps input change context baseline baselineAt groundedAt comparison planText plan
        candidate attests output receipt written) (.ok result) := by
  apply Exists.intro
  unfold fullTrace execute
  apply Runs.notified
  apply Runs.settled parsed
  apply Runs.asked (.clock .repositoryOnly) baselineAt
  apply Runs.settled assessed
  apply Runs.notified
  apply Runs.notified
  apply Runs.staged
  · apply Runs.asked (.collect change.id) (Agent.ImpactCollectionResult.collected context)
    apply Runs.settled rfl
    apply Runs.settled four
    apply Runs.notified
    exact .done _
  apply Runs.staged
  · apply Runs.asked (.clock .datahubGrounded) groundedAt
    apply Runs.settled compared
    apply Runs.notified
    exact .done _
  show Runs (if _ then _ else _) _ _
  rw [if_neg decision]
  apply Runs.staged
  · apply Runs.asked (.directLLMCall _) planText
    apply Runs.settled isPlan
    apply Runs.notified
    exact .done _
  apply Runs.staged
  · apply Runs.settled built
    apply Runs.settled bound
    apply Runs.notified
    exact .done _
  apply Runs.staged
  · apply Runs.bind_ok (attested _ _)
    apply Runs.asked (.validate input.runId candidate) output
    rw [passed]
    apply Runs.notified
    exact .done _
  apply Runs.staged
  · apply Runs.bind_ok (attested _ _)
    apply Runs.asked (.createReview _) receipt
    apply Runs.notified
    exact .done _
  apply Runs.staged
  · apply Runs.asked (.write _) written
    rw [succeeded]
    apply Runs.notified
    exact .done _
  apply Runs.notified
  exact .done _

end FullRuns

section Sample

def sampleSteps : PipelineSteps where
  script := sampleScript
  spelling := Spelling.sample
  collates := localeLe
  parseChange _ := .ok sampleChange
  planPrompt _ _ := ""
  readPlan _ := .ok ⟨"", ""⟩
  bindMigrationCandidate _ _ _ _ := .ok ()

def sampleInput (sourceEnvelope : Option SourceChangeEnvelope) : RunInput :=
  ⟨"", "a/b", "", "", "", "", "", "", none, none, sourceEnvelope, true⟩

def sampleAttests (sourceEnvelope : Option SourceChangeEnvelope) : Trace :=
  sourceEnvelope.toList.map fun envelope => ⟨.reattestSource, .ok envelope⟩

theorem sampleAttests_runs (sourceEnvelope : Option SourceChangeEnvelope) (result : PipelineResult)
    (checkpoint : String) : Runs (assertSourceUnchanged (sampleInput sourceEnvelope) result
      checkpoint) (sampleAttests sourceEnvelope) (.ok ()) := by
  cases sourceEnvelope with
  | none => exact .done _
  | some envelope =>
      apply Runs.asked .reattestSource envelope
      rw [assertNoSourceDrift_ok.mpr ⟨rfl, rfl, rfl, rfl, rfl, rfl, rfl⟩]
      exact .done _

/-- A candidate with reasons follows from a decision that does not allow the change. -/
theorem built_decision {collates : String → String → Bool} {change : ProposedChange}
    {script : Script} {spelling : Spelling} {context : Domain.ImpactContext}
    {baselineAt groundedAt : IsoDateTime} {comparison : RiskComparison}
    {candidate : Domain.MigrationCandidate} {rationale : Option String}
    (compared : compareAuthoritativeRisk script spelling change context baselineAt groundedAt =
      .ok comparison)
    (built : buildCanonicalCandidate collates change context comparison rationale =
      .ok candidate) : comparison.grounded.decision ≠ .allow := by
  have reasoned : comparison.grounded.reasons ≠ [] := by
    intro none
    simp [buildCanonicalCandidate, none, reasonEvidence, sorted] at built
  have decided : comparison.grounded.decision =
      (deriveOutcome comparison.grounded.reasons).1 := by
    simp only [compareAuthoritativeRisk, bind_ok, parse_ok] at compared
    obtain ⟨_, ⟨_, rfl⟩, _, ⟨_, rfl⟩, _, _, grounded, evaluated, _, rfl⟩ := compared
    simp only [evaluateGroundedRisk, bind_ok, parse_ok, require_ok] at evaluated
    obtain ⟨_, ⟨_, rfl⟩, _, ⟨_, rfl⟩, _, _, _, complete, _, _, reasons, found, _, rfl⟩ := evaluated
    rfl
  rw [decided, deriveOutcome]
  split
  · exact Decision.noConfusion
  · exact Decision.noConfusion

def sampleTrace (sourceEnvelope : Option SourceChangeEnvelope) (comparison : RiskComparison)
    (candidate : Domain.MigrationCandidate) : Trace :=
  fullTrace sampleSteps (sampleInput sourceEnvelope) sampleChange (sampleRun 'a' 0)
    (baselineAssessment sampleChange (sampleDate 0)) (sampleDate 0) (sampleDate 0) comparison ""
    ⟨"", ""⟩ candidate (sampleAttests sourceEnvelope) ⟨true, [], ""⟩
    ⟨"", 1, "", "", "", .created, none⟩ ⟨.succeeded, ""⟩

/-- The sample runs through all stages. -/
theorem sample_runs (sourceEnvelope : Option SourceChangeEnvelope) :
    ∃ comparison candidate result, Runs (execute ⟨true, true, true⟩ sampleSteps
      (sampleInput sourceEnvelope)) (sampleTrace sourceEnvelope comparison candidate)
        (.ok result) := by
  obtain ⟨comparison, compared⟩ := sampleRun_compared 'a' 0
  obtain ⟨complete, reasons⟩ := compared_reasons compared
  have candidate : ∃ candidate, buildCanonicalCandidate localeLe sampleChange (sampleRun 'a' 0)
      comparison (some "") = .ok candidate :=
    buildCanonicalCandidate_total (sampleRun_accepted 'a' 0) complete reasons localeLe (some "")
  obtain ⟨candidate, built⟩ := candidate
  have baseline : evaluateRepositoryBaseline sampleScript sampleChange (sampleDate 0) =
      .ok (baselineAssessment sampleChange (sampleDate 0)) :=
    baseline_total sampleChange_accepted (Or.inl Nat.one_ne_zero)
  have four : assertExactlyFourConsumers sampleScript
      (deriveImpactConsumers (sampleRun 'a' 0).evidence) = .ok () :=
    complete_four (sampleComplete_accepted 'a' 0) complete
  have runs : ∃ result, Runs (execute ⟨true, true, true⟩ sampleSteps (sampleInput sourceEnvelope))
      (sampleTrace sourceEnvelope comparison candidate) (.ok result) :=
    full_runs rfl baseline four compared (built_decision compared built) rfl built rfl
      (sampleAttests_runs sourceEnvelope) rfl rfl
  exact ⟨comparison, candidate, runs⟩

def sampleEnvelope : SourceChangeEnvelope := ⟨"a/b", 1, "", "", "", [], "", ""⟩

/-- The order holds of a run that is bound to a live source. -/
theorem effects_ordered_sample : ∃ comparison candidate, OrderedEffects sampleSteps
    (sampleInput (some sampleEnvelope))
    (sampleTrace (some sampleEnvelope) comparison candidate) := by
  obtain ⟨comparison, candidate, result, runs⟩ := sample_runs (some sampleEnvelope)
  exact ⟨comparison, candidate, effects_ordered _ _ _ _ _ runs⟩

/-- A run without a live source creates a review without an attestation. -/
theorem unattested_review : ∃ trace outcome,
    Runs (execute ⟨true, true, true⟩ sampleSteps (sampleInput none)) trace outcome ∧
      (∃ review receipt, ⟨.createReview review, .ok receipt⟩ ∈ trace) ∧
      ∀ reply, ⟨.reattestSource, reply⟩ ∉ trace := by
  obtain ⟨comparison, candidate, result, runs⟩ := sample_runs none
  refine ⟨_, _, runs, ⟨⟨"", candidate, comparison, sampleRun 'a' 0⟩,
    ⟨"", 1, "", "", "", .created, none⟩, ?_⟩, fun reply present => ?_⟩
  · simp [sampleTrace, fullTrace, sampleInput]
  · simp [sampleTrace, fullTrace, sampleAttests] at present

theorem terminal_status_agrees_sample :
    ∃ comparison candidate, ∃ outcome : Except Raised PipelineResult, ((∃ result, outcome = .ok result ∧ Concluded (sampleInput none)
      (sampleTrace none comparison candidate) result) ↔
        Absorbed sampleSteps (sampleInput none) (sampleTrace none comparison candidate)) := by
  obtain ⟨comparison, candidate, result, runs⟩ := sample_runs none
  refine ⟨comparison, candidate, Except.ok result, terminal_status_agrees _ _ _ _ _ runs ?_⟩
  intro runId notice reply present
  cases reply with
  | ok answer => rfl
  | error thrown => simp [sampleTrace, fullTrace, sampleAttests] at present

/-- A change that cannot be parsed leaves the run with the first status. -/
theorem unparsed_change : ∃ trace outcome,
    Runs (execute ⟨true, true, true⟩ { sampleSteps with parseChange := fun _ => .error (.message "") }
      (sampleInput none)) trace outcome ∧ Delivered trace ∧
      lastStatus (sampleInput none) trace = some .changeParsed ∧
      ¬ ∃ result, outcome = .ok result ∧ Concluded (sampleInput none) trace result := by
  refine ⟨[⟨.notify "" .changeParsed, .ok ()⟩], .error ⟨raisedError, _⟩, Runs.notified (.done _), ?_,
    rfl, ?_⟩
  · intro runId notice reply present
    cases List.mem_singleton.mp present
    rfl
  · rintro ⟨result, same, _⟩
    cases same

end Sample

end LineageGuard.Agent
