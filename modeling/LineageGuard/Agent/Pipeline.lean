import LineageGuard.Agent.Candidate
import LineageGuard.Domain.Consumers
import LineageGuard.Domain.SourceEnvelope
import LineageGuard.Library.Dialogue
import Mathlib.Tactic

/-
This file translates the agent pipeline as a program over its ports.
-/

namespace LineageGuard.Agent

open Attempt Domain Dialogue

section Values

/-- A thrown value has a message of one of these kinds, and only a text can be cut. -/
inductive ThrownMessage
  | missing | text | uncuttable | unprintable
  deriving DecidableEq

/-- A port may throw any value. -/
inductive Thrown
  | nullish
  | value (message : ThrownMessage) (printable : Bool)
  deriving DecidableEq

/-- The steps of the program raise errors with a text. -/
def raisedError : Thrown := .value .text true

/-- A handler describes what it caught in one of these ways: it prints the message, it cuts the
message, or it cuts the message and prints the value when there is none. -/
inductive Description
  | template | slice | sliceOrString
  deriving DecidableEq

/-- Any other description raises a type error in the handler itself. -/
def Description.reads : Description → Thrown → Bool
  | _, .nullish => false
  | _, .value .text _ => true
  | .template, .value message _ => message ≠ .unprintable
  | .slice, .value message _ => message = .missing
  | .sliceOrString, .value message printable => message = .missing && printable

structure RunInput where
  runId : String
  repository : String
  baseSha : String
  headSha : String
  patch : String
  table : String
  field : String
  newName : String
  source : Option ChangeSource
  sourcePath : Option String
  sourceEnvelope : Option SourceChangeEnvelope
  reattestSource : Bool

structure PipelineResult where
  runId : String
  finalStatus : RunStatus
  baselineDecision : Decision
  groundedDecision : Decision
  consumersFound : ℕ
  artifactsGenerated : ℕ
  triggeredRules : List RiskRuleId
  validationPassed : Bool
  prUrl : Option String
  writebackStatus : Option String

structure MigrationPlan where
  strategy : String
  rationale : String

/-- A failed collection reports the messages of its failures. -/
inductive ImpactCollectionResult
  | failed (messages : List String)
  | collected (context : ImpactContext)

structure ValidationCheck where
  check : String
  passed : Bool
  summary : String

structure ValidationOutput where
  allPass : Bool
  checks : List ValidationCheck
  receiptFingerprint : String

inductive GitHubEffectOutcome
  | created | updated | skippedExact
  deriving DecidableEq

structure GitHubReviewInput where
  runId : String
  candidate : MigrationCandidate
  comparison : RiskComparison
  context : ImpactContext

structure GitHubReviewOutput where
  prUrl : String
  prNumber : ℕ
  headSha : String
  headBranch : String
  receiptFingerprint : String
  outcome : GitHubEffectOutcome
  baseSha : Option String

structure WritebackInput where
  runId : String
  comparison : RiskComparison
  context : ImpactContext
  candidate : MigrationCandidate
  githubPrUrl : String
  githubReceiptFingerprint : String
  validationReceiptFingerprint : String

inductive WritebackOutputStatus
  | succeeded | ambiguous
  deriving DecidableEq

def WritebackOutputStatus.word : WritebackOutputStatus → String
  | .succeeded => "SUCCEEDED"
  | .ambiguous => "AMBIGUOUS"

structure WritebackOutput where
  status : WritebackOutputStatus
  receiptFingerprint : String

end Values

section Notices

/-- The receipt of the validation is stored with its checks and the digests of the artifacts. -/
structure ValidationReceiptJson where
  receiptFingerprint : String
  allPass : Bool
  checks : List ValidationCheck
  artifacts : List (String × String)
  candidateFingerprint : String

/-- A notice is a status with the data that is stored with it. -/
inductive Notice
  | changeParsed
  | baselineAssessed (baselineDecision : Decision)
  | contextCollecting
  | contextCollected (consumersFound evidenceItems : ℕ) (contextJson : ImpactContext)
  | riskDecided (groundedDecision : Decision) (triggeredRules : List RiskRuleId)
      (comparisonJson : RiskComparison)
  | migrationPlanned (strategy : String)
  | patchGenerated (artifactsGenerated : ℕ) (candidateJson : MigrationCandidate)
  | validated (artifactsGenerated : ℕ) (validationReceiptFingerprint : String)
      (validationReceiptJson : ValidationReceiptJson)
  | reviewArtifactCreated (receipt : GitHubReviewOutput)
  | writebackPending (writebackStatus writebackReceiptFingerprint : String)
  | allowed
  | completed (artifactsGenerated : ℕ) (prUrl writebackStatus : Option String)
  | failed (status : RunStatus) (failedChecks : Option (List String))

def Notice.status : Notice → RunStatus
  | .changeParsed => .changeParsed
  | .baselineAssessed _ => .baselineAssessed
  | .contextCollecting => .contextCollecting
  | .contextCollected _ _ _ => .contextCollected
  | .riskDecided _ _ _ => .riskDecided
  | .migrationPlanned _ => .migrationPlanned
  | .patchGenerated _ _ => .patchGenerated
  | .validated _ _ _ => .validated
  | .reviewArtifactCreated _ => .reviewArtifactCreated
  | .writebackPending _ _ => .writebackPending
  | .allowed | .completed _ _ _ => .completed
  | .failed status _ => status

/-- The pipeline calls its ports, its clock and its model in these ways. -/
inductive Call
  | notify (runId : String) (notice : Notice)
  | clock (assessment : ContextMode)
  | collect (changeId : String)
  | directLLMCall (prompt : String)
  | reattestSource
  | validate (runId : String) (candidate : MigrationCandidate)
  | createReview (input : GitHubReviewInput)
  | write (input : WritebackInput)

abbrev Answer : Call → Type
  | .notify _ _ => Unit
  | .clock _ => IsoDateTime
  | .collect _ => ImpactCollectionResult
  | .directLLMCall _ => String
  | .reattestSource => SourceChangeEnvelope
  | .validate _ _ => ValidationOutput
  | .createReview _ => GitHubReviewOutput
  | .write _ => WritebackOutput

abbrev Reply (call : Call) : Type := Except Thrown (Answer call)

/-- An exception leaves the result as it was when it was raised. -/
structure Raised where
  thrown : Thrown
  result : PipelineResult

abbrev Dialog (Value : Type) := Program Call Reply Raised Value

end Notices

section Steps

/-- A port may be missing from the configuration. -/
structure AgentPipelineConfig where
  github : Bool
  validation : Bool
  writeback : Bool

/-- These steps read texts that the pipeline does not produce itself. -/
structure PipelineSteps where
  script : Script
  spelling : Spelling
  collates : String → String → Bool
  parseChange : RunInput → Except DomainFailure ProposedChange
  planPrompt : RunInput → ImpactContext → String
  readPlan : String → Except DomainFailure MigrationPlan
  bindMigrationCandidate : MigrationCandidate → ProposedChange → ImpactContext →
    RiskAssessment → Except DomainFailure Unit

/-- A stage either finishes the run with a result or lets it continue. -/
inductive Stage (Value : Type)
  | finished (result : PipelineResult)
  | continued (value : Value)

variable (config : AgentPipelineConfig) (steps : PipelineSteps) (input : RunInput)
variable (result : PipelineResult)

def ask (call : Call) : Dialog (Answer call) :=
  .ask call fun reply => .done (reply.mapError fun thrown => ⟨thrown, result⟩)

def settle {Failure Value : Type} (outcome : Except Failure Value) : Dialog Value :=
  .done (outcome.mapError fun _ => ⟨raisedError, result⟩)

def notify (notice : Notice) : Dialog Unit := ask result (.notify input.runId notice)

/-- The status is notified before it is written to the result. -/
def finishFailed {Value : Type} (status : RunStatus) (failedChecks : Option (List String)) :
    Dialog (Stage Value) := do
  notify input result (.failed status failedChecks)
  return .finished { result with finalStatus := status }

/-- A handler describes what it caught before it notifies the failure. -/
def caught {Value : Type} (description : Description) (status : RunStatus)
    (stage : Dialog (Stage Value)) : Dialog (Stage Value) :=
  stage.recover fun raised =>
    if description.reads raised.thrown then finishFailed input raised.result status none
    else .fail ⟨raisedError, raised.result⟩

def andThen {Value : Type} (stage : Dialog (Stage Value))
    (next : Value → Dialog PipelineResult) : Dialog PipelineResult :=
  stage >>= fun
    | .finished result => pure result
    | .continued value => next value

/-- A run without a source of its own is not attested again. -/
def assertSourceUnchanged (checkpoint : String) : Dialog Unit :=
  match input.sourceEnvelope, input.reattestSource with
  | some analysed, true => do
      let observed : SourceChangeEnvelope ← ask result .reattestSource
      settle result (assertNoSourceDrift checkpoint analysed observed)
  | _, _ => pure ()

def collectedContext : ImpactCollectionResult → Except DomainFailure ImpactContext
  | .failed messages =>
      .error (.message ("Context collection failed: " ++ ", ".intercalate messages))
  | .collected context => .ok context

def collectStage (change : ProposedChange) : Dialog (Stage (ImpactContext × PipelineResult)) :=
  caught input .template .failedContext do
    let collection : ImpactCollectionResult ← ask result (.collect change.id)
    let context ← settle result (collectedContext collection)
    let impactCards := deriveImpactConsumers context.evidence
    settle result (assertExactlyFourConsumers steps.script impactCards)
    let result := { result with consumersFound := impactCards.length }
    notify input result
      (.contextCollected result.consumersFound context.evidence.length context)
    return .continued (context, result)

def decideStage (change : ProposedChange) (context : ImpactContext) (baseline : RiskAssessment) :
    Dialog (Stage (RiskComparison × PipelineResult)) :=
  caught input .template .failedContext do
    let groundedAt : IsoDateTime ← ask result (.clock .datahubGrounded)
    let comparison ← settle result (compareAuthoritativeRisk steps.script steps.spelling change
      context baseline.evaluatedAt groundedAt)
    let result := { result with
      groundedDecision := comparison.grounded.decision
      triggeredRules := comparison.triggeredRuleIds }
    notify input result
      (.riskDecided comparison.grounded.decision comparison.triggeredRuleIds comparison)
    return .continued (comparison, result)

def planStage (context : ImpactContext) : Dialog (Stage MigrationPlan) :=
  caught input .sliceOrString .failedGeneration do
    let planText : String ← ask result (.directLLMCall (steps.planPrompt input context))
    let plan ← settle result (steps.readPlan planText)
    notify input result (.migrationPlanned plan.strategy)
    return .continued plan

def buildStage (change : ProposedChange) (context : ImpactContext) (comparison : RiskComparison)
    (plan : MigrationPlan) : Dialog (Stage (MigrationCandidate × PipelineResult)) :=
  caught input .slice .failedGeneration do
    let candidate ← settle result (buildCanonicalCandidate steps.collates change context comparison
      (some plan.rationale))
    settle result (steps.bindMigrationCandidate candidate change context comparison.grounded)
    let result := { result with artifactsGenerated := candidate.artifacts.length }
    notify input result (.patchGenerated result.artifactsGenerated candidate)
    return .continued (candidate, result)

def validationReceiptJson (candidate : MigrationCandidate) (output : ValidationOutput) :
    ValidationReceiptJson where
  receiptFingerprint := output.receiptFingerprint
  allPass := output.allPass
  checks := output.checks
  artifacts := candidate.artifacts.map fun artifact =>
    (artifact.path, steps.script.digest artifact.content.toList)
  candidateFingerprint := canonicalCandidateFingerprint steps.script candidate

def validateStage (candidate : MigrationCandidate) : Dialog (Stage (String × PipelineResult)) :=
  if config.validation then
    caught input .slice .failedValidation do
      assertSourceUnchanged input result "BEFORE_VALIDATION"
      let output : ValidationOutput ← ask result (.validate input.runId candidate)
      let result := { result with validationPassed := output.allPass }
      if output.allPass then
        notify input result (.validated result.artifactsGenerated output.receiptFingerprint
          (validationReceiptJson steps candidate output))
        return .continued (output.receiptFingerprint, result)
      else
        let failed := output.checks.filter fun check => check.passed = false
        finishFailed input result .failedValidation (some (failed.map (·.check)))
  else finishFailed input result .failedValidation none

def reviewStage (candidate : MigrationCandidate) (comparison : RiskComparison)
    (context : ImpactContext) : Dialog (Stage (GitHubReviewOutput × PipelineResult)) :=
  if config.github then
    caught input .slice .failedGithub do
      assertSourceUnchanged input result "BEFORE_PUBLICATION"
      let githubReceipt : GitHubReviewOutput ←
        ask result (.createReview ⟨input.runId, candidate, comparison, context⟩)
      let result := { result with prUrl := some githubReceipt.prUrl }
      notify input result (.reviewArtifactCreated githubReceipt)
      return .continued (githubReceipt, result)
  else finishFailed input result .failedGithub none

def writeStage (candidate : MigrationCandidate) (comparison : RiskComparison)
    (context : ImpactContext) (githubReceipt : GitHubReviewOutput)
    (validationReceiptFingerprint : String) : Dialog (Stage PipelineResult) :=
  if config.writeback then
    caught input .slice .failedWriteback do
      let output : WritebackOutput ← ask result (.write ⟨input.runId, comparison, context, candidate,
        githubReceipt.prUrl, githubReceipt.receiptFingerprint, validationReceiptFingerprint⟩)
      match output.status with
      | .ambiguous => do
          notify input result (.failed .failedWriteback none)
          return .finished { result with
            finalStatus := .failedWriteback
            writebackStatus := some WritebackOutputStatus.ambiguous.word }
      | .succeeded => do
          let result := { result with writebackStatus := some output.status.word }
          notify input result (.writebackPending output.status.word output.receiptFingerprint)
          return .continued result
  else finishFailed input result .failedWriteback none

/-- These stages follow a decision that does not allow the change. -/
def publish (change : ProposedChange) (context : ImpactContext) (comparison : RiskComparison) :
    Dialog PipelineResult :=
  andThen (planStage steps input result context) fun plan =>
  andThen (buildStage steps input result change context comparison plan)
    fun (candidate, result) =>
  andThen (validateStage config steps input result candidate)
    fun (validationReceiptFingerprint, result) =>
  andThen (reviewStage config input result candidate comparison context)
    fun (githubReceipt, result) =>
  andThen (writeStage config input result candidate comparison context githubReceipt
      validationReceiptFingerprint) fun result => do
    let result := { result with finalStatus := .completed }
    notify input result
      (.completed result.artifactsGenerated result.prUrl result.writebackStatus)
    return result

def initialResult : PipelineResult where
  runId := input.runId
  finalStatus := .created
  baselineDecision := .allow
  groundedDecision := .allow
  consumersFound := 0
  artifactsGenerated := 0
  triggeredRules := []
  validationPassed := false
  prUrl := none
  writebackStatus := none

def execute : Dialog PipelineResult := do
  let result := initialResult input
  notify input result .changeParsed
  let change ← settle result (steps.parseChange input)
  let baselineAt : IsoDateTime ← ask result (.clock .repositoryOnly)
  let baseline ← settle result (evaluateRepositoryBaseline steps.script change baselineAt)
  let result := { result with baselineDecision := baseline.decision }
  notify input result (.baselineAssessed baseline.decision)
  notify input result .contextCollecting
  andThen (collectStage steps input result change) fun (context, result) =>
    andThen (decideStage steps input result change context baseline) fun (comparison, result) =>
      if comparison.grounded.decision = .allow then do
        let result := { result with finalStatus := .completed }
        notify input result .allowed
        return result
      else publish config steps input result change context comparison

end Steps

end LineageGuard.Agent
