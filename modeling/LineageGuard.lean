import LineageGuard.Library.ThreeValued
import LineageGuard.Library.Table
import LineageGuard.Library.Attempt
import LineageGuard.Library.Runs
import LineageGuard.Domain.Run
import LineageGuard.Domain.Stream
import LineageGuard.Db.Schema
import LineageGuard.Db.Statements
import LineageGuard.Db.Functions
import LineageGuard.Db.Rules
import LineageGuard.Db.EffectRules
import LineageGuard.Store.Leases
import LineageGuard.Store.Streams
import LineageGuard.Store.Invariants
import LineageGuard.Store.Validation
import LineageGuard.Store.Transitions
import LineageGuard.Store.RunSteps
import LineageGuard.Store.Effects
import LineageGuard.Store.EffectSteps
import LineageGuard.Store.System
import LineageGuard.Store.Commits
import LineageGuard.Store.RunChanges
import LineageGuard.Store.HistoryKept
import LineageGuard.Store.BindingsKept
import LineageGuard.Store.OutcomesKept
import LineageGuard.Store.OwnersKept
import LineageGuard.Guarantees.History
import LineageGuard.Guarantees.Invocation
import LineageGuard.Guarantees.Outcome
import LineageGuard.Guarantees.Ownership
import LineageGuard.Domain.Windows
import LineageGuard.Guarantees.Completion
import LineageGuard.Guarantees.Authority
import LineageGuard.Guarantees.Fencing
import LineageGuard.Guarantees.Capability
import LineageGuard.Store.Evidence
import LineageGuard.Guarantees.Resolution
import LineageGuard.Guarantees.Claiming
import LineageGuard.Library.Json
import LineageGuard.Store.Reservation
import LineageGuard.Attestation.RunStream
import LineageGuard.Attestation.Service
import LineageGuard.Store.ApprovalsKept
import LineageGuard.Guarantees.Agreement
import LineageGuard.Domain.Hash
import LineageGuard.Db.CanonicalJson
import LineageGuard.Domain.Evidence
import LineageGuard.Domain.ImpactContext
import LineageGuard.Db.ContextUpgrade
import LineageGuard.Guarantees.Upgrade
import LineageGuard.Domain.Migration
import LineageGuard.Domain.ShortTexts
import LineageGuard.Domain.Receipt
import LineageGuard.Store.Documents
import LineageGuard.Guarantees.Fences
import LineageGuard.Library.Dialogue
import LineageGuard.Datahub.Request
import LineageGuard.Datahub.Writeback
import LineageGuard.Datahub.WriteRules
import LineageGuard.Guarantees.WriteAuthority
import LineageGuard.Guarantees.WriteSafety
import LineageGuard.Datahub.WriteRuns
import LineageGuard.Guarantees.WriteHistory
import LineageGuard.Domain.Change
import LineageGuard.Domain.Risk
import LineageGuard.Domain.CandidateIdentity
import LineageGuard.Agent.Candidate
import LineageGuard.Domain.Meaning
import LineageGuard.Agent.CandidateRuns
import LineageGuard.Guarantees.SemanticFingerprint
import LineageGuard.Guarantees.PublicationIdentity
import LineageGuard.Guarantees.CandidateBinding
import LineageGuard.Domain.Consumers
import LineageGuard.Domain.SourceEnvelope
import LineageGuard.Agent.Pipeline
import LineageGuard.Agent.PipelineRuns
import LineageGuard.Agent.WritebackPort
import LineageGuard.Guarantees.PipelineOrder
import LineageGuard.Github.Types
import LineageGuard.Github.Validation
import LineageGuard.Guarantees.CandidateRequest
import LineageGuard.Github.Authorization
import LineageGuard.Github.LiveAdapter
import LineageGuard.Github.PortRuns
import LineageGuard.Guarantees.EffectBinding
import LineageGuard.Guarantees.MutationSafety
import LineageGuard.Guarantees.ErrorClasses
import LineageGuard.Guarantees.ReceiptIntegrity
import LineageGuard.Guarantees.CrashTolerance
import LineageGuard.Guarantees.EffectEntry
import LineageGuard.Guarantees.EffectReplay
import LineageGuard.Guarantees.RetryDiscipline
import LineageGuard.Domain.CompleteContext
import LineageGuard.Guarantees.ImpactConsumers
import LineageGuard.Domain.RiskBinding
import LineageGuard.Domain.CandidateBinding
import LineageGuard.Guarantees.GroundedRisk
import LineageGuard.Library.OrderedMap
import LineageGuard.Acceptance.TreeDelta
import LineageGuard.Guarantees.AcceptanceAgreement
import LineageGuard.Library.Words
import LineageGuard.Library.Collation
import LineageGuard.Library.Contract
import LineageGuard.Datahub.Pagination
import LineageGuard.Datahub.PagedReader
import LineageGuard.Datahub.SqlFingerprint
import LineageGuard.Guarantees.SqlFingerprints
import LineageGuard.Library.SqlTokens
import LineageGuard.Library.EcmaText
import LineageGuard.Domain.SourceAllowlist
import LineageGuard.Domain.ChangeParser
import LineageGuard.Guarantees.SourceAllowlist
import LineageGuard.Guarantees.EnvelopeOrder
import LineageGuard.Library.Interleaving
import LineageGuard.Scenario.Graph
import LineageGuard.Scenario.TargetAttestation
import LineageGuard.Scenario.TargetRules
import LineageGuard.Guarantees.BootstrapRecovery
import LineageGuard.Guarantees.Paging
import LineageGuard.Guarantees.SqlNormalForms
import LineageGuard.Library.SqlLexemes
import LineageGuard.Library.TextParts
import LineageGuard.Library.EcmaPatterns
import LineageGuard.Library.SqlMeaning
import LineageGuard.Library.JinjaText
import LineageGuard.Validation.Validator
import LineageGuard.Guarantees.SqlLiterals
import LineageGuard.Guarantees.DbtTemplates
import LineageGuard.Library.KeyedOrder
import LineageGuard.Scenario.Lineage
import LineageGuard.Guarantees.LineageReconciliation
import LineageGuard.Library.JsonValues
import LineageGuard.Datahub.MutationTools
import LineageGuard.Guarantees.ToolPinning
import LineageGuard.Validation.Cleanup
import LineageGuard.Guarantees.Cleanup
import LineageGuard.Guarantees.DecisionWriteback
import LineageGuard.Domain.PlainOrder
import LineageGuard.Guarantees.CandidateContents
import LineageGuard.Guarantees.CandidateAcceptance
import LineageGuard.Agent.SourcePullRequest
import LineageGuard.Guarantees.SourceGates
import LineageGuard.Library.Journal
import LineageGuard.Guarantees.StreamLanguage
import LineageGuard.Guarantees.RunReplays
import LineageGuard.Library.JsonReader
import LineageGuard.Domain.ContextReader
import LineageGuard.Datahub.Replay
import LineageGuard.Guarantees.ReplayFaithfulness
import LineageGuard.Library.Inspection
import LineageGuard.Acceptance.Inspect
import LineageGuard.Acceptance.Knowledge
import LineageGuard.Acceptance.SourceReadings
import LineageGuard.Guarantees.InspectionHonesty
import LineageGuard.Guarantees.HashInputs
import LineageGuard.Guarantees.MetadataPreservation
import LineageGuard.Library.Latest
import LineageGuard.Library.Sessions
import LineageGuard.Scenario.Pending
import LineageGuard.Scenario.Provenance
import LineageGuard.Scenario.Aspects
import LineageGuard.Scenario.Operations
import LineageGuard.Scenario.SeedOperation
import LineageGuard.Scenario.ResetOperation
import LineageGuard.Scenario.QueryOperation
import LineageGuard.Scenario.CommandOperation
import LineageGuard.Guarantees.ProvenanceChain
import LineageGuard.Guarantees.HeldLog
import LineageGuard.Guarantees.EffectLedger
import LineageGuard.Guarantees.EffectSteps
import LineageGuard.Guarantees.SeedPlan
import LineageGuard.Guarantees.SeedSafety
import LineageGuard.Guarantees.ResetSafety
import LineageGuard.Guarantees.QuerySafety
import LineageGuard.Guarantees.CommandSafety
import LineageGuard.Guarantees.SettledEffects
import LineageGuard.Guarantees.LastingConflicts
import LineageGuard.Agent.PublicationPort
import LineageGuard.Agent.Publications
import LineageGuard.Guarantees.PublicationRaces
