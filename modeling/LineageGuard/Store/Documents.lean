import LineageGuard.Domain.Receipt
import LineageGuard.Domain.Stream
import LineageGuard.Db.Schema
import Mathlib.Tactic

/-
This file gives the documents of run events and of approvals that both sides hash.
-/

namespace LineageGuard

open Json

def RunStatus.word : RunStatus → String
  | .created => "CREATED"
  | .changeParsed => "CHANGE_PARSED"
  | .baselineAssessed => "BASELINE_ASSESSED"
  | .contextCollecting => "CONTEXT_COLLECTING"
  | .contextCollected => "CONTEXT_COLLECTED"
  | .riskDecided => "RISK_DECIDED"
  | .migrationPlanned => "MIGRATION_PLANNED"
  | .patchGenerated => "PATCH_GENERATED"
  | .validating => "VALIDATING"
  | .validated => "VALIDATED"
  | .reviewArtifactCreated => "REVIEW_ARTIFACT_CREATED"
  | .writebackPending => "WRITEBACK_PENDING"
  | .completed => "COMPLETED"
  | .failedContext => "FAILED_CONTEXT"
  | .failedGeneration => "FAILED_GENERATION"
  | .failedValidation => "FAILED_VALIDATION"
  | .failedGithub => "FAILED_GITHUB"
  | .failedWriteback => "FAILED_WRITEBACK"
  | .cancelled => "CANCELLED"

def RetryOperation.word : RetryOperation → String
  | .datahubRead => "DATAHUB_READ"
  | .generation => "GENERATION"
  | .githubWrite => "GITHUB_WRITE"
  | .datahubWrite => "DATAHUB_WRITE"

def RunEventType.word : RunEventType → String
  | .runStatusChanged => "RUN_STATUS_CHANGED"
  | .runLeaseAcquired => "RUN_LEASE_ACQUIRED"
  | .runLeaseRenewed => "RUN_LEASE_RENEWED"
  | .runLeaseReleased => "RUN_LEASE_RELEASED"
  | .runLeaseExpired => "RUN_LEASE_EXPIRED"
  | .runRetryScheduled => "RUN_RETRY_SCHEDULED"

def ValidationEffectKind.word : ValidationEffectKind → String
  | .githubWrite => "GITHUB_WRITE"
  | .datahubWrite => "DATAHUB_WRITE"

variable (spelling : Spelling)

def RunEventBody.members : RunEventBody → List (String × Value)
  | .statusChanged source target detail =>
      [("from", .string source.word), ("to", .string target.word)] ++
        Domain.optional "detail" detail
  | .leaseAcquired expiresAt => [("expiresAt", .string (spelling.date expiresAt))]
  | .leaseRenewed previousExpiresAt expiresAt =>
      [("previousExpiresAt", .string (spelling.date previousExpiresAt)),
        ("expiresAt", .string (spelling.date expiresAt))]
  | .leaseReleased => []
  | .leaseExpired expiredAt => [("expiredAt", .string (spelling.date expiredAt))]
  | .retryScheduled operation attempt retryAt reason =>
      [("operation", .string operation.word), ("attempt", .number attempt),
        ("retryAt", .string (spelling.date retryAt)), ("reason", .string reason)]

def RunEvent.json (event : RunEvent) : Value :=
  .object ([("eventId", .string (spelling.id event.eventId)),
    ("runId", .string (spelling.id event.runId)), ("sequence", .number event.sequence),
    ("occurredAt", .string (spelling.date event.occurredAt)),
    ("leaseId", .string (spelling.id event.leaseId)), ("workerId", .string event.workerId),
    ("generation", .number event.generation), ("type", .string event.type.word)] ++
    event.body.members spelling)

/-- The database and the script hash this value for the events of a run. -/
def runEventStreamValue (events : List RunEvent) : Value :=
  .object [("domain", .string "lineageguard.validation.authorized-run-stream.v1"),
    ("events", .array (events.map (RunEvent.json spelling)))]

/-- This is the value of `canonicalApprovalPayload`. -/
def ApprovalPayload.json (payload : ApprovalPayload) : Value :=
  .object [("domain", .string "lineageguard.effect-approval.v2"),
    ("runId", .string (spelling.id payload.runId)),
    ("effectKind", .string payload.effectKind.word), ("target", .string payload.target),
    ("inputFingerprint", .string (spelling.fingerprint payload.inputFingerprint)),
    ("validationReceiptId", .string (spelling.id payload.validationReceiptId)),
    ("validationReceiptFingerprint",
      .string (spelling.fingerprint payload.validationReceiptFingerprint)),
    ("validationCompletedAt", .string (spelling.date payload.validationCompletedAt)),
    ("approvedBy", .string payload.approvedBy),
    ("approvedAt", .string (spelling.date payload.approvedAt)),
    ("expiresAt", .string (spelling.date payload.expiresAt))]

/-- An undefined payload has no member. -/
def effectInputMembers (payload : Option Value) : List (String × Value) :=
  ("domain", .string "lineageguard.effect-input.v1") ::
    (payload.map fun value => ("payload", value)).toList

def effectInputFingerprint (script : Script) (payload : Option Value) : String :=
  script.sha256 (.object (effectInputMembers payload))

end LineageGuard
