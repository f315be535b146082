import LineageGuard.Attestation.RunStream
import LineageGuard.Store.Reservation
import Mathlib.Tactic

/-
This file translates the reservation of the validation service over the store.
-/

namespace LineageGuard

open Relational Attempt Store

namespace Attestation

/-- The service has its own keyring, and it measures the text of a snapshot. -/
structure Service where
  admits : SignedLiveValidationReceipt → ValidationAuthorityBinding →
    Except AttestationError Unit
  snapshotBytes : CurrentEffectReservationSnapshot → ℕ

/-- A verified receipt is the receipt that the caller has presented. -/
def Service.verifyHistoricalLive (service : Service) (receipt : SignedLiveValidationReceipt)
    (binding : ValidationAuthorityBinding) :
    Except AttestationError SignedLiveValidationReceipt := do
  service.admits receipt binding
  pure receipt

def containsControlCharacters (value : String) : Bool :=
  value.toList.any fun char => char.toNat ≤ 31 || char.toNat == 127

/-- These are the texts that the service accepts up to the limit. -/
def PlainText (value : String) (limit : ℕ) : Prop :=
  1 ≤ utf16Length value ∧ utf16Length value ≤ limit ∧ containsControlCharacters value = false

instance (value : String) (limit : ℕ) : Decidable (PlainText value limit) :=
  inferInstanceAs (Decidable (_ ∧ _))

def assertEffectRequest (request : ValidationEffectRequest) : Except AttestationError Unit :=
  require (PlainText request.idempotencyKey 200 ∧ PlainText request.target 500)
    (.attestationInvalid "effect request is malformed")

variable (service : Service) (env : Environment)

def assertEffectReservationSnapshot (current : CurrentEffectReservationSnapshot) :
    Except AttestationError Unit := do
  require (service.snapshotBytes current ≤ 2000000)
    (.attestationInvalid "effect reservation snapshot is malformed")
  require (PlainText current.approval.approvedBy 200 ∧
      current.approvalId = current.approval.approvalId)
    (.attestationInvalid "effect reservation identity is malformed")

/-- The service hashes the approval that the request and the snapshot describe. -/
def canonicalApprovalFingerprint (request : ValidationEffectRequest)
    (current : CurrentEffectReservationSnapshot) : Fingerprint :=
  env.script.approvalPayload
    { runId := request.runId
      effectKind := request.effectKind
      target := request.target
      inputFingerprint := request.inputFingerprint
      approvedBy := current.approval.approvedBy
      approvedAt := current.approval.approvedAt
      expiresAt := current.approval.expiresAt
      validationReceiptId := current.approval.validationReceiptId
      validationReceiptFingerprint := current.approval.validationReceiptFingerprint
      validationCompletedAt := current.approval.validationCompletedAt }

def expectedStatus : ValidationEffectKind → RunStatus
  | .githubWrite => .validated
  | .datahubWrite => .writebackPending

/-- The signed events start the binding and the current stream. -/
def PrefixMatches (current : CurrentEffectReservationSnapshot) : Prop :=
  current.originalValidationEventPrefix =
    current.originalValidationBinding.authorizedRunEventStream ∧
  current.currentRunEventStream.take current.originalValidationEventPrefix.length =
    current.originalValidationEventPrefix

instance (current : CurrentEffectReservationSnapshot) : Decidable (PrefixMatches current) :=
  inferInstanceAs (Decidable (_ ∧ _))

/-- The snapshot repeats the request. -/
def RepeatsRequest (request : ValidationEffectRequest)
    (current : CurrentEffectReservationSnapshot) : Prop :=
  current.effectKind = request.effectKind ∧
  current.inputFingerprint = request.inputFingerprint ∧ current.target = request.target ∧
  current.intentId = request.intentId ∧ current.idempotencyKey = request.idempotencyKey ∧
  current.currentStatus = expectedStatus request.effectKind

instance (request : ValidationEffectRequest) (current : CurrentEffectReservationSnapshot) :
    Decidable (RepeatsRequest request current) := inferInstanceAs (Decidable (_ ∧ _))

/-- The replayed lease is the lease of the snapshot. -/
def RepeatsLease (run : ValidatedRun) (current : CurrentEffectReservationSnapshot) : Prop :=
  run.activeLease.leaseId = current.currentLease.leaseId ∧
  run.activeLease.workerId = current.currentLease.workerId ∧
  run.activeLease.generation = current.currentLease.generation ∧
  run.activeLease.expiresAt = current.currentLease.expiresAt

instance (run : ValidatedRun) (current : CurrentEffectReservationSnapshot) :
    Decidable (RepeatsLease run current) := inferInstanceAs (Decidable (_ ∧ _))

/-- The receipt of the caller is the stored one, and the approval binds it. -/
def BindsReceipt (receipt : SignedLiveValidationReceipt) (request : ValidationEffectRequest)
    (current : CurrentEffectReservationSnapshot) : Prop :=
  current.storedLiveReceiptFingerprint = env.script.signedReceipt current.storedLiveReceipt ∧
  env.script.signedReceipt current.storedLiveReceipt = env.script.signedReceipt receipt ∧
  current.storedLiveReceipt = receipt ∧
  current.approval.status = .approved ∧
  current.validationReceiptId = current.approval.validationReceiptId ∧
  current.validationReceiptFingerprint = env.script.signedReceipt receipt ∧
  current.approvalId = current.approval.approvalId ∧
  current.approvalFingerprint = canonicalApprovalFingerprint env request current ∧
  current.approval.validationReceiptFingerprint = env.script.signedReceipt receipt ∧
  current.approval.validationCompletedAt = receipt.payload.completedAt ∧
  current.approval.approvalFingerprint = canonicalApprovalFingerprint env request current

instance (receipt : SignedLiveValidationReceipt) (request : ValidationEffectRequest)
    (current : CurrentEffectReservationSnapshot) :
    Decidable (BindsReceipt env receipt request current) := inferInstanceAs (Decidable (_ ∧ _))

/-- The token has the characters and the length of a random token. -/
def TokenShaped (token : String) : Prop :=
  token.toList.all signatureAlphabet = true ∧ 32 ≤ token.length ∧ token.length ≤ 512

instance (token : String) : Decidable (TokenShaped token) := inferInstanceAs (Decidable (_ ∧ _))

/-- The service accepts an approval that lasts at most one hour from its own start. -/
def approvalLifetime : ℕ := 3600000

/-- The times of the snapshot are consistent at the time of the database. -/
def TimesHold (completedAt : IsoDateTime) (current : CurrentEffectReservationSnapshot) : Prop :=
  let effectTime := current.trustedDatabaseTime.time
  let approvedAt := current.approval.approvedAt.time
  let approvalExpiresAt := current.approval.expiresAt.time
  let invokeBy := current.invokeBy.time
  let leaseExpiresAt := current.currentLease.expiresAt.time
  completedAt.time ≤ approvedAt ∧ approvedAt ≤ effectTime ∧ approvedAt < approvalExpiresAt ∧
  approvalExpiresAt - approvedAt ≤ approvalLifetime ∧ effectTime < approvalExpiresAt ∧
  effectTime < invokeBy ∧ invokeBy ≤ approvalExpiresAt ∧ invokeBy ≤ leaseExpiresAt ∧
  (∀ last ∈ current.currentRunEventStream.getLast?, last.occurredAt.time ≤ effectTime) ∧
  effectTime < leaseExpiresAt

instance (completedAt : IsoDateTime) (current : CurrentEffectReservationSnapshot) :
    Decidable (TimesHold completedAt current) := inferInstanceAs (Decidable (_ ∧ _))

/-- A capability carries what its consumption will present. -/
structure VerifiedCurrentEffect where
  reservationId : ReservationId
  reservationToken : ReservationToken
  request : ValidationEffectRequest
  validationReceiptId : ValidationReceiptId
  validationReceiptFingerprint : Fingerprint
  approvalId : ApprovalId
  approvalFingerprint : Fingerprint
  intentFingerprint : Fingerprint
  invokeBy : IsoDateTime

/-- The checks run in this order after the store has committed the reservation. -/
def issueCapability (receipt : SignedLiveValidationReceipt) (request : ValidationEffectRequest)
    (current : CurrentEffectReservationSnapshot) :
    Except AttestationError VerifiedCurrentEffect := do
  assertEffectReservationSnapshot service current
  let verified ← service.verifyHistoricalLive receipt current.originalValidationBinding
  let run ← validateRunStream current.currentRunEventStream
    (some (expectedStatus request.effectKind))
  require (RepeatsRequest request current ∧ RepeatsLease run current ∧ PrefixMatches current ∧
      BindsReceipt env receipt request current ∧
      verified.protectedHeaders.runId = request.runId ∧
      TokenShaped current.reservationToken.text)
    (.attestationInvalid "current effect authority binding mismatch")
  require (TimesHold verified.payload.completedAt current)
    (.attestationInvalid "run store returned an invalid effect time")
  pure
    { reservationId := current.reservationId
      reservationToken := current.reservationToken
      request := request
      validationReceiptId := current.validationReceiptId
      validationReceiptFingerprint := env.script.signedReceipt receipt
      approvalId := current.approvalId
      approvalFingerprint := canonicalApprovalFingerprint env request current
      intentFingerprint := current.intentFingerprint
      invokeBy := current.invokeBy }

inductive ReservationError
  | store (error : StoreError)
  | service (error : AttestationError)

/-- A call leaves the state of the store behind together with its result. -/
def reserveCurrentEffect (db : Db) (t : ℕ → ℕ) (receipt : SignedLiveValidationReceipt)
    (request : ValidationEffectRequest) (draw : ReservationDraw) :
    Db × Except ReservationError VerifiedCurrentEffect :=
  match assertEffectRequest request with
  | .error malformed => (db, .error (.service malformed))
  | .ok () =>
      match Store.reserveCurrentEffect env db t request (env.script.signedReceipt receipt) draw with
      | .error failure => (db, .error (.store failure))
      | .ok (stored, current) =>
          (stored, (issueCapability service env receipt request current).mapError .service)

end Attestation

end LineageGuard
