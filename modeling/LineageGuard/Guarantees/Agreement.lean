import LineageGuard.Attestation.Service
import LineageGuard.Guarantees.History
import LineageGuard.Guarantees.Outcome
import LineageGuard.Store.ApprovalsKept
import Mathlib.Tactic

/-
This file shows when the service accepts the reservation that the store has committed.
-/

namespace LineageGuard

open Relational Attempt Store SqlLogic

namespace Attestation

section Committed

variable {env : Environment} {db : Db} {now : ℕ} {request : ValidationEffectRequest}
  {fingerprint : Fingerprint} {read : ReservationRead}

/-- These are the facts that a reservation reads from the state. -/
structure Reads (env : Environment) (db : Db) (now : ℕ) (request : ValidationEffectRequest)
    (fingerprint : Fingerprint) (read : ReservationRead) : Prop where
  found : db.run? request.runId = some read.run
  status : read.run.status = expectedStatus request.effectKind
  held : read.run.lease = some read.lease
  leaseLive : toTimestamp now < read.lease.expiresAt
  latest : db.latestValidation? request.runId = some read.validation
  signed : env.script.signedReceipt read.validation.payload = fingerprint
  intended : db.intent? request.intentId = some read.intent
  signedPrefix : ∃ count, read.binding.authorizedRunEventStream = read.events.take count
  events : read.events = db.events request.runId
  approved : read.approval ∈ db.approvals
  asked : read.approval.runId = request.runId ∧
    validationEffectKind read.approval.kind = request.effectKind ∧
    read.approval.target = request.target ∧
    read.approval.inputFingerprint = request.inputFingerprint
  approvalLive : now < toDate read.approval.expiresAt
  fingerprinted : read.approval.approvalFingerprint = env.script.approvalPayload
    (canonicalApprovalPayload (requestedApproval request) read.approval.validationReceiptId
      read.approval.validationReceiptFingerprint (toDate read.approval.validationCompletedAt)
      read.approval.approvedBy (toDate read.approval.approvedAt) (toDate read.approval.expiresAt))

theorem signedPrefix_take {events found : List RunEvent} {signed : Fingerprint}
    (isSigned : Store.signedPrefix env signed events = some found) :
    ∃ count, found = events.take count := by
  obtain ⟨index, _, rfl⟩ := Option.map_eq_some_iff.mp isSigned
  exact ⟨index + 1, rfl⟩

theorem currentApproval_ok {asked : ApprovalRequest} {row : ApprovalRow}
    (current : requireCurrentApproval env db asked now = .ok row) :
    row ∈ db.approvals ∧ (row.runId = asked.runId ∧ row.kind = asked.kind ∧
      row.target = asked.target ∧ row.inputFingerprint = asked.inputFingerprint) ∧
      now < toDate row.expiresAt ∧ row.approvalFingerprint = env.script.approvalPayload
        (canonicalApprovalPayload asked row.validationReceiptId row.validationReceiptFingerprint
          (toDate row.validationCompletedAt) row.approvedBy (toDate row.approvedAt)
          (toDate row.expiresAt)) := by
  simp only [requireCurrentApproval, bind_ok, present_ok, require_ok, mapError_ok,
    pure_ok] at current
  obtain ⟨found, isFound, _, live, _, _, _, fingerprinted, _, _, _, _, _, _, rfl⟩ := current
  have present := firstBy_mem isFound
  simp only [List.mem_filter, decide_eq_true_eq] at present
  obtain ⟨stored, runId, kind, target, input, _⟩ := present
  refine ⟨stored, ⟨runId, kind, target, input⟩, live, ?_⟩
  rw [fingerprinted, runId, kind, target, input]

theorem readReservation_reads (history : History db)
    (done : readReservation env db now request fingerprint = .ok read) :
    Reads env db now request fingerprint read := by
  simp only [readReservation, bind_ok, present_ok, require_ok, runFromRow_ok, pure_ok] at done
  obtain ⟨row, found, _, ⟨_, rfl⟩, _, status, lease, held, _, leaseLive, validation, latest, _, _,
    _, signed, intent, intended, _, _, binding, bound, _, _, records, authorized, approval, current,
    rfl⟩ := done
  have isIntent := List.find?_some intended
  simp only [decide_eq_true_eq] at isIntent
  obtain ⟨events, isEvents, payloads⟩ := history.authorized request.runId
  obtain rfl := Except.ok.inj (authorized.symm.trans isEvents)
  obtain ⟨present, ⟨runId, kind, target, input⟩, live, fingerprinted⟩ := currentApproval_ok current
  refine ⟨found, ?_, held, leaseLive, latest, signed, ?_, ?_, payloads, present,
    ⟨runId, ?_, target, input⟩, live, fingerprinted⟩
  · rw [status]
    cases request.effectKind <;> rfl
  · exact Db.intent?_eq_some.mpr ⟨List.mem_of_find?_eq_some intended, isIntent.1⟩
  · simp only [validationBinding, boundEvents, bind_ok, present_ok, require_ok, mapError_ok,
      pure_ok] at bound
    obtain ⟨_, _, _, _, _, _, _, _, _, _, _, _, _, _, bounded, ⟨_, again, isPrefix⟩, rfl⟩ := bound
    obtain rfl := Except.ok.inj (again.symm.trans authorized)
    exact signedPrefix_take isPrefix
  · rw [kind]
    show validationEffectKind (requestedKind request.effectKind) = request.effectKind
    cases request.effectKind <;> rfl

end Committed

/-- A committed reservation has stored a reserved row that its approval and its validation bind. -/
structure Stores (sql : SqlHashing) (db next : Db) (args : ReserveArguments)
    (row : ReservationRow) : Prop where
  id : args.id = some row.id
  stored : row ∈ next.reservations
  reserved : row.state = .reserved
  intentFingerprint : row.intentFingerprint = sql.intent (args.intentId.bind db.intent?)
  approval : ∃ approval ∈ db.approvals, some approval.id = args.approvalId ∧
    some approval.validationReceiptId = args.validationReceiptId ∧
    some approval.validationReceiptFingerprint = args.validationReceiptFingerprint

theorem effectReserveCurrent_stores {sql : SqlHashing} {db next : Db} {t : ℕ → ℕ}
    {args : ReserveArguments} {row : ReservationRow}
    (done : effectReserveCurrent sql db t args = .ok (next, row)) :
    Stores sql db next args row := by
  simp only [effectReserveCurrent, bind_ok, reject_ok, notNull, present_ok, pure_ok,
    Prod.mk.injEq, insertReservation, write_ok] at done
  obtain ⟨_, passed, id, hasId, _, _, intentId, hasIntentId, _, _, _, _, _, _, _, _, receiptId,
    hasReceiptId, receiptFingerprint, hasReceiptFingerprint, _, _, _, _, _, _, _, _, _, _, _, _,
    _, _, _, _, _, _, _, _, stored, ⟨reservations, inserted, _, _, _, _, _, _, _, _, rfl⟩, rfl,
    rfl⟩ := done
  simp only [reserveGuards, anyOf_cons_holds, anyOf_nil_holds, not_or, isNull_holds] at passed
  obtain ⟨_, _, _, _, _, _, _, _, _, _, _, _, _, _, _, _, _, _, approved, _, approvalReceipt,
    approvalFingerprint, _⟩ := passed
  obtain ⟨approval, hasApproval⟩ := Option.ne_none_iff_exists'.mp approved
  simp only [hasApproval, Option.map_some, hasReceiptId, hasReceiptFingerprint,
    not_notEqual_values] at approvalReceipt approvalFingerprint
  obtain ⟨present, approvalIs, _⟩ := reservedApproval?_mem hasApproval
  refine ⟨hasId, (Table.mem_insert inserted _).mpr (Or.inr rfl), rfl, ?_, approval, present,
    approvalIs, ?_, ?_⟩
  · rw [hasIntentId, Option.bind_some]
  · rw [hasReceiptId, approvalReceipt]
  · rw [hasReceiptFingerprint, approvalFingerprint]

/-- These are the checks of the service that the store does not make. -/
structure Admissible (service : Service) (env : Environment) (db : Db) (now : ℕ)
    (receipt : SignedLiveValidationReceipt) (request : ValidationEffectRequest)
    (draw : ReservationDraw) (read : ReservationRead) : Prop where
  presented : read.validation.payload = receipt
  spelled : receipt.payload.completedAt.spelling = 0
  approver : PlainText read.approval.approvedBy 200
  lifetime : toDate read.approval.expiresAt - toDate read.approval.approvedAt ≤ approvalLifetime
  admitted : service.admits receipt read.binding = .ok ()
  short : service.snapshotBytes (read.snapshot env now request draw
    (env.sql.intent (db.intent? request.intentId))) ≤ 2000000

/-- The service and the store agree when a reserved row never remains without its capability. -/
def Agrees (draw : ReservationDraw)
    (outcome : Db × Except ReservationError VerifiedCurrentEffect) : Prop :=
  outcome.2.isOk = true ∨
    ∀ row ∈ outcome.1.reservations, row.id = draw.reservationId → row.state ≠ .reserved

section Checks

variable {service : Service} {env : Environment} {db : Db} {now : ℕ}
  {receipt : SignedLiveValidationReceipt} {request : ValidationEffectRequest}
  {draw : ReservationDraw} {read : ReservationRead} {fingerprint intentFingerprint : Fingerprint}

theorem issueCapability_ok {current : CurrentEffectReservationSnapshot} :
    (∃ capability, issueCapability service env receipt request current = .ok capability) ↔
      service.snapshotBytes current ≤ 2000000 ∧
      (PlainText current.approval.approvedBy 200 ∧
        current.approvalId = current.approval.approvalId) ∧
      service.admits receipt current.originalValidationBinding = .ok () ∧
      ∃ run, validateRunStream current.currentRunEventStream
          (some (expectedStatus request.effectKind)) = .ok run ∧
        (RepeatsRequest request current ∧ RepeatsLease run current ∧ PrefixMatches current ∧
          BindsReceipt env receipt request current ∧
          receipt.protectedHeaders.runId = request.runId ∧
          TokenShaped current.reservationToken.text) ∧
        TimesHold receipt.payload.completedAt current := by
  simp only [issueCapability, assertEffectReservationSnapshot, Service.verifyHistoricalLive,
    bind_ok, require_ok, pure_ok]
  constructor
  · rintro ⟨_, _, ⟨_, short, identity⟩, _, ⟨_, admitted, rfl⟩, run, valid, _, binds, _, times, _⟩
    exact ⟨short, identity, admitted, run, valid, binds, times⟩
  · rintro ⟨short, identity, admitted, run, valid, binds, times⟩
    exact ⟨_, (), ⟨(), short, identity⟩, receipt, ⟨(), admitted, rfl⟩, run, valid, (), binds, (),
      times, rfl⟩

theorem expectedStatus_running (kind : ValidationEffectKind) :
    isTerminalRunStatus (expectedStatus kind) = false := by
  cases kind <;> rfl

/-- The stored stream replays to the lease of the snapshot. -/
theorem Reads.lease (reads : Reads env db now request fingerprint read) (history : History db) :
    ∃ run, validateRunStream read.events (some (expectedStatus request.effectKind)) = .ok run ∧
      RepeatsLease run (read.snapshot env now request draw intentFingerprint) := by
  obtain ⟨present, same⟩ := Db.run?_eq_some.mp reads.found
  have shown := history.shown read.run present
  rw [same] at shown
  have status : (replay request.runId (db.events request.runId)).currentStatus =
      expectedStatus request.effectKind := shown.status.symm.trans reads.status
  have leased := shown.lease
  rw [reads.held] at leased
  obtain ⟨lease, active, repeats⟩ := Option.map_eq_some_iff.mp leased.symm
  obtain ⟨run, valid, _, replayed, _⟩ := validateRunStream_stored (history.streams request.runId)
    active (by rw [status]; exact expectedStatus_running _)
  rw [status] at valid
  rw [reads.events]
  refine ⟨run, valid, ?_⟩
  obtain ⟨generation, spelled⟩ := shown.current lease active
  rw [← replayed] at generation spelled repeats
  refine ⟨?_, ?_, generation, ?_⟩
  · show _ = read.lease.leaseId
    rw [← repeats]
    rfl
  · show _ = read.lease.workerId
    rw [← repeats]
    rfl
  · show _ = toISOString (toDate read.lease.expiresAt)
    rw [← repeats]
    exact spelled

theorem Reads.signedStream (reads : Reads env db now request fingerprint read) :
    PrefixMatches (read.snapshot env now request draw intentFingerprint) := by
  obtain ⟨count, isPrefix⟩ := reads.signedPrefix
  refine ⟨rfl, ?_⟩
  show read.events.take read.binding.authorizedRunEventStream.length =
    read.binding.authorizedRunEventStream
  rw [isPrefix, List.length_take]
  exact (List.take_eq_take_min).symm

/-- The service recomputes the fingerprint of the stored approval. -/
theorem Reads.approvalFingerprint (reads : Reads env db now request fingerprint read)
    (draw : ReservationDraw) (intentFingerprint : Fingerprint) :
    canonicalApprovalFingerprint env request
        (read.snapshot env now request draw intentFingerprint) =
      read.approval.approvalFingerprint := by
  rw [reads.fingerprinted]
  have kind : validationEffectKind (requestedKind request.effectKind) = request.effectKind := by
    cases request.effectKind <;> rfl
  simp only [canonicalApprovalPayload, requestedApproval, kind]
  rfl

/-- The approval of a committed reservation binds the validation that it was recorded for. -/
structure Binding (env : Environment) (read : ReservationRead) : Prop where
  receiptId : read.approval.validationReceiptId = read.validation.id
  fingerprint : read.approval.validationReceiptFingerprint =
    env.script.signedReceipt read.validation.payload
  completed : read.approval.validationCompletedAt =
    read.validation.payload.payload.completedAt.instant
  dated : read.approval.validationCompletedAt =
    toTimestamp (toDate read.approval.validationCompletedAt)

theorem Reads.binding (reads : Reads env db now request fingerprint read)
    (approvals : Approvals db) {next : Db} {row : ReservationRow}
    (stores : Stores env.sql db next (read.arguments env now request draw) row) :
    Binding env read := by
  obtain ⟨approval, present, id, receiptId, receiptFingerprint⟩ := stores.approval
  obtain rfl : approval = read.approval :=
    Table.eq_of_conflict present reads.approved (Or.inl (Option.some.inj id))
  obtain ⟨validation, isValidation, same, completed, dated⟩ :=
    (approvals.recorded _ present).validation
  have receiptIs : read.approval.validationReceiptId = read.validation.id :=
    Option.some.inj receiptId
  obtain rfl : validation = read.validation :=
    Table.eq_of_conflict isValidation (Db.latestValidation?_mem reads.latest).1
      (Or.inl (same.trans receiptIs))
  exact ⟨receiptIs, Option.some.inj receiptFingerprint, completed, dated⟩

/-- The time of every event of a run has passed. -/
theorem event_past (history : History db) (later : toDate db.clock ≤ now) {event : RunEvent}
    {runId : RunId} (present : event ∈ db.events runId) : event.occurredAt.time ≤ now := by
  obtain ⟨row, isRow, rfl⟩ := List.mem_map.mp present
  have stored := (mem_eventRows.mp isRow).1
  obtain ⟨_, ⟨_, _, _, _, _, _, _, occurred⟩, _⟩ := db.runEvents.checked row stored
  calc row.payload.occurredAt.time = toDate row.createdAt := by rw [IsoDateTime.time, occurred]
    _ ≤ toDate db.clock := toDate_mono (history.past row stored)
    _ ≤ now := later

theorem Reads.times (reads : Reads env db now request fingerprint read) (history : History db)
    (approvals : Approvals db) (later : toDate db.clock ≤ now)
    (timely : now < read.invokeBy now) (binds : Binding env read)
    (lifetime : toDate read.approval.expiresAt - toDate read.approval.approvedAt ≤
      approvalLifetime) :
    TimesHold read.validation.payload.payload.completedAt
      (read.snapshot env now request draw intentFingerprint) := by
  have recorded := approvals.recorded _ reads.approved
  have leaseBound : read.invokeBy now ≤ toDate read.lease.expiresAt := by
    simp [ReservationRead.invokeBy]
  have approvalBound : read.invokeBy now ≤ toDate read.approval.expiresAt := by
    simp [ReservationRead.invokeBy]
  simp only [TimesHold, ReservationRead.snapshot, ReservationRead.snapshotApproval,
    toISOString_time]
  refine ⟨?_, ?_, ?_, lifetime, reads.approvalLive, timely, approvalBound, leaseBound, ?_, ?_⟩
  · rw [IsoDateTime.time, ← binds.completed]
    exact toDate_mono recorded.completed
  · exact Nat.le_trans (toDate_mono recorded.past) later
  · obtain ⟨approvedAt, expiresAt, approved, expires, ordered⟩ := recorded.period
    rw [approved, expires, toDate_toTimestamp, toDate_toTimestamp]
    exact ordered
  · intro last isLast
    rw [reads.events] at isLast
    exact event_past history later (List.mem_of_getLast? isLast)
  · exact Nat.lt_of_lt_of_le timely leaseBound

/-- A receipt that the approval binds is spelled as the approval spells it. -/
theorem Binding.spelled (binds : Binding env read) :
    toISOString (toDate read.approval.validationCompletedAt) =
        read.validation.payload.payload.completedAt ↔
      read.validation.payload.payload.completedAt.spelling = 0 := by
  have instant : read.validation.payload.payload.completedAt.instant =
      toTimestamp (toDate read.approval.validationCompletedAt) :=
    binds.completed.symm.trans binds.dated
  generalize read.validation.payload.payload.completedAt = completedAt at instant ⊢
  cases completedAt with
  | mk moment spelling =>
      simp only at instant
      rw [toISOString, ← instant, IsoDateTime.mk.injEq]
      simp only [true_and]
      exact eq_comm

/-- The service issues the capability of a committed reservation exactly when its own checks
hold. -/
theorem Reads.issues (service : Service)
    (reads : Reads env db now request (env.script.signedReceipt receipt) read)
    (history : History db) (approvals : Approvals db) (later : toDate db.clock ≤ now)
    (timely : now < read.invokeBy now) {next : Db} {row : ReservationRow}
    (stores : Stores env.sql db next (read.arguments env now request draw) row) :
    (∃ capability, issueCapability service env receipt request
        (read.snapshot env now request draw row.intentFingerprint) = .ok capability) ↔
      Admissible service env db now receipt request draw read := by
  have binds := reads.binding approvals stores
  rw [stores.intentFingerprint, issueCapability_ok]
  constructor
  · rintro ⟨short, ⟨approver, _⟩, admitted, run, _, ⟨_, _, _, bound, _⟩, times⟩
    have presented : read.validation.payload = receipt := bound.2.2.1
    have spelled : toISOString (toDate read.approval.validationCompletedAt) =
        receipt.payload.completedAt := bound.2.2.2.2.2.2.2.2.2.1
    have lifetime := times.2.2.2.1
    simp only [ReservationRead.snapshot, ReservationRead.snapshotApproval,
      toISOString_time] at lifetime
    refine ⟨presented, ?_, approver, lifetime, admitted, short⟩
    rw [← presented] at spelled ⊢
    exact binds.spelled.mp spelled
  · rintro ⟨rfl, spelled, approver, lifetime, admitted, short⟩
    obtain ⟨run, valid, leased⟩ := reads.lease history
    refine ⟨short, ⟨approver, rfl⟩, admitted, run, valid, ⟨?_, leased, reads.signedStream, ?_, ?_,
      ?_⟩, reads.times history approvals later timely binds lifetime⟩
    · exact ⟨rfl, rfl, rfl, rfl, rfl, reads.status⟩
    · have fingerprinted := reads.approvalFingerprint draw
        (env.sql.intent (db.intent? request.intentId))
      exact ⟨rfl, rfl, rfl, rfl, binds.receiptId.symm, rfl, rfl, fingerprinted.symm,
        binds.fingerprint, binds.spelled.mpr spelled, fingerprinted.symm⟩
    · obtain ⟨present, same⟩ := Db.latestValidation?_mem reads.latest
      rw [approvals.signed _ present, same]
    · have length := draw.token.length
      refine ⟨draw.token.alphabet, ?_, ?_⟩ <;>
        · show _ ≤ _
          simp only [ReservationRead.snapshot]
          omega

end Checks

section Agreement

variable {env : Environment} {db stored : Db} {service : Service}
  {receipt : SignedLiveValidationReceipt} {request : ValidationEffectRequest}
  {draw : ReservationDraw} {current : CurrentEffectReservationSnapshot}

/-- A reservation that the store commits has its capability or no reserved row exactly when the
checks that only the service makes hold. -/
theorem reservation_agrees (reached : Reachable env db) (delays : List ℕ)
    (asked : assertEffectRequest request = .ok ())
    (committed : Store.reserveCurrentEffect env db (readings db delays) request
      (env.script.signedReceipt receipt) draw = .ok (stored, current)) :
    Agrees draw (reserveCurrentEffect service env db (readings db delays) receipt request draw) ↔
      ∃ read, readReservation env db (toDate (readings db delays 0)) request
          (env.script.signedReceipt receipt) = .ok read ∧
        Admissible service env db (toDate (readings db delays 0)) receipt request draw read := by
  have history := reached.inv.history
  have outcome : reserveCurrentEffect service env db (readings db delays) receipt request draw =
      (stored, (issueCapability service env receipt request current).mapError .service) := by
    simp only [reserveCurrentEffect, asked, committed]
  rw [outcome]
  simp only [Store.reserveCurrentEffect, bind_ok, require_ok, pure_ok,
    Prod.mk.injEq] at committed
  obtain ⟨_, _, read, isRead, _, timely, ⟨next, row⟩, reserved, _, named, rfl, rfl⟩ := committed
  have stores := effectReserveCurrent_stores reserved
  have later : toDate db.clock ≤ toDate (readings db delays 0) :=
    toDate_mono ((readings_ticks db delays).later 0)
  have issues := (readReservation_reads history isRead).issues service history
    reached.approvals later timely stores
  constructor
  · rintro (issued | cleared)
    · refine ⟨read, isRead, issues.mp ?_⟩
      cases capability : issueCapability service env receipt request
          (read.snapshot env (toDate (readings db delays 0)) request draw
            row.intentFingerprint) with
      | ok issuedCapability => exact ⟨issuedCapability, rfl⟩
      | error failure =>
          rw [capability] at issued
          cases issued
    · exact absurd stores.reserved (cleared row stores.stored named)
  · rintro ⟨again, isAgain, admissible⟩
    obtain rfl := Except.ok.inj (isAgain.symm.trans isRead)
    obtain ⟨capability, issued⟩ := issues.mpr admissible
    apply Or.inl
    rw [issued]
    rfl

end Agreement

section Sample

/-- The sample service admits every receipt. -/
def sampleService : Service := ⟨fun _ _ => .ok (), fun _ => 0⟩

def sampleDraw : ReservationDraw where
  reservationId := ⟨1⟩
  token := ⟨"aaaaaaaaaaaaaaaaaaaaaaaaaaaaaaaaaaaaaaaaaaa", by decide, by decide⟩
  tokenHash := ⟨8⟩

def sampleEffectRequest : ValidationEffectRequest :=
  ⟨⟨1⟩, .githubWrite, ⟨7⟩, "repository-1", ⟨1⟩, "key-1"⟩

def timedAssertion (expiresAt : ℕ) : EffectApprovalAssertion :=
  { sampleAssertion with
    payload := canonicalApprovalPayload sampleRequest ⟨3⟩ ⟨3⟩ 0 "approver-1" 10 expiresAt }

/-- The sample run begins its effect under an approval that expires at this date. -/
def approvedSteps (expiresAt : ℕ) : List Step := validatedSteps ++
  [sampleStep (.recordEffectApproval
      ⟨sampleRequest, sampleGuard 13, "approver-1", 10, expiresAt, timedAssertion expiresAt⟩ ⟨1⟩),
    sampleStep (.beginEffect ⟨sampleRequest, sampleGuard 13, "key-1", ⟨7, 1⟩⟩ ⟨1⟩)]

def storeOutcome (expiresAt : ℕ) :
    Except StoreError (Db × CurrentEffectReservationSnapshot) :=
  Store.reserveCurrentEffect sampleEnvironment (sampleState (approvedSteps expiresAt))
    (readings (sampleState (approvedSteps expiresAt)) [1000]) sampleEffectRequest
    (sampleEnvironment.script.signedReceipt sampleReceipt) sampleDraw

def serviceOutcome (expiresAt : ℕ) : Db × Except ReservationError VerifiedCurrentEffect :=
  reserveCurrentEffect sampleService sampleEnvironment (sampleState (approvedSteps expiresAt))
    (readings (sampleState (approvedSteps expiresAt)) [1000]) sampleReceipt sampleEffectRequest
    sampleDraw

theorem reservation_agrees_sample : ∃ stored current,
    storeOutcome 1000000 = .ok (stored, current) ∧
    (Agrees sampleDraw (serviceOutcome 1000000) ↔
      ∃ read, readReservation sampleEnvironment (sampleState (approvedSteps 1000000))
          (toDate (readings (sampleState (approvedSteps 1000000)) [1000] 0))
          sampleEffectRequest (sampleEnvironment.script.signedReceipt sampleReceipt) = .ok read ∧
        Admissible sampleService sampleEnvironment (sampleState (approvedSteps 1000000))
          (toDate (readings (sampleState (approvedSteps 1000000)) [1000] 0)) sampleReceipt
          sampleEffectRequest sampleDraw read) := by
  have commits : (storeOutcome 1000000).isOk = true := by decide +kernel
  cases committed : storeOutcome 1000000 with
  | error failure =>
      rw [committed] at commits
      cases commits
  | ok result =>
      exact ⟨result.1, result.2, rfl, reservation_agrees (sampleState_reachable _) [1000]
        (by decide) committed⟩

/-- The store accepts this expiry, which is one hour and two milliseconds after the approval. -/
def lateExpiry : ℕ := 3600012

/-- The reservation of an approval with the late expiry remains without its capability. -/
theorem reservation_stranded :
    Reachable sampleEnvironment (sampleState (approvedSteps lateExpiry)) ∧
    assertEffectRequest sampleEffectRequest = .ok () ∧
    (storeOutcome lateExpiry).isOk = true ∧
    ¬ Agrees sampleDraw (serviceOutcome lateExpiry) := by
  refine ⟨sampleState_reachable _, by decide, by decide +kernel, ?_⟩
  have refused : (serviceOutcome lateExpiry).2.isOk = false := by decide +kernel
  have remains : ∃ row ∈ (serviceOutcome lateExpiry).1.reservations.rows,
      row.id = sampleDraw.reservationId ∧ row.state = .reserved := by decide +kernel
  rintro (issued | cleared)
  · rw [refused] at issued
    cases issued
  · obtain ⟨row, present, named, reserved⟩ := remains
    exact cleared row present named reserved

end Sample

end Attestation

end LineageGuard
