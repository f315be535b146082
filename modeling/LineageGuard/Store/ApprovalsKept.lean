import LineageGuard.Store.OwnersKept
import Mathlib.Tactic

/-
This file shows that every stored approval keeps the bounds and the validation of its recording.
-/

namespace LineageGuard

open Relational Attempt Store

/-- An approval counts its times in milliseconds and binds a stored validation. -/
structure Recorded (db : Db) (approval : ApprovalRow) : Prop where
  named : 1 ≤ utf16Length approval.approvedBy
  period : ∃ approvedAt expiresAt, approval.approvedAt = toTimestamp approvedAt ∧
    approval.expiresAt = toTimestamp expiresAt ∧ approvedAt < expiresAt
  past : approval.approvedAt ≤ db.clock
  completed : approval.validationCompletedAt ≤ approval.approvedAt
  validation : ∃ row ∈ db.validationReceipts, row.id = approval.validationReceiptId ∧
    approval.validationCompletedAt = row.payload.payload.completedAt.instant ∧
    approval.validationCompletedAt = toTimestamp (toDate approval.validationCompletedAt)

structure Approvals (db : Db) : Prop where
  recorded : ∀ approval ∈ db.approvals, Recorded db approval
  signed : ∀ row ∈ db.validationReceipts, row.payload.protectedHeaders.runId = row.runId

section Kept

variable {env : Environment} {db next : Db} {t : ℕ → ℕ} {finish : ℕ}

theorem Recorded.grow {approval : ApprovalRow} (recorded : Recorded db approval)
    (later : db.clock ≤ next.clock)
    (kept : ∀ row ∈ db.validationReceipts, row ∈ next.validationReceipts) :
    Recorded next approval := by
  obtain ⟨named, period, past, completed, row, present, binds⟩ := recorded
  exact ⟨named, period, Nat.le_trans past later, completed, row, kept row present, binds⟩

/-- A new approval has passed the checks of the store and the trigger of its table. -/
theorem recordEffectApproval_recorded {input : EffectApprovalInput} {id : ApprovalId}
    {result : ApprovalRow} (ticks : Ticks t db.clock finish)
    (done : recordEffectApproval env db t input id = .ok (next, result)) :
    next.validationReceipts = db.validationReceipts ∧
      ∀ approval ∈ next.approvals, approval ∈ db.approvals ∨
        Recorded { db with clock := finish } approval := by
  simp only [recordEffectApproval, bind_ok, require_ok, lockRunForLease_ok, present_ok,
    mapError_ok, approvalInsertEffectApproval, insertApproval, enforceEffectApprovalBinding,
    Option.mem_def] at done
  obtain ⟨_, _, _, named, run, _, _, _, _, _, _, ⟨_, _, _, ordered⟩, receipt, _, _, _, _, _, _, _,
    _, _, ⟨stored, inserted⟩, ⟨_, _, _, ⟨_, _, _, ⟨past, _⟩, _, ⟨validation, latest, binds, _,
      instant, completed⟩, _⟩, isInserted⟩, done⟩ := done
  simp only [pure_ok, Prod.mk.injEq] at done
  obtain ⟨_, _, _, _, _, _, rfl, _⟩ := done
  split at isInserted
  · simp only [pure_ok, Prod.mk.injEq] at isInserted
    rw [← isInserted.1]
    exact ⟨rfl, fun approval present => Or.inl present⟩
  · simp only [bind_ok, write_ok, pure_ok, Prod.mk.injEq] at isInserted
    obtain ⟨approvals, added, _, _, rfl, _⟩ := isInserted
    refine ⟨rfl, fun approval present => ?_⟩
    rcases (Table.mem_insert added approval).mp present with old | rfl
    · exact Or.inl old
    · refine Or.inr ⟨named.1, ⟨_, _, rfl, rfl, ordered⟩, ?_, completed, validation, ?_, binds.symm,
        instant, ?_⟩
      · exact Nat.le_trans past (ticks.bounded _)
      · exact (Db.latestValidation?_mem latest).1
      · rw [toDate_toTimestamp]

/-- A new validation receipt is signed for its run. -/
theorem issueAndStoreValidationReceipt_signed {request : ValidationReceiptIssueRequest}
    {issue : ValidationAuthorityBinding → IsoDateTime → SignedLiveValidationReceipt}
    {receipt : SignedLiveValidationReceipt}
    (done : issueAndStoreValidationReceipt env db t request issue = .ok (next, receipt)) :
    ∃ row, row.payload.protectedHeaders.runId = row.runId ∧
      db.validationReceipts.insert row = .ok next.validationReceipts := by
  simp only [issueAndStoreValidationReceipt, bind_ok, require_ok, pure_ok, Prod.mk.injEq,
    signerInsertValidationReceipt, insertValidationReceipt, write_ok, Option.mem_def] at done
  obtain ⟨_, _, _, _, payload, _, _, _, _, _, stored, ⟨_, _, _, ⟨signed, _⟩, _,
    ⟨receipts, inserted, _, _, rfl⟩, updated⟩, rfl, _⟩ := done
  obtain ⟨_, runs, rewritten, rfl⟩ := updateRun_ok updated
  exact ⟨_, signed, inserted⟩

/-- Every operation keeps the approvals. -/
theorem Approvals.kept (approvals : Approvals db) (inv : Inv db) {op : Op}
    (ticks : Ticks t db.clock finish) (done : exec env db t op = .ok next) :
    Approvals { next with clock := finish } := by
  have later : db.clock ≤ finish := Nat.le_trans (ticks.later 0) (ticks.bounded 0)
  have same : next.approvals = db.approvals → next.validationReceipts = db.validationReceipts →
      Approvals { next with clock := finish } := by
    intro sameApprovals sameReceipts
    refine ⟨fun approval present => ?_, fun row present => ?_⟩
    · have old : approval ∈ db.approvals := sameApprovals ▸ present
      exact (approvals.recorded approval old).grow later fun row held => sameReceipts ▸ held
    · exact approvals.signed row (sameReceipts ▸ present)
  cases exec_commit inv.history inv.outcomes done with
  | approved fenced mode belongs inserted =>
      simp only [exec, map_fst_ok] at done
      obtain ⟨result, done⟩ := done
      obtain ⟨_, recorded⟩ := recordEffectApproval_recorded ticks done
      refine ⟨fun approval present => ?_, approvals.signed⟩
      rcases recorded approval present with old | fresh
      · exact (approvals.recorded approval old).grow later fun _ held => held
      · exact fresh.grow (Nat.le_refl _) fun _ held => held
  | validated found mode validating belongs inserted rewritten =>
      simp only [exec, map_fst_ok] at done
      obtain ⟨receipt, done⟩ := done
      obtain ⟨row, signed, added⟩ := issueAndStoreValidationReceipt_signed done
      refine ⟨fun approval present => ?_, fun found present => ?_⟩
      · exact (approvals.recorded approval present).grow later fun old held =>
          (Table.mem_insert added old).mpr (Or.inl held)
      · rcases (Table.mem_insert added found).mp present with old | rfl
        · exact approvals.signed found old
        · exact signed
  | _ => exact same rfl rfl

theorem migrated_approvals (clock : ℕ) : Approvals (.migrated clock) := by
  constructor <;>
    · intro row present
      cases present

theorem Reachable.approvals (reached : Reachable env db) : Approvals db := by
  obtain ⟨clock, reached⟩ := reached
  have both : Inv db ∧ Approvals db := by
    apply reached.invariant
    · exact ⟨migrated_inv clock, migrated_approvals clock⟩
    · rintro state step ⟨inv, approvals⟩
      refine ⟨after_inv inv step, ?_⟩
      rcases after_cases env state step with ⟨next, done, after⟩ | ⟨_, after⟩
      · rw [after]
        exact approvals.kept inv (readings_ticks state step.delays) done
      · rw [after]
        exact ⟨fun approval present =>
          (approvals.recorded approval present).grow (Nat.le_add_right _ _) fun _ held => held,
          approvals.signed⟩
  exact both.2

end Kept

end LineageGuard
