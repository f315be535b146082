import LineageGuard.Guarantees.HeldLog
import LineageGuard.Scenario.CommandOperation
import LineageGuard.Scenario.Pending
import Mathlib.Tactic

/-
This file gives the ledger that relates the effects of the commands to the receipts of the log.
-/

namespace LineageGuard.Operations

open Attempt Dialogue Interleaving Sessions Scenario Latest

variable {Real Extra : Type}

abbrev Entry (Real Extra : Type) := Exchange (Call Real Extra) Reply

section Effects

def upsertKey (kind : String) (upsert : PlannedUpsert Extra) : OperationKey :=
  ⟨kind, some upsert.urn, some upsert.aspectName, upsert.idempotencyKey⟩

def resetKey (target : ResetTarget) : OperationKey :=
  ⟨"reset", some target.urn, none, target.idempotencyKey⟩

/-- Only an emission and a deletion change the catalog. -/
def effectOf (entry : Entry Real Extra) : Option OperationKey :=
  match entry.call with
  | .emit kind upsert => some (upsertKey kind upsert)
  | .delete target => some (resetKey target)
  | _ => none

/-- The effects stand in the order in which they were sent. -/
def effects (trace : List (Entry Real Extra)) : List OperationKey := trace.filterMap effectOf

/-- So many receipts of the operation have the status. -/
def recordings (log : List (OperationReceipt Real)) (status : ReceiptStatus) (key : OperationKey) :
    ℕ := log.countP fun receipt => receipt.key = key ∧ receipt.status = status

def IsLive (key : OperationKey) : Prop := key.operationKind ∈ liveReconciliationKinds

instance (key : OperationKey) : Decidable (IsLive key) := inferInstanceAs (Decidable (_ ∈ _))

/-- An emission to the entity was sent. -/
def Emitted (trace : List (Entry Real Extra)) (urn : String) : Prop :=
  ∃ entry ∈ trace, ∃ kind upsert, entry.call = .emit kind upsert ∧ upsert.urn = urn

/-- The log leaves the operation unresolved. -/
def Pending (scenarioId : String) (log : List (OperationReceipt Real)) (key : OperationKey) : Prop :=
  ∃ receipt ∈ unresolved scenarioId log, receipt.key = key

/-- The receipt of a success or of a skip closes the operation. -/
def Closes (key : OperationKey) (entry : Entry Real Extra) : Prop :=
  ∃ draft, entry.call = .append draft ∧ draft.key = key ∧
    (draft.status = .success ∨ draft.status = .skipped)

/-- The closing receipt reached the log. -/
def Closed (log : List (OperationReceipt Real)) (future : List (Entry Real Extra))
    (key : OperationKey) : Prop :=
  (∃ closing ∈ future, Closes key closing) ∧
    ∃ receipt ∈ log, receipt.key = key ∧ (receipt.status = .success ∨ receipt.status = .skipped)

end Effects

section Grounds

variable [DecidableEq Extra]

/-- A read shows whether an upsert is applied. -/
inductive Shows (upsert : PlannedUpsert Extra) : Entry Real Extra → Finding → Prop
  | aspect (current : Option (Aspect Extra)) :
      Shows upsert ⟨.aspect upsert.urn upsert.aspect.aspectType, .ok current⟩
        (findAspect upsert.aspect current)
  | usage (observed : List (ℤ × Option ℤ)) {timestampMillis count : ℤ}
      (isUsage : upsert.aspect.content = .queryUsageStatistics timestampMillis (some count)) :
      Shows upsert ⟨.usage upsert.urn, .ok observed⟩ (findObserved timestampMillis count observed)

/-- A read shows whether an entity is removed or carries the marker of its owner. -/
inductive ShowsTarget (target : ResetTarget) : Entry Real Extra → Finding → Prop
  | removed {current : Option (Aspect Extra)} (removed : isRemoved current = true) :
      ShowsTarget target ⟨.aspect target.urn .status, .ok current⟩ .applied
  | marked {aspectType : AspectClass} {aspect : Aspect Extra}
      (isType : markerAspect target.entityKind = some aspectType)
      (marker : hasMarker target.ownershipNonce aspect = true) :
      ShowsTarget target ⟨.aspect target.urn aspectType, .ok (some aspect)⟩ .notApplied

/-- A skip states one of these details after what the read showed. -/
def skipDetails : Finding → List String
  | .applied => ["ASPECT_SKIPPED_EXACT", "ALREADY_DELETED", "LIVE_RECONCILED_APPLIED"]
  | .notApplied => ["LIVE_RECONCILED_NOT_APPLIED"]
  | .conflict => []

/-- The receipt of a skip states what the last read showed. -/
inductive Grounded (draft : Draft Real) (last : Entry Real Extra) : Prop
  | upsert {upsert : PlannedUpsert Extra} {finding : Finding} (kind : String)
      (names : draft.key = upsertKey kind upsert) (shown : Shows upsert last finding)
      (detail : draft.detailCode ∈ skipDetails finding)
  | target {target : ResetTarget} {finding : Finding} (names : draft.key = resetKey target)
      (shown : ShowsTarget target last finding) (detail : draft.detailCode ∈ skipDetails finding)

/-- The server answered that the entity does not exist. -/
def Absent (trace : List (Entry Real Extra)) (urn : String) : Prop :=
  (⟨.exists urn, .ok false⟩ : Entry Real Extra) ∈ trace

/-- The server showed the marker of the owner on the entity. -/
def Marked (ownershipNonce : String) (trace : List (Entry Real Extra)) (urn : String) : Prop :=
  ∃ kind aspectType aspect, markerAspect kind = some aspectType ∧
    (⟨.aspect urn aspectType, .ok (some aspect)⟩ : Entry Real Extra) ∈ trace ∧
    hasMarker ownershipNonce aspect = true

variable (setting : Setting Real Extra)

/-- An entity that the scenario may delete was absent or carried its marker. -/
def Cleared (urn : String) (trace : List (Entry Real Extra)) : Prop :=
  urn ∈ setting.graph.ownedUrns → urn ≠ setting.graph.sourceField.schemaFieldUrn →
    Absent trace urn ∨ Marked setting.runtime.nonce trace urn

/-- The entity is in the allowlist and cleared, and the last read did not show the aspect. -/
structure Emittable (past : List (Entry Real Extra)) (upsert : PlannedUpsert Extra) : Prop where
  allowed : upsert.urn ∈ setting.graph.allowedMutationUrns
  cleared : Cleared setting upsert.urn past
  missing : ∃ last finding, past.getLast? = some last ∧ Shows upsert last finding ∧
    finding ≠ .applied

/-- The scenario owns the entity and emitted it, and the last read showed the owner's marker. -/
structure Deletable (past : List (Entry Real Extra)) (target : ResetTarget) : Prop where
  owned : target.urn ∈ setting.graph.ownedUrns
  noDomain : isDomainUrn target.urn = false
  nonce : target.ownershipNonce = setting.runtime.nonce
  emitted : Emitted past target.urn
  shown : ∃ last, past.getLast? = some last ∧ ShowsTarget target last .notApplied

def Skippable (past : List (Entry Real Extra)) (draft : Draft Real) : Prop :=
  IsLive draft.key → draft.status = .skipped →
    ∃ last, past.getLast? = some last ∧ Grounded draft last

/-- The calls before a call justify it. -/
def Justified (past : List (Entry Real Extra)) (entry : Entry Real Extra) : Prop :=
  match entry.call with
  | .emit _ upsert => Emittable setting past upsert
  | .delete target => Deletable setting past target
  | .append draft => Skippable past draft
  | _ => True

end Grounds

section Traces

variable {trace : List (Entry Real Extra)} {entry : Entry Real Extra}

/-- A split of a longer trace is at its end or before it. -/
theorem concat_split {past future : List (Entry Real Extra)} {other : Entry Real Extra}
    (split : trace ++ [entry] = past ++ other :: future) :
    (past = trace ∧ other = entry ∧ future = []) ∨
      ∃ between, future = between ++ [entry] ∧ trace = past ++ other :: between := by
  rcases List.eq_nil_or_concat' future with rfl | ⟨between, last, rfl⟩
  · obtain ⟨same, isEntry⟩ := List.append_inj' split rfl
    rw [List.cons.injEq] at isEntry
    exact Or.inl ⟨same.symm, isEntry.1.symm, rfl⟩
  · rw [← List.cons_append, ← List.append_assoc] at split
    obtain ⟨same, isEntry⟩ := List.append_inj' split rfl
    rw [List.cons.injEq] at isEntry
    rw [← isEntry.1]
    exact Or.inr ⟨between, rfl, same⟩

theorem Emitted.mono {urn : String} (emitted : Emitted trace urn) (more : List (Entry Real Extra)) :
    Emitted (trace ++ more) urn := by
  obtain ⟨entry, present, isEmission⟩ := emitted
  exact ⟨entry, List.mem_append_left _ present, isEmission⟩

theorem Absent.mono {urn : String} (absent : Absent trace urn) (more : List (Entry Real Extra)) :
    Absent (trace ++ more) urn := List.mem_append_left _ absent

theorem Marked.mono {ownershipNonce urn : String} (marked : Marked ownershipNonce trace urn)
    (more : List (Entry Real Extra)) : Marked ownershipNonce (trace ++ more) urn := by
  obtain ⟨kind, aspectType, aspect, isType, present, marker⟩ := marked
  exact ⟨kind, aspectType, aspect, isType, List.mem_append_left _ present, marker⟩

theorem Cleared.mono {setting : Setting Real Extra} {urn : String}
    (cleared : Cleared setting urn trace) (more : List (Entry Real Extra)) :
    Cleared setting urn (trace ++ more) := fun owned apart =>
  (cleared owned apart).imp (fun absent => absent.mono more) fun marked => marked.mono more

theorem effects_concat : effects (trace ++ [entry]) = effects trace ++ (effectOf entry).toList := by
  rw [effects, List.filterMap_append]
  cases isEffect : effectOf entry <;> simp [effects, isEffect]

end Traces

section Records

variable {log : List (OperationReceipt Real)} {draft : Draft Real} {scenarioId : String}
variable {receipt : OperationReceipt Real}

/-- The record of a draft has its contents. -/
structure RecordOf (draft : Draft Real) (receipt : OperationReceipt Real) : Prop where
  scenario : receipt.scenarioId = draft.scenarioId
  key : receipt.key = draft.key
  status : receipt.status = draft.status
  detail : receipt.detailCode = draft.detailCode

theorem recordings_concat (status : ReceiptStatus) (key : OperationKey) :
    recordings (log ++ [receipt]) status key = recordings log status key +
      if receipt.key = key ∧ receipt.status = status then 1 else 0 := by
  rw [recordings, List.countP_append, List.countP_singleton]
  simp only [decide_eq_true_eq]
  rfl

/-- An open receipt leaves its operation pending. -/
theorem pending_open (record : RecordOf draft receipt) (live : IsLive draft.key)
    (scenario : draft.scenarioId = scenarioId)
    (isOpen : draft.status ∈ openStatuses) :
    Pending scenarioId (log ++ [receipt]) draft.key := by
  refine ⟨receipt, unresolved_append_open (record.scenario.trans scenario) ?_, record.key⟩
  have kind : receipt.operationKind = draft.operationKind :=
    congrArg OperationKey.operationKind record.key
  rw [OperationReceipt.isOpen, kind, record.status, Bool.and_eq_true, List.contains_iff_mem,
    List.contains_iff_mem]
  exact ⟨live, isOpen⟩

theorem Pending.append {key : OperationKey} (pending : Pending scenarioId log key)
    (apart : receipt.key ≠ key) : Pending scenarioId (log ++ [receipt]) key := by
  obtain ⟨other, present, isKey⟩ := pending
  exact ⟨other, unresolved_kept present (by rw [isKey]; exact apart), isKey⟩

end Records

section Ledger

variable [DecidableEq Extra] (setting : Setting Real Extra)

/-- Planned effects are due, and a sent effect gives the credit for one success. -/
structure Ledger (log : List (OperationReceipt Real)) (trace : List (Entry Real Extra))
    (due credit : Finset OperationKey) (known : Set String) : Prop where
  planned : ∀ key, (effects trace).count key + (if key ∈ due then 1 else 0) ≤
    recordings log .planned key
  success : ∀ key, IsLive key → recordings log .success key + (if key ∈ credit then 1 else 0) ≤
    (effects trace).count key
  live : ∀ key ∈ effects trace, IsLive key
  failed : ∀ receipt ∈ log, receipt.status = .failure → IsLive receipt.key →
    receipt.key ∈ effects trace
  created : ∀ receipt ∈ log, isCreation receipt = true → ∀ urn, receipt.entityUrn = some urn →
    Emitted trace urn
  owed : ∀ key ∈ due, Pending setting.graph.scenarioId log key
  answered : ∀ past entry future key, trace = past ++ entry :: future → effectOf entry = some key →
    Pending setting.graph.scenarioId log key ∨ Closed log future key
  known : ∀ urn ∈ known, Emitted trace urn
  justified : ∀ past entry future, trace = past ++ entry :: future →
    Justified setting past entry

variable {setting} {log : List (OperationReceipt Real)} {trace : List (Entry Real Extra)}
variable {due credit : Finset OperationKey} {known : Set String} {entry : Entry Real Extra}

theorem Ledger.empty : Ledger setting [] [] ∅ ∅ ∅ where
  planned _ := by simp [effects]
  success _ _ := by simp [recordings]
  live := nofun
  failed := nofun
  created := nofun
  owed := nofun
  answered past entry future _ split := by simp at split
  known := nofun
  justified past entry future split := by simp at split

theorem Ledger.weaken {less fewer : Finset OperationKey} {part : Set String}
    (ledger : Ledger setting log trace due credit known) (dues : less ⊆ due)
    (credits : fewer ⊆ credit) (parts : part ⊆ known) :
    Ledger setting log trace less fewer part where
  planned key := by
    have bound := ledger.planned key
    by_cases inside : key ∈ less
    · rw [if_pos (dues inside)] at bound
      rw [if_pos inside]
      exact bound
    · rw [if_neg inside]
      omega
  success key live := by
    have bound := ledger.success key live
    by_cases inside : key ∈ fewer
    · rw [if_pos (credits inside)] at bound
      rw [if_pos inside]
      exact bound
    · rw [if_neg inside]
      omega
  live := ledger.live
  failed := ledger.failed
  created := ledger.created
  owed key inside := ledger.owed key (dues inside)
  answered := ledger.answered
  known urn inside := ledger.known urn (parts inside)
  justified := ledger.justified

/-- What answered the effects so far answers them after one more call. -/
theorem Ledger.answers (ledger : Ledger setting log trace due credit known)
    (last : ∀ key, effectOf entry = some key → Pending setting.graph.scenarioId log key) :
    ∀ past other future key, trace ++ [entry] = past ++ other :: future →
      effectOf other = some key →
      Pending setting.graph.scenarioId log key ∨ Closed log future key := by
  intro past other future key split isEffect
  rcases concat_split split with ⟨_, isEntry, _⟩ | ⟨between, isFuture, earlier⟩
  · rw [isEntry] at isEffect
    exact Or.inl (last key isEffect)
  · rw [isFuture]
    refine (ledger.answered past other between key earlier isEffect).imp id fun closed => ?_
    obtain ⟨⟨closing, present, closes⟩, recorded⟩ := closed
    exact ⟨⟨closing, List.mem_append_left _ present, closes⟩, recorded⟩

theorem Ledger.justifies (ledger : Ledger setting log trace due credit known)
    (justified : Justified setting trace entry) :
    ∀ past other future, trace ++ [entry] = past ++ other :: future →
      Justified setting past other := by
  intro past other future split
  rcases concat_split split with ⟨isTrace, isEntry, _⟩ | ⟨between, _, earlier⟩
  · rw [isTrace, isEntry]
    exact justified
  · exact ledger.justified past other between earlier

/-- A justified call keeps the ledger when it changes nothing. -/
theorem Ledger.extend (ledger : Ledger setting log trace due credit known)
    (quiet : effectOf entry = none) (justified : Justified setting trace entry) :
    Ledger setting log (trace ++ [entry]) due credit known := by
  have same : effects (trace ++ [entry]) = effects trace := by
    rw [effects_concat, quiet, Option.toList_none, List.append_nil]
  refine ⟨?_, ?_, ?_, ?_, ?_, ledger.owed, ?_, ?_, ledger.justifies justified⟩
  · rw [same]
    exact ledger.planned
  · rw [same]
    exact ledger.success
  · rw [same]
    exact ledger.live
  · rw [same]
    exact ledger.failed
  · exact fun receipt present creation urn isUrn =>
      (ledger.created receipt present creation urn isUrn).mono _
  · exact ledger.answers fun key isEffect => by
      rw [quiet] at isEffect
      exact nomatch isEffect
  · exact fun urn inside => (ledger.known urn inside).mono _

/-- The entity of an emission is known from then on. -/
def emittedBy (entry : Entry Real Extra) : Set String :=
  match entry.call with
  | .emit _ upsert => {upsert.urn}
  | _ => ∅

/-- A due effect is sent, and its success may be recorded. -/
theorem Ledger.send {key : OperationKey} (ledger : Ledger setting log trace due credit known)
    (isEffect : effectOf entry = some key) (owed : key ∈ due) (live : IsLive key)
    (justified : Justified setting trace entry) :
    Ledger setting log (trace ++ [entry]) (due.erase key) (insert key credit)
      (known ∪ emittedBy entry) := by
  have more : effects (trace ++ [entry]) = effects trace ++ [key] := by
    rw [effects_concat, isEffect, Option.toList_some]
  have counts : ∀ other, (effects (trace ++ [entry])).count other =
      (effects trace).count other + if other = key then 1 else 0 := by
    intro other
    rw [more, List.count_append, List.count_singleton]
    by_cases same : other = key
    · simp [same]
    · simp [same, Ne.symm same]
  refine ⟨?_, ?_, ?_, ?_, ?_, ?_, ?_, ?_, ledger.justifies justified⟩
  · intro other
    have bound := ledger.planned other
    rw [counts]
    by_cases same : other = key
    · rw [same, if_pos owed] at bound
      rw [same, if_pos rfl, if_neg (Finset.notMem_erase key due)]
      omega
    · rw [if_neg same]
      simp only [Finset.mem_erase, ne_eq, same, not_false_eq_true, true_and]
      exact bound
  · intro other isLive
    have bound := ledger.success other isLive
    rw [counts]
    by_cases same : other = key
    · rw [if_pos same, if_pos (by rw [same]; exact Finset.mem_insert_self key credit)]
      omega
    · rw [if_neg same]
      simp only [Finset.mem_insert, same, false_or]
      exact bound
  · intro other present
    rw [more, List.mem_append, List.mem_singleton] at present
    rcases present with earlier | isKey
    · exact ledger.live other earlier
    · rw [isKey]
      exact live
  · intro receipt present failed isLive
    rw [more]
    exact List.mem_append_left _ (ledger.failed receipt present failed isLive)
  · exact fun receipt present creation urn isUrn =>
      (ledger.created receipt present creation urn isUrn).mono _
  · exact fun other inside => ledger.owed other (Finset.mem_of_mem_erase inside)
  · exact ledger.answers fun other isOther => by
      rw [isEffect, Option.some.injEq] at isOther
      rw [← isOther]
      exact ledger.owed key owed
  · intro urn inside
    rcases inside with earlier | now
    · exact (ledger.known urn earlier).mono _
    · rw [emittedBy] at now
      split at now
      · next kind upsert isCall =>
          exact ⟨entry, List.mem_append_right _ (List.mem_singleton_self _), kind, upsert, isCall,
            now.symm⟩
      · exact nomatch now

variable (setting) in
/-- The draft may be appended, and these effects are due and credited afterwards. -/
structure Permitted (trace : List (Entry Real Extra)) (due credit : Finset OperationKey)
    (known : Set String) (draft : Draft Real) (later rest : Finset OperationKey) : Prop where
  scenario : IsLive draft.key → draft.scenarioId = setting.graph.scenarioId
  grounded : Skippable trace draft
  failed : draft.status = .failure → IsLive draft.key → draft.key ∈ effects trace
  success : draft.status = .success → IsLive draft.key → draft.key ∈ credit ∧ draft.key ∉ rest
  credits : rest ⊆ credit
  created : draft.operationKind = "entity" → draft.status = .success →
    draft.detailCode = "ENTITY_CREATED" → ∀ urn, draft.entityUrn = some urn → urn ∈ known
  dues : ∀ key ∈ later, (key ∈ due ∧ key ≠ draft.key) ∨
    (key = draft.key ∧ IsLive key ∧ draft.status ∈ openStatuses ∧
      (key ∈ due ∨ draft.status = .planned))

section Appending

variable {draft : Draft Real} {receipt : OperationReceipt Real} {later rest : Finset OperationKey}

/-- A permitted draft keeps the ledger when its record reaches the log. -/
theorem Ledger.append (ledger : Ledger setting log trace due credit known)
    (isCall : entry.call = .append draft) (record : RecordOf draft receipt)
    (permitted : Permitted setting trace due credit known draft later rest) :
    Ledger setting (log ++ [receipt]) (trace ++ [entry]) later rest known := by
  have quiet : effectOf entry = none := by rw [effectOf, isCall]
  have justified : Justified setting trace entry := by
    rw [Justified, isCall]
    exact permitted.grounded
  have extended := ledger.extend quiet justified
  refine ⟨?_, ?_, extended.live, ?_, ?_, ?_, ?_, extended.known, extended.justified⟩
  · intro key
    have bound := extended.planned key
    rw [recordings_concat, record.key, record.status]
    by_cases inside : key ∈ later
    · rw [if_pos inside]
      rcases permitted.dues key inside with ⟨owed, _⟩ | ⟨isKey, _, _, owed | planned⟩
      · rw [if_pos owed] at bound
        omega
      · rw [if_pos owed] at bound
        omega
      · rw [if_pos ⟨isKey.symm, planned⟩]
        omega
    · rw [if_neg inside]
      omega
  · intro key live
    have bound := extended.success key live
    rw [recordings_concat, record.key, record.status]
    by_cases succeeds : draft.key = key ∧ draft.status = .success
    · obtain ⟨isKey, isSuccess⟩ := succeeds
      rw [← isKey] at live bound ⊢
      obtain ⟨credited, spent⟩ := permitted.success isSuccess live
      rw [if_pos credited] at bound
      rw [if_pos ⟨rfl, isSuccess⟩, if_neg spent]
      exact bound
    · rw [if_neg succeeds]
      by_cases inside : key ∈ rest
      · rw [if_pos (permitted.credits inside)] at bound
        rw [if_pos inside]
        exact bound
      · rw [if_neg inside]
        omega
  · intro other present failure live
    rcases List.mem_append.mp present with earlier | now
    · exact extended.failed other earlier failure live
    · rw [List.mem_singleton.mp now] at failure live ⊢
      rw [record.status] at failure
      rw [record.key] at live ⊢
      rw [effects_concat]
      exact List.mem_append_left _ (permitted.failed failure live)
  · intro other present creation urn isUrn
    rcases List.mem_append.mp present with earlier | now
    · exact extended.created other earlier creation urn isUrn
    · rw [List.mem_singleton.mp now] at creation isUrn
      rw [isCreation, Bool.and_eq_true, Bool.and_eq_true, decide_eq_true_eq, decide_eq_true_eq,
        decide_eq_true_eq, record.status, record.detail] at creation
      have kind : receipt.operationKind = draft.operationKind :=
        congrArg OperationKey.operationKind record.key
      have entity : receipt.entityUrn = draft.entityUrn :=
        congrArg OperationKey.entityUrn record.key
      rw [kind] at creation
      rw [entity] at isUrn
      exact (ledger.known urn (permitted.created creation.1.1 creation.1.2 creation.2 urn
        isUrn)).mono _
  · intro key inside
    rcases permitted.dues key inside with ⟨owed, apart⟩ | ⟨isKey, live, isOpen, _⟩
    · refine (ledger.owed key owed).append ?_
      rw [record.key]
      exact Ne.symm apart
    · rw [isKey] at live ⊢
      exact pending_open record live (permitted.scenario live) isOpen
  · intro past other future key split isEffect
    have live : IsLive key := extended.live key (by
      rw [split, effects, List.mem_filterMap]
      exact ⟨other, List.mem_append_right _ List.mem_cons_self, isEffect⟩)
    rcases concat_split split with ⟨_, isEntry, _⟩ | ⟨between, isFuture, _⟩
    · rw [isEntry, quiet] at isEffect
      exact nomatch isEffect
    by_cases isKey : draft.key = key
    · rw [← isKey] at live ⊢
      by_cases isOpen : draft.status ∈ openStatuses
      · exact Or.inl (pending_open record live (permitted.scenario live) isOpen)
      · have closing : draft.status = .success ∨ draft.status = .skipped := by
          cases isStatus : draft.status <;> simp_all [openStatuses]
        refine Or.inr ⟨⟨entry, ?_, draft, isCall, rfl, closing⟩, receipt, ?_, record.key, ?_⟩
        · rw [isFuture]
          exact List.mem_append_right _ (List.mem_singleton_self _)
        · exact List.mem_append_right _ (List.mem_singleton_self _)
        · rw [record.status]
          exact closing
    · refine (extended.answered past other future key split isEffect).imp (fun pending => ?_) ?_
      · refine pending.append ?_
        rw [record.key]
        exact isKey
      · intro closed
        obtain ⟨closing, closer, present, closes⟩ := closed
        exact ⟨closing, closer, List.mem_append_left _ present, closes⟩

end Appending

end Ledger

end LineageGuard.Operations
