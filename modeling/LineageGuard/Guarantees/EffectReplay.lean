import LineageGuard.Guarantees.EffectEntry
import Mathlib.Tactic

/-
This file shows that a repeated call that begins an effect finds the intent of the first call.
-/

namespace LineageGuard

open Relational Attempt Store

variable {env : Environment} {db : Db} {t : ℕ → ℕ}

section Checks

/-- These are all checks of a call before it looks for an earlier intent. -/
def beginChecks (env : Environment) (db : Db) (t : ℕ → ℕ) (input : EffectInput) :
    Except StoreError SignedLiveValidationReceipt := do
  let request := input.request
  require (1 ≤ utf16Length request.target ∧ utf16Length request.target ≤ 500)
    (.type "effect target must be 1-500 characters")
  canonical input.payload 1048576
  require (request.inputFingerprint = env.script.effectInput input.payload)
    (.stateConflict "effect input fingerprint does not match canonical payload")
  let run ← lockRunForLease db (t 0) request.runId input.guard
  require (run.status = effectState request.kind)
    (.stateConflict "effect is not allowed from the current status")
  require (run.executionMode = .live)
    (.stateConflict "verified replay cannot authorize approval or effects")
  let validation ← assertAcceptedValidation env db (t 1) request.runId true false
  whenever (env.mutationMode = .production) do
    let _ ← requireCurrentApproval env db request (toDate (t 2))
    pure ()
  pure validation

/-- An intent has the key of a call. -/
def SameKey (row : IntentRow) (input : EffectInput) : Prop :=
  row.kind = input.request.kind ∧ row.target = input.request.target ∧
    row.idempotencyKey = input.idempotencyKey

instance (row : IntentRow) (input : EffectInput) : Decidable (SameKey row input) :=
  inferInstanceAs (Decidable (_ ∧ _))

def earlierIntent (db : Db) (input : EffectInput) : Option IntentRow :=
  db.intents.find? fun row => row.kind = input.request.kind ∧ row.target = input.request.target ∧
    row.idempotencyKey = input.idempotencyKey

theorem earlierIntent_eq {input : EffectInput} {row : IntentRow} :
    earlierIntent db input = some row ↔ row ∈ db.intents ∧ SameKey row input := by
  have unique : ∀ left right : IntentRow,
      decide (left.kind = input.request.kind ∧ left.target = input.request.target ∧
        left.idempotencyKey = input.idempotencyKey) = true →
      decide (right.kind = input.request.kind ∧ right.target = input.request.target ∧
        right.idempotencyKey = input.idempotencyKey) = true → Schema.conflict left right := by
    intro left right isLeft isRight
    obtain ⟨kind, target, key⟩ := of_decide_eq_true isLeft
    obtain ⟨kindToo, targetToo, keyToo⟩ := of_decide_eq_true isRight
    refine Or.inr ?_
    rw [kind, target, key, kindToo, targetToo, keyToo]
  rw [earlierIntent, Table.find?_eq_some unique, decide_eq_true_eq]
  rfl

theorem beginEffect_eq (input : EffectInput) (id : IntentId) :
    beginEffect env db t input id = (do
      let validation ← beginChecks env db t input
      match earlierIntent db input with
      | some row =>
          require (SameIntent env row input (env.script.receiptId validation) validation)
            (.idempotencyConflict "effect key was reused with different input or run")
          pure (db, ⟨row, db.receiptOf? row.id, false, input.guard.fencingVersion⟩)
      | none =>
          let row : IntentRow :=
            { id, runId := input.request.runId, kind := input.request.kind
              target := input.request.target, idempotencyKey := input.idempotencyKey
              inputFingerprint := input.request.inputFingerprint, input := input.payload
              validationReceiptId := env.script.receiptId validation
              candidateFingerprint := validation.protectedHeaders.candidateFingerprint
              artifactSetFingerprint := validation.payload.artifactSetFingerprint }
          let stored ← effectInsertIntent db (fun reading => t (reading + 3)) row input.guard
          pure (stored, ⟨row, stored.receiptOf? row.id, true, input.guard.fencingVersion + 1⟩)) := by
  simp only [beginEffect, beginChecks, bind_assoc, pure_bind]
  rfl

theorem beginEffect_refused {input : EffectInput} {error : StoreError}
    (refused : beginChecks env db t input = .error error) (id : IntentId) :
    beginEffect env db t input id = .error error := by
  rw [beginEffect_eq, refused]
  rfl

theorem beginChecks_ok {input : EffectInput} {validation : SignedLiveValidationReceipt}
    (checked : beginChecks env db t input = .ok validation) :
    input.request.inputFingerprint = env.script.effectInput input.payload ∧
      ∃ row, db.latestValidation? input.request.runId = some row ∧
        env.script.receiptId validation = row.id := by
  simp only [beginChecks, bind_ok, require_ok, exists_const, pure_ok] at checked
  obtain ⟨_, _, _, fingerprint, _, _, _, _, found, accepted, _, _, rfl⟩ := checked
  obtain ⟨row, latest, _, named, _⟩ := assertAcceptedValidation_ok.mp accepted
  exact ⟨fingerprint, row, latest, named⟩

/-- A call that begins leaves an intent that repeats its key, its run, its input and its validation. -/
theorem beginEffect_intended {input : EffectInput} {id : IntentId} {next : Db} {begun : BegunEffect}
    (done : beginEffect env db t input id = .ok (next, begun)) :
    ∃ validation, beginChecks env db t input = .ok validation ∧ begun.intent ∈ next.intents ∧
      SameKey begun.intent input ∧
      SameIntent env begun.intent input (env.script.receiptId validation) validation := by
  rw [beginEffect_eq] at done
  obtain ⟨validation, checked, done⟩ := bind_ok.mp done
  refine ⟨validation, checked, ?_⟩
  split at done
  · next row found =>
      simp only [bind_ok, require_ok, exists_const, pure_ok, Prod.mk.injEq] at done
      obtain ⟨same, rfl, rfl⟩ := done
      obtain ⟨present, key⟩ := earlierIntent_eq.mp found
      exact ⟨present, key, same⟩
  · simp only [bind_ok, pure_ok, Prod.mk.injEq] at done
    obtain ⟨stored, inserted, rfl, rfl⟩ := done
    obtain ⟨_, intents, runs, added, _, rfl⟩ := effectInsertIntent_ok inserted
    exact ⟨(Table.mem_insert added _).mpr (Or.inr rfl), ⟨rfl, rfl, rfl⟩,
      ⟨rfl, rfl, rfl, rfl, rfl, rfl⟩⟩

end Checks

section Replay

theorem run_intent (env : Environment) (inv : Inv db) (steps : List Step) {intent : IntentRow}
    (present : intent ∈ db.intents) : intent ∈ (Runs.run (after env) db steps).intents := by
  induction steps generalizing db with
  | nil => exact present
  | cons step rest ih =>
      obtain ⟨op, next, commit, state, _⟩ := after_commit env inv step
      refine ih (after_inv inv step) ?_
      rw [state]
      exact commit.intents_grow present

/-- Two calls with the validation of one intent belong to the run of the intent. -/
theorem Inv.validation_run (inv : Inv db) {intent : IntentRow} (present : intent ∈ db.intents)
    {runId : RunId} {row : ValidationReceiptRow} (latest : db.latestValidation? runId = some row)
    (same : row.id = intent.validationReceiptId) : intent.runId = runId := by
  obtain ⟨run, validation, binds⟩ := inv.bindings.intents intent present
  obtain ⟨isRow, belongs⟩ := Db.latestValidation?_mem latest
  obtain ⟨isValidation, validationBelongs⟩ := Db.latestValidation?_mem binds.latest
  have equal : row = validation :=
    Table.eq_of_conflict isRow isValidation (Or.inl (same.trans binds.receiptId))
  rw [← validationBelongs, ← equal, belongs]

/-- The digests of different documents and receipts differ. -/
structure CollisionFree (script : ScriptHashing) : Prop where
  receiptId : Function.Injective script.receiptId
  effectInput : ∀ first second, script.effectInput first = script.effectInput second →
    script.document first = script.document second

/-- A later call with the key of an earlier one gets its intent, or it fails with a conflict. -/
structure Replayed (env : Environment) (db : Db) (t : ℕ → ℕ) (input : EffectInput)
    (intent : IntentRow) (again : EffectInput) (id : IntentId) : Prop where
  same : ∀ validation, beginChecks env db t again = .ok validation →
    again.request.inputFingerprint = input.request.inputFingerprint →
    env.script.receiptId validation = intent.validationReceiptId →
    beginEffect env db t again id =
      .ok (db, ⟨intent, db.receiptOf? intent.id, false, again.guard.fencingVersion⟩)
  differs : ∀ validation, beginChecks env db t again = .ok validation →
    ¬ (again.request.inputFingerprint = input.request.inputFingerprint ∧
      env.script.receiptId validation = intent.validationReceiptId) →
    beginEffect env db t again id =
      .error (.idempotencyConflict "effect key was reused with different input or run")
  refused : ∀ error, beginChecks env db t again = .error error →
    beginEffect env db t again id = .error error

/-- A call that finds an earlier intent answers by its comparison alone. -/
theorem beginEffect_earlier {again : EffectInput} {intent : IntentRow}
    {validation : SignedLiveValidationReceipt}
    (checked : beginChecks env db t again = .ok validation)
    (found : earlierIntent db again = some intent) (id : IntentId) :
    beginEffect env db t again id =
      if SameIntent env intent again (env.script.receiptId validation) validation then
        .ok (db, ⟨intent, db.receiptOf? intent.id, false, again.guard.fencingVersion⟩)
      else .error (.idempotencyConflict "effect key was reused with different input or run") := by
  rw [beginEffect_eq, checked, found]
  by_cases same : SameIntent env intent again (env.script.receiptId validation) validation
  · rw [if_pos same]
    change (require _ _ >>= _) = _
    rw [require, if_pos same]
    rfl
  · rw [if_neg same]
    change (require _ _ >>= _) = _
    rw [require, if_neg same]
    rfl

/-- A call that finds an earlier intent never changes the state. -/
theorem beginEffect_unchanged {again : EffectInput} {intent : IntentRow}
    (found : earlierIntent db again = some intent) {id : IntentId} {next : Db} {begun : BegunEffect}
    (done : beginEffect env db t again id = .ok (next, begun)) : next = db := by
  cases checked : beginChecks env db t again with
  | error error =>
      rw [beginEffect_refused checked] at done
      exact nomatch done
  | ok validation =>
      rw [beginEffect_earlier checked found] at done
      split at done
      · exact (Prod.mk.inj (Except.ok.inj done)).1.symm
      · exact nomatch done

theorem after_begin {again : EffectInput} {intent : IntentRow}
    (found : earlierIntent db again = some intent) {id : IntentId} {delays : List ℕ} :
    after env db ⟨delays, .beginEffect again id⟩ =
      { db with clock := db.clock + delays.sum } := by
  rcases after_cases env db ⟨delays, .beginEffect again id⟩ with ⟨next, done, state⟩ | ⟨_, state⟩
  · obtain ⟨begun, isBegun⟩ := map_fst_ok.mp done
    rw [state, beginEffect_unchanged found isBegun]
  · exact state

/-- Two calls with one key begin one effect: a repeated call returns the intent of the first call and
changes nothing, any other call with the key fails, and no key ever has two intents. -/
theorem begin_idempotent (reached : Reachable env db) (collisionFree : CollisionFree env.script)
    (delays : List ℕ) (input : EffectInput) (id : IntentId) {next : Db} {begun : BegunEffect}
    (first : beginEffect env db (readings db delays) input id = .ok (next, begun))
    (steps : List Step) (later : Db)
    (isLater : later = Runs.run (after env) (after env db ⟨delays, .beginEffect input id⟩) steps)
    (delaysAgain : List ℕ) (again : EffectInput) (idAgain : IntentId)
    (sameKey : again.request.kind = input.request.kind ∧
      again.request.target = input.request.target ∧ again.idempotencyKey = input.idempotencyKey) :
    Replayed env later (readings later delaysAgain) input begun.intent again idAgain ∧
    after env later ⟨delaysAgain, .beginEffect again idAgain⟩ =
      { later with clock := later.clock + delaysAgain.sum } ∧
    ∀ one ∈ later.intents, ∀ other ∈ later.intents, one.kind = other.kind →
      one.target = other.target → one.idempotencyKey = other.idempotencyKey → one = other := by
  obtain ⟨validation, checked, present, key, sameIntent⟩ := beginEffect_intended first
  have stored : begun.intent ∈ (after env db ⟨delays, .beginEffect input id⟩).intents := by
    have done : exec env db (readings db delays) (.beginEffect input id) = .ok next :=
      map_fst_ok.mpr ⟨begun, first⟩
    rw [after, done]
    exact present
  have inv := @after_inv env db reached.inv ⟨delays, .beginEffect input id⟩
  have isIntent := run_intent env inv steps stored
  have laterInv := run_inv env inv steps
  rw [← isLater] at isIntent laterInv
  have found : earlierIntent later again = some begun.intent := by
    refine earlierIntent_eq.mpr ⟨isIntent, key.1.trans sameKey.1.symm,
      key.2.1.trans sameKey.2.1.symm, key.2.2.trans sameKey.2.2.symm⟩
  obtain ⟨runId, fingerprint, receiptId, candidate, artifacts, document⟩ := sameIntent
  have agrees : ∀ other, beginChecks env later (readings later delaysAgain) again = .ok other →
      (SameIntent env begun.intent again (env.script.receiptId other) other ↔
        again.request.inputFingerprint = input.request.inputFingerprint ∧
          env.script.receiptId other = begun.intent.validationReceiptId) := by
    intro other otherChecked
    obtain ⟨otherFingerprint, row, latest, named⟩ := beginChecks_ok otherChecked
    constructor
    · rintro ⟨_, same, sameReceipt, _⟩
      exact ⟨same.symm.trans fingerprint, sameReceipt.symm⟩
    · rintro ⟨same, sameReceipt⟩
      have equal : other = validation :=
        collisionFree.receiptId (sameReceipt.trans receiptId)
      have sameRun := laterInv.validation_run isIntent latest (named.symm.trans sameReceipt)
      have payloads : env.script.effectInput input.payload =
          env.script.effectInput again.payload := by
        rw [← (beginChecks_ok checked).1, ← otherFingerprint, same]
      subst equal
      exact ⟨sameRun, fingerprint.trans same.symm, receiptId, candidate, artifacts,
        document.trans (collisionFree.effectInput _ _ payloads)⟩
  refine ⟨⟨?_, ?_, fun error refused => beginEffect_refused refused idAgain⟩, ?_, ?_⟩
  · intro other otherChecked same sameReceipt
    rw [beginEffect_earlier otherChecked found, if_pos ((agrees other otherChecked).mpr
      ⟨same, sameReceipt⟩)]
  · intro other otherChecked different
    rw [beginEffect_earlier otherChecked found, if_neg fun same =>
      different ((agrees other otherChecked).mp same)]
  · exact after_begin found
  · intro one isOne other isOther kind target key
    refine Table.eq_of_conflict isOne isOther (Or.inr ?_)
    rw [kind, target, key]

end Replay

section Sample

instance countableString : Countable String :=
  Function.Injective.countable (f := fun text : String => text.toList.map Char.toNat) <| by
    intro first second same
    refine String.toList_injective (List.map_injective_iff.mpr ?_ same)
    exact fun _ _ => Char.toNat_inj.mp

deriving instance Countable for Id
deriving instance Countable for Fingerprint
deriving instance Countable for Jsonb
deriving instance Countable for IsoDateTime
deriving instance Countable for SignatureAlgorithm
deriving instance Countable for ProtectedHeaders
deriving instance Countable for ValidationPayload
deriving instance Countable for SignedLiveValidationReceipt

/-- A number for every receipt exists because receipts are countable. -/
noncomputable def receiptNumber : SignedLiveValidationReceipt → ℕ :=
  (exists_injective_nat SignedLiveValidationReceipt).choose

/-- The digests of this environment are the sample digests, and receipts that differ have different
identities. -/
noncomputable def distinctEnvironment : Environment :=
  { sampleEnvironment with
    script :=
      { sampleEnvironment.script with
        receiptId := fun receipt =>
          if receipt = sampleReceipt then ⟨3⟩ else ⟨4 + receiptNumber receipt⟩ } }

theorem distinct_collisionFree : CollisionFree distinctEnvironment.script where
  receiptId := by
    intro first second same
    have numbers := (exists_injective_nat SignedLiveValidationReceipt).choose_spec
    simp only [distinctEnvironment] at same
    split at same <;> split at same
    · next isFirst isSecond => exact isFirst.trans isSecond.symm
    · have : 3 = 4 + receiptNumber second := congrArg Id.suffix same
      omega
    · have : 4 + receiptNumber first = 3 := congrArg Id.suffix same
      omega
    · refine numbers ?_
      have : 4 + receiptNumber first = 4 + receiptNumber second := congrArg Id.suffix same
      exact Nat.add_left_cancel this
  effectInput := fun _ _ same => same

/-- The validated run has its approval. -/
def authorizedSteps : List Step := validatedSteps ++
  [sampleStep (.recordEffectApproval
      ⟨sampleRequest, sampleGuard 13, "approver-1", 10, 1000000, sampleAssertion⟩ ⟨1⟩)]

noncomputable def distinctState : Db :=
  Runs.run (after distinctEnvironment) (.migrated 0) authorizedSteps

theorem distinctState_reachable : Reachable distinctEnvironment distinctState :=
  ⟨0, authorizedSteps, rfl⟩

def firstCall : EffectInput := ⟨sampleRequest, sampleGuard 13, "key-1", ⟨7, 1⟩⟩

/-- The worker repeats its call with the version that the first call left. -/
def repeatedCall : EffectInput := { firstCall with guard := sampleGuard 14 }

noncomputable def begunState : Db :=
  after distinctEnvironment distinctState ⟨[1000], .beginEffect firstCall ⟨1⟩⟩

theorem begunState_eq : begunState = Runs.run (after distinctEnvironment)
    (after distinctEnvironment distinctState ⟨[1000], .beginEffect firstCall ⟨1⟩⟩) [] := by
  rw [begunState]
  exact (Runs.run_nil _ _).symm

theorem mem_toOption {Error Value : Type} {result : Except Error Value} {value : Value} :
    value ∈ result.toOption ↔ result = .ok value := by
  cases result with
  | error error => exact iff_of_false (fun present => nomatch present) (fun done => nomatch done)
  | ok found => exact ⟨fun same => congrArg Except.ok (Option.some.inj same), fun same =>
      congrArg some (Except.ok.inj same)⟩

theorem begin_idempotent_repeated : ∃ next begun,
    beginEffect distinctEnvironment distinctState (readings distinctState [1000]) firstCall ⟨1⟩ =
      .ok (next, begun) ∧ begun.created = true ∧
    beginEffect distinctEnvironment begunState (readings begunState [1000]) repeatedCall ⟨2⟩ =
      .ok (begunState, ⟨begun.intent, begunState.receiptOf? begun.intent.id, false, 14⟩) := by
  have begins : ∃ result ∈ (beginEffect distinctEnvironment distinctState
      (readings distinctState [1000]) firstCall ⟨1⟩).toOption,
      result.2.created = true ∧ result.2.intent.validationReceiptId = ⟨3⟩ := by
    decide +kernel
  have checks : ∃ validation ∈ (beginChecks distinctEnvironment begunState
      (readings begunState [1000]) repeatedCall).toOption,
      distinctEnvironment.script.receiptId validation = ⟨3⟩ := by
    decide +kernel
  obtain ⟨⟨next, begun⟩, begins, created, bound⟩ := begins
  obtain ⟨validation, checked, named⟩ := checks
  have first := mem_toOption.mp begins
  have replayed := (begin_idempotent distinctState_reachable distinct_collisionFree [1000]
    firstCall ⟨1⟩ first [] begunState begunState_eq [1000] repeatedCall ⟨2⟩ ⟨rfl, rfl, rfl⟩).1
  exact ⟨next, begun, first, created,
    replayed.same validation (mem_toOption.mp checked) rfl (named.trans bound.symm)⟩

end Sample

end LineageGuard
