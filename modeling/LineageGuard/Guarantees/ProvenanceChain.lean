import LineageGuard.Scenario.Pending
import LineageGuard.Scenario.Provenance
import Mathlib.Tactic

/-
This file proves which logs have the provenance that a seed requires.
-/

namespace LineageGuard.Scenario

open Attempt Latest

section Members

variable {Real : Type}

/-- The last receipt of the operation has one of these outcomes. -/
structure IsCurrent (receipts : List (OperationReceipt Real)) (identity : ExactOperationIdentity)
    (status : ReceiptStatus) (detailCode : String) (resolved : ResolvedOperationReceipt Real) :
    Prop where
  last : latest identity.accepts receipts = some resolved
  proposal : resolved.2.proposalHash = identity.proposalHash
  status : resolved.2.status = status
  detail : resolved.2.detailCode = detailCode

theorem resolved_iff {receipts : List (OperationReceipt Real)} {identity : ExactOperationIdentity}
    {status : ReceiptStatus} {detailCode errorPrefix : String}
    {resolved : ResolvedOperationReceipt Real} :
    resolveLatestExactOperation receipts identity [(status, detailCode)] errorPrefix =
      .ok resolved ↔ IsCurrent receipts identity status detailCode resolved := by
  rw [resolveLatestExactOperation_ok, List.mem_singleton, Prod.mk.injEq]
  constructor
  · intro holds
    exact ⟨holds.1, holds.2.1, holds.2.2.1, holds.2.2.2⟩
  · intro current
    exact ⟨current.last, current.proposal, current.status, current.detail⟩

/-- The last receipt of an operation is unique. -/
theorem IsCurrent.unique {receipts : List (OperationReceipt Real)}
    {identity : ExactOperationIdentity} {status other : ReceiptStatus} {detailCode text : String}
    {first second : ResolvedOperationReceipt Real}
    (isFirst : IsCurrent receipts identity status detailCode first)
    (isSecond : IsCurrent receipts identity other text second) : first = second :=
  Option.some.inj (isFirst.last.symm.trans isSecond.last)

/-- A later receipt of the operation is the current one. -/
theorem IsCurrent.appended {receipts : List (OperationReceipt Real)}
    {identity : ExactOperationIdentity} {status : ReceiptStatus} {detailCode : String}
    {resolved : ResolvedOperationReceipt Real} {receipt : OperationReceipt Real}
    (accepted : identity.accepts receipt = true)
    (current : IsCurrent (receipts ++ [receipt]) identity status detailCode resolved) :
    receipt.proposalHash = identity.proposalHash ∧ receipt.status = status ∧
      receipt.detailCode = detailCode := by
  have last := current.last
  rw [latest_append, if_pos accepted, Option.some.injEq] at last
  rw [← last] at current
  exact ⟨current.proposal, current.status, current.detail⟩

theorem failureOf_nil {result : Except String (ResolvedOperationReceipt Real)} :
    failureOf result = [] ↔ ∃ resolved, result = .ok resolved := by
  cases result <;> simp [failureOf]

theorem recipeFailure_nil {result : Except String ℕ} :
    recipeFailure result = [] ↔ ∃ index, result = .ok index := by
  cases result <;> simp [recipeFailure]

theorem reconciliationFailures_nil {receipts : List (OperationReceipt Real)}
    {provenance : Provenance Real} : reconciliationFailures receipts provenance = [] ↔
    unresolved provenance.scenarioId receipts = [] := by
  rw [reconciliationFailures]
  split
  · next none => simp [none]
  · next some => simp [some]

end Members

section Chains

variable {Real : Type} [DecidableEq Real] (sha256 : String → String)
variable (receipts : List (OperationReceipt Real)) (provenance : Provenance Real)

def warehouseIdentity (idempotencyKey proposalHash : String) : ExactOperationIdentity :=
  ⟨provenance.scenarioId, "warehouse", none, some "canonical-schema", idempotencyKey, proposalHash⟩

def buildIdentity (aspect digest : String) : ExactOperationIdentity :=
  dbtIdentity provenance.scenarioId provenance.dbtProjectSha256 aspect digest

def queryIdentity : ExactOperationIdentity :=
  ⟨provenance.scenarioId, "query", none, some "pg_stat_statements", provenance.queryFingerprint,
    provenance.queryFingerprint⟩

def ingestIdentity (place : ℕ) : ExactOperationIdentity :=
  ⟨provenance.scenarioId, "ingest", none, some (recipePath place), recipeDigest place,
    recipeDigest place⟩

/-- The warehouse is ready for this owner, and no newer receipt speaks about it. -/
structure IsWarehouse (warehouse : ResolvedOperationReceipt Real) : Prop where
  last : latest (isWarehouseReceipt provenance.scenarioId) receipts = some warehouse
  status : warehouse.2.status = .success
  detail : warehouse.2.detailCode = "WAREHOUSE_READY"
  bound : receiptHasRegistryBinding sha256 warehouse.2 provenance.binding

/-- The three receipts of a build follow the warehouse, and the artifacts are the last of them. -/
structure IsBuild (warehouse build docs artifacts : ResolvedOperationReceipt Real) : Prop where
  ready : IsWarehouse sha256 receipts provenance warehouse
  built : IsCurrent receipts (buildIdentity provenance "build" (dbtBuildCommandFingerprint sha256))
    .success "DBT_COMMAND_SUCCEEDED" build
  documented : IsCurrent receipts
    (buildIdentity provenance "docs-generate" (dbtDocsCommandFingerprint sha256))
    .success "DBT_COMMAND_SUCCEEDED" docs
  verified : IsCurrent receipts
    (buildIdentity provenance "artifact-set" (dbtArtifactVerificationFingerprint sha256))
    .success "DBT_ARTIFACTS_VERIFIED" artifacts
  bound : ∀ member ∈ [build, docs, artifacts],
    receiptHasRegistryBinding sha256 member.2 provenance.binding
  digests : artifacts.2.metrics.Binds
    (expectedBuildMetrics provenance.dbtProjectSha256 provenance.artifactMetrics).entries
  final : (latest (isDbtReceipt provenance.scenarioId) receipts).map (·.1) = some artifacts.1
  ordered : warehouse.1 < build.1 ∧ build.1 < docs.1 ∧ docs.1 < artifacts.1

/-- The latest ingest of the recipe succeeded for this target and these artifacts. -/
structure IsIngest (place : ℕ) (ingest : ResolvedOperationReceipt Real) : Prop where
  current : IsCurrent receipts (ingestIdentity provenance place) .success "INGESTED" ingest
  final : ∃ last, latest (isIngestReceipt provenance (recipePath place)) receipts = some last ∧
    last.2.idempotencyKey = recipeDigest place ∧ last.2.proposalHash = recipeDigest place
  target : ingest.2.metrics.Binds (targetEntries provenance.binding)
  bound : receiptHasRegistryBinding sha256 ingest.2 provenance.binding
  digests : ingest.2.metrics.Binds (expectedIngestMetrics provenance).entries

/-- Every step of the chain is current, bound to the same target and later than the step before. -/
structure IsChain (artifacts query postgres ingested : ResolvedOperationReceipt Real) : Prop where
  resolved : unresolved provenance.scenarioId receipts = []
  built : ∃ warehouse build docs, IsBuild sha256 receipts provenance warehouse build docs artifacts
  queried : IsCurrent receipts (queryIdentity provenance) .success "PG_STAT_OBSERVED" query
  bound : receiptHasRegistryBinding sha256 query.2 provenance.binding
  first : IsIngest sha256 receipts provenance 0 postgres
  second : IsIngest sha256 receipts provenance 1 ingested
  ordered : artifacts.1 < query.1 ∧ query.1 < postgres.1 ∧ postgres.1 < ingested.1

variable {sha256 receipts provenance}

theorem warehouse_iff {warehouse : ResolvedOperationReceipt Real} :
    warehouseOf sha256 receipts provenance = .ok warehouse ↔
      IsWarehouse sha256 receipts provenance warehouse := by
  have narrow : ∀ expected : ResolvedOperationReceipt Real,
      latest (isWarehouseReceipt provenance.scenarioId) receipts = some expected →
      latest (warehouseIdentity provenance expected.2.idempotencyKey
        expected.2.proposalHash).accepts receipts = some expected := by
    intro expected isExpected
    obtain ⟨_, accepted, _⟩ := latest_some.mp isExpected
    refine latest_narrow isExpected ?_ ?_
    · simp only [isWarehouseReceipt, Bool.and_eq_true, decide_eq_true_eq] at accepted
      simp [ExactOperationIdentity.accepts, warehouseIdentity, ExactOperationIdentity.key,
        OperationReceipt.key, accepted]
    · intro other narrower
      simp only [ExactOperationIdentity.accepts, warehouseIdentity, ExactOperationIdentity.key,
        OperationReceipt.key, Bool.and_eq_true, decide_eq_true_eq, OperationKey.mk.injEq] at narrower
      simp [isWarehouseReceipt, narrower.2, of_decide_eq_true narrower.1]
  simp only [warehouseOf, latestWarehouseReceipt, bind_ok, present_ok, require_ok, pure_ok,
    exists_const, resolved_iff]
  constructor
  · intro holds
    obtain ⟨expected, isExpected, resolved, current, bound, same⟩ := holds
    have found : expected = resolved :=
      Option.some.inj ((narrow expected isExpected).symm.trans current.last)
    subst found
    subst same
    exact ⟨isExpected, current.status, current.detail, bound⟩
  · intro isWarehouse
    exact ⟨warehouse, isWarehouse.last, warehouse, ⟨narrow warehouse isWarehouse.last, rfl,
      isWarehouse.status, isWarehouse.detail⟩, isWarehouse.bound, rfl⟩

theorem dbtCommand_iff {artifactIndex index : ℕ} {aspect digest : String} :
    dbtCommand sha256 receipts provenance.scenarioId provenance.binding provenance.dbtProjectSha256
        artifactIndex aspect digest = .ok index ↔
      ∃ command, IsCurrent receipts (buildIdentity provenance aspect digest) .success
          "DBT_COMMAND_SUCCEEDED" command ∧ command.1 < artifactIndex ∧
        receiptHasRegistryBinding sha256 command.2 provenance.binding ∧ command.1 = index := by
  simp only [dbtCommand, renamed, bind_ok, mapError_ok, require_ok, pure_ok, exists_const,
    resolved_iff, buildIdentity, and_assoc]

theorem build_iff {artifacts : ResolvedOperationReceipt Real} :
    buildOf sha256 receipts provenance = .ok artifacts ↔
      ∃ warehouse build docs, IsBuild sha256 receipts provenance warehouse build docs artifacts := by
  simp only [buildOf, requireDbtBuildProvenance, renamed, bind_ok, mapError_ok, require_ok,
    pure_ok, exists_const, resolved_iff, dbtCommand_iff]
  constructor
  · intro holds
    obtain ⟨found, verified, ⟨bound, digests⟩, final, _, ⟨build, built, _, buildBound, rfl⟩, _,
      ⟨docs, documented, earlier, docsBound, rfl⟩, later, warehouse, isWarehouse, ready, rfl⟩ := holds
    exact ⟨warehouse, build, docs, warehouse_iff.mp isWarehouse, built, documented, verified,
      by simp [buildBound, docsBound, bound], digests, final, ready, later, earlier⟩
  · intro holds
    obtain ⟨warehouse, build, docs, isBuild⟩ := holds
    obtain ⟨ready, later, earlier⟩ := isBuild.ordered
    have bound := isBuild.bound
    simp only [List.mem_cons, List.not_mem_nil, or_false, forall_eq_or_imp, forall_eq] at bound
    exact ⟨artifacts, isBuild.verified, ⟨bound.2.2, isBuild.digests⟩, isBuild.final, _,
      ⟨build, isBuild.built, later.trans earlier, bound.1, rfl⟩, _,
      ⟨docs, isBuild.documented, earlier, bound.2.1, rfl⟩, later, warehouse,
      warehouse_iff.mpr isBuild.ready, ready, rfl⟩

theorem recipe_iff {place index : ℕ} :
    recipeIndex sha256 receipts provenance (recipePath place) (recipeDigest place) = .ok index ↔
      ∃ ingest, IsIngest sha256 receipts provenance place ingest ∧ ingest.1 = index := by
  simp only [recipeIndex, bind_ok, present_ok, mapError_ok, require_ok, pure_ok, exists_const,
    resolved_iff]
  constructor
  · intro holds
    obtain ⟨last, isLast, keys, ingest, current, target, ⟨bound, digests⟩, same⟩ := holds
    exact ⟨ingest, ⟨current, ⟨last, isLast, keys⟩, target, bound, digests⟩, same⟩
  · intro holds
    obtain ⟨ingest, isIngest, same⟩ := holds
    obtain ⟨last, isLast, keys⟩ := isIngest.final
    exact ⟨last, isLast, keys, ingest, isIngest.current, isIngest.target,
      ⟨isIngest.bound, isIngest.digests⟩, same⟩

/-- A failure of the build is in the list, here or earlier. -/
theorem build_listed {earlier : List String}
    (none : earlier ++ buildFailures sha256 receipts provenance earlier = []) :
    ∃ artifacts, buildOf sha256 receipts provenance = .ok artifacts := by
  obtain ⟨blank, listed⟩ := List.append_eq_nil_iff.mp none
  subst blank
  rw [← failureOf_nil]
  simpa [buildFailures] using listed

theorem queryFailures_nil {dbtIndex : Option ℕ} :
    queryFailures sha256 receipts provenance dbtIndex = [] ↔
      ∃ query, queryOf receipts provenance = .ok query ∧
        receiptHasRegistryBinding sha256 query.2 provenance.binding ∧
        ∃ index ∈ dbtIndex, index < query.1 := by
  rw [queryFailures]
  cases queryOf receipts provenance with
  | ok query =>
      rw [List.append_eq_nil_iff]
      constructor
      · intro blank
        exact ⟨query, rfl, by simpa using blank.1, by simpa using blank.2⟩
      · intro holds
        obtain ⟨found, same, bound, later⟩ := holds
        rw [Except.ok.injEq] at same
        subst same
        exact ⟨if_pos bound, if_pos later⟩
  | error code =>
      simp only [reduceCtorEq, false_and, exists_false, iff_false]
      split <;> simp

theorem orderFailures_nil {warehouse dbt query postgres ingested : ℕ} :
    orderFailures (some warehouse) (some dbt) (some query) (some postgres) (some ingested) = [] ↔
      query < postgres ∧ postgres < ingested ∧ dbt < postgres ∧ dbt < ingested ∧ warehouse < dbt := by
  simp [orderFailures]

/-- The checks of the seed pass exactly when the log holds the whole chain in its order. -/
theorem seed_prerequisites_iff {requireSeedAfter : Bool} :
    ingestionPrerequisiteFailures sha256 receipts provenance requireSeedAfter = [] ↔
      ∃ artifacts query postgres ingested,
        IsChain sha256 receipts provenance artifacts query postgres ingested ∧
          (requireSeedAfter = true → ∃ seeded,
            latest (isSeedSuccess sha256 provenance) receipts = some seeded ∧
              ingested.1 < seeded.1) := by
  constructor
  · intro none
    simp only [ingestionPrerequisiteFailures, List.append_eq_nil_iff] at none
    obtain ⟨⟨⟨⟨⟨⟨⟨resolved, isWarehouse⟩, isBuild⟩, isQuery⟩, isPostgres⟩, isIngested⟩, ordered⟩,
      seeded⟩ := none
    obtain ⟨warehouse, isWarehouse⟩ := failureOf_nil.mp isWarehouse
    obtain ⟨artifacts, isBuild⟩ := build_listed (List.append_eq_nil_iff.mpr
      ⟨List.append_eq_nil_iff.mpr ⟨resolved, failureOf_nil.mpr ⟨warehouse, isWarehouse⟩⟩, isBuild⟩)
    obtain ⟨query, isQuery, bound, index, isIndex, later⟩ := queryFailures_nil.mp isQuery
    obtain ⟨postgresIndex, isPostgres⟩ := recipeFailure_nil.mp isPostgres
    obtain ⟨ingestedIndex, isIngested⟩ := recipeFailure_nil.mp isIngested
    obtain ⟨postgres, first, rfl⟩ := recipe_iff.mp isPostgres
    obtain ⟨ingested, second, rfl⟩ := recipe_iff.mp isIngested
    rw [isWarehouse, isBuild, isQuery, isPostgres, isIngested] at ordered
    obtain ⟨queried, following, _⟩ := orderFailures_nil.mp ordered
    rw [isBuild, indexOf, Option.mem_some_iff] at isIndex
    rw [← isIndex] at later
    refine ⟨artifacts, query, postgres, ingested, ⟨reconciliationFailures_nil.mp resolved,
      build_iff.mp isBuild, resolved_iff.mp isQuery, bound, first, second, later, queried,
      following⟩, fun required => ?_⟩
    rw [if_pos required, isPostgres, isIngested] at seeded
    simp only [Except.toOption, seedFailures] at seeded
    split at seeded
    · exact nomatch seeded
    · next receipt isSeeded =>
        split at seeded
        · next after => exact ⟨receipt, isSeeded, lt_of_le_of_lt (le_max_right _ _) after⟩
        · exact nomatch seeded
  · intro holds
    obtain ⟨artifacts, query, postgres, ingested, chain, seeded⟩ := holds
    obtain ⟨later, queried, following⟩ := chain.ordered
    obtain ⟨warehouse, build, docs, isBuild⟩ := chain.built
    obtain ⟨ready, commanded, described⟩ := isBuild.ordered
    have isQuery : queryOf receipts provenance = .ok query := resolved_iff.mpr chain.queried
    have isWarehouse := warehouse_iff.mpr isBuild.ready
    have isArtifacts := build_iff.mpr chain.built
    have isPostgres := recipe_iff.mpr ⟨postgres, chain.first, rfl⟩
    have isIngested := recipe_iff.mpr ⟨ingested, chain.second, rfl⟩
    simp only [ingestionPrerequisiteFailures, List.append_eq_nil_iff]
    refine ⟨⟨⟨⟨⟨⟨⟨reconciliationFailures_nil.mpr chain.resolved, failureOf_nil.mpr ⟨_, isWarehouse⟩⟩,
      ?_⟩, ?_⟩, recipeFailure_nil.mpr ⟨_, isPostgres⟩⟩, recipeFailure_nil.mpr ⟨_, isIngested⟩⟩, ?_⟩, ?_⟩
    · rw [buildFailures, isArtifacts]
      rfl
    · rw [isArtifacts]
      exact queryFailures_nil.mpr ⟨query, isQuery, chain.bound, artifacts.1, rfl, later⟩
    · rw [isWarehouse, isArtifacts, isQuery, isPostgres, isIngested]
      exact orderFailures_nil.mpr ⟨queried, following, by omega, by omega, by omega⟩
    · split
      · next required =>
          obtain ⟨receipt, isSeeded, after⟩ := seeded required
          rw [isPostgres, isIngested]
          simp only [Except.toOption, seedFailures, isSeeded]
          exact if_pos (max_lt (following.trans after) after)
      · rfl

variable (sha256 provenance)

/-- These operations of the chain and their outcomes are fixed by the provenance. -/
def chainMembers : List (ExactOperationIdentity × String) :=
  [(buildIdentity provenance "build" (dbtBuildCommandFingerprint sha256), "DBT_COMMAND_SUCCEEDED"),
    (buildIdentity provenance "docs-generate" (dbtDocsCommandFingerprint sha256),
      "DBT_COMMAND_SUCCEEDED"),
    (buildIdentity provenance "artifact-set" (dbtArtifactVerificationFingerprint sha256),
      "DBT_ARTIFACTS_VERIFIED"),
    (queryIdentity provenance, "PG_STAT_OBSERVED"),
    (ingestIdentity provenance 0, "INGESTED"), (ingestIdentity provenance 1, "INGESTED")]

/-- The receipt reports another outcome of a step, or it leaves a live operation open. -/
inductive Invalidates (receipt : OperationReceipt Real) : Prop
  | member (identity : ExactOperationIdentity) (detailCode : String)
      (listed : (identity, detailCode) ∈ chainMembers sha256 provenance)
      (same : identity.accepts receipt = true)
      (failed : ¬ (receipt.status = .success ∧ receipt.detailCode = detailCode))
  | warehouse (same : isWarehouseReceipt provenance.scenarioId receipt = true)
      (failed : ¬ (receipt.status = .success ∧ receipt.detailCode = "WAREHOUSE_READY"))
  | pending (scenario : receipt.scenarioId = provenance.scenarioId) (isOpen : receipt.isOpen = true)

variable {sha256 provenance}

omit [DecidableEq Real] in
/-- Every operation of the chain is current in the log. -/
theorem IsChain.member {artifacts query postgres ingested : ResolvedOperationReceipt Real}
    (chain : IsChain sha256 receipts provenance artifacts query postgres ingested)
    {identity : ExactOperationIdentity} {detailCode : String}
    (listed : (identity, detailCode) ∈ chainMembers sha256 provenance) :
    ∃ resolved, IsCurrent receipts identity .success detailCode resolved := by
  obtain ⟨_, build, docs, isBuild⟩ := chain.built
  simp only [chainMembers, List.mem_cons, Prod.mk.injEq, List.not_mem_nil, or_false] at listed
  rcases listed with ⟨rfl, rfl⟩ | ⟨rfl, rfl⟩ | ⟨rfl, rfl⟩ | ⟨rfl, rfl⟩ | ⟨rfl, rfl⟩ | ⟨rfl, rfl⟩
  · exact ⟨build, isBuild.built⟩
  · exact ⟨docs, isBuild.documented⟩
  · exact ⟨artifacts, isBuild.verified⟩
  · exact ⟨query, chain.queried⟩
  · exact ⟨postgres, chain.first.current⟩
  · exact ⟨ingested, chain.second.current⟩

/-- An older success never hides a newer failure of any step of the chain. -/
theorem newer_failure_refused {requireSeedAfter : Bool} {receipt : OperationReceipt Real}
    (invalidates : Invalidates sha256 provenance receipt) :
    ingestionPrerequisiteFailures sha256 (receipts ++ [receipt]) provenance requireSeedAfter ≠ [] := by
  intro none
  obtain ⟨artifacts, query, postgres, ingested, chain, _⟩ := seed_prerequisites_iff.mp none
  cases invalidates with
  | member identity detailCode listed same failed =>
      obtain ⟨resolved, current⟩ := chain.member listed
      exact failed (current.appended same).2
  | warehouse same failed =>
      obtain ⟨warehouse, _, _, isBuild⟩ := chain.built
      have last := isBuild.ready.last
      rw [latest_append, if_pos same, Option.some.injEq] at last
      have status := isBuild.ready.status
      have detail := isBuild.ready.detail
      rw [← last] at status detail
      exact failed ⟨status, detail⟩
  | pending scenario isOpen =>
      have present : receipt ∈ unresolved provenance.scenarioId (receipts ++ [receipt]) :=
        unresolved_append_open scenario isOpen
      rw [chain.resolved] at present
      exact nomatch present

end Chains

section Sample

def sampleProvenance : Provenance Unit where
  scenarioId := "canonical-customer-id-rename"
  binding := ⟨"nonce", "warehouse", "instance", "target"⟩
  dbtProjectSha256 := "project"
  artifactMetrics := Metrics.empty
  snapshotFingerprint := "snapshot"
  queryFingerprint := "query"

/-- A query observation that failed follows one that succeeded. -/
def queryReceipt (status : ReceiptStatus) : OperationReceipt Unit where
  scenarioId := "canonical-customer-id-rename"
  operationKind := "query"
  entityUrn := none
  aspectName := some "pg_stat_statements"
  idempotencyKey := "query"
  status := status
  detailCode := "PG_STAT_OBSERVED"
  recordedAt := ""
  proposalHash := "query"
  ownershipNonce := "nonce"
  metrics := Metrics.empty
  previousHash := ""
  recordHash := ""

theorem newer_failure_refused_query :
    ingestionPrerequisiteFailures id ([queryReceipt .success] ++ [queryReceipt .failure])
      sampleProvenance false ≠ [] :=
  newer_failure_refused (.member (queryIdentity sampleProvenance) "PG_STAT_OBSERVED"
    (by simp [chainMembers]) (by decide) (by decide))

end Sample

end LineageGuard.Scenario
