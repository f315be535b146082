import LineageGuard.Domain.CandidateIdentity
import LineageGuard.Domain.Risk
import Mathlib.Tactic

/-
This file translates the builder of the canonical migration candidate.
-/

namespace LineageGuard.Agent

open Json Attempt Domain

section Contents

def expandSql : String :=
  "\n".intercalate [
    "alter table commerce.orders add column buyer_id uuid;",
    "update commerce.orders set buyer_id = customer_id;",
    "create function commerce.sync_order_customer_buyer() returns trigger language plpgsql as $$",
    "begin",
    "  if tg_op = 'INSERT' then",
    "    if new.buyer_id is null and new.customer_id is not null then",
    "      new.buyer_id := new.customer_id;",
    "    elsif new.customer_id is null and new.buyer_id is not null then",
    "      new.customer_id := new.buyer_id;",
    "    elsif new.customer_id is null and new.buyer_id is null then",
    "      raise exception 'at least one identifier must be provided';",
    "    elsif new.customer_id is distinct from new.buyer_id then",
    "      raise exception 'customer_id and buyer_id must match during compatibility window';",
    "    end if;",
    "  elsif tg_op = 'UPDATE' then",
    "    if new.customer_id is distinct from old.customer_id and new.buyer_id is not " ++
      "distinct from old.buyer_id then",
    "      new.buyer_id := new.customer_id;",
    "    elsif new.buyer_id is distinct from old.buyer_id and new.customer_id is not " ++
      "distinct from old.customer_id then",
    "      new.customer_id := new.buyer_id;",
    "    elsif new.customer_id is distinct from old.customer_id and new.buyer_id is " ++
      "distinct from old.buyer_id then",
    "      if new.customer_id is distinct from new.buyer_id then",
    "        raise exception 'customer_id and buyer_id must match during compatibility window';",
    "      end if;",
    "    end if;",
    "  end if;",
    "  return new;",
    "end $$;",
    "create trigger orders_customer_buyer_compat",
    "  before insert or update on commerce.orders",
    "  for each row execute function commerce.sync_order_customer_buyer();",
    "alter table commerce.orders alter column buyer_id set not null;"]

def rollbackSql : String :=
  "\n".intercalate [
    "drop trigger orders_customer_buyer_compat on commerce.orders;",
    "drop function commerce.sync_order_customer_buyer();",
    "alter table commerce.orders drop column buyer_id cascade;",
    "do $$ begin",
    "  if not exists (select 1 from information_schema.columns",
    "                 where table_schema = 'commerce' and table_name = 'orders'",
    "                   and column_name = 'customer_id') then",
    "    raise exception 'rollback removed customer_id';",
    "  end if;",
    "  if exists (select 1 from information_schema.columns",
    "             where table_schema = 'commerce' and table_name = 'orders'",
    "               and column_name = 'buyer_id') then",
    "    raise exception 'rollback left buyer_id in place';",
    "  end if;",
    "end $$;"]

def stgOrdersContent : String :=
  "\n".intercalate [
    "SELECT",
    "    order_id,",
    "    customer_id,",
    "    buyer_id,",
    "    order_total,",
    "    ordered_at",
    "FROM \x7b\x7b source('commerce', 'orders') \x7d\x7d"]

def customerRevenueContent : String :=
  "\n".intercalate [
    "SELECT",
    "    customer_id,",
    "    buyer_id,",
    "    SUM(order_total) AS lifetime_revenue",
    "FROM \x7b\x7b ref('stg_orders') \x7d\x7d",
    "GROUP BY customer_id, buyer_id"]

def customerFeaturesContent : String :=
  "\n".intercalate [
    "SELECT",
    "    customer_id,",
    "    buyer_id,",
    "    COUNT(*) AS order_count,",
    "    MAX(order_total) AS max_order_total",
    "FROM \x7b\x7b ref('stg_orders') \x7d\x7d",
    "GROUP BY customer_id, buyer_id"]

def equalityTestContent : String :=
  "\n".intercalate [
    "-- Compatibility test: customer_id and buyer_id must always match",
    "select *",
    "from \x7b\x7b ref('stg_orders') \x7d\x7d",
    "where customer_id is distinct from buyer_id"]

def notNullTestContent : String :=
  "\n".intercalate [
    "-- Not-null assertion: buyer_id must be populated for all rows",
    "select *",
    "from \x7b\x7b ref('stg_orders') \x7d\x7d",
    "where buyer_id is null"]

/-- The document names every reviewer on a line of its own. -/
def reviewerLine : MigrationReviewer → String
  | .owner ownerUrn affectedAssetUrns _ =>
      "- " ++ ownerUrn ++ " (owner of " ++ ", ".intercalate affectedAssetUrns ++ ")"
  | .unresolvedOwner _ affectedAssetUrn reason =>
      "- Escalation: " ++ affectedAssetUrn ++ " (" ++ reason ++ ")"

def migrationDoc (requiredReviewers : List MigrationReviewer) : String :=
  "\n".intercalate ([
    "# Migration: customer_id → buyer_id",
    "",
    "## Strategy: Expand-Migrate-Contract",
    "",
    "### Phase 1: Expand",
    "- Add `buyer_id` column with sync trigger",
    "- Both columns remain accessible",
    "",
    "### Phase 2: Migrate",
    "- Update dbt models to expose both columns",
    "- Add compatibility and not-null tests",
    "",
    "### Phase 3: Contract",
    "- After compatibility window (30 days), deprecate `customer_id`",
    "",
    "## Rollback Plan",
    "Run `walkthrough/migrations/001_rollback.sql` while `customer_id` remains the " ++
      "source of truth.",
    "",
    "## Compatibility Window: 30 days",
    "",
    "## Required Reviewers"] ++
    requiredReviewers.map reviewerLine)

end Contents

section Reviewers

/-- Each owner in the order of the evidence reviews all its assets. -/
def ownerReviewers (evidence : List EvidenceItem) : List MigrationReviewer :=
  ((owners evidence).map (·.ownerUrn)).eraseDups.map fun ownerUrn =>
    .owner ownerUrn
      (sorted (((owners evidence).filter fun owner => owner.ownerUrn = ownerUrn).map (·.assetUrn)))
      "Recorded critical asset owner"

/-- A dashboard and a model are the critical assets. -/
def criticalAsset (item : EvidenceItem) : Option String :=
  match item.payload with
  | .dashboard payload => some payload.dashboardUrn
  | .mlModel payload => some payload.modelUrn
  | _ => none

def unresolvedReviewer (evidence : List EvidenceItem) (evidenceId : String) :
    Except DomainFailure MigrationReviewer := do
  let item := evidence.find? fun item => item.id = evidenceId
  let affectedAssetUrn ← present (item.bind criticalAsset)
    (.message "LG005 evidence must identify a critical asset")
  return .unresolvedOwner evidenceId affectedAssetUrn
    "No recorded owner; escalate to the data platform owner"

def lg005EvidenceIds (reasons : List RiskReason) : List String :=
  ((reasons.find? fun reason => reason.ruleId = .lg005).map (·.evidenceIds)).getD []

/-- The texts of reviewers are compared by the collation of the script. -/
def requiredReviewers (collates : String → String → Bool) (evidence : List EvidenceItem)
    (reasons : List RiskReason) : Except DomainFailure (List MigrationReviewer) := do
  let unresolved ← (lg005EvidenceIds reasons).mapM (unresolvedReviewer evidence)
  return (ownerReviewers evidence ++ unresolved).mergeSort fun left right =>
    collates (reviewerKey left) (reviewerKey right)

end Reviewers

section Candidate

def expandEvidence (ids : List String) : List String := ids.take ((ids.length + 1) / 2)

def migrateEvidence (ids : List String) : List String := ids.drop ((ids.length + 1) / 2)

def contractEvidence (ids : List String) : List String := ids.take 1

def canonicalSteps (ids : List String) : List MigrationStep :=
  [{ id := "step_expand"
     phase := .expand
     title := "Expand: add buyer_id with sync trigger"
     rationale := "Keep old consumers working while new column is added."
     affectedEvidenceIds := expandEvidence ids
     artifactTargets :=
       ["walkthrough/migrations/001_expand.sql", "walkthrough/migrations/001_rollback.sql"] },
    { id := "step_migrate"
      phase := .migrate
      title := "Migrate: update controlled readers"
      rationale :=
        "Update all dbt consumers to use buyer_id and add compatibility assertions."
      affectedEvidenceIds := migrateEvidence ids
      artifactTargets :=
        ["walkthrough/dbt/models/analytics/customer_revenue.sql",
          "walkthrough/dbt/models/fraud/customer_features.sql",
          "walkthrough/dbt/models/staging/stg_orders.sql",
          "walkthrough/dbt/tests/orders_buyer_id_not_null.sql",
          "walkthrough/dbt/tests/orders_compat.sql"] },
    { id := "step_contract"
      phase := .contract
      title := "Contract: deprecate customer_id"
      rationale := "Retire the compatibility field after approval and observation."
      affectedEvidenceIds := contractEvidence ids
      artifactTargets := ["docs/migrations/customer-id.md"] }]

def canonicalArtifacts (baseSha : String) (reviewers : List MigrationReviewer) :
    List MigrationArtifact :=
  [⟨.migrationDocument, "docs/migrations/customer-id.md", migrationDoc reviewers⟩,
    ⟨.dbtModel baseSha, "walkthrough/dbt/models/analytics/customer_revenue.sql",
      customerRevenueContent⟩,
    ⟨.dbtModel baseSha, "walkthrough/dbt/models/fraud/customer_features.sql",
      customerFeaturesContent⟩,
    ⟨.dbtModel baseSha, "walkthrough/dbt/models/staging/stg_orders.sql", stgOrdersContent⟩,
    ⟨.dbtTest, "walkthrough/dbt/tests/orders_buyer_id_not_null.sql", notNullTestContent⟩,
    ⟨.dbtTest, "walkthrough/dbt/tests/orders_compat.sql", equalityTestContent⟩,
    ⟨.sqlMigration, "walkthrough/migrations/001_expand.sql", expandSql⟩,
    ⟨.rollbackSql, "walkthrough/migrations/001_rollback.sql", rollbackSql⟩]

/-- A rationale replaces the summary of the candidate. -/
def buildCanonicalCandidate (collates : String → String → Bool) (change : ProposedChange)
    (context : ImpactContext) (comparison : RiskComparison) (rationale : Option String) :
    Except DomainFailure MigrationCandidate := do
  let reasons := comparison.grounded.reasons
  let sourceEvidenceIds := reasonEvidence reasons
  reject (sourceEvidenceIds = []) (.message
    "Cannot build migration candidate: no triggered evidence (decision should be BLOCK)")
  let reviewers ← requiredReviewers collates context.evidence reasons
  require (sorted (expandEvidence sourceEvidenceIds ++ migrateEvidence sourceEvidenceIds ++
      contractEvidence sourceEvidenceIds).dedup = sourceEvidenceIds)
    (.message "Evidence distribution failed — all source evidence must be covered by steps")
  return {
    sourceChangeFingerprint := change.fingerprint
    sourcePatchFingerprint := change.sourcePatchFingerprint
    sourceImpactContextFingerprint := context.impactContextFingerprint
    sourceEvidenceIds
    summary := rationale.getD
      "Add buyer_id, migrate readers, then retire customer_id after compatibility window."
    steps := canonicalSteps sourceEvidenceIds
    artifacts := canonicalArtifacts change.baseSha reviewers
    requiredReviewers := reviewers
    compatibilityWindowDays := 30
    rollbackPlan :=
      "Run walkthrough/migrations/001_rollback.sql while customer_id remains the source of truth." }

end Candidate

end LineageGuard.Agent
