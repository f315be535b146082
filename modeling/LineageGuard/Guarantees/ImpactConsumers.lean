import LineageGuard.Domain.CompleteContext
import LineageGuard.Guarantees.PublicationIdentity
import Mathlib.Tactic

/-
This file shows which entities of a complete context are its consumers.
-/

namespace LineageGuard.Domain

open Attempt

section Consumers

/-- A path of the evidence leads to this entity. -/
def Downstream (evidence : List EvidenceItem) (urn : String) : Prop :=
  ∃ item ∈ evidence, ∃ payload, item.payload = .lineagePath payload ∧ urn ∈ payload.nodes.drop 1

/-- Every entity that the paths reach is counted once, apart from the intermediate ones and the
datasets that belong to a model. -/
structure CountedOnce (evidence : List EvidenceItem) (consumers : List ImpactConsumer) : Prop where
  distinct : (consumers.map (·.entityUrn)).Nodup
  downstream : ∀ urn, Downstream evidence urn → isIntermediateNode urn = false →
    urn ∉ featureDatasetUrns evidence → (consumers.map (·.entityUrn)).count urn = 1
  intermediate : ∀ urn, Downstream evidence urn → isIntermediateNode urn = true →
    urn ∉ consumers.map (·.entityUrn)
  grouped : ∀ urn ∈ featureDatasetUrns evidence, urn ∉ consumers.map (·.entityUrn) ∧
    (consumers.map (·.detail)).count (.mlConsumer urn) = 1
  known : ∀ consumer ∈ consumers, Downstream evidence consumer.entityUrn ∨
    ∃ item ∈ evidence, ∃ payload, item.payload = .queryUsage payload ∧
      payload.queryUrn = consumer.entityUrn

variable {evidence : List EvidenceItem}
variable {dashboardPath modelPath dashboard model query : EvidenceItem}
variable {dashboardPayload : DashboardPayload} {modelPayload : ModelPayload}
variable {queryPayload : QueryPayload}

theorem CanonicalItems.downstream (items : CanonicalItems evidence dashboardPath modelPath dashboard
    model query dashboardPayload modelPayload queryPayload) (urn : String) :
    Downstream evidence urn ↔ urn = canonicalAnalyticsStagingUrn ∨
      urn = canonicalAnalyticsRevenueUrn ∨ urn = canonicalDashboardUrn ∨
      urn = canonicalFraudFeaturesUrn ∨ urn = canonicalFraudModelUrn := by
  have selected : ∀ item, (item ∈ evidence ∧ (pathOf item).isSome = true) ↔
      item = dashboardPath ∨ item = modelPath := by
    intro item
    rw [← List.mem_filter (p := fun item => (pathOf item).isSome), items.paths.mem_iff]
    simp
  have isDashboardPath := (pathOf_some.mp items.dashboardPath).2
  have isModelPath := (pathOf_some.mp items.modelPath).2
  constructor
  · rintro ⟨item, present, payload, kind, reached⟩
    have isPath : (pathOf item).isSome = true := by simp [pathOf, kind]
    rcases (selected item).mp ⟨present, isPath⟩ with rfl | rfl
    · rw [isDashboardPath, EvidencePayload.lineagePath.injEq] at kind
      subst kind
      simp only [canonicalNodes, List.drop_succ_cons, List.drop_zero, List.mem_cons,
        List.not_mem_nil, or_false] at reached
      tauto
    · rw [isModelPath, EvidencePayload.lineagePath.injEq] at kind
      subst kind
      simp only [canonicalNodes, List.drop_succ_cons, List.drop_zero, List.mem_cons,
        List.not_mem_nil, or_false] at reached
      tauto
  · have first := ((selected dashboardPath).mpr (Or.inl rfl)).1
    have second := ((selected modelPath).mpr (Or.inr rfl)).1
    rintro (rfl | rfl | rfl | rfl | rfl)
    · exact ⟨dashboardPath, first, _, isDashboardPath, by simp [canonicalNodes]⟩
    · exact ⟨dashboardPath, first, _, isDashboardPath, by simp [canonicalNodes]⟩
    · exact ⟨dashboardPath, first, _, isDashboardPath, by simp [canonicalNodes]⟩
    · exact ⟨modelPath, second, _, isModelPath, by simp [canonicalNodes]⟩
    · exact ⟨modelPath, second, _, isModelPath, by simp [canonicalNodes]⟩

theorem staging_intermediate : isIntermediateNode canonicalAnalyticsStagingUrn = true := by
  rw [isIntermediateNode, canonicalAnalyticsStagingUrn, Bool.or_eq_true]
  exact Or.inl ((includes_ofList _ _).trans (by decide))

/-- The staging view is not one of the consumers. -/
theorem staging_apart : canonicalAnalyticsStagingUrn ∉ [canonicalAnalyticsRevenueUrn,
    canonicalDashboardUrn, canonicalFraudModelUrn, canonicalQueryUrn] := by
  rw [canonicalAnalyticsStagingUrn, canonicalAnalyticsRevenueUrn, canonicalDashboardUrn,
    canonicalFraudModelUrn, canonicalQueryUrn]
  have listed : ∀ (text : List Char) (texts : List (List Char)), text ∉ texts →
      String.ofList text ∉ texts.map String.ofList := by
    intro text texts absent present
    obtain ⟨other, isOther, same⟩ := List.mem_map.mp present
    exact absent (String.ofList_inj.mp same ▸ isOther)
  exact listed _ [_, _, _, _] (by decide)

theorem consumers_final : isIntermediateNode canonicalAnalyticsRevenueUrn = false ∧
    isIntermediateNode canonicalDashboardUrn = false ∧
    isIntermediateNode canonicalFraudModelUrn = false := by
  have final : ∀ text : List Char,
      (text.tails.any fun rest => "stg_orders".toList.isPrefixOf rest) = false →
      (text.tails.any fun rest => ".stg_".toList.isPrefixOf rest) = false →
      isIntermediateNode (String.ofList text) = false := by
    intro text noOrders noView
    rw [isIntermediateNode, includes, includes, String.toList_ofList, Bool.or_eq_false_iff]
    exact ⟨noOrders, noView⟩
  have orders : "stg_orders".toList = ['s', 't', 'g', '_', 'o', 'r', 'd', 'e', 'r', 's'] :=
    String.toList_ofList
  have view : ".stg_".toList = ['.', 's', 't', 'g', '_'] := String.toList_ofList
  rw [orders, view] at final
  exact ⟨final _ (by decide) (by decide), final _ (by decide) (by decide),
    final _ (by decide) (by decide)⟩

theorem canonicalConsumers_urns (dashboardPath dashboard model query : EvidenceItem)
    (dashboardPayload : DashboardPayload) (modelPayload : ModelPayload) :
    (canonicalConsumers dashboardPath dashboard model query dashboardPayload
      modelPayload).map (·.entityUrn) = [canonicalAnalyticsRevenueUrn, canonicalDashboardUrn,
        canonicalFraudModelUrn, canonicalQueryUrn] := rfl

theorem CanonicalItems.countedOnce (items : CanonicalItems evidence dashboardPath modelPath
    dashboard model query dashboardPayload modelPayload queryPayload) :
    CountedOnce evidence (canonicalConsumers dashboardPath dashboard model query dashboardPayload
      modelPayload) := by
  have distinct := canonicalConsumers_apart dashboardPath dashboard model query dashboardPayload
    modelPayload
  have queried : query ∈ evidence := by
    have selected : query ∈ evidence.filter fun item => (queryOf item).isSome := by
      rw [items.queries]
      exact List.mem_singleton_self _
    exact (List.mem_filter.mp selected).1
  have queryUrn : queryPayload.queryUrn = canonicalQueryUrn := by
    have canonical := items.queryCanonical
    simp only [isCanonicalQuery, Bool.and_eq_true, beq_iff_eq] at canonical
    exact canonical.1.1.1.1.1
  have apart := assets_apart
  simp only [List.nodup_cons, List.mem_cons, List.not_mem_nil, not_or, ← ne_eq] at apart
  obtain ⟨⟨_, _, revenueFeatures, _⟩, ⟨_, dashboardFeatures, _⟩, ⟨modelFeatures, _⟩,
    ⟨featuresQuery, _⟩, _⟩ := apart
  refine ⟨distinct, ?_, ?_, ?_, ?_⟩
  · intro urn reached final ungrouped
    refine List.count_eq_one_of_mem distinct ?_
    rw [canonicalConsumers_urns]
    rw [items.features, List.mem_singleton] at ungrouped
    rcases (items.downstream urn).mp reached with rfl | rfl | rfl | isFeatures | rfl
    · rw [staging_intermediate] at final
      cases final
    · exact List.mem_cons_self
    · exact List.mem_cons_of_mem _ List.mem_cons_self
    · exact absurd isFeatures ungrouped
    · exact List.mem_cons_of_mem _ (List.mem_cons_of_mem _ List.mem_cons_self)
  · intro urn reached staged
    rw [canonicalConsumers_urns]
    obtain ⟨revenueFinal, dashboardFinal, modelFinal⟩ := consumers_final
    rcases (items.downstream urn).mp reached with rfl | rfl | rfl | rfl | rfl
    · exact staging_apart
    · rw [revenueFinal] at staged
      cases staged
    · rw [dashboardFinal] at staged
      cases staged
    · simp only [List.mem_cons, List.not_mem_nil, or_false, not_or]
      exact ⟨revenueFeatures.symm, dashboardFeatures.symm, modelFeatures.symm, featuresQuery⟩
    · rw [modelFinal] at staged
      cases staged
  · intro urn grouped
    rw [items.features, List.mem_singleton] at grouped
    rw [canonicalConsumers_urns, grouped]
    simp only [List.mem_cons, List.not_mem_nil, or_false, not_or]
    refine ⟨⟨revenueFeatures.symm, dashboardFeatures.symm, modelFeatures.symm, featuresQuery⟩, ?_⟩
    simp [canonicalConsumers]
  · intro consumer listed
    simp only [canonicalConsumers, List.mem_cons, List.not_mem_nil, or_false] at listed
    rcases listed with rfl | rfl | rfl | rfl
    · exact Or.inl ((items.downstream _).mpr (Or.inr (Or.inl rfl)))
    · exact Or.inl ((items.downstream _).mpr (Or.inr (Or.inr (Or.inl rfl))))
    · exact Or.inl ((items.downstream _).mpr (Or.inr (Or.inr (Or.inr (Or.inr rfl)))))
    · exact Or.inr ⟨query, queried, queryPayload, (queryOf_some.mp items.query).2, queryUrn⟩

end Consumers

section Guarantee

/-- An accepted complete context has canonical items, and their consumers are the four expected
ones. -/
theorem complete_items {script : Script} {spelling : Spelling} {context : ImpactContext}
    (accepted : impactContextIssues script spelling context = [])
    (complete : context.collectionStatus = .complete) :
    ∃ dashboardPath modelPath dashboard model query dashboardPayload modelPayload queryPayload,
      CanonicalItems context.evidence dashboardPath modelPath dashboard model query
        dashboardPayload modelPayload queryPayload := by
  obtain ⟨_, _, _, _, _, dataAccepted⟩ := impactContextIssues_nil.mp accepted
  exact canonicalEvidence_items (complete_canonical dataAccepted complete)

/-- The consumers of an accepted complete context are distinct, cover what its paths reach apart
from intermediate nodes and a model's dataset, and do not depend on the order of its evidence. -/
theorem impact_consumers (script : Script) (spelling : Spelling) (context : ImpactContext)
    (accepted : impactContextIssues script spelling context = [])
    (complete : context.collectionStatus = .complete) :
    CountedOnce context.evidence (deriveImpactConsumers context.evidence) ∧
      (∀ others, others.Perm context.evidence →
        deriveImpactConsumers others = deriveImpactConsumers context.evidence) ∧
      assertExactlyFourConsumers script (deriveImpactConsumers context.evidence) = .ok () := by
  obtain ⟨_, _, _, _, _, _, _, _, items⟩ := complete_items accepted complete
  rw [items.consumers]
  refine ⟨items.countedOnce, ?_, canonicalConsumers_asserted script _ _ _ _ _ _⟩
  intro others same
  exact (items.perm same).consumers

theorem impact_consumers_sample :
    impactContextIssues Agent.sampleScript Spelling.sample (Agent.sampleRun 'a' 0) = [] ∧
      CountedOnce (Agent.sampleRun 'a' 0).evidence
        (deriveImpactConsumers (Agent.sampleRun 'a' 0).evidence) :=
  ⟨Agent.sampleRun_accepted 'a' 0,
    (impact_consumers Agent.sampleScript Spelling.sample (Agent.sampleRun 'a' 0)
      (Agent.sampleRun_accepted 'a' 0) rfl).1⟩

/-- A path of an accepted complete context reaches the staging view and the features of the model,
and neither of them is a consumer. -/
theorem reached_uncounted :
    impactContextIssues Agent.sampleScript Spelling.sample (Agent.sampleRun 'a' 0) = [] ∧
      (Agent.sampleRun 'a' 0).collectionStatus = .complete ∧
      ∀ urn ∈ [canonicalAnalyticsStagingUrn, canonicalFraudFeaturesUrn],
        Downstream (Agent.sampleRun 'a' 0).evidence urn ∧
          urn ∉ (deriveImpactConsumers (Agent.sampleRun 'a' 0).evidence).map (·.entityUrn) := by
  have accepted := Agent.sampleRun_accepted 'a' 0
  refine ⟨accepted, rfl, ?_⟩
  obtain ⟨_, _, _, _, _, _, _, _, items⟩ := complete_items accepted rfl
  have counted := items.countedOnce
  rw [← items.consumers] at counted
  intro urn listed
  rcases List.mem_cons.mp listed with rfl | later
  · have reached := (items.downstream canonicalAnalyticsStagingUrn).mpr (Or.inl rfl)
    exact ⟨reached, counted.intermediate _ reached staging_intermediate⟩
  · obtain rfl := List.mem_singleton.mp later
    have reached := (items.downstream canonicalFraudFeaturesUrn).mpr
      (Or.inr (Or.inr (Or.inr (Or.inl rfl))))
    have grouped : canonicalFraudFeaturesUrn ∈ featureDatasetUrns (Agent.sampleRun 'a' 0).evidence := by
      rw [items.features]
      exact List.mem_singleton_self _
    exact ⟨reached, (counted.grouped _ grouped).1⟩

end Guarantee

end LineageGuard.Domain
