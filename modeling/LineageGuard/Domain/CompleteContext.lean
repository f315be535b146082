import LineageGuard.Domain.Consumers
import LineageGuard.Domain.Meaning
import Mathlib.Tactic

/-
This file says what the evidence of a complete context holds and which consumers follow from it.
-/

namespace LineageGuard.Domain

open Attempt

section Selections

variable {Item Found State : Type}

theorem filterMap_filter (select : Item → Option Found) (items : List Item) :
    (items.filter fun item => (select item).isSome).map select =
      (items.filterMap select).map some := by
  induction items with
  | nil => rfl
  | cons item rest ih =>
      cases found : select item with
      | none =>
          rw [List.filter_cons_of_neg (by simp [found]), List.filterMap_cons_none found, ih]
      | some value =>
          rw [List.filter_cons_of_pos (by simp [found]), List.filterMap_cons_some found,
            List.map_cons, List.map_cons, ih, found]

/-- One selected value comes from one selected item. -/
theorem selected_one {select : Item → Option Found} {items : List Item} {value : Found}
    (selected : items.filterMap select = [value]) :
    ∃ item, (items.filter fun item => (select item).isSome) = [item] ∧
      select item = some value := by
  have images := filterMap_filter select items
  rw [selected, List.map_singleton, List.map_eq_singleton_iff] at images
  exact images

theorem selected_two {select : Item → Option Found} {items : List Item}
    (selected : (items.filterMap select).length = 2) :
    ∃ first second left right, (items.filter fun item => (select item).isSome) = [first, second] ∧
      select first = some left ∧ select second = some right ∧
      items.filterMap select = [left, right] := by
  have images := filterMap_filter select items
  obtain ⟨left, right, values⟩ := List.length_eq_two.mp selected
  have count := congrArg List.length images
  rw [List.length_map, List.length_map, selected] at count
  obtain ⟨first, second, found⟩ := List.length_eq_two.mp count
  rw [values, found] at images
  simp only [List.map_cons, List.map_nil, List.cons.injEq, and_true] at images
  exact ⟨first, second, left, right, found, images.1, images.2, values⟩

theorem selected_value {select : Item → Option Found} {items : List Item} {item : Item}
    {value : Found} (one : (items.filter fun item => (select item).isSome) = [item])
    (found : select item = some value) : items.filterMap select = [value] := by
  have images := filterMap_filter select items
  rw [one, List.map_singleton, found, ← List.map_singleton] at images
  exact (List.map_injective_iff.mpr (Option.some_injective Found) images).symm

/-- Two items have two orders. -/
theorem perm_pair {items : List Item} {first second : Item} (same : items.Perm [first, second]) :
    items = [first, second] ∨ items = [second, first] := by
  obtain ⟨left, right, rfl⟩ := List.length_eq_two.mp same.length_eq
  have isLeft : left ∈ [first, second] := same.subset List.mem_cons_self
  rcases List.mem_cons.mp isLeft with rfl | later
  · have rest := (List.perm_cons left).mp same
    rw [List.perm_singleton.mp rest]
    exact Or.inl rfl
  · obtain rfl := List.mem_singleton.mp later
    have rest := (List.perm_cons left).mp (same.trans (.swap _ _ _))
    rw [List.perm_singleton.mp rest]
    exact Or.inr rfl

/-- A loop that passes over the other items is a loop over the selected ones. -/
theorem foldl_selected (select : Item → Option Found) {push : State → Item → State}
    (passes : ∀ state item, select item = none → push state item = state) (items : List Item)
    (start : State) :
    items.foldl push start =
      (items.filter fun item => (select item).isSome).foldl push start := by
  induction items generalizing start with
  | nil => rfl
  | cons item rest ih =>
      cases found : select item with
      | none =>
          rw [List.filter_cons_of_neg (by simp [found]), List.foldl_cons, passes _ _ found, ih]
      | some value =>
          rw [List.filter_cons_of_pos (by simp [found]), List.foldl_cons, List.foldl_cons, ih]

end Selections

section Kinds

def pathOf (item : EvidenceItem) : Option (Option String × LineagePathPayload) :=
  match item.payload with
  | .lineagePath payload => some (item.targetUrn, payload)
  | _ => none

def dashboardOf (item : EvidenceItem) : Option (Criticality × DashboardPayload) :=
  match item.payload with
  | .dashboard payload => some (item.criticality, payload)
  | _ => none

def modelOf (item : EvidenceItem) : Option (Criticality × ModelPayload) :=
  match item.payload with
  | .mlModel payload => some (item.criticality, payload)
  | _ => none

def queryOf (item : EvidenceItem) : Option (Criticality × QueryPayload) :=
  match item.payload with
  | .queryUsage payload => some (item.criticality, payload)
  | _ => none

theorem pathOf_some {item : EvidenceItem} {target : Option String} {payload : LineagePathPayload} :
    pathOf item = some (target, payload) ↔
      item.targetUrn = target ∧ item.payload = .lineagePath payload := by
  cases kind : item.payload <;> simp [pathOf, kind]

theorem dashboardOf_some {item : EvidenceItem} {criticality : Criticality}
    {payload : DashboardPayload} : dashboardOf item = some (criticality, payload) ↔
      item.criticality = criticality ∧ item.payload = .dashboard payload := by
  cases kind : item.payload <;> simp [dashboardOf, kind]

theorem modelOf_some {item : EvidenceItem} {criticality : Criticality} {payload : ModelPayload} :
    modelOf item = some (criticality, payload) ↔
      item.criticality = criticality ∧ item.payload = .mlModel payload := by
  cases kind : item.payload <;> simp [modelOf, kind]

theorem queryOf_some {item : EvidenceItem} {criticality : Criticality} {payload : QueryPayload} :
    queryOf item = some (criticality, payload) ↔
      item.criticality = criticality ∧ item.payload = .queryUsage payload := by
  cases kind : item.payload <;> simp [queryOf, kind]

theorem paths_eq (evidence : List EvidenceItem) : paths evidence = evidence.filterMap pathOf := rfl

theorem dashboards_eq (evidence : List EvidenceItem) :
    dashboards evidence = evidence.filterMap dashboardOf := rfl

theorem models_eq (evidence : List EvidenceItem) : models evidence = evidence.filterMap modelOf := rfl

theorem featureDatasetUrns_eq (evidence : List EvidenceItem) :
    featureDatasetUrns evidence = (models evidence).map (·.2.featureDatasetUrn) := by
  rw [featureDatasetUrns, models_eq, List.map_filterMap]
  apply List.filterMap_congr
  intro item present
  cases kind : item.payload <;> simp [modelOf, kind]

end Kinds

section Canonical

/-- The canonical items of complete evidence are the only ones of their kinds. -/
structure CanonicalItems (evidence : List EvidenceItem)
    (dashboardPath modelPath dashboard model query : EvidenceItem)
    (dashboardPayload : DashboardPayload) (modelPayload : ModelPayload)
    (queryPayload : QueryPayload) : Prop where
  paths : (evidence.filter fun item => (pathOf item).isSome).Perm [dashboardPath, modelPath]
  dashboards : (evidence.filter fun item => (dashboardOf item).isSome) = [dashboard]
  models : (evidence.filter fun item => (modelOf item).isSome) = [model]
  queries : (evidence.filter fun item => (queryOf item).isSome) = [query]
  dashboardPath : pathOf dashboardPath = some (some canonicalDashboardUrn,
    ⟨canonicalNodes canonicalAnalyticsRevenueUrn canonicalDashboardUrn,
      canonicalSegments canonicalAnalyticsRevenueUrn canonicalDashboardUrn⟩)
  modelPath : pathOf modelPath = some (some canonicalFraudModelUrn,
    ⟨canonicalNodes canonicalFraudFeaturesUrn canonicalFraudModelUrn,
      canonicalSegments canonicalFraudFeaturesUrn canonicalFraudModelUrn⟩)
  dashboard : dashboardOf dashboard = some (.critical, dashboardPayload)
  dashboardCanonical : isCanonicalDashboard (.critical, dashboardPayload) = true
  model : modelOf model = some (.critical, modelPayload)
  modelCanonical : isCanonicalModel (.critical, modelPayload) = true
  query : queryOf query = some (.high, queryPayload)
  queryCanonical : isCanonicalQuery (.high, queryPayload) = true

theorem only_iff {A : Type} {required : A → Bool} {items : List A} :
    only required items = true ↔ ∃ found, items = [found] ∧ required found = true := by
  unfold only
  split <;> simp_all

theorem hasCanonicalPath_find {evidence : List EvidenceItem} {through asset : String}
    (has : hasCanonicalPath evidence through asset = true) :
    (some asset, ⟨canonicalNodes through asset, canonicalSegments through asset⟩) ∈
      paths evidence := by
  unfold hasCanonicalPath at has
  split at has
  · next target payload found =>
      simp only [Bool.and_eq_true, beq_iff_eq] at has
      have isTarget : target = some asset := by simpa using List.find?_some found
      have present := List.mem_of_find?_eq_some found
      obtain ⟨nodes, segments⟩ := payload
      simp only at has
      rwa [isTarget, has.1, has.2] at present
  · exact nomatch has

/-- The two paths of complete evidence are the canonical ones. -/
theorem canonicalEvidence_paths {evidence : List EvidenceItem}
    (two : (paths evidence).length = 2)
    (first : hasCanonicalPath evidence canonicalAnalyticsRevenueUrn canonicalDashboardUrn = true)
    (second : hasCanonicalPath evidence canonicalFraudFeaturesUrn canonicalFraudModelUrn = true) :
    ∃ dashboardPath modelPath,
      (evidence.filter fun item => (pathOf item).isSome).Perm [dashboardPath, modelPath] ∧
      pathOf dashboardPath = some (some canonicalDashboardUrn,
        ⟨canonicalNodes canonicalAnalyticsRevenueUrn canonicalDashboardUrn,
          canonicalSegments canonicalAnalyticsRevenueUrn canonicalDashboardUrn⟩) ∧
      pathOf modelPath = some (some canonicalFraudModelUrn,
        ⟨canonicalNodes canonicalFraudFeaturesUrn canonicalFraudModelUrn,
          canonicalSegments canonicalFraudFeaturesUrn canonicalFraudModelUrn⟩) := by
  have toDashboard := hasCanonicalPath_find first
  have toModel := hasCanonicalPath_find second
  rw [paths_eq] at two toDashboard toModel
  obtain ⟨one, other, left, right, items, isLeft, isRight, values⟩ := selected_two two
  simp only [values, List.mem_cons, List.not_mem_nil, or_false] at toDashboard toModel
  have apart : ∀ {found : Option String × LineagePathPayload},
      (some canonicalDashboardUrn, (⟨canonicalNodes canonicalAnalyticsRevenueUrn
        canonicalDashboardUrn, canonicalSegments canonicalAnalyticsRevenueUrn
          canonicalDashboardUrn⟩ : LineagePathPayload)) = found →
      (some canonicalFraudModelUrn, (⟨canonicalNodes canonicalFraudFeaturesUrn
        canonicalFraudModelUrn, canonicalSegments canonicalFraudFeaturesUrn
          canonicalFraudModelUrn⟩ : LineagePathPayload)) ≠ found := by
    rintro found rfl same
    exact canonicalUrns_apart (Option.some.inj (Prod.mk.inj same).1).symm
  rcases toDashboard with dashboardLeft | dashboardRight
  · rcases toModel with modelLeft | modelRight
    · exact absurd modelLeft (apart dashboardLeft)
    · exact ⟨one, other, .of_eq items, isLeft.trans (congrArg some dashboardLeft.symm),
        isRight.trans (congrArg some modelRight.symm)⟩
  · rcases toModel with modelLeft | modelRight
    · refine ⟨other, one, ?_, isRight.trans (congrArg some dashboardRight.symm),
        isLeft.trans (congrArg some modelLeft.symm)⟩
      rw [items]
      exact .swap _ _ _
    · exact absurd modelRight (apart dashboardRight)

/-- Complete evidence holds one item of each kind and two paths. -/
theorem canonicalEvidence_items {evidence : List EvidenceItem}
    (canonical : isCanonicalEvidence evidence = true) :
    ∃ dashboardPath modelPath dashboard model query dashboardPayload modelPayload queryPayload,
      CanonicalItems evidence dashboardPath modelPath dashboard model query dashboardPayload
        modelPayload queryPayload := by
  simp only [isCanonicalEvidence, Bool.and_eq_true, beq_iff_eq, only_iff, and_assoc] at canonical
  obtain ⟨_, two, dashboardPath, modelPath, ⟨foundDashboard, dashboards, dashboard⟩,
    ⟨foundModel, models, model⟩, ⟨foundQuery, queries, query⟩, _⟩ := canonical
  obtain ⟨dashboardItem, oneDashboard, isDashboard⟩ := selected_one dashboards
  obtain ⟨modelItem, oneModel, isModel⟩ := selected_one models
  obtain ⟨queryItem, oneQuery, isQuery⟩ := selected_one queries
  obtain ⟨dashboardPathItem, modelPathItem, bothPaths, isDashboardPath, isModelPath⟩ :=
    canonicalEvidence_paths two dashboardPath modelPath
  obtain ⟨dashboardCriticality, dashboardPayload⟩ := foundDashboard
  obtain ⟨modelCriticality, modelPayload⟩ := foundModel
  obtain ⟨queryCriticality, queryPayload⟩ := foundQuery
  have dashboardCritical : dashboardCriticality = .critical := by
    simp only [isCanonicalDashboard, Bool.and_eq_true, beq_iff_eq] at dashboard
    exact dashboard.2
  have modelCritical : modelCriticality = .critical := by
    simp only [isCanonicalModel, Bool.and_eq_true, beq_iff_eq] at model
    exact model.1.1.2
  have queryHigh : queryCriticality = .high := by
    simp only [isCanonicalQuery, Bool.and_eq_true, beq_iff_eq] at query
    exact query.2
  subst dashboardCritical modelCritical queryHigh
  exact ⟨dashboardPathItem, modelPathItem, dashboardItem, modelItem, queryItem, dashboardPayload,
    modelPayload, queryPayload, bothPaths, oneDashboard, oneModel, oneQuery, isDashboardPath,
    isModelPath, isDashboard, dashboard, isModel, model, isQuery, query⟩

/-- The order of the evidence does not matter. -/
theorem CanonicalItems.perm {evidence others : List EvidenceItem}
    {dashboardPath modelPath dashboard model query : EvidenceItem}
    {dashboardPayload : DashboardPayload} {modelPayload : ModelPayload}
    {queryPayload : QueryPayload}
    (items : CanonicalItems evidence dashboardPath modelPath dashboard model query
      dashboardPayload modelPayload queryPayload) (same : others.Perm evidence) :
    CanonicalItems others dashboardPath modelPath dashboard model query dashboardPayload
      modelPayload queryPayload :=
  { items with
    paths := (same.filter _).trans items.paths
    dashboards := List.perm_singleton.mp (items.dashboards ▸ same.filter _)
    models := List.perm_singleton.mp (items.models ▸ same.filter _)
    queries := List.perm_singleton.mp (items.queries ▸ same.filter _) }

end Canonical

section Consumers

theorem includes_ofList (text part : List Char) :
    includes (String.ofList text) (String.ofList part) =
      text.tails.any fun rest => part.isPrefixOf rest := by
  rw [includes, String.toList_ofList, String.toList_ofList]

theorem staging_passed (evidence : List EvidenceItem) (item : EvidenceItem) (nodes : List String)
    (found : Derivation) : pushNode evidence item nodes found canonicalAnalyticsStagingUrn = found := by
  have staged : isIntermediateNode canonicalAnalyticsStagingUrn = true := by
    rw [isIntermediateNode, canonicalAnalyticsStagingUrn, Bool.or_eq_true]
    exact Or.inl ((includes_ofList _ _).trans (by decide))
  simp [pushNode, staged]

theorem asset_passed (evidence : List EvidenceItem) (item : EvidenceItem) (nodes : List String)
    (found : Derivation) {urn : String} (other : includes urn "urn:li:dataset:" = false) :
    pushNode evidence item nodes found urn = found := by
  simp [pushNode, other]

/-- The dataset of the model counts as seen with the model. -/
theorem features_passed {evidence : List EvidenceItem} (item : EvidenceItem) (nodes : List String)
    (found : Derivation) {urn : String} (learned : urn ∈ featureDatasetUrns evidence) :
    pushNode evidence item nodes found urn = found := by
  simp [pushNode, learned]

theorem revenue_pushed {evidence : List EvidenceItem} (item : EvidenceItem) (nodes : List String)
    (features : featureDatasetUrns evidence = [canonicalFraudFeaturesUrn]) :
    pushNode evidence item nodes ⟨[], []⟩ canonicalAnalyticsRevenueUrn =
      ⟨[canonicalAnalyticsRevenueUrn], [⟨.dataModel nodes,
        extractDatasetName canonicalAnalyticsRevenueUrn, canonicalAnalyticsRevenueUrn, [item.id],
        []⟩]⟩ := by
  have named : canonicalAnalyticsRevenueUrn ≠ "" := by
    rw [canonicalAnalyticsRevenueUrn, ne_eq, String.ofList_inj]
    decide
  have dataset : includes canonicalAnalyticsRevenueUrn "urn:li:dataset:" = true := by
    rw [canonicalAnalyticsRevenueUrn]
    exact (includes_ofList _ _).trans (by decide)
  have other : canonicalAnalyticsRevenueUrn ≠ canonicalDatasetUrn := by
    rw [canonicalAnalyticsRevenueUrn, canonicalDatasetUrn, ne_eq, String.ofList_inj]
    decide
  have final : isIntermediateNode canonicalAnalyticsRevenueUrn = false := by
    rw [isIntermediateNode, canonicalAnalyticsRevenueUrn, Bool.or_eq_false_iff]
    exact ⟨(includes_ofList _ _).trans (by decide), (includes_ofList _ _).trans (by decide)⟩
  have unlearned : canonicalAnalyticsRevenueUrn ≠ canonicalFraudFeaturesUrn := by
    rw [canonicalAnalyticsRevenueUrn, canonicalFraudFeaturesUrn, ne_eq, String.ofList_inj]
    decide
  simp [pushNode, Derivation.push, named, dataset, other, final, features, unlearned]

/-- These assets have different names. -/
theorem assets_apart : [canonicalAnalyticsRevenueUrn, canonicalDashboardUrn, canonicalFraudModelUrn,
    canonicalFraudFeaturesUrn, canonicalQueryUrn].Nodup := by
  rw [canonicalAnalyticsRevenueUrn, canonicalDashboardUrn, canonicalFraudModelUrn,
    canonicalFraudFeaturesUrn, canonicalQueryUrn]
  have listed : ∀ texts : List (List Char), texts.Nodup → (texts.map String.ofList).Nodup :=
    fun texts single => single.map fun _ _ same => String.ofList_inj.mp same
  exact listed [_, _, _, _, _] (by decide)

/-- These are the consumers of complete evidence. -/
def canonicalConsumers (dashboardPath dashboard model query : EvidenceItem)
    (dashboardPayload : DashboardPayload) (modelPayload : ModelPayload) : List ImpactConsumer :=
  [⟨.dataModel (canonicalNodes canonicalAnalyticsRevenueUrn canonicalDashboardUrn),
      extractDatasetName canonicalAnalyticsRevenueUrn, canonicalAnalyticsRevenueUrn,
      [dashboardPath.id], []⟩,
    ⟨.dashboard, dashboard.title, canonicalDashboardUrn, [dashboard.id],
      dashboardPayload.ownerUrns⟩,
    ⟨.mlConsumer canonicalFraudFeaturesUrn, model.title, canonicalFraudModelUrn, [model.id],
      modelPayload.ownerUrns⟩,
    ⟨.unmanagedQuery, query.title, canonicalQueryUrn, [query.id], []⟩]

variable {evidence : List EvidenceItem}
variable {dashboardPath modelPath dashboard model query : EvidenceItem}
variable {dashboardPayload : DashboardPayload} {modelPayload : ModelPayload}
variable {queryPayload : QueryPayload}

theorem CanonicalItems.features (items : CanonicalItems evidence dashboardPath modelPath dashboard
    model query dashboardPayload modelPayload queryPayload) :
    featureDatasetUrns evidence = [canonicalFraudFeaturesUrn] := by
  have canonical := items.modelCanonical
  simp only [isCanonicalModel, Bool.and_eq_true, beq_iff_eq] at canonical
  rw [featureDatasetUrns_eq, models_eq, selected_value items.models items.model, List.map_singleton,
    canonical.1.1.1.1.1.1.1.2]

/-- The path of the dashboard gives the one data model, and the path of the model gives none. -/
theorem CanonicalItems.dataModels (items : CanonicalItems evidence dashboardPath modelPath dashboard
    model query dashboardPayload modelPayload queryPayload) :
    evidence.foldl (pushDataModels evidence) ⟨[], []⟩ =
      ⟨[canonicalAnalyticsRevenueUrn], [⟨.dataModel (canonicalNodes canonicalAnalyticsRevenueUrn
        canonicalDashboardUrn), extractDatasetName canonicalAnalyticsRevenueUrn,
        canonicalAnalyticsRevenueUrn, [dashboardPath.id], []⟩]⟩ := by
  have dashboardAsset : includes canonicalDashboardUrn "urn:li:dataset:" = false := by
    rw [canonicalDashboardUrn]
    exact (includes_ofList _ _).trans (by decide)
  have modelAsset : includes canonicalFraudModelUrn "urn:li:dataset:" = false := by
    rw [canonicalFraudModelUrn]
    exact (includes_ofList _ _).trans (by decide)
  have learned : canonicalFraudFeaturesUrn ∈ featureDatasetUrns evidence := by
    rw [items.features]
    exact List.mem_singleton_self _
  have overModel : ∀ found, pushDataModels evidence found modelPath = found := by
    intro found
    simp only [pushDataModels, (pathOf_some.mp items.modelPath).2, canonicalNodes,
      List.drop_succ_cons, List.drop_zero, List.foldl_cons, List.foldl_nil, staging_passed,
      features_passed _ _ _ learned, asset_passed _ _ _ _ modelAsset]
  have overDashboard : pushDataModels evidence ⟨[], []⟩ dashboardPath =
      ⟨[canonicalAnalyticsRevenueUrn], [⟨.dataModel (canonicalNodes canonicalAnalyticsRevenueUrn
        canonicalDashboardUrn), extractDatasetName canonicalAnalyticsRevenueUrn,
        canonicalAnalyticsRevenueUrn, [dashboardPath.id], []⟩]⟩ := by
    simp only [pushDataModels, (pathOf_some.mp items.dashboardPath).2, canonicalNodes,
      List.drop_succ_cons, List.drop_zero, List.foldl_cons, List.foldl_nil, staging_passed,
      revenue_pushed _ _ items.features, asset_passed _ _ _ _ dashboardAsset]
  have passes : ∀ (state : Derivation) item, pathOf item = none →
      pushDataModels evidence state item = state := by
    intro state item other
    cases kind : item.payload <;> simp [pushDataModels, pathOf, kind] at other ⊢
  rw [foldl_selected pathOf passes]
  rcases perm_pair items.paths with same | same
  · rw [same, List.foldl_cons, List.foldl_cons, List.foldl_nil, overDashboard, overModel]
  · rw [same, List.foldl_cons, List.foldl_cons, List.foldl_nil, overModel, overDashboard]

/-- Complete evidence gives four consumers in any order of its items. -/
theorem CanonicalItems.consumers (items : CanonicalItems evidence dashboardPath modelPath dashboard
    model query dashboardPayload modelPayload queryPayload) :
    deriveImpactConsumers evidence =
      canonicalConsumers dashboardPath dashboard model query dashboardPayload modelPayload := by
  have dashboardUrn : dashboardPayload.dashboardUrn = canonicalDashboardUrn := by
    have canonical := items.dashboardCanonical
    simp only [isCanonicalDashboard, Bool.and_eq_true, beq_iff_eq] at canonical
    exact canonical.1.1.1.1.1.1
  have modelUrns : modelPayload.modelUrn = canonicalFraudModelUrn ∧
      modelPayload.featureDatasetUrn = canonicalFraudFeaturesUrn := by
    have canonical := items.modelCanonical
    simp only [isCanonicalModel, Bool.and_eq_true, beq_iff_eq] at canonical
    exact canonical.1.1.1.1.1.1.1
  have queryUrn : queryPayload.queryUrn = canonicalQueryUrn := by
    have canonical := items.queryCanonical
    simp only [isCanonicalQuery, Bool.and_eq_true, beq_iff_eq] at canonical
    exact canonical.1.1.1.1.1
  have dashboardsPass : ∀ (state : Derivation) item, dashboardOf item = none →
      pushDashboard state item = state := by
    intro state item other
    cases kind : item.payload <;> simp [pushDashboard, dashboardOf, kind] at other ⊢
  have modelsPass : ∀ (state : Derivation) item, modelOf item = none →
      pushModel state item = state := by
    intro state item other
    cases kind : item.payload <;> simp [pushModel, modelOf, kind] at other ⊢
  have queriesPass : ∀ (state : Derivation) item, queryOf item = none →
      pushQuery state item = state := by
    intro state item other
    cases kind : item.payload <;> simp [pushQuery, queryOf, kind] at other ⊢
  have apart := assets_apart
  simp only [List.nodup_cons, List.mem_cons, List.not_mem_nil, not_or, ← ne_eq] at apart
  obtain ⟨⟨revenueDashboard, revenueModel, revenueFeatures, revenueQuery, _⟩,
    ⟨dashboardModel, dashboardFeatures, dashboardQuery, _⟩, ⟨modelFeatures, modelQuery, _⟩,
    ⟨featuresQuery, _⟩, _⟩ := apart
  simp only [deriveImpactConsumers]
  rw [items.dataModels, foldl_selected dashboardOf dashboardsPass, items.dashboards,
    foldl_selected modelOf modelsPass, items.models, foldl_selected queryOf queriesPass,
    items.queries]
  simp only [List.foldl_cons, List.foldl_nil, pushDashboard, (dashboardOf_some.mp items.dashboard).2,
    pushModel, (modelOf_some.mp items.model).2, pushQuery, (queryOf_some.mp items.query).2,
    Derivation.push, dashboardUrn, modelUrns, queryUrn]
  simp [canonicalConsumers, revenueDashboard.symm, revenueModel.symm, revenueQuery.symm,
    dashboardModel.symm, dashboardQuery.symm, modelQuery.symm, featuresQuery.symm]

/-- The names of the four consumers differ. -/
theorem canonicalConsumers_apart (dashboardPath dashboard model query : EvidenceItem)
    (dashboardPayload : DashboardPayload) (modelPayload : ModelPayload) :
    ((canonicalConsumers dashboardPath dashboard model query dashboardPayload
      modelPayload).map (·.entityUrn)).Nodup := by
  refine assets_apart.sublist ?_
  simp only [canonicalConsumers, List.map_cons, List.map_nil]
  exact .cons_cons _ (.cons_cons _ (.cons_cons _ (.cons _ (.refl _))))

theorem canonicalConsumers_asserted (script : Script)
    (dashboardPath dashboard model query : EvidenceItem) (dashboardPayload : DashboardPayload)
    (modelPayload : ModelPayload) :
    assertExactlyFourConsumers script (canonicalConsumers dashboardPath dashboard model query
      dashboardPayload modelPayload) = .ok () := by
  have counted : (canonicalConsumers dashboardPath dashboard model query dashboardPayload
      modelPayload).length = canonicalConsumerKinds.length := rfl
  have kinds : (canonicalConsumers dashboardPath dashboard model query dashboardPayload
      modelPayload).map (·.kind) = canonicalConsumerKinds := rfl
  have apart := canonicalConsumers_apart dashboardPath dashboard model query dashboardPayload
    modelPayload
  have evidenced : ((canonicalConsumers dashboardPath dashboard model query dashboardPayload
      modelPayload).find? fun consumer => consumer.evidenceIds = []) = none := rfl
  rw [assertExactlyFourConsumers]
  refine bind_ok.mpr ⟨(), require_ok.mpr counted, ?_⟩
  refine bind_ok.mpr ⟨(), require_ok.mpr kinds, ?_⟩
  refine bind_ok.mpr ⟨(), require_ok.mpr apart, ?_⟩
  rw [evidenced]
  rfl

end Consumers

section Complete

variable {script : Script} {data : ImpactContextData}

theorem complete_canonical (accepted : contextDataIssues script data = [])
    (complete : data.collectionStatus = .complete) : isCanonicalEvidence data.evidence = true := by
  simp only [contextDataIssues, List.append_eq_nil_iff, statusIssues, complete,
    issueUnless_nil] at accepted
  exact accepted.1.2.2

/-- A complete context that is accepted gives exactly four consumers. -/
theorem complete_four (accepted : contextDataIssues script data = [])
    (complete : data.collectionStatus = .complete) :
    assertExactlyFourConsumers script (deriveImpactConsumers data.evidence) = .ok () := by
  obtain ⟨_, _, _, _, _, _, _, _, items⟩ :=
    canonicalEvidence_items (complete_canonical accepted complete)
  rw [items.consumers]
  exact canonicalConsumers_asserted script _ _ _ _ _ _

end Complete

section Owners

theorem takeWhile_separated {separator : Char} {before after : List Char}
    (plain : separator ∉ before) :
    (before ++ separator :: after).takeWhile (· != separator) = before := by
  have passes : ∀ char ∈ before, (char != separator) = true := by
    intro char present
    rw [bne_iff_ne]
    rintro rfl
    exact plain present
  rw [List.takeWhile_append_of_pos passes, List.takeWhile_cons_of_neg (by simp), List.append_nil]

/-- A text without the separator ends before it. -/
theorem ownerKey_inj {asset owner otherAsset otherOwner : String}
    (plain : Char.ofNat 0 ∉ asset.toList) (otherPlain : Char.ofNat 0 ∉ otherAsset.toList) :
    ownerKey asset owner = ownerKey otherAsset otherOwner ↔
      asset = otherAsset ∧ owner = otherOwner := by
  constructor
  · intro same
    have lists := congrArg String.toList same
    have separator : "\x00".toList = [Char.ofNat 0] := String.toList_ofList
    simp only [ownerKey, String.toList_append, separator, List.append_assoc,
      List.singleton_append] at lists
    have assets : asset.toList = otherAsset.toList := by
      have before := congrArg (List.takeWhile (· != Char.ofNat 0)) lists
      rwa [takeWhile_separated plain, takeWhile_separated otherPlain] at before
    rw [assets, List.append_cancel_left_eq, List.cons.injEq] at lists
    exact ⟨String.toList_inj.mp assets, String.toList_inj.mp lists.2⟩
  · rintro ⟨rfl, rfl⟩
    rfl

theorem assets_plain : Char.ofNat 0 ∉ canonicalDashboardUrn.toList ∧
    Char.ofNat 0 ∉ canonicalFraudModelUrn.toList ∧
    Char.ofNat 0 ∉ canonicalAnalyticsRevenueUrn.toList := by
  rw [canonicalDashboardUrn, canonicalFraudModelUrn, canonicalAnalyticsRevenueUrn,
    String.toList_ofList, String.toList_ofList, String.toList_ofList]
  decide

variable {evidence : List EvidenceItem}
variable {dashboardPath modelPath dashboard model query : EvidenceItem}
variable {dashboardPayload : DashboardPayload} {modelPayload : ModelPayload}
variable {queryPayload : QueryPayload}

/-- The recorded owners are the declared ones, and every one of them is canonical. -/
theorem canonicalEvidence_owners (canonical : isCanonicalEvidence evidence = true) :
    (∀ key, key ∈ ownerKeys evidence ↔ key ∈ declaredOwnerKeys evidence) ∧
      ∀ owner ∈ owners evidence, Char.ofNat 0 ∉ owner.assetUrn.toList := by
  simp only [isCanonicalEvidence, Bool.and_eq_true, beq_iff_eq, List.all_eq_true,
    List.contains_iff_mem] at canonical
  obtain ⟨⟨⟨_, counts⟩, within⟩, each⟩ := canonical
  refine ⟨fun key => ⟨within key, fun declared => ?_⟩, fun owner present => ?_⟩
  · have single : (ownerKeys evidence).Nodup := List.nodup_dedup _
    have same : (ownerKeys evidence).Perm (declaredOwnerKeys evidence) :=
      (single.subperm within).perm_of_length_le counts.ge
    exact same.mem_iff.mpr declared
  · have known := each owner present
    simp only [isCanonicalOwner, Bool.or_eq_true, Bool.and_eq_true, beq_iff_eq] at known
    obtain ⟨dashboardPlain, modelPlain, revenuePlain⟩ := assets_plain
    rcases known with (⟨⟨asset, _⟩, _⟩ | ⟨⟨asset, _⟩, _⟩) | ⟨⟨asset, _⟩, _⟩
    · rw [asset]
      exact dashboardPlain
    · rw [asset]
      exact modelPlain
    · rw [asset]
      exact revenuePlain

/-- An asset has a recorded owner when some key starts with it. -/
theorem owned_iff {asset : String} (plain : Char.ofNat 0 ∉ asset.toList)
    (each : ∀ owner ∈ owners evidence, Char.ofNat 0 ∉ owner.assetUrn.toList) :
    asset ∈ ownerAssetUrns evidence ↔ ∃ owner, ownerKey asset owner ∈ ownerKeys evidence := by
  simp only [ownerAssetUrns, ownerKeys, List.mem_dedup, List.mem_map]
  constructor
  · rintro ⟨owner, present, rfl⟩
    exact ⟨owner.ownerUrn, owner, present, rfl⟩
  · rintro ⟨_, owner, present, same⟩
    exact ⟨owner, present, ((ownerKey_inj (each owner present) plain).mp same).1⟩

theorem CanonicalItems.declared (items : CanonicalItems evidence dashboardPath modelPath dashboard
    model query dashboardPayload modelPayload queryPayload) (key : String) :
    key ∈ declaredOwnerKeys evidence ↔
      (∃ owner ∈ dashboardPayload.ownerUrns, ownerKey canonicalDashboardUrn owner = key) ∨
      (∃ owner ∈ modelPayload.ownerUrns, ownerKey canonicalFraudModelUrn owner = key) ∨
      ∃ owner, ownerKey canonicalAnalyticsRevenueUrn owner = key ∧
        ∃ found ∈ owners evidence, found.assetUrn = canonicalAnalyticsRevenueUrn ∧
          found.ownerUrn = owner := by
  have oneDashboard := selected_value items.dashboards items.dashboard
  have oneModel := selected_value items.models items.model
  simp only [declaredOwnerKeys, dashboards_eq, models_eq, oneDashboard, oneModel, List.head?_cons,
    Option.elim_some, List.mem_dedup, List.mem_append, List.mem_map, List.mem_filter, beq_iff_eq,
    or_assoc]
  refine or_congr Iff.rfl (or_congr Iff.rfl ?_)
  constructor
  · rintro ⟨found, ⟨present, asset⟩, rfl⟩
    exact ⟨_, rfl, found, present, asset, rfl⟩
  · rintro ⟨_, rfl, found, present, asset, rfl⟩
    exact ⟨found, ⟨present, asset⟩, rfl⟩

/-- A critical asset has no recorded owner exactly when no owner of it was observed. -/
theorem CanonicalItems.unowned (items : CanonicalItems evidence dashboardPath modelPath dashboard
    model query dashboardPayload modelPayload queryPayload)
    (canonical : isCanonicalEvidence evidence = true) :
    (canonicalDashboardUrn ∉ ownerAssetUrns evidence ↔ dashboardPayload.ownerUrns = []) ∧
    (canonicalFraudModelUrn ∉ ownerAssetUrns evidence ↔ modelPayload.ownerUrns = []) := by
  obtain ⟨recorded, each⟩ := canonicalEvidence_owners canonical
  obtain ⟨dashboardPlain, modelPlain, revenuePlain⟩ := assets_plain
  have apart := assets_apart
  simp only [List.nodup_cons, List.mem_cons, List.not_mem_nil, not_or, ← ne_eq] at apart
  obtain ⟨⟨revenueDashboard, revenueModel, _⟩, ⟨dashboardModel, _⟩, _⟩ := apart
  rw [owned_iff dashboardPlain each, owned_iff modelPlain each]
  simp only [recorded, items.declared, ownerKey_inj dashboardPlain dashboardPlain,
    ownerKey_inj modelPlain dashboardPlain, ownerKey_inj revenuePlain dashboardPlain,
    ownerKey_inj dashboardPlain modelPlain, ownerKey_inj modelPlain modelPlain,
    ownerKey_inj revenuePlain modelPlain, revenueDashboard, revenueModel, dashboardModel,
    dashboardModel.symm, true_and, false_and, and_false, exists_false, or_false, false_or,
    exists_eq_right, List.eq_nil_iff_forall_not_mem, not_exists]

end Owners

end LineageGuard.Domain
