import LineageGuard.Scenario.Aspects
import Mathlib.Tactic

/-
This file proves which entities the seed plan writes to and which markers it leaves there.
-/

namespace LineageGuard.Scenario

open Attempt

variable {Extra : Type} {sdk : Sdk Extra} {graph : ExpectedGraph} {ownershipNonce : String}

section Targets

theorem mem_allowed {urn : String} : urn ∈ graph.allowedMutationUrns ↔
    urn = graph.sourceField.schemaFieldUrn ∨ urn ∈ graph.managedSet := by
  rw [ExpectedGraph.allowedMutationUrns, mem_sortedSet, List.mem_cons, ExpectedGraph.managedUrns,
    mem_sortedSet]

theorem mem_owned {urn : String} : urn ∈ graph.ownedUrns ↔
    urn ∈ graph.managedSet ∧ urn ∉ graph.datasetUrns := by
  rw [ExpectedGraph.ownedUrns, mem_sortedSet, List.mem_filter, ExpectedGraph.managedUrns,
    mem_sortedSet, Bool.not_eq_true', Bool.eq_false_iff, ne_eq, List.contains_iff_mem,
    ExpectedGraph.connectorDatasetUrns, mem_sortedSet]

/-- The field of the source is no entity that the scenario manages. -/
theorem Loaded.field_unmanaged (loaded : Loaded graph) {urn : String} (owned : urn ∈ graph.ownedUrns) :
    urn ≠ graph.sourceField.schemaFieldUrn := by
  intro isField
  obtain ⟨ordersUrn, same⟩ := loaded.sourceField
  have starts : "urn:li:schemaField:".toList <+: urn.toList := by
    rw [isField, same]
    exact ((by decide : "urn:li:schemaField:".toList <+: "urn:li:schemaField:(".toList).trans
      (starts_append _ _)).trans (starts_append _ _)
  have managed : urn ∈ graph.managedUrns := by
    rw [ExpectedGraph.managedUrns, mem_sortedSet]
    exact (mem_owned.mp owned).1
  obtain ⟨start, isStart, other⟩ : ∃ start ∈ canonicalStarts, start.toList <+: urn.toList := by
    rcases loaded.managed managed with dataset | canonical
    · obtain ⟨entry, _, rfl⟩ := List.mem_map.mp dataset
      exact ⟨"urn:li:dataset:", by decide, datasetUrn_starts entry.1⟩
    · exact nonDataset_starts canonical
  have apart : ∀ start ∈ canonicalStarts, ¬ start.toList <+: "urn:li:schemaField:".toList ∧
      ¬ "urn:li:schemaField:".toList <+: start.toList := by decide
  rcases List.prefix_or_prefix_of_prefix other starts with first | second
  · exact (apart start isStart).1 first
  · exact (apart start isStart).2 second

theorem dataset_allowed {urn : String} (listed : urn ∈ graph.datasetUrns) :
    urn ∈ graph.allowedMutationUrns := by
  obtain ⟨node, present, isUrn⟩ := List.mem_map.mp listed
  refine mem_allowed.mpr (Or.inr ?_)
  simp only [ExpectedGraph.managedSet, List.mem_cons, List.mem_append]
  exact Or.inr (Or.inl (Or.inr (List.mem_map.mpr
    ⟨node, List.mem_of_mem_filter present, isUrn⟩)))

theorem node_allowed {node : GraphNode} (present : node ∈ graph.nodes) :
    node.urn ∈ graph.allowedMutationUrns := by
  refine mem_allowed.mpr (Or.inr ?_)
  simp only [ExpectedGraph.managedSet, List.mem_cons, List.mem_append]
  exact Or.inr (Or.inl (Or.inr (List.mem_map_of_mem present)))

/-- Every aspect of a node is written to the node. -/
theorem nodeAspects_urn {node : GraphNode} {upserts : List (PlannedUpsert Extra)}
    (planned : nodeAspects sdk graph ownershipNonce node = .ok upserts) :
    ∀ upsert ∈ upserts, upsert.urn = node.urn ∧
      upsert.proposal.entityKind = entityName node.entityType := by
  simp only [nodeAspects, bind_ok, pure_ok] at planned
  obtain ⟨properties, isProperties, ownership, isOwnership, rfl⟩ := planned
  intro upsert present
  rw [List.mem_append, List.mem_append, List.mem_append] at present
  rcases present with ((inside | inside) | inside) | inside
  · rw [nodeProperties] at isProperties
    cases isType : node.entityType with
    | dashboard =>
        rw [isType] at isProperties
        simp only [bind_ok, pure_ok] at isProperties
        obtain ⟨_, _, rfl⟩ := isProperties
        rw [List.mem_singleton.mp inside]
        exact ⟨rfl, rfl⟩
    | mlmodel =>
        rw [isType] at isProperties
        simp only [bind_ok, pure_ok] at isProperties
        obtain ⟨_, _, rfl⟩ := isProperties
        rcases List.mem_cons.mp inside with isFirst | isSecond
        · rw [isFirst]
          exact ⟨rfl, rfl⟩
        · rw [List.mem_singleton.mp isSecond]
          exact ⟨rfl, rfl⟩
    | dataset =>
        rw [isType] at isProperties
        rw [← pure_ok.mp isProperties] at inside
        exact absurd inside List.not_mem_nil
  · rw [ownershipUpserts] at isOwnership
    split at isOwnership
    · rw [← pure_ok.mp isOwnership] at inside
      exact absurd inside List.not_mem_nil
    · simp only [bind_ok, pure_ok] at isOwnership
      obtain ⟨_, _, rfl⟩ := isOwnership
      rw [List.mem_singleton.mp inside]
      exact ⟨rfl, rfl⟩
  · rw [tagUpserts] at inside
    split at inside
    · exact absurd inside List.not_mem_nil
    · rw [List.mem_singleton.mp inside]
      exact ⟨rfl, rfl⟩
  · rw [domainUpserts, Option.mem_toList, Option.map_eq_some_iff] at inside
    obtain ⟨_, _, rfl⟩ := inside
    exact ⟨rfl, rfl⟩

/-- An entity upsert belongs to an item of the graph. -/
inductive EntityUpsert (sdk : Sdk Extra) (graph : ExpectedGraph) (ownershipNonce : String)
    (plan : List (PlannedUpsert Extra)) (planned : PlannedUpsert Extra) : Prop
  | owner (owner : Owner) (present : owner ∈ graph.owners)
      (same : planned = ownerUpsert sdk ownershipNonce owner)
  | tag (tag : Tag) (present : tag ∈ graph.tags) (same : planned = tagUpsert sdk ownershipNonce tag)
  | domain (domain : Domain) (present : domain ∈ graph.domains)
      (same : planned = domainUpsert sdk ownershipNonce domain)
  | termInfo (same : planned = termInfoUpsert sdk graph ownershipNonce)
  | glossaryTerms (same : planned = glossaryTermsUpsert sdk graph)
  | node (node : GraphNode) (upserts : List (PlannedUpsert Extra)) (present : node ∈ graph.nodes)
      (aspects : nodeAspects sdk graph ownershipNonce node = .ok upserts)
      (inside : planned ∈ upserts) (within : upserts ⊆ plan)

/-- The values of checked items come from their items. -/
theorem forall₂_value {Item Value : Type} {check : Item → Except String Value} {items : List Item}
    {values : List Value} (checked : List.Forall₂ (fun item value => check item = .ok value) items
      values) : ∀ value ∈ values, ∃ item ∈ items, check item = .ok value := by
  induction checked with
  | nil => exact fun _ present => absurd present List.not_mem_nil
  | cons first _ ih =>
      intro value present
      rcases List.mem_cons.mp present with rfl | later
      · exact ⟨_, List.mem_cons_self, first⟩
      · obtain ⟨item, isItem, isValue⟩ := ih value later
        exact ⟨item, List.mem_cons_of_mem _ isItem, isValue⟩

theorem entityUpserts_cases {upserts : List (PlannedUpsert Extra)}
    (planned : entityUpserts sdk graph ownershipNonce = .ok upserts) :
    ∀ upsert ∈ upserts, EntityUpsert sdk graph ownershipNonce upserts upsert := by
  simp only [entityUpserts, bind_ok, pure_ok] at planned
  obtain ⟨nodes, isNodes, rfl⟩ := planned
  intro upsert present
  rw [List.mem_append, List.mem_append, List.mem_append, List.mem_append] at present
  rcases present with (((inside | inside) | inside) | inside) | inside
  · obtain ⟨owner, isOwner, rfl⟩ := List.mem_map.mp inside
    exact .owner owner isOwner rfl
  · obtain ⟨tag, isTag, rfl⟩ := List.mem_map.mp inside
    exact .tag tag isTag rfl
  · obtain ⟨domain, isDomain, rfl⟩ := List.mem_map.mp inside
    exact .domain domain isDomain rfl
  · rcases List.mem_cons.mp inside with isInfo | isTerms
    · exact .termInfo isInfo
    · exact .glossaryTerms (List.mem_singleton.mp isTerms)
  · obtain ⟨group, isGroup, inGroup⟩ := List.mem_flatten.mp inside
    obtain ⟨node, isNode, aspects⟩ := forall₂_value (mapM_ok.mp isNodes) group isGroup
    exact .node node group isNode aspects inGroup fun other isOther =>
      List.mem_append_right _ (List.mem_flatten.mpr ⟨group, isGroup, isOther⟩)

theorem EntityUpsert.allowed {plan : List (PlannedUpsert Extra)} {upsert : PlannedUpsert Extra}
    (planned : EntityUpsert sdk graph ownershipNonce plan upsert) :
    upsert.urn ∈ graph.allowedMutationUrns := by
  cases planned with
  | owner owner present same =>
      rw [same]
      refine mem_allowed.mpr (Or.inr ?_)
      simp only [ExpectedGraph.managedSet, List.mem_cons, List.mem_append]
      exact Or.inr (Or.inl (Or.inl (Or.inl (Or.inl (List.mem_map_of_mem present)))))
  | tag tag present same =>
      rw [same]
      refine mem_allowed.mpr (Or.inr ?_)
      simp only [ExpectedGraph.managedSet, List.mem_cons, List.mem_append]
      exact Or.inr (Or.inl (Or.inl (Or.inl (Or.inr (List.mem_map_of_mem present)))))
  | domain domain present same =>
      rw [same]
      refine mem_allowed.mpr (Or.inr ?_)
      simp only [ExpectedGraph.managedSet, List.mem_cons, List.mem_append]
      exact Or.inr (Or.inl (Or.inl (Or.inr (List.mem_map_of_mem present))))
  | termInfo same =>
      rw [same]
      exact mem_allowed.mpr (Or.inr List.mem_cons_self)
  | glossaryTerms same =>
      rw [same]
      exact mem_allowed.mpr (Or.inl rfl)
  | node node upserts present aspects inside within =>
      rw [(nodeAspects_urn aspects upsert inside).1]
      exact node_allowed present

theorem isDataset_listed {urn : String} (isDataset : isDataset graph urn = .ok true) :
    urn ∈ graph.datasetUrns := by
  simp only [Scenario.isDataset, nodeType, bind_ok, present_ok, pure_ok, Option.map_eq_some_iff,
    decide_eq_true_eq] at isDataset
  obtain ⟨type, ⟨node, isNode, isType⟩, same⟩ := isDataset
  have isUrn : node.urn = urn := by
    have accepted := List.find?_some isNode
    exact of_decide_eq_true accepted
  rw [← isUrn]
  refine List.mem_map_of_mem (List.mem_filter.mpr
    ⟨List.mem_reverse.mp (List.mem_of_find?_eq_some isNode), ?_⟩)
  rw [isType, decide_eq_true_eq]
  exact same

end Targets

section Markers

/-- The upsert writes the marker of the owner to an entity of this kind. -/
def Marks (ownershipNonce : String) (kind : EntityKind) (marking : PlannedUpsert Extra) : Prop :=
  markerAspect kind = some marking.aspect.aspectType ∧
    hasMarker ownershipNonce marking.aspect = true

/-- The marker stands at the end of a description. -/
theorem marker_contained (first : String) :
    (markerText ownershipNonce).toList <:+: (first ++ markerText ownershipNonce).toList := by
  rw [String.toList_append]
  exact (List.suffix_append _ _).isInfix

theorem marker_properties (more : Properties) :
    (markerProperties ownershipNonce ++ more).lookup scenarioMarkerKey = some scenarioMarkerValue ∧
      (markerProperties ownershipNonce ++ more).lookup ownershipNonceKey = some ownershipNonce := by
  have apart : (ownershipNonceKey == scenarioMarkerKey) = false := by decide
  refine ⟨?_, ?_⟩
  · rw [markerProperties, List.cons_append, List.lookup_cons_self]
  · rw [markerProperties, List.cons_append, List.lookup_cons, apart, List.cons_append,
      List.lookup_cons_self]

/-- An aspect that is no description carries the marker in its properties. -/
theorem properties_marked {aspect : Aspect Extra} {more : Properties}
    (properties : aspect.customProperties = markerProperties ownershipNonce ++ more)
    (noText : ∀ name description, aspect.content ≠ .corpGroupInfo name description ∧
      ∀ name, aspect.content ≠ .tagProperties name description) :
    hasMarker ownershipNonce aspect = true := by
  obtain ⟨isScenario, isNonce⟩ := @marker_properties ownershipNonce more
  rw [hasMarker]
  split
  · next isGroup => exact absurd isGroup (noText _ _).1
  · next isTag => exact absurd isTag ((noText none _).2 _)
  · rw [properties, isScenario, isNonce, Bool.and_eq_true]
    exact ⟨decide_eq_true rfl, decide_eq_true rfl⟩

theorem ownerUpsert_marks (owner : Owner) :
    Marks ownershipNonce .corpGroup (ownerUpsert sdk ownershipNonce owner) :=
  ⟨rfl, decide_eq_true (marker_contained _)⟩

theorem tagUpsert_marks (tag : Tag) : Marks ownershipNonce .tag (tagUpsert sdk ownershipNonce tag) :=
  ⟨rfl, decide_eq_true (marker_contained _)⟩

theorem domainUpsert_marks (domain : Domain) :
    Marks ownershipNonce .domain (domainUpsert sdk ownershipNonce domain) :=
  ⟨rfl, properties_marked (List.append_nil _).symm
    fun _ _ => ⟨fun same => (by cases same), fun _ same => (by cases same)⟩⟩

theorem termInfoUpsert_marks : Marks ownershipNonce .glossaryTerm (termInfoUpsert sdk graph ownershipNonce) :=
  ⟨rfl, properties_marked (List.append_nil _).symm
    fun _ _ => ⟨fun same => (by cases same), fun _ same => (by cases same)⟩⟩

/-- A node that is no dataset gets its marker. -/
theorem nodeAspects_marks {node : GraphNode} {upserts : List (PlannedUpsert Extra)}
    (planned : nodeAspects sdk graph ownershipNonce node = .ok upserts)
    (noDataset : node.entityType ≠ .dataset) :
    ∃ marking ∈ upserts, Marks ownershipNonce (entityName node.entityType) marking := by
  simp only [nodeAspects, bind_ok, pure_ok] at planned
  obtain ⟨properties, isProperties, ownership, _, rfl⟩ := planned
  have marked : ∃ marking ∈ properties, Marks ownershipNonce (entityName node.entityType) marking := by
    rw [nodeProperties] at isProperties
    cases isType : node.entityType with
    | dashboard =>
        rw [isType] at isProperties
        simp only [bind_ok, pure_ok] at isProperties
        obtain ⟨_, _, rfl⟩ := isProperties
        exact ⟨_, List.mem_cons_self, rfl, properties_marked (List.append_nil _).symm
          fun _ _ => ⟨fun same => (by cases same), fun _ same => (by cases same)⟩⟩
    | mlmodel =>
        rw [isType] at isProperties
        simp only [bind_ok, pure_ok] at isProperties
        obtain ⟨_, _, rfl⟩ := isProperties
        exact ⟨_, List.mem_cons_self, rfl, properties_marked (List.append_nil _).symm
          fun _ _ => ⟨fun same => (by cases same), fun _ same => (by cases same)⟩⟩
    | dataset => exact absurd isType noDataset
  obtain ⟨marking, inside, marks⟩ := marked
  exact ⟨marking, List.mem_append_left _ (List.mem_append_left _ (List.mem_append_left _ inside)),
    marks⟩

/-- The plan marks the entity that the upsert writes to. -/
def MarkedIn (ownershipNonce : String) (plan : List (PlannedUpsert Extra))
    (upsert : PlannedUpsert Extra) : Prop :=
  ∃ marking ∈ plan, marking.urn = upsert.urn ∧
    marking.proposal.entityKind = upsert.proposal.entityKind ∧
    Marks ownershipNonce upsert.proposal.entityKind marking

theorem MarkedIn.mono {plan longer : List (PlannedUpsert Extra)} {upsert : PlannedUpsert Extra}
    (marked : MarkedIn ownershipNonce plan upsert) (within : plan ⊆ longer) :
    MarkedIn ownershipNonce longer upsert := by
  obtain ⟨marking, present, holds⟩ := marked
  exact ⟨marking, within present, holds⟩

/-- Every owned entity is marked by the plan that writes to it. -/
theorem entityUpserts_marked {upserts : List (PlannedUpsert Extra)}
    (planned : entityUpserts sdk graph ownershipNonce = .ok upserts) :
    ∀ upsert ∈ upserts, upsert.urn ∈ graph.ownedUrns →
      upsert.urn ≠ graph.sourceField.schemaFieldUrn → MarkedIn ownershipNonce upserts upsert := by
  intro upsert present owned apart
  cases entityUpserts_cases planned upsert present with
  | owner owner _ same =>
      refine ⟨upsert, present, rfl, rfl, ?_⟩
      rw [same]
      exact ownerUpsert_marks owner
  | tag tag _ same =>
      refine ⟨upsert, present, rfl, rfl, ?_⟩
      rw [same]
      exact tagUpsert_marks tag
  | domain domain _ same =>
      refine ⟨upsert, present, rfl, rfl, ?_⟩
      rw [same]
      exact domainUpsert_marks domain
  | termInfo same =>
      refine ⟨upsert, present, rfl, rfl, ?_⟩
      rw [same]
      exact termInfoUpsert_marks
  | glossaryTerms same =>
      rw [same] at apart
      exact absurd rfl apart
  | node node group isNode aspects inside within =>
      obtain ⟨isUrn, isKind⟩ := nodeAspects_urn aspects upsert inside
      have noDataset : node.entityType ≠ .dataset := by
        intro isDataset
        refine (mem_owned.mp owned).2 ?_
        rw [isUrn]
        exact List.mem_map_of_mem (List.mem_filter.mpr ⟨isNode, decide_eq_true isDataset⟩)
      obtain ⟨marking, isMarking, marks⟩ := nodeAspects_marks aspects noDataset
      obtain ⟨markingUrn, markingKind⟩ := nodeAspects_urn aspects marking isMarking
      rw [← isKind] at marks
      exact ⟨marking, within isMarking, markingUrn.trans isUrn.symm, markingKind.trans isKind.symm,
        marks⟩

end Markers

section Plans

/-- The plan writes to allowed entities and marks the owned ones and plans each upsert once. -/
structure PlanSound (graph : ExpectedGraph) (ownershipNonce : String)
    (plan : List (PlannedUpsert Extra)) : Prop where
  distinct : (plan.map (·.idempotencyKey)).Nodup
  allowed : ∀ upsert ∈ plan, upsert.urn ∈ graph.allowedMutationUrns
  marked : ∀ upsert ∈ plan, upsert.urn ∈ graph.ownedUrns →
    upsert.urn ≠ graph.sourceField.schemaFieldUrn → MarkedIn ownershipNonce plan upsert

theorem statusUpserts_owned {upserts : List (PlannedUpsert Extra)} :
    ∀ upsert ∈ statusUpserts sdk graph upserts, upsert.urn ∈ graph.ownedUrns ∧
      ∃ other ∈ upserts, other.urn = upsert.urn ∧
        other.proposal.entityKind = upsert.proposal.entityKind := by
  intro planned present
  obtain ⟨entry, isEntry, rfl⟩ := List.mem_map.mp present
  rw [KeyedOrder.sortBy, List.mem_insertionSort] at isEntry
  obtain ⟨other, isOther, isPair⟩ := List.mem_map.mp (OrderedMap.mem_ofList isEntry)
  rw [List.mem_filter, Bool.and_eq_true, List.contains_iff_mem] at isOther
  rw [← isPair]
  exact ⟨isOther.2.1, other, isOther.1, rfl, rfl⟩

theorem owned_allowed {urn : String} (owned : urn ∈ graph.ownedUrns) :
    urn ∈ graph.allowedMutationUrns := mem_allowed.mpr (Or.inr (mem_owned.mp owned).1)

theorem finishPlan_ok {upserts plan : List (PlannedUpsert Extra)} :
    finishPlan sdk graph upserts = .ok plan ↔
      plan = upserts ++ statusUpserts sdk graph upserts ∧
        (plan.map (·.idempotencyKey)).Nodup := by
  simp only [finishPlan, bind_ok, require_ok, exists_const, pure_ok]
  constructor
  · intro planned
    obtain ⟨distinct, same⟩ := planned
    rw [← same]
    exact ⟨rfl, distinct⟩
  · intro planned
    obtain ⟨same, distinct⟩ := planned
    rw [same] at distinct ⊢
    exact ⟨distinct, rfl⟩

/-- The entity upserts and the lineage of datasets make a sound plan. -/
theorem finishPlan_sound {entities lineages plan : List (PlannedUpsert Extra)}
    (isEntities : entityUpserts sdk graph ownershipNonce = .ok entities)
    (listed : ∀ upsert ∈ lineages, upsert.urn ∈ graph.datasetUrns)
    (planned : finishPlan sdk graph (entities ++ lineages) = .ok plan) :
    PlanSound graph ownershipNonce plan := by
  obtain ⟨same, distinct⟩ := finishPlan_ok.mp planned
  have early : ∀ upsert ∈ entities ++ lineages, upsert.urn ∈ graph.allowedMutationUrns := by
    intro upsert present
    rcases List.mem_append.mp present with entity | lineage
    · exact (entityUpserts_cases isEntities upsert entity).allowed
    · exact dataset_allowed (listed upsert lineage)
  have marked : ∀ upsert ∈ entities ++ lineages, upsert.urn ∈ graph.ownedUrns →
      upsert.urn ≠ graph.sourceField.schemaFieldUrn → MarkedIn ownershipNonce plan upsert := by
    intro upsert present owned apart
    rcases List.mem_append.mp present with entity | lineage
    · refine (entityUpserts_marked isEntities upsert entity owned apart).mono ?_
      rw [same]
      exact fun _ inside => List.mem_append_left _ (List.mem_append_left _ inside)
    · exact absurd (listed upsert lineage) (mem_owned.mp owned).2
  refine ⟨distinct, fun upsert present => ?_, fun upsert present owned apart => ?_⟩
  · rw [same] at present
    rcases List.mem_append.mp present with first | status
    · exact early upsert first
    · exact owned_allowed (statusUpserts_owned upsert status).1
  · rw [same] at present
    rcases List.mem_append.mp present with first | status
    · exact marked upsert first owned apart
    · obtain ⟨_, other, isOther, isUrn, isKind⟩ := statusUpserts_owned upsert status
      rw [← isUrn] at owned apart
      obtain ⟨marking, inside, markingUrn, markingKind, marks⟩ := marked other isOther owned apart
      rw [isKind] at markingKind marks
      exact ⟨marking, inside, markingUrn.trans isUrn, markingKind, marks⟩

end Plans

end LineageGuard.Scenario
