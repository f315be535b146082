import LineageGuard.Scenario.Lineage
import Mathlib.Tactic

/-
This file proves when the reconciliation keeps exactly the canonical lineage and that of the dbt
sibling.
-/

namespace LineageGuard.Scenario

open Attempt

section Edges

variable {UpstreamExtra FineExtra : Type}

/-- The two edges agree on their kinds, their operation and the fields on both sides. -/
structure SameEdge (left right : FineGrainedLineageClass FineExtra) : Prop where
  upstreamType : left.upstreamType = right.upstreamType
  downstreamType : left.downstreamType = right.downstreamType
  operation : left.transformOperation = right.transformOperation
  upstreams : (left.upstreams.getD []).Perm (right.upstreams.getD [])
  downstreams : (left.downstreams.getD []).Perm (right.downstreams.getD [])

/-- The edge starts at fields of the dbt sibling only, and at one of them at least. -/
def FromSibling (downstreamUrn : String) (item : FineGrainedLineageClass FineExtra) : Prop :=
  item.upstreams.getD [] ≠ [] ∧ ∀ urn ∈ item.upstreams.getD [], isSiblingField urn downstreamUrn

def canonicalFine (canonical : UpstreamLineageClass UpstreamExtra FineExtra) :
    List (FineGrainedLineageClass FineExtra) := canonical.fineGrainedLineages.getD []

def IsCanonicalEdge (canonical : UpstreamLineageClass UpstreamExtra FineExtra)
    (item : FineGrainedLineageClass FineExtra) : Prop :=
  ∃ edge ∈ canonicalFine canonical, SameEdge item edge

/-- The canonical value of an upstream supersedes every entry of its dataset. -/
def IsCanonicalUpstream (canonical : UpstreamLineageClass UpstreamExtra FineExtra)
    (upstream : UpstreamClass UpstreamExtra) : Prop :=
  upstream.dataset ∈ canonical.upstreams.map (·.dataset)

end Edges

section Statements

variable {UpstreamExtra FineExtra : Type} (sdk : LineageSdk UpstreamExtra FineExtra)
variable (graph : ExpectedGraph) (downstreamUrn : String)

/-- The result holds the canonical edges and the other edges of the sibling, each once. -/
structure ExactLineage (canonical : UpstreamLineageClass UpstreamExtra FineExtra)
    (current : Option (UpstreamLineageClass UpstreamExtra FineExtra))
    (result : UpstreamLineageClass UpstreamExtra FineExtra) : Prop where
  upstreamsOnce : result.upstreams.Nodup
  upstreams : ∀ upstream, upstream ∈ result.upstreams ↔
    upstream ∈ canonical.upstreams ∨ (upstream ∈ currentUpstreams current ∧
      isExpectedDbtSiblingUpstream upstream downstreamUrn ∧
      ¬ IsCanonicalUpstream canonical upstream)
  fineGrainedOnce : (canonicalFine result).Nodup
  fineGrained : ∀ item, item ∈ canonicalFine result ↔
    item ∈ canonicalFine canonical ∨ (item ∈ currentFineGrained current ∧
      FromSibling downstreamUrn item ∧ ¬ IsCanonicalEdge canonical item)

/-- Every current edge is canonical or comes from the sibling. -/
structure NoForeignEdge (canonical : UpstreamLineageClass UpstreamExtra FineExtra)
    (current : Option (UpstreamLineageClass UpstreamExtra FineExtra)) : Prop where
  upstreams : ∀ upstream ∈ currentUpstreams current, IsCanonicalUpstream canonical upstream ∨
    isExpectedDbtSiblingUpstream upstream downstreamUrn
  fineGrained : ∀ item ∈ currentFineGrained current, IsCanonicalEdge canonical item ∨
    FromSibling downstreamUrn item

/-- Both attempts return the same value or both raise. -/
def Agree {Value : Type} (first second : Except String Value) : Prop :=
  ∀ value, first = .ok value ↔ second = .ok value

/-- The lists of one aspect are those of the other one in any order. -/
structure Reordered (current other : Option (UpstreamLineageClass UpstreamExtra FineExtra)) :
    Prop where
  upstreams : (currentUpstreams other).Perm (currentUpstreams current)
  fineGrained : (currentFineGrained other).Perm (currentFineGrained current)

/-- The reconciliation is exact, refuses foreign edges, does not depend on the order and changes
its own result no more. -/
structure Reconciles (current : Option (UpstreamLineageClass UpstreamExtra FineExtra)) :
    Prop where
  exact : ∀ canonical result, lineageAspect sdk graph downstreamUrn = .ok canonical →
    reconcileLineageAspect sdk graph downstreamUrn current = .ok result →
    ExactLineage downstreamUrn canonical current result
  closed : ∀ canonical result, lineageAspect sdk graph downstreamUrn = .ok canonical →
    reconcileLineageAspect sdk graph downstreamUrn current = .ok result →
    NoForeignEdge downstreamUrn canonical current
  ordered : ∀ other, Reordered current other →
    Agree (reconcileLineageAspect sdk graph downstreamUrn other)
      (reconcileLineageAspect sdk graph downstreamUrn current)
  idempotent : ∀ result, reconcileLineageAspect sdk graph downstreamUrn current = .ok result →
    reconcileLineageAspect sdk graph downstreamUrn (some result) = .ok result

/-- The checks of the code refuse no current edge. -/
structure PassesChecks (canonical : UpstreamLineageClass UpstreamExtra FineExtra)
    (current : Option (UpstreamLineageClass UpstreamExtra FineExtra)) : Prop where
  upstreams : ∀ upstream ∈ currentUpstreams current, IsCanonicalUpstream canonical upstream ∨
    isExpectedDbtSiblingUpstream upstream downstreamUrn
  fineGrained : ∀ item ∈ currentFineGrained current,
    fineGrainedSortKey item ∉ (canonicalFine canonical).map fineGrainedSortKey →
    ∀ urn ∈ item.upstreams.getD [], isSiblingField urn downstreamUrn

/-- Every field edge names a field on each side that the checks rely on, and what the sorting
keys hold for one edge is one edge. -/
structure PlainEdges (canonical : UpstreamLineageClass UpstreamExtra FineExtra)
    (current : Option (UpstreamLineageClass UpstreamExtra FineExtra)) : Prop where
  upstreamNamed : ∀ item ∈ currentFineGrained current, item.upstreams.getD [] ≠ []
  downstreamNamed : ∀ item ∈ currentFineGrained current,
    fineGrainedSortKey item ∈ (canonicalFine canonical).map fineGrainedSortKey →
    item.downstreams.getD [] ≠ []
  fineGrainedSingle : KeyedOrder.Consistent fineGrainedSortKey ((currentFineGrained current).filter
    fun item => fineGrainedSortKey item ∉ (canonicalFine canonical).map fineGrainedSortKey)
  upstreamSingle : KeyedOrder.Consistent upstreamSortKey ((currentUpstreams current).filter
    fun upstream => upstream.dataset ∉ canonical.upstreams.map (·.dataset))

/-- Whatever passes the checks consists of plain edges. -/
def OnlyPlainEdges (current : Option (UpstreamLineageClass UpstreamExtra FineExtra)) : Prop :=
  ∀ canonical, lineageAspect sdk graph downstreamUrn = .ok canonical →
    PassesChecks downstreamUrn canonical current → PlainEdges canonical current

end Statements

section Canonical

variable {UpstreamExtra FineExtra : Type} {sdk : LineageSdk UpstreamExtra FineExtra}
variable {graph : ExpectedGraph} {downstreamUrn : String}
variable {canonical : UpstreamLineageClass UpstreamExtra FineExtra}

@[simp] theorem orNone_getD {Item : Type} (items : List Item) :
    (orNone items).getD [] = items := by
  cases items <;> rfl

theorem lineageAspect_shape (found : lineageAspect sdk graph downstreamUrn = .ok canonical) :
    ∃ edges fields : List LineageEdge, canonical.upstreams = edges.map (canonicalUpstream sdk) ∧
      canonicalFine canonical = fields.map (canonicalFineGrained sdk) := by
  simp only [lineageAspect, bind_ok, present_ok, pure_ok] at found
  obtain ⟨_, _, edges, _, rfl⟩ := found
  exact ⟨edges, _, rfl, orNone_getD _⟩

/-- A canonical upstream has nothing but its dataset. -/
theorem canonical_upstream (found : lineageAspect sdk graph downstreamUrn = .ok canonical)
    {upstream : UpstreamClass UpstreamExtra} (present : upstream ∈ canonical.upstreams) :
    upstream = ⟨upstream.dataset, "TRANSFORMED", sdk.upstreamExtra⟩ := by
  obtain ⟨edges, _, shape, _⟩ := lineageAspect_shape found
  rw [shape] at present
  obtain ⟨edge, _, rfl⟩ := List.mem_map.mp present
  rfl

/-- A canonical field edge has nothing but its two fields. -/
theorem canonical_fineGrained (found : lineageAspect sdk graph downstreamUrn = .ok canonical)
    {item : FineGrainedLineageClass FineExtra} (present : item ∈ canonicalFine canonical) :
    ∃ upstream downstream, item = ⟨"FIELD_SET", "FIELD", some [upstream], some [downstream],
      some "IDENTITY", sdk.fullConfidence⟩ := by
  obtain ⟨_, fields, _, shape⟩ := lineageAspect_shape found
  rw [shape] at present
  obtain ⟨edge, _, rfl⟩ := List.mem_map.mp present
  exact ⟨_, _, rfl⟩

theorem canonical_upstreams_consistent
    (found : lineageAspect sdk graph downstreamUrn = .ok canonical) :
    KeyedOrder.Consistent upstreamSortKey canonical.upstreams := by
  intro left isLeft right isRight same
  have sameDataset : left.dataset = right.dataset := (List.cons.inj same).1
  rw [canonical_upstream found isLeft, canonical_upstream found isRight, sameDataset]

theorem canonical_fineGrained_consistent
    (found : lineageAspect sdk graph downstreamUrn = .ok canonical) :
    KeyedOrder.Consistent fineGrainedSortKey (canonicalFine canonical) := by
  intro left isLeft right isRight same
  obtain ⟨up, down, rfl⟩ := canonical_fineGrained found isLeft
  obtain ⟨otherUp, otherDown, rfl⟩ := canonical_fineGrained found isRight
  have keys : [up, down] = [otherUp, otherDown] :=
    (List.cons.inj (List.cons.inj (List.cons.inj same).2).2).2
  obtain ⟨rfl, others⟩ := List.cons.inj keys
  rw [(List.cons.inj others).1]

theorem sameEdge_key {left right : FineGrainedLineageClass FineExtra}
    (same : SameEdge left right) : fineGrainedSortKey left = fineGrainedSortKey right := by
  have sorted {first second : List String} (perm : first.Perm second) :
      first.insertionSort (· ≤ ·) = second.insertionSort (· ≤ ·) :=
    List.Perm.eq_of_pairwise (fun _ _ _ _ => le_antisymm) (List.pairwise_insertionSort _ _)
      (List.pairwise_insertionSort _ _) ((List.perm_insertionSort _ _).trans
        (perm.trans (List.perm_insertionSort _ _).symm))
  rw [fineGrainedSortKey, fineGrainedSortKey, same.upstreamType, same.downstreamType,
    same.operation, sorted same.upstreams, sorted same.downstreams]

theorem canonicalEdge_key {item : FineGrainedLineageClass FineExtra}
    (isCanonical : IsCanonicalEdge canonical item) :
    fineGrainedSortKey item ∈ (canonicalFine canonical).map fineGrainedSortKey := by
  obtain ⟨edge, present, same⟩ := isCanonical
  exact List.mem_map.mpr ⟨edge, present, (sameEdge_key same).symm⟩

/-- Two lists that are not empty make two texts only from one text each. -/
theorem pair_split {first second : List String} {up down : String} (filled : first ≠ [])
    (named : second ≠ []) (whole : first.insertionSort (· ≤ ·) ++ second.insertionSort (· ≤ ·) =
      [up, down]) : first.Perm [up] ∧ second.Perm [down] := by
  have firstPerm := List.perm_insertionSort (· ≤ ·) first
  have secondPerm := List.perm_insertionSort (· ≤ ·) second
  have firstSize := firstPerm.length_eq
  have secondSize := secondPerm.length_eq
  have total := congrArg List.length whole
  rw [List.length_append, firstSize, secondSize] at total
  have one : first.length = 1 := by
    have := List.length_pos_of_ne_nil filled
    have := List.length_pos_of_ne_nil named
    simp only [List.length_cons, List.length_nil] at total
    omega
  have pair : first.insertionSort (· ≤ ·) ++ second.insertionSort (· ≤ ·) = [up] ++ [down] := whole
  have parts : first.insertionSort (· ≤ ·) = [up] ∧ second.insertionSort (· ≤ ·) = [down] := by
    refine List.append_inj pair ?_
    rw [firstSize, one]
    rfl
  rw [parts.1] at firstPerm
  rw [parts.2] at secondPerm
  exact ⟨firstPerm.symm, secondPerm.symm⟩

/-- An edge with a field on both sides and the key of a canonical edge is that edge. -/
theorem plain_canonical (found : lineageAspect sdk graph downstreamUrn = .ok canonical)
    {item : FineGrainedLineageClass FineExtra} (upstreamNamed : item.upstreams.getD [] ≠ [])
    (downstreamNamed : item.downstreams.getD [] ≠ [])
    (known : fineGrainedSortKey item ∈ (canonicalFine canonical).map fineGrainedSortKey) :
    IsCanonicalEdge canonical item := by
  obtain ⟨edge, present, same⟩ := List.mem_map.mp known
  obtain ⟨up, down, rfl⟩ := canonical_fineGrained found present
  refine ⟨_, present, ?_⟩
  simp only [fineGrainedSortKey, List.cons.injEq] at same
  obtain ⟨upstreamType, downstreamType, operation, fields⟩ := same
  obtain ⟨upstreams, downstreams⟩ := pair_split upstreamNamed downstreamNamed fields.symm
  refine ⟨upstreamType.symm, downstreamType.symm, ?_, upstreams, downstreams⟩
  cases given : item.transformOperation with
  | none =>
      rw [given] at operation
      exact absurd operation (by decide)
  | some value =>
      rw [given] at operation
      exact congrArg some operation.symm

end Canonical

section Merging

variable {UpstreamExtra FineExtra : Type} {sdk : LineageSdk UpstreamExtra FineExtra}
variable {graph : ExpectedGraph} {downstreamUrn : String}
variable {canonical : UpstreamLineageClass UpstreamExtra FineExtra}
variable {current : Option (UpstreamLineageClass UpstreamExtra FineExtra)}

/-- The current upstreams without those of a canonical dataset. -/
def otherUpstreams (canonical : UpstreamLineageClass UpstreamExtra FineExtra)
    (current : Option (UpstreamLineageClass UpstreamExtra FineExtra)) :
    List (UpstreamClass UpstreamExtra) :=
  (currentUpstreams current).filter fun upstream =>
    upstream.dataset ∉ canonical.upstreams.map (·.dataset)

instance sortKeyEquality : LawfulBEq (List String) := inferInstance

/-- The current field edges without those of a canonical key. -/
def otherFineGrained (canonical : UpstreamLineageClass UpstreamExtra FineExtra)
    (current : Option (UpstreamLineageClass UpstreamExtra FineExtra)) :
    List (FineGrainedLineageClass FineExtra) :=
  (currentFineGrained current).filter fun item =>
    fineGrainedSortKey item ∉ (canonicalFine canonical).map fineGrainedSortKey

def merged (canonical : UpstreamLineageClass UpstreamExtra FineExtra)
    (current : Option (UpstreamLineageClass UpstreamExtra FineExtra)) :
    UpstreamLineageClass UpstreamExtra FineExtra :=
  ⟨KeyedOrder.orderBy upstreamSortKey (otherUpstreams canonical current ++ canonical.upstreams),
    orNone (KeyedOrder.orderBy fineGrainedSortKey
      (otherFineGrained canonical current ++ canonicalFine canonical))⟩

theorem keptUpstreams_ok {known items kept : List (UpstreamClass UpstreamExtra)} :
    keptUpstreams known downstreamUrn items = .ok kept ↔
      (∀ upstream ∈ items, upstream.dataset ∈ known.map (·.dataset) ∨
        isExpectedDbtSiblingUpstream upstream downstreamUrn) ∧
      kept = items.filter fun upstream => upstream.dataset ∉ known.map (·.dataset) := by
  induction items generalizing kept with
  | nil =>
      rw [keptUpstreams, pure_ok]
      simp [eq_comm]
  | cons upstream rest ih =>
      rw [keptUpstreams, List.forall_mem_cons]
      split_ifs with isKnown isSibling
      · rw [ih, List.filter_cons_of_neg (by simpa using isKnown)]
        simp only [isKnown, true_or, true_and]
      · rw [List.filter_cons_of_pos (by simpa using isKnown)]
        simp only [bind_ok, pure_ok, ih, isSibling, or_true, true_and]
        constructor
        · rintro ⟨_, ⟨accepted, rfl⟩, rfl⟩
          exact ⟨accepted, rfl⟩
        · rintro ⟨accepted, rfl⟩
          exact ⟨_, ⟨accepted, rfl⟩, rfl⟩
      · constructor
        · intro raised
          cases raised
        · intro accepted
          exact absurd accepted.1.1 (not_or.mpr ⟨isKnown, isSibling⟩)

/-- The reconciliation returns the merged aspect exactly when its checks pass. -/
theorem reconcile_ok {result : UpstreamLineageClass UpstreamExtra FineExtra} :
    reconcileLineageAspect sdk graph downstreamUrn current = .ok result ↔
      ∃ canonical, lineageAspect sdk graph downstreamUrn = .ok canonical ∧
        PassesChecks downstreamUrn canonical current ∧ result = merged canonical current := by
  simp only [reconcileLineageAspect, bind_ok, keptUpstreams_ok, pure_ok]
  constructor
  · rintro ⟨canonical, found, _, ⟨accepted, rfl⟩, _, checked, rfl⟩
    refine ⟨canonical, found, ⟨accepted, fun item present other => ?_⟩, rfl⟩
    have passed := forM_ok.mp checked item (List.mem_filter.mpr ⟨present, decide_eq_true other⟩)
    exact require_ok.mp passed
  · rintro ⟨canonical, found, passes, rfl⟩
    refine ⟨canonical, found, _, ⟨passes.upstreams, rfl⟩, ⟨⟩, forM_ok.mpr fun item present => ?_,
      rfl⟩
    obtain ⟨isCurrent, other⟩ := List.mem_filter.mp present
    exact require_ok.mpr (passes.fineGrained item isCurrent (of_decide_eq_true other))

theorem mem_otherUpstreams {upstream : UpstreamClass UpstreamExtra} :
    upstream ∈ otherUpstreams canonical current ↔ upstream ∈ currentUpstreams current ∧
      ¬ IsCanonicalUpstream canonical upstream := by
  rw [otherUpstreams, List.mem_filter, decide_eq_true_eq]
  rfl

theorem mem_otherFineGrained {item : FineGrainedLineageClass FineExtra} :
    item ∈ otherFineGrained canonical current ↔ item ∈ currentFineGrained current ∧
      fineGrainedSortKey item ∉ (canonicalFine canonical).map fineGrainedSortKey := by
  rw [otherFineGrained, List.mem_filter, decide_eq_true_eq]

@[simp] theorem canonicalFine_merged : canonicalFine (merged canonical current) =
    KeyedOrder.orderBy fineGrainedSortKey
      (otherFineGrained canonical current ++ canonicalFine canonical) := orNone_getD _

theorem merged_upstreams_consistent
    (found : lineageAspect sdk graph downstreamUrn = .ok canonical)
    (single : KeyedOrder.Consistent upstreamSortKey (otherUpstreams canonical current)) :
    KeyedOrder.Consistent upstreamSortKey
      (otherUpstreams canonical current ++ canonical.upstreams) := by
  refine single.append (canonical_upstreams_consistent found)
    fun left isLeft right isRight same => ?_
  have sameDataset : left.dataset = right.dataset := (List.cons.inj same).1
  exact (mem_otherUpstreams.mp isLeft).2 (List.mem_map.mpr ⟨right, isRight, sameDataset.symm⟩)

theorem merged_fineGrained_consistent
    (found : lineageAspect sdk graph downstreamUrn = .ok canonical)
    (single : KeyedOrder.Consistent fineGrainedSortKey (otherFineGrained canonical current)) :
    KeyedOrder.Consistent fineGrainedSortKey
      (otherFineGrained canonical current ++ canonicalFine canonical) := by
  refine single.append (canonical_fineGrained_consistent found)
    fun left isLeft right isRight same => ?_
  exact (mem_otherFineGrained.mp isLeft).2 (List.mem_map.mpr ⟨right, isRight, same.symm⟩)

end Merging

section Plain

variable {UpstreamExtra FineExtra : Type} {sdk : LineageSdk UpstreamExtra FineExtra}
variable {graph : ExpectedGraph} {downstreamUrn : String}
variable {canonical : UpstreamLineageClass UpstreamExtra FineExtra}
variable {current other : Option (UpstreamLineageClass UpstreamExtra FineExtra)}

/-- A plain field edge without a canonical key is a further edge of the sibling. -/
theorem plain_other (found : lineageAspect sdk graph downstreamUrn = .ok canonical)
    (passes : PassesChecks downstreamUrn canonical current) (plain : PlainEdges canonical current)
    {item : FineGrainedLineageClass FineExtra} (present : item ∈ currentFineGrained current) :
    fineGrainedSortKey item ∉ (canonicalFine canonical).map fineGrainedSortKey ↔
      FromSibling downstreamUrn item ∧ ¬ IsCanonicalEdge canonical item := by
  constructor
  · intro unknown
    exact ⟨⟨plain.upstreamNamed item present, passes.fineGrained item present unknown⟩,
      fun isCanonical => unknown (canonicalEdge_key isCanonical)⟩
  · rintro ⟨_, further⟩ known
    exact further (plain_canonical found (plain.upstreamNamed item present)
      (plain.downstreamNamed item present known) known)

theorem merged_exact (found : lineageAspect sdk graph downstreamUrn = .ok canonical)
    (passes : PassesChecks downstreamUrn canonical current) (plain : PlainEdges canonical current) :
    ExactLineage downstreamUrn canonical current (merged canonical current) := by
  refine ⟨KeyedOrder.orderBy_nodup _, fun upstream => ?_, ?_, fun item => ?_⟩
  · rw [merged, KeyedOrder.mem_orderBy (merged_upstreams_consistent found plain.upstreamSingle),
      List.mem_append, mem_otherUpstreams, or_comm]
    refine or_congr_right (and_congr_right fun present => ⟨fun further => ⟨?_, further⟩, And.right⟩)
    exact (passes.upstreams upstream present).resolve_left further
  · rw [canonicalFine_merged]
    exact KeyedOrder.orderBy_nodup _
  · rw [canonicalFine_merged,
      KeyedOrder.mem_orderBy (merged_fineGrained_consistent found plain.fineGrainedSingle),
      List.mem_append, mem_otherFineGrained, or_comm]
    exact or_congr_right (and_congr_right fun present => plain_other found passes plain present)

theorem plain_closed (found : lineageAspect sdk graph downstreamUrn = .ok canonical)
    (passes : PassesChecks downstreamUrn canonical current) (plain : PlainEdges canonical current) :
    NoForeignEdge downstreamUrn canonical current := by
  refine ⟨passes.upstreams, fun item present => ?_⟩
  by_cases known : fineGrainedSortKey item ∈ (canonicalFine canonical).map fineGrainedSortKey
  · exact Or.inl (plain_canonical found (plain.upstreamNamed item present)
      (plain.downstreamNamed item present known) known)
  · exact Or.inr ((plain_other found passes plain present).mp known).1

theorem reordered_passes (same : Reordered current other) :
    PassesChecks downstreamUrn canonical other ↔ PassesChecks downstreamUrn canonical current := by
  constructor
  · exact fun passes => ⟨fun upstream present =>
      passes.upstreams upstream (same.upstreams.mem_iff.mpr present),
      fun item present => passes.fineGrained item (same.fineGrained.mem_iff.mpr present)⟩
  · exact fun passes => ⟨fun upstream present =>
      passes.upstreams upstream (same.upstreams.mem_iff.mp present),
      fun item present => passes.fineGrained item (same.fineGrained.mem_iff.mp present)⟩

theorem reordered_merged (found : lineageAspect sdk graph downstreamUrn = .ok canonical)
    (plain : PlainEdges canonical current) (same : Reordered current other) :
    merged canonical other = merged canonical current := by
  have upstreams (upstream : UpstreamClass UpstreamExtra) :
      upstream ∈ otherUpstreams canonical current ++ canonical.upstreams ↔
        upstream ∈ otherUpstreams canonical other ++ canonical.upstreams := by
    rw [List.mem_append, List.mem_append, mem_otherUpstreams, mem_otherUpstreams,
      same.upstreams.mem_iff]
  have fineGrained (item : FineGrainedLineageClass FineExtra) :
      item ∈ otherFineGrained canonical current ++ canonicalFine canonical ↔
        item ∈ otherFineGrained canonical other ++ canonicalFine canonical := by
    rw [List.mem_append, List.mem_append, mem_otherFineGrained, mem_otherFineGrained,
      same.fineGrained.mem_iff]
  rw [merged, merged,
    KeyedOrder.orderBy_congr (merged_upstreams_consistent found plain.upstreamSingle) upstreams,
    KeyedOrder.orderBy_congr (merged_fineGrained_consistent found plain.fineGrainedSingle)
      fineGrained]

theorem merged_passes (passes : PassesChecks downstreamUrn canonical current) :
    PassesChecks downstreamUrn canonical (some (merged canonical current)) := by
  constructor
  · intro upstream present
    rcases List.mem_append.mp (KeyedOrder.mem_items present) with further | isCanonical
    · exact passes.upstreams upstream (mem_otherUpstreams.mp further).1
    · exact Or.inl (List.mem_map_of_mem isCanonical)
  · intro item present unknown
    have listed : item ∈ canonicalFine (merged canonical current) := present
    rw [canonicalFine_merged] at listed
    rcases List.mem_append.mp (KeyedOrder.mem_items listed) with further | isCanonical
    · exact passes.fineGrained item (mem_otherFineGrained.mp further).1 unknown
    · exact absurd (List.mem_map_of_mem isCanonical) unknown

/-- Merging again finds the same edges. -/
theorem merged_again (found : lineageAspect sdk graph downstreamUrn = .ok canonical)
    (plain : PlainEdges canonical current) :
    merged canonical (some (merged canonical current)) = merged canonical current := by
  have single := merged_upstreams_consistent found plain.upstreamSingle
  have fineSingle := merged_fineGrained_consistent found plain.fineGrainedSingle
  have upstreams (upstream : UpstreamClass UpstreamExtra) :
      upstream ∈ otherUpstreams canonical current ++ canonical.upstreams ↔
        upstream ∈ otherUpstreams canonical (some (merged canonical current)) ++
          canonical.upstreams := by
    have listed : upstream ∈ currentUpstreams (some (merged canonical current)) ↔
        upstream ∈ otherUpstreams canonical current ++ canonical.upstreams :=
      KeyedOrder.mem_orderBy single
    rw [List.mem_append, List.mem_append, mem_otherUpstreams, mem_otherUpstreams, listed,
      List.mem_append, mem_otherUpstreams]
    tauto
  have fineGrained (item : FineGrainedLineageClass FineExtra) :
      item ∈ otherFineGrained canonical current ++ canonicalFine canonical ↔
        item ∈ otherFineGrained canonical (some (merged canonical current)) ++
          canonicalFine canonical := by
    have listed : item ∈ currentFineGrained (some (merged canonical current)) ↔
        item ∈ otherFineGrained canonical current ++ canonicalFine canonical := by
      show item ∈ canonicalFine (merged canonical current) ↔ _
      rw [canonicalFine_merged, KeyedOrder.mem_orderBy fineSingle]
    rw [List.mem_append, List.mem_append, mem_otherFineGrained, mem_otherFineGrained, listed,
      List.mem_append, mem_otherFineGrained]
    tauto
  rw [merged, ← KeyedOrder.orderBy_congr single upstreams,
    ← KeyedOrder.orderBy_congr fineSingle fineGrained]
  rfl

end Plain

section Reconciled

variable {UpstreamExtra FineExtra : Type} (sdk : LineageSdk UpstreamExtra FineExtra)
variable (graph : ExpectedGraph) (downstreamUrn : String)
variable (current : Option (UpstreamLineageClass UpstreamExtra FineExtra))

theorem plain_reconciles (onlyPlain : OnlyPlainEdges sdk graph downstreamUrn current) :
    Reconciles sdk graph downstreamUrn current := by
  constructor
  · intro canonical result found returned
    obtain ⟨_, again, passes, rfl⟩ := reconcile_ok.mp returned
    cases found.symm.trans again
    exact merged_exact found passes (onlyPlain canonical found passes)
  · intro canonical result found returned
    obtain ⟨_, again, passes, rfl⟩ := reconcile_ok.mp returned
    cases found.symm.trans again
    exact plain_closed found passes (onlyPlain canonical found passes)
  · intro other same result
    rw [reconcile_ok, reconcile_ok]
    refine exists_congr fun canonical => and_congr_right fun found => ?_
    rw [reordered_passes same]
    refine and_congr_right fun passes => ?_
    rw [reordered_merged found (onlyPlain canonical found passes) same]
  · intro result returned
    obtain ⟨canonical, found, passes, rfl⟩ := reconcile_ok.mp returned
    exact reconcile_ok.mpr ⟨canonical, found, merged_passes passes,
      (merged_again found (onlyPlain canonical found passes)).symm⟩

theorem reconciles_plain (reconciles : Reconciles sdk graph downstreamUrn current) :
    OnlyPlainEdges sdk graph downstreamUrn current := by
  intro canonical found passes
  have returned := reconcile_ok.mpr ⟨canonical, found, passes, rfl⟩
  have exact := reconciles.exact canonical _ found returned
  have closed := reconciles.closed canonical _ found returned
  have sibling : ∀ item ∈ currentFineGrained current, ¬ IsCanonicalEdge canonical item →
      item ∈ canonicalFine (merged canonical current) := fun item present further =>
    (exact.fineGrained item).mpr
      (Or.inr ⟨present, (closed.fineGrained item present).resolve_left further, further⟩)
  refine ⟨fun item present none => ?_, fun item present known none => ?_,
    fun left isLeft right isRight same => ?_, fun left isLeft right isRight same => ?_⟩
  · rcases closed.fineGrained item present with ⟨edge, isEdge, same⟩ | fromSibling
    · obtain ⟨up, down, rfl⟩ := canonical_fineGrained found isEdge
      have fields := same.upstreams
      rw [none] at fields
      exact absurd fields.symm.eq_nil (List.cons_ne_nil _ _)
    · exact fromSibling.1 none
  · have further : ¬ IsCanonicalEdge canonical item := by
      rintro ⟨edge, isEdge, same⟩
      obtain ⟨up, down, rfl⟩ := canonical_fineGrained found isEdge
      have fields := same.downstreams
      rw [none] at fields
      exact absurd fields.symm.eq_nil (List.cons_ne_nil _ _)
    have kept := sibling item present further
    rw [canonicalFine_merged] at kept
    rcases List.mem_append.mp (KeyedOrder.mem_items kept) with other | isCanonical
    · exact (mem_otherFineGrained.mp other).2 known
    · obtain ⟨up, down, rfl⟩ := canonical_fineGrained found isCanonical
      exact absurd none (List.cons_ne_nil _ _)
  · have kept {item : FineGrainedLineageClass FineExtra}
        (present : item ∈ otherFineGrained canonical current) :
        item ∈ canonicalFine (merged canonical current) :=
      sibling item (mem_otherFineGrained.mp present).1 fun isCanonical =>
        (mem_otherFineGrained.mp present).2 (canonicalEdge_key isCanonical)
    have single : KeyedOrder.Consistent fineGrainedSortKey
        (canonicalFine (merged canonical current)) := by
      rw [canonicalFine_merged]
      exact KeyedOrder.orderBy_consistent _
    exact single left (kept isLeft) right (kept isRight) same
  · have kept {upstream : UpstreamClass UpstreamExtra}
        (present : upstream ∈ otherUpstreams canonical current) :
        upstream ∈ (merged canonical current).upstreams := by
      obtain ⟨isCurrent, further⟩ := mem_otherUpstreams.mp present
      exact (exact.upstreams upstream).mpr (Or.inr
        ⟨isCurrent, (closed.upstreams upstream isCurrent).resolve_left further, further⟩)
    exact KeyedOrder.orderBy_consistent _ left (kept isLeft) right (kept isRight) same

/-- The reconciliation does what it promises exactly for the aspects of plain edges. -/
theorem reconciles_iff : Reconciles sdk graph downstreamUrn current ↔
    OnlyPlainEdges sdk graph downstreamUrn current :=
  ⟨reconciles_plain sdk graph downstreamUrn current,
    plain_reconciles sdk graph downstreamUrn current⟩

end Reconciled

section Baseless

variable {UpstreamExtra FineExtra : Type} {sdk : LineageSdk UpstreamExtra FineExtra}
variable {graph : ExpectedGraph} {downstreamUrn : String}

theorem mem_valuesAt {edges : List LineageEdge} {edge : LineageEdge} (present : edge ∈ edges) :
    ∃ values, (edge.downstreamUrn, values) ∈ byDownstream edges ∧ edge ∈ values := by
  have keyed : (edge.downstreamUrn, edge) ∈ edges.map fun edge => (edge.downstreamUrn, edge) :=
    List.mem_map_of_mem present
  have values := OrderedMap.lookup_group (edges.map fun edge => (edge.downstreamUrn, edge))
    edge.downstreamUrn
  have distinct := OrderedMap.group_distinct (edges.map fun edge => (edge.downstreamUrn, edge))
  have listed : edge ∈ OrderedMap.valuesAt (edges.map fun edge => (edge.downstreamUrn, edge))
      edge.downstreamUrn :=
    List.mem_map.mpr ⟨_, List.mem_filter.mpr ⟨keyed, decide_eq_true rfl⟩, rfl⟩
  rw [← values] at listed
  cases found : (byDownstream edges).lookup edge.downstreamUrn with
  | none =>
      rw [← byDownstream, found] at listed
      exact absurd listed List.not_mem_nil
  | some group =>
      rw [← byDownstream, found] at listed
      exact ⟨group, (OrderedMap.lookup_iff distinct).mp found, listed⟩

/-- A dataset has a canonical aspect when an edge of a sound graph leads to it. -/
theorem lineageAspect_found (sound : ∀ edge ∈ graph.edges, checkEdge edge = .ok ())
    {edge : LineageEdge} (present : edge ∈ graph.edges) :
    ∃ canonical, lineageAspect sdk graph edge.downstreamUrn = .ok canonical := by
  obtain ⟨group, isGroup, listed⟩ := mem_valuesAt present
  have planned : buildLineagePlan graph = .ok ((KeyedOrder.sortBy Prod.fst
      (byDownstream graph.edges)).flatMap fun entry =>
        KeyedOrder.sortBy LineageEdge.logicalKey entry.2) := by
    simp only [buildLineagePlan, bind_ok, forM_ok.mpr sound, pure_ok]
    exact ⟨⟨⟩, trivial, trivial⟩
  have inPlan : edge ∈ (KeyedOrder.sortBy Prod.fst (byDownstream graph.edges)).flatMap
      fun entry => KeyedOrder.sortBy LineageEdge.logicalKey entry.2 :=
    List.mem_flatMap.mpr ⟨_, (List.perm_insertionSort _ _).mem_iff.mpr isGroup,
      (List.perm_insertionSort _ _).mem_iff.mpr listed⟩
  obtain ⟨edges, isEntry, _⟩ := mem_valuesAt inPlan
  have found := (OrderedMap.lookup_iff (OrderedMap.group_distinct _)).mpr isEntry
  refine ⟨⟨edges.map (canonicalUpstream sdk), orNone ((edges.filter fun edge =>
    edge.granularity = .field).map (canonicalFineGrained sdk))⟩, ?_⟩
  simp only [lineageAspect, edgesByDownstream, planned, bind_ok, present_ok, pure_ok]
  exact ⟨_, rfl, edges, found, rfl⟩

theorem canonicalGraph_sound : ∀ edge ∈ canonicalGraph.edges, checkEdge edge = .ok () := by
  have apart : canonicalGraph.edges.all (fun edge =>
      decide (edge.upstreamUrn ≠ edge.downstreamUrn)) = true := by decide
  have named : canonicalGraph.edges.all (fun edge => decide (edge.granularity = .field →
      edge.upstreamFieldPath.isSome ∧ edge.downstreamFieldPath.isSome)) = true := by decide
  intro edge present
  have differ := of_decide_eq_true (List.all_eq_true.mp apart edge present)
  have fields := of_decide_eq_true (List.all_eq_true.mp named edge present)
  simp only [checkEdge, bind_ok, require_ok]
  exact ⟨⟨⟩, differ, fields⟩

def sampleSdk : LineageSdk Unit Unit :=
  ⟨fun parent path => "urn:li:schemaField:(" ++ parent ++ "," ++ path ++ ")",
    fun texts => "[" ++ ", ".intercalate texts ++ "]", (), ()⟩

/-- The edge has a field of the dataset only on its lower side. -/
def baselessEdge : FineGrainedLineageClass Unit :=
  ⟨"NONE", "FIELD", none, some ["urn:li:schemaField:(x,customer_id)"], none, ()⟩

/-- An edge without upstream fields is kept although it is foreign. -/
theorem baseless_edge_kept : ¬ Reconciles sampleSdk canonicalGraph revenueNode.urn
    (some ⟨[], some [baselessEdge]⟩) := by
  intro reconciles
  have present : fieldEdge "stg_orders.customer_id->customer_revenue.customer_id" stagingNode
      revenueNode ∈ canonicalGraph.edges := List.mem_cons_of_mem _ List.mem_cons_self
  obtain ⟨canonical, found⟩ := lineageAspect_found canonicalGraph_sound present
  have passes : PassesChecks revenueNode.urn canonical
      (some (⟨[], some [baselessEdge]⟩ : UpstreamLineageClass Unit Unit)) := by
    refine ⟨fun upstream isCurrent => absurd isCurrent List.not_mem_nil, ?_⟩
    intro item isCurrent _ urn named
    rw [List.mem_singleton.mp isCurrent] at named
    exact absurd named List.not_mem_nil
  have closed := reconciles.closed canonical _ found
    (reconcile_ok.mpr ⟨canonical, found, passes, rfl⟩)
  rcases closed.fineGrained baselessEdge List.mem_cons_self with ⟨edge, isEdge, same⟩ | sibling
  · obtain ⟨up, down, rfl⟩ := canonical_fineGrained found isEdge
    exact absurd same.upstreams.symm.eq_nil (List.cons_ne_nil _ _)
  · exact sibling.1 rfl

end Baseless

end LineageGuard.Scenario
