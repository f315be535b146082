import LineageGuard.Agent.Candidate
import LineageGuard.Domain.Meaning
import Mathlib.Tactic

/-
This file proves that the risk of a complete context is always evaluated and leads to a candidate.
-/

namespace LineageGuard.Agent

open Json Attempt Domain

section Identifiers

/-- An identifier of evidence is a start and hexadecimal digits. -/
theorem prefixedId_split {id : String} (prefixed : isPrefixedId "ev_" id = true) :
    ∃ digits : List Char, id.toList = ['e', 'v', '_'] ++ digits ∧
      ∀ char ∈ digits, char ∈ "0123456789abcdef".toList := by
  simp only [isPrefixedId, Bool.and_eq_true, beq_iff_eq, isHex, List.all_eq_true,
    List.contains_iff_mem] at prefixed
  obtain ⟨start, _, digits⟩ := prefixed
  refine ⟨id.toList.drop "ev_".toList.length, ?_, digits⟩
  have word : "ev_".toList = ['e', 'v', '_'] := by decide
  rw [← word, ← start, List.length_take]
  nth_rewrite 1 [← List.take_append_drop "ev_".toList.length id.toList]
  rw [start]
  have long : "ev_".toList.length ≤ id.toList.length := by
    have := congrArg List.length start
    rw [List.length_take] at this
    omega
  rw [min_eq_left long]

/-- The collation of identifiers is the order of their code units. -/
theorem localeLe_ids {left right : String} (leftId : isPrefixedId "ev_" left = true)
    (rightId : isPrefixedId "ev_" right = true) :
    localeLe left right = true ↔ codeUnits left ≤ codeUnits right := by
  have digits : "0123456789abcdef".toList.all (fun char =>
      decide (primaryWeight char = char.toNat ∧ char.toNat < 0x10000)) = true := by decide
  have digit : ∀ char ∈ "0123456789abcdef".toList,
      primaryWeight char = char.toNat ∧ char.toNat < 0x10000 :=
    fun char present => of_decide_eq_true (List.all_eq_true.mp digits char present)
  have weights : ∀ digits : List Char, (∀ char ∈ digits, char ∈ "0123456789abcdef".toList) →
      (['e', 'v', '_'] ++ digits).map primaryWeight = 101 :: 118 :: 0 :: digits.map Char.toNat := by
    intro digits hexadecimal
    have same : digits.map primaryWeight = digits.map Char.toNat :=
      List.map_congr_left fun char present => (digit char (hexadecimal char present)).1
    rw [List.map_append, same]
    rfl
  have units : ∀ (id : String) (digits : List Char), id.toList = ['e', 'v', '_'] ++ digits →
      (∀ char ∈ digits, char ∈ "0123456789abcdef".toList) →
      codeUnits id = 101 :: 118 :: 95 :: digits.map Char.toNat := by
    intro id digits split hexadecimal
    have same : (digits.flatMap fun char =>
        if char.toNat < 0x10000 then [char.toNat]
        else [0xD800 + (char.toNat - 0x10000) / 0x400, 0xDC00 + (char.toNat - 0x10000) % 0x400]) =
        digits.map Char.toNat := by
      rw [List.map_eq_flatMap]
      apply List.flatMap_congr
      intro char present
      rw [if_pos (digit char (hexadecimal char present)).2]
    rw [codeUnits, split, List.flatMap_append, same]
    rfl
  obtain ⟨first, firstSplit, firstDigits⟩ := prefixedId_split leftId
  obtain ⟨second, secondSplit, secondDigits⟩ := prefixedId_split rightId
  rw [localeLe_iff, units left first firstSplit firstDigits, units right second secondSplit
    secondDigits, firstSplit, secondSplit, weights first firstDigits, weights second secondDigits]
  have start : ∀ left right : List ℕ,
      101 :: 118 :: 95 :: left ≤ 101 :: 118 :: 95 :: right ↔ left ≤ right := by
    intro left right
    simp only [le_iff_lt_or_eq, List.cons_lt_cons_iff, lt_self_iff_false, true_and, false_or,
      List.cons.injEq]
  rw [start]
  simp only [List.cons_lt_cons_iff, lt_self_iff_false, true_and, false_or, List.cons.injEq]
  constructor
  · rintro (before | ⟨same, _⟩)
    · exact before.le
    · exact same.le
  · intro ordered
    rcases lt_or_eq_of_le ordered with before | same
    · exact Or.inl before
    · refine Or.inr ⟨same, ?_⟩
      have chars : first = second :=
        List.map_injective_iff.mpr (fun _ _ equal => Char.toNat_inj.mp equal) same
      rw [chars]

end Identifiers

section Order

variable {script : Script} {data : ImpactContextData}

theorem accepted_ids (accepted : contextDataIssues script data = []) :
    ∀ item ∈ data.evidence, isPrefixedId "ev_" item.id = true := by
  intro item present
  simp only [contextDataIssues, ImpactContextData.shapeIssues, List.append_eq_nil_iff,
    and_assoc] at accepted
  obtain ⟨_, _, _, _, _, each, _⟩ := accepted
  obtain ⟨place, checked⟩ := eachIssues_nil each item present
  simp only [evidenceItemIssues, EvidenceItem.baseIssues, List.append_eq_nil_iff, issueUnless_nil,
    and_assoc] at checked
  exact checked.1

theorem evidence_count (accepted : contextDataIssues script data = []) :
    data.evidence.length ≤ 200 := by
  simp only [contextDataIssues, ImpactContextData.shapeIssues, List.append_eq_nil_iff,
    issueUnless_nil, and_assoc] at accepted
  exact accepted.2.2.2.2.2.2.1

/-- Every selection of accepted evidence is in order. -/
theorem ids_sublist (accepted : contextDataIssues script data = []) {items : List EvidenceItem}
    (within : items.Sublist data.evidence) :
    (items.map (·.id)).Pairwise (fun left right => codeUnits left ≤ codeUnits right) ∧
      (items.map (·.id)).Nodup := by
  obtain ⟨ordered, single⟩ := accepted_order accepted
  have pairs := sorted_pairwise (data.evidence.map (·.id))
  rw [← ordered] at pairs
  exact ⟨pairs.sublist (within.map _), single.sublist (within.map _)⟩

theorem sortEvidence_sublist (accepted : contextDataIssues script data = [])
    {items : List EvidenceItem} (within : items.Sublist data.evidence) :
    sortEvidence items = items := by
  rw [sortEvidence]
  apply List.mergeSort_of_pairwise
  have ids := (ids_sublist accepted within).1
  rw [List.pairwise_map] at ids
  apply ids.imp_of_mem
  intro left right isLeft isRight ordered
  rw [localeLe_ids (accepted_ids accepted left (within.subset isLeft))
    (accepted_ids accepted right (within.subset isRight))]
  exact ordered

theorem connectedEvidence_sublist (accepted : contextDataIssues script data = []) :
    (connectedEvidence data.evidence).Sublist data.evidence := by
  rw [connectedEvidence, sortEvidence_sublist accepted List.filter_sublist]
  exact List.filter_sublist

end Order

section Reasons

variable {script : Script} {data : ImpactContextData}

/-- A rule with evidence gives this reason. -/
def firedReason (ruleId : RiskRuleId) (message : String) (items : List EvidenceItem) :
    Option RiskReason :=
  if items = [] then none
  else some ⟨ruleId, message, items.map (·.id), expectedSeverity ruleId⟩

theorem firedReason_some {ruleId : RiskRuleId} {message : String} {items : List EvidenceItem}
    {found : RiskReason} : firedReason ruleId message items = some found ↔ items ≠ [] ∧
      (⟨ruleId, message, items.map (·.id), expectedSeverity ruleId⟩ : RiskReason) = found := by
  rw [firedReason]
  split <;> simp [*]

/-- A reason on a selection of accepted evidence is accepted. -/
theorem firedReason_issues (accepted : contextDataIssues script data = []) {ruleId : RiskRuleId}
    {message : String} (short : ∀ place, lengthIssues 1 500 message place = [])
    {items : List EvidenceItem} (within : items.Sublist data.evidence) {found : RiskReason}
    (fired : firedReason ruleId message items = some found) :
    ∀ place, found.issues place = [] := by
  obtain ⟨filled, rfl⟩ := firedReason_some.mp fired
  obtain ⟨ordered, single⟩ := ids_sublist accepted within
  have count := evidence_count accepted
  intro place
  simp only [RiskReason.issues, List.append_eq_nil_iff, issueUnless_nil, countIssues,
    List.length_map]
  refine ⟨⟨⟨⟨⟨short _, ?_⟩, ?_, ?_⟩, trivial⟩, single⟩, (sorted_eq ordered).symm⟩
  · apply eachIssues_of
    intro id present place
    obtain ⟨item, isItem, rfl⟩ := List.mem_map.mp present
    rw [evidenceIdIssues, issueUnless_nil]
    exact accepted_ids accepted item (within.subset isItem)
  · exact List.length_pos_iff.mpr filled
  · exact within.length_le.trans count

/-- A rule accepts every selection of accepted evidence. -/
theorem reason_total (accepted : contextDataIssues script data = []) {ruleId : RiskRuleId}
    {message : String} (short : ∀ place, lengthIssues 1 500 message place = [])
    {items : List EvidenceItem} (within : items.Sublist data.evidence) :
    reason ruleId message (expectedSeverity ruleId) items =
      .ok (firedReason ruleId message items) := by
  by_cases empty : items = []
  · simp only [reason, firedReason, if_pos empty]
  · have fired : firedReason ruleId message items =
        some ⟨ruleId, message, items.map (·.id), expectedSeverity ruleId⟩ := if_neg empty
    rw [fired, reason, if_neg empty, sortEvidence_sublist accepted within]
    simp only [parse, firedReason_issues accepted short within fired, require, if_true]
    rfl

/-- These are the messages of the rules. -/
def ruleMessage : RiskRuleId → String
  | .lg001 => "The incompatible field rename has downstream field-level lineage."
  | .lg002 => "A production ML model depends on the renamed field."
  | .lg003 => "An observed system query references the renamed field."
  | .lg004 => "A critical dashboard depends on the incompatible field change."
  | .lg005 => "An affected critical asset has no recorded owner."

def ruleIds : List RiskRuleId := [.lg001, .lg002, .lg003, .lg004, .lg005]

theorem ruleMessage_short (ruleId : RiskRuleId) (place : List PathItem) :
    lengthIssues 1 500 (ruleMessage ruleId) place = [] := by
  simp only [lengthIssues, List.append_eq_nil_iff, issueUnless_nil]
  cases ruleId <;> rw [ruleMessage, utf16Length_ofList] <;> decide

/-- A rule fires on these items. -/
def ruleEvidence (evidence : List EvidenceItem) : RiskRuleId → List EvidenceItem
  | .lg001 => downstreamPaths evidence
  | .lg002 => productionModels evidence
  | .lg003 => observedSystemQueries evidence
  | .lg004 => criticalDashboards evidence
  | .lg005 => missingOwnerAssets evidence

theorem ruleEvidence_sublist (evidence : List EvidenceItem) (ruleId : RiskRuleId) :
    (ruleEvidence evidence ruleId).Sublist evidence := by
  cases ruleId <;> exact List.filter_sublist

def firedReasons (evidence : List EvidenceItem) : List RiskReason :=
  ruleIds.filterMap fun ruleId =>
    firedReason ruleId (ruleMessage ruleId) (ruleEvidence evidence ruleId)

theorem groundedReasons_total (accepted : contextDataIssues script data = [])
    {evidence : List EvidenceItem} (within : evidence.Sublist data.evidence) :
    groundedReasons evidence = .ok (firedReasons evidence) := by
  have each : ∀ ruleId, reason ruleId (ruleMessage ruleId) (expectedSeverity ruleId)
      (ruleEvidence evidence ruleId) =
        .ok (firedReason ruleId (ruleMessage ruleId) (ruleEvidence evidence ruleId)) := by
    intro ruleId
    exact reason_total accepted (ruleMessage_short ruleId)
      ((ruleEvidence_sublist evidence ruleId).trans within)
  have first := each .lg001
  have second := each .lg002
  have third := each .lg003
  have fourth := each .lg004
  have fifth := each .lg005
  simp only [ruleMessage, expectedSeverity, ruleEvidence] at first second third fourth fifth
  simp only [groundedReasons, first, second, third, fourth, fifth]
  simp only [firedReasons, ruleIds, List.filterMap_cons, List.filterMap_nil, ruleMessage,
    ruleEvidence]
  rfl

theorem firedReasons_order (evidence : List EvidenceItem) :
    ((firedReasons evidence).map fun reason => ruleOrder reason.ruleId).Sublist [0, 1, 2, 3, 4] := by
  have selected : ∀ rules : List RiskRuleId, ((rules.filterMap fun ruleId =>
      firedReason ruleId (ruleMessage ruleId) (ruleEvidence evidence ruleId)).map
        fun reason => ruleOrder reason.ruleId).Sublist (rules.map ruleOrder) := by
    intro rules
    induction rules with
    | nil => exact List.Sublist.refl _
    | cons ruleId rest ih =>
        rw [List.filterMap_cons]
        cases fired : firedReason ruleId (ruleMessage ruleId) (ruleEvidence evidence ruleId) with
        | none => exact ih.cons _
        | some found =>
            obtain ⟨_, rfl⟩ := firedReason_some.mp fired
            exact ih.cons_cons _
  exact selected ruleIds

theorem firedReasons_issues (accepted : contextDataIssues script data = [])
    {evidence : List EvidenceItem} (within : evidence.Sublist data.evidence) :
    ∀ found ∈ firedReasons evidence, ∀ place, found.issues place = [] := by
  intro found present
  obtain ⟨ruleId, _, fired⟩ := List.mem_filterMap.mp present
  exact firedReason_issues accepted (ruleMessage_short ruleId)
    ((ruleEvidence_sublist evidence ruleId).trans within) fired

/-- The reasons name items of the evidence. -/
theorem reasonEvidence_subset (evidence : List EvidenceItem) :
    ∀ id ∈ reasonEvidence (firedReasons evidence), id ∈ evidence.map (·.id) := by
  intro id present
  rw [reasonEvidence, sorted, (List.perm_insertionSort _ _).mem_iff, List.mem_dedup,
    List.mem_flatMap] at present
  obtain ⟨found, isFound, named⟩ := present
  obtain ⟨ruleId, _, fired⟩ := List.mem_filterMap.mp isFound
  obtain ⟨_, rfl⟩ := firedReason_some.mp fired
  exact ((ruleEvidence_sublist evidence ruleId).map _).subset named

theorem reasonEvidence_nodup (reasons : List RiskReason) : (reasonEvidence reasons).Nodup :=
  (List.perm_insertionSort _ _).nodup_iff.mpr (List.nodup_dedup _)

end Reasons

section Comparison

variable {script : Script} {spelling : Spelling} {change : ProposedChange} {context : ImpactContext}
variable {baselineAt groundedAt : IsoDateTime}

theorem change_id (accepted : proposedChangeIssues script change = []) :
    isPrefixedId "chg_" change.id = true := by
  simp only [proposedChangeIssues, ProposedChange.shapeIssues, List.append_eq_nil_iff,
    issueUnless_nil, and_assoc] at accepted
  exact accepted.1

/-- The baseline allows every change. -/
def baselineAssessment (change : ProposedChange) (baselineAt : IsoDateTime) : RiskAssessment :=
  ⟨change.id, none, .repositoryOnly, .allow, .low, [], baselineAt⟩

theorem baselineAssessment_issues (changeAccepted : proposedChangeIssues script change = [])
    (valid : baselineAt.Valid) (place : List PathItem) :
    riskAssessmentIssues (baselineAssessment change baselineAt) place = [] := by
  simp [riskAssessmentIssues, baselineAssessment, dateIssues, RiskAssessment.modeIssues,
    change_id changeAccepted, valid, eachIssues]

theorem baseline_total (changeAccepted : proposedChangeIssues script change = [])
    (valid : baselineAt.Valid) : evaluateRepositoryBaseline script change baselineAt =
      .ok (baselineAssessment change baselineAt) := by
  have accepted := baselineAssessment_issues changeAccepted valid []
  simp only [evaluateRepositoryBaseline, parse_accepted changeAccepted, bind, Except.bind]
  exact parse_accepted accepted _

/-- The grounded assessment follows from the rules that fire. -/
def groundedAssessment (change : ProposedChange) (context : ImpactContext)
    (groundedAt : IsoDateTime) : RiskAssessment :=
  let reasons := firedReasons (connectedEvidence context.evidence)
  ⟨change.id, some context.impactContextFingerprint, .datahubGrounded, (deriveOutcome reasons).1,
    (deriveOutcome reasons).2, reasons, groundedAt⟩

/-- An assessment that follows from accepted reasons in order is accepted. -/
theorem grounded_issues {changeId fingerprint : String} {reasons : List RiskReason}
    (prefixed : isPrefixedId "chg_" changeId = true) (digest : isFingerprint fingerprint = true)
    (each : ∀ found ∈ reasons, ∀ place, found.issues place = [])
    (order : (reasons.map fun reason => ruleOrder reason.ruleId).Sublist [0, 1, 2, 3, 4])
    (valid : groundedAt.Valid) (place : List PathItem) :
    riskAssessmentIssues ⟨changeId, some fingerprint, .datahubGrounded, (deriveOutcome reasons).1,
      (deriveOutcome reasons).2, reasons, groundedAt⟩ place = [] := by
  have count : reasons.length ≤ 5 := by simpa using order.length_le
  have single := (by decide : [0, 1, 2, 3, 4].Nodup).sublist order
  have ordered : (reasons.map fun reason => ruleOrder reason.ruleId).insertionSort (· ≤ ·) =
      reasons.map fun reason => ruleOrder reason.ruleId :=
    List.Pairwise.insertionSort_eq
      ((by decide : ([0, 1, 2, 3, 4] : List ℕ).Pairwise (· ≤ ·)).sublist order)
  have listed : eachIssues reasons (below place "reasons") RiskReason.issues = [] :=
    eachIssues_of each
  simp only [riskAssessmentIssues, List.append_eq_nil_iff, issueUnless_nil, dateIssues,
    RiskAssessment.modeIssues, Option.elim_some, fingerprintIssues]
  refine ⟨⟨⟨⟨⟨⟨⟨prefixed, digest⟩, listed⟩, ?_⟩, valid⟩, single⟩, ordered.symm⟩, ?_, ?_⟩
  · omega
  · simp
  · trivial

theorem groundedAssessment_issues (changeAccepted : proposedChangeIssues script change = [])
    (contextAccepted : impactContextIssues script spelling context = [])
    (valid : groundedAt.Valid) (place : List PathItem) :
    riskAssessmentIssues (groundedAssessment change context groundedAt) place = [] := by
  obtain ⟨fingerprint, _, _, _, _, data⟩ := impactContextIssues_nil.mp contextAccepted
  exact grounded_issues (change_id changeAccepted) fingerprint
    (firedReasons_issues data (connectedEvidence_sublist data)) (firedReasons_order _) valid place

theorem grounded_total (changeAccepted : proposedChangeIssues script change = [])
    (contextAccepted : impactContextIssues script spelling context = [])
    (bound : context.changeId = change.id) (complete : context.collectionStatus = .complete)
    (valid : groundedAt.Valid) (timely : evaluationTimes context groundedAt = .ok ()) :
    evaluateGroundedRisk script spelling change context groundedAt =
      .ok (groundedAssessment change context groundedAt) := by
  obtain ⟨_, _, _, _, _, data⟩ := impactContextIssues_nil.mp contextAccepted
  have reasons := groundedReasons_total data (connectedEvidence_sublist data)
  have accepted := groundedAssessment_issues changeAccepted contextAccepted valid []
  simp only [evaluateGroundedRisk, parse_accepted changeAccepted, parse_accepted contextAccepted,
    require, bound, complete, if_true, timely, reasons, bind, Except.bind]
  exact parse_accepted accepted _

/-- The comparison of an accepted change with an accepted complete context succeeds. -/
theorem compare_total (changeAccepted : proposedChangeIssues script change = [])
    (contextAccepted : impactContextIssues script spelling context = [])
    (bound : context.changeId = change.id) (complete : context.collectionStatus = .complete)
    (baselineValid : baselineAt.Valid) (groundedValid : groundedAt.Valid)
    (timely : evaluationTimes context groundedAt = .ok ()) :
    ∃ comparison, compareAuthoritativeRisk script spelling change context baselineAt groundedAt =
      .ok comparison := by
  obtain ⟨_, _, _, _, _, data⟩ := impactContextIssues_nil.mp contextAccepted
  have baseline := baseline_total changeAccepted baselineValid
  have grounded := grounded_total changeAccepted contextAccepted bound complete groundedValid timely
  have baselineIssues := baselineAssessment_issues changeAccepted baselineValid [.field "baseline"]
  have groundedIssues := groundedAssessment_issues changeAccepted contextAccepted groundedValid
    [.field "grounded"]
  have within := connectedEvidence_sublist data
  have subset := reasonEvidence_subset (connectedEvidence context.evidence)
  have count : context.evidence.length ≤ 200 := evidence_count data
  simp only [compareAuthoritativeRisk, parse_accepted changeAccepted,
    parse_accepted contextAccepted, baseline, grounded, bind, Except.bind]
  refine ⟨_, parse_accepted ?_ _⟩
  simp only [riskComparisonIssues, List.append_eq_nil_iff, issueUnless_nil]
  refine ⟨⟨⟨⟨⟨⟨⟨⟨⟨⟨change_id changeAccepted, baselineIssues⟩, groundedIssues⟩, ?_⟩, ?_⟩, ?_⟩,
    rfl, rfl, rfl, rfl⟩, trivial⟩, trivial⟩, trivial⟩, trivial⟩
  · have order := firedReasons_order (connectedEvidence context.evidence)
    simpa [groundedAssessment] using order.length_le
  · apply eachIssues_of
    intro id present place
    obtain ⟨item, isItem, rfl⟩ := List.mem_map.mp (subset id present)
    rw [evidenceIdIssues, issueUnless_nil]
    exact accepted_ids data item (within.subset isItem)
  · have fewer := (reasonEvidence_nodup _).subperm subset |>.length_le
    rw [List.length_map] at fewer
    exact (fewer.trans within.length_le).trans count

end Comparison

section Candidate

variable {script : Script} {data : ImpactContextData}

/-- A complete context holds a path of the field. -/
theorem complete_path (accepted : contextDataIssues script data = [])
    (complete : data.collectionStatus = .complete) :
    downstreamPaths (connectedEvidence data.evidence) ≠ [] := by
  have canonical : isCanonicalEvidence data.evidence = true := by
    simp only [contextDataIssues, List.append_eq_nil_iff, statusIssues, complete,
      issueUnless_nil] at accepted
    exact accepted.1.2.2
  have two : (paths data.evidence).length = 2 := by
    simp only [isCanonicalEvidence, Bool.and_eq_true, beq_iff_eq] at canonical
    exact canonical.1.1.1.1.1.1.1.1.1.1.1.2
  obtain ⟨found, isFound⟩ := List.exists_mem_of_length_pos (by omega : 0 < (paths data.evidence).length)
  obtain ⟨item, isItem, selected⟩ := List.mem_filterMap.mp isFound
  obtain ⟨place, bindings⟩ : ∃ place, bindingIssues data.evidence item place = [] := by
    have loop := accepted
    simp only [contextDataIssues, List.append_eq_nil_iff] at loop
    exact evidenceIssues_bindings loop.1.1.2 item isItem
  simp only [bindingIssues, List.append_eq_nil_iff, issueUnless_nil] at bindings
  cases payload : item.payload <;> simp only [payload] at selected
  case lineagePath path =>
      have field : item.fieldPath = some canonicalFieldPath := by
        have bound := bindings.1.2
        simp only [payload, EvidencePayload.isOwner, Bool.false_eq_true, false_or] at bound
        exact bound.2
      have connected : item.id ∈ connectedIds data.evidence := by
        apply List.mem_map_of_mem
        rw [List.mem_filter]
        simp [isItem, payload, EvidencePayload.isOwner, field]
      apply List.ne_nil_of_mem (a := item)
      rw [downstreamPaths, List.mem_filter, connectedEvidence, sortEvidence,
        (List.mergeSort_perm _ _).mem_iff, List.mem_filter]
      simp [isItem, connected, payload]
  all_goals simp at selected

theorem mapM_each {Item Value Error : Type} {check : Item → Except Error Value}
    {result : Item → Value} {items : List Item}
    (each : ∀ item ∈ items, check item = .ok (result item)) :
    items.mapM check = .ok (items.map result) := by
  induction items with
  | nil => rfl
  | cons item rest ih =>
      have others := ih fun other present => each other (List.mem_cons_of_mem _ present)
      rw [List.mapM_cons, each item List.mem_cons_self, others]
      rfl

/-- The fifth rule cites the critical assets without an owner. -/
theorem lg005EvidenceIds_eq (evidence : List EvidenceItem) :
    lg005EvidenceIds (firedReasons evidence) = (missingOwnerAssets evidence).map (·.id) := by
  cases found : (firedReasons evidence).find? fun reason => reason.ruleId = .lg005 with
  | none =>
      have empty : missingOwnerAssets evidence = [] := by
        by_contra filled
        have fired : (⟨.lg005, ruleMessage .lg005, (missingOwnerAssets evidence).map (·.id),
            expectedSeverity .lg005⟩ : RiskReason) ∈ firedReasons evidence := by
          rw [firedReasons, List.mem_filterMap]
          exact ⟨.lg005, by simp [ruleIds], firedReason_some.mpr ⟨filled, rfl⟩⟩
        exact List.find?_eq_none.mp found _ fired (decide_eq_true rfl)
      rw [lg005EvidenceIds, found, empty]
      rfl
  | some reason =>
      have rule : reason.ruleId = .lg005 := by
        simpa using List.find?_some found
      obtain ⟨ruleId, _, fired⟩ := List.mem_filterMap.mp (List.mem_of_find?_eq_some found)
      obtain ⟨_, rfl⟩ := firedReason_some.mp fired
      obtain rfl : ruleId = .lg005 := rule
      rw [lg005EvidenceIds, found]
      rfl

theorem missing_critical {evidence : List EvidenceItem} {item : EvidenceItem}
    (isMissing : item ∈ missingOwnerAssets evidence) :
    item ∈ evidence ∧ ∃ asset, criticalAsset item = some asset := by
  rw [missingOwnerAssets, List.mem_filter] at isMissing
  refine ⟨isMissing.1, ?_⟩
  cases payload : item.payload <;> simp [payload] at isMissing <;> simp [criticalAsset, payload]

theorem find_item (accepted : contextDataIssues script data = []) {item : EvidenceItem}
    (there : item ∈ data.evidence) :
    (data.evidence.find? fun other => other.id = item.id) = some item := by
  cases first : data.evidence.find? fun other => other.id = item.id with
  | none =>
      rw [List.find?_eq_none] at first
      simpa using first item there
  | some other =>
      have same : other.id = item.id := by simpa using List.find?_some first
      rw [List.inj_on_of_nodup_map (accepted_order accepted).2
        (List.mem_of_find?_eq_some first) there same]

/-- A critical asset without an owner is escalated to this reviewer. -/
def escalatedReviewer (item : EvidenceItem) : MigrationReviewer :=
  .unresolvedOwner item.id ((criticalAsset item).getD "")
    "No recorded owner; escalate to the data platform owner"

/-- The owners and the escalations review a migration. -/
theorem requiredReviewers_eq (accepted : contextDataIssues script data = [])
    (collates : String → String → Bool) :
    requiredReviewers collates data.evidence (firedReasons (connectedEvidence data.evidence)) =
      .ok ((ownerReviewers data.evidence ++
        (missingOwnerAssets (connectedEvidence data.evidence)).map escalatedReviewer).mergeSort
          fun left right => collates (reviewerKey left) (reviewerKey right)) := by
  have each : ∀ item ∈ missingOwnerAssets (connectedEvidence data.evidence),
      unresolvedReviewer data.evidence item.id = .ok (escalatedReviewer item) := by
    intro item isMissing
    obtain ⟨isItem, asset, critical⟩ := missing_critical isMissing
    rw [unresolvedReviewer, find_item accepted ((connectedEvidence_sublist accepted).subset isItem)]
    simp only [Option.bind_some, critical, present, escalatedReviewer, Option.getD_some]
    rfl
  have escalated : ((missingOwnerAssets (connectedEvidence data.evidence)).map (·.id)).mapM
      (unresolvedReviewer data.evidence) =
        .ok ((missingOwnerAssets (connectedEvidence data.evidence)).map escalatedReviewer) := by
    rw [List.mapM_map]
    exact mapM_each each
  rw [requiredReviewers, lg005EvidenceIds_eq, escalated]
  rfl

/-- The steps cover sorted identifiers without repetition. -/
theorem distribution_covers {ids : List String} (single : ids.Nodup) (ordered : ids = sorted ids) :
    sorted (expandEvidence ids ++ migrateEvidence ids ++ contractEvidence ids).dedup = ids := by
  have cover : expandEvidence ids ++ migrateEvidence ids = ids := List.take_append_drop _ _
  have same : (ids ++ contractEvidence ids).dedup.Perm ids := by
    rw [List.perm_ext_iff_of_nodup (List.nodup_dedup _) single]
    intro id
    rw [List.mem_dedup, List.mem_append]
    constructor
    · rintro (present | first)
      · exact present
      · exact List.mem_of_mem_take first
    · exact Or.inl
  rw [cover, sorted_perm same, ← ordered]

/-- A complete context leads to a candidate. -/
theorem buildCanonicalCandidate_total {spelling : Spelling} {change : ProposedChange}
    {context : ImpactContext} {comparison : RiskComparison}
    (accepted : impactContextIssues script spelling context = [])
    (complete : context.collectionStatus = .complete)
    (found : groundedReasons (connectedEvidence context.evidence) =
      .ok comparison.grounded.reasons) (collates : String → String → Bool)
    (rationale : Option String) :
    ∃ candidate, buildCanonicalCandidate collates change context comparison rationale =
      .ok candidate := by
  obtain ⟨_, _, _, _, _, data⟩ := impactContextIssues_nil.mp accepted
  rw [groundedReasons_total data (connectedEvidence_sublist data)] at found
  have reasons := (Except.ok.inj found).symm
  have isReviewers := requiredReviewers_eq data collates
  have filled : reasonEvidence (firedReasons (connectedEvidence context.evidence)) ≠ [] := by
    obtain ⟨item, isItem⟩ := List.exists_mem_of_ne_nil _ (complete_path data complete)
    have fired : (⟨.lg001, ruleMessage .lg001,
        (downstreamPaths (connectedEvidence context.evidence)).map (·.id), .critical⟩ : RiskReason) ∈
        firedReasons (connectedEvidence context.evidence) := by
      rw [firedReasons, List.mem_filterMap]
      exact ⟨.lg001, List.mem_cons_self,
        firedReason_some.mpr ⟨complete_path data complete, rfl⟩⟩
    apply List.ne_nil_of_mem (a := item.id)
    rw [reasonEvidence, sorted, (List.perm_insertionSort _ _).mem_iff, List.mem_dedup,
      List.mem_flatMap]
    exact ⟨_, fired, List.mem_map_of_mem isItem⟩
  have covers := distribution_covers
    (reasonEvidence_nodup (firedReasons (connectedEvidence context.evidence)))
    (sorted_eq (sorted_pairwise _)).symm
  simp only [buildCanonicalCandidate, reasons, reject, if_neg filled, isReviewers, require,
    if_pos covers, bind, Except.bind]
  exact ⟨_, rfl⟩

end Candidate

end LineageGuard.Agent
