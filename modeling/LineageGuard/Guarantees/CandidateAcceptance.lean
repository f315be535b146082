import LineageGuard.Domain.PlainOrder
import LineageGuard.Guarantees.CandidateContents
import Mathlib.Tactic

/-
This file proves that the candidate of a complete context is accepted and bound.
-/

namespace LineageGuard.Agent

open Json Attempt Domain

section Reviewers

/-- Complete evidence names no other owners and assets. -/
def knownUrns : List String :=
  [canonicalFinanceOwnerUrn, canonicalRiskOwnerUrn, canonicalDashboardUrn, canonicalFraudModelUrn,
    canonicalAnalyticsRevenueUrn]

theorem knownUrns_plain : ∀ urn ∈ knownUrns, ∃ chars, urn = String.ofList chars ∧
    chars.length ≤ 120 ∧ ∀ char ∈ chars, isPlain char = true := by
  have plain : ∀ {chars : List Char}, chars.all isPlain = true →
      ∀ char ∈ chars, isPlain char = true := fun all => List.all_eq_true.mp all
  simp only [knownUrns, List.forall_mem_cons, List.not_mem_nil, false_implies, implies_true,
    and_true]
  exact ⟨⟨_, rfl, by decide, plain (by decide)⟩, ⟨_, rfl, by decide, plain (by decide)⟩,
    ⟨_, rfl, by decide, plain (by decide)⟩, ⟨_, rfl, by decide, plain (by decide)⟩,
    ⟨_, rfl, by decide, plain (by decide)⟩⟩

theorem knownUrns_accepted : ∀ urn ∈ knownUrns, ∀ place, urnIssues urn place = [] := by
  simp only [knownUrns, List.forall_mem_cons, List.not_mem_nil, false_implies, implies_true,
    and_true]
  refine ⟨?_, ?_, ?_, ?_, ?_⟩
  all_goals
    intro place
    exact urnIssues_ofList place (by decide) (by decide) (by decide)

theorem knownUrns_short {urn : String} (known : urn ∈ knownUrns) : utf16Length urn ≤ 240 := by
  obtain ⟨chars, rfl, short, _⟩ := knownUrns_plain urn known
  have := utf16Length_twice chars
  omega

variable {evidence : List EvidenceItem}

theorem canonical_owner (canonical : isCanonicalEvidence evidence = true) {owner : OwnerPayload}
    (present : owner ∈ owners evidence) :
    owner.ownerUrn ∈ [canonicalFinanceOwnerUrn, canonicalRiskOwnerUrn] ∧
      owner.assetUrn ∈ knownUrns := by
  simp only [isCanonicalEvidence, Bool.and_eq_true, List.all_eq_true] at canonical
  have known := canonical.2 owner present
  simp only [isCanonicalOwner, Bool.or_eq_true, Bool.and_eq_true, beq_iff_eq] at known
  rcases known with (⟨⟨asset, name⟩, _⟩ | ⟨⟨asset, name⟩, _⟩) | ⟨⟨asset, name⟩, _⟩
  · rw [asset, name]
    exact ⟨List.mem_cons_self, .tail _ (.tail _ (.head _))⟩
  · rw [asset, name]
    exact ⟨.tail _ (.head _), .tail _ (.tail _ (.tail _ (.head _)))⟩
  · rw [asset, name]
    exact ⟨List.mem_cons_self, .tail _ (.tail _ (.tail _ (.tail _ (.head _))))⟩

theorem eraseDups_nodup (texts : List String) : texts.eraseDups.Nodup := by
  induction long : texts.length using Nat.strong_induction_on generalizing texts with
  | _ count ih =>
      cases texts with
      | nil => exact List.nodup_nil
      | cons text rest =>
          rw [List.eraseDups_cons, List.nodup_cons, List.mem_eraseDups, List.mem_filter]
          have fewer : (rest.filter fun other => !other == text).length < count := by
            rw [← long, List.length_cons]
            exact Nat.lt_succ_of_le (List.length_filter_le _ _)
          exact ⟨by simp, ih _ fewer _ rfl⟩

def ownerUrns (evidence : List EvidenceItem) : List String :=
  ((owners evidence).map (·.ownerUrn)).eraseDups

theorem mem_ownerUrns {ownerUrn : String} :
    ownerUrn ∈ ownerUrns evidence ↔ ∃ owner ∈ owners evidence, owner.ownerUrn = ownerUrn := by
  rw [ownerUrns, List.mem_eraseDups, List.mem_map]

theorem ownerReviewers_eq : ownerReviewers evidence = (ownerUrns evidence).map fun ownerUrn =>
    .owner ownerUrn (sorted (assetsOf evidence ownerUrn)) "Recorded critical asset owner" := by
  rw [ownerReviewers, ownerUrns]
  apply List.map_congr_left
  intro ownerUrn _
  rw [assetsOf, OrderedMap.valuesAt, List.filter_map, List.map_map]
  rfl

theorem sorted_mem {texts : List String} {text : String} : text ∈ sorted texts ↔ text ∈ texts :=
  (List.perm_insertionSort _ _).mem_iff

theorem owners_three (canonical : isCanonicalEvidence evidence = true) :
    (owners evidence).length ≤ 3 := by
  simp only [isCanonicalEvidence, Bool.and_eq_true, decide_eq_true_eq] at canonical
  exact canonical.1.1.1.1.2

theorem ownerUrns_three (canonical : isCanonicalEvidence evidence = true) :
    (ownerUrns evidence).length ≤ 3 := by
  have within : ownerUrns evidence ⊆ (owners evidence).map (·.ownerUrn) :=
    fun _ present => List.mem_eraseDups.mp present
  have fewer := (List.subperm_of_subset (eraseDups_nodup _) within).length_le
  rw [List.length_map] at fewer
  exact fewer.trans (owners_three canonical)

/-- Every owner has between one and three known assets. -/
theorem ownerAssets_known (canonical : isCanonicalEvidence evidence = true) {ownerUrn : String}
    (present : ownerUrn ∈ ownerUrns evidence) :
    (∀ assetUrn ∈ sorted (assetsOf evidence ownerUrn), assetUrn ∈ knownUrns) ∧
      1 ≤ (sorted (assetsOf evidence ownerUrn)).length ∧
      (sorted (assetsOf evidence ownerUrn)).length ≤ 3 := by
  obtain ⟨owner, isOwner, same⟩ := mem_ownerUrns.mp present
  have long : (sorted (assetsOf evidence ownerUrn)).length = (assetsOf evidence ownerUrn).length :=
    List.length_insertionSort _ _
  refine ⟨?_, ?_, ?_⟩
  · intro assetUrn listed
    obtain ⟨other, isOther, _, rfl⟩ := mem_assetsOf.mp (sorted_mem.mp listed)
    exact (canonical_owner canonical isOther).2
  · rw [long]
    exact List.length_pos_of_mem (mem_assetsOf.mpr ⟨owner, isOwner, same, rfl⟩)
  · rw [long, assetsOf, OrderedMap.valuesAt, List.length_map]
    have fewer := List.length_filter_le (fun item : String × String => decide (item.1 = ownerUrn))
      ((owners evidence).map fun owner => (owner.ownerUrn, owner.assetUrn))
    rw [List.length_map] at fewer
    exact fewer.trans (owners_three canonical)

theorem owner_known (canonical : isCanonicalEvidence evidence = true) {ownerUrn : String}
    (present : ownerUrn ∈ ownerUrns evidence) :
    ownerUrn ∈ [canonicalFinanceOwnerUrn, canonicalRiskOwnerUrn] := by
  obtain ⟨owner, isOwner, rfl⟩ := mem_ownerUrns.mp present
  exact (canonical_owner canonical isOwner).1

theorem owner_known_urn {ownerUrn : String}
    (known : ownerUrn ∈ [canonicalFinanceOwnerUrn, canonicalRiskOwnerUrn]) :
    ownerUrn ∈ knownUrns := by
  rcases List.mem_cons.mp known with rfl | later
  · exact List.mem_cons_self
  · rw [List.mem_singleton.mp later]
    exact .tail _ (.head _)

theorem ownerReviewer_accepted (canonical : isCanonicalEvidence evidence = true) :
    ∀ reviewer ∈ ownerReviewers evidence, ∀ place, reviewer.issues place = [] := by
  rw [ownerReviewers_eq, List.forall_mem_map]
  intro ownerUrn present place
  obtain ⟨known, filled, few⟩ := ownerAssets_known canonical present
  simp only [MigrationReviewer.issues, List.append_eq_nil_iff]
  refine ⟨⟨knownUrns_accepted _ (owner_known_urn (owner_known canonical present)) _, ?_⟩,
    lengthIssues_ofList (by decide) _⟩
  exact urnListIssues_of _ (fun urn listed => knownUrns_accepted urn (known urn listed))
    ⟨filled, few.trans (by decide)⟩

theorem ownerLine_short {ownerUrn listed : String} (named : utf16Length ownerUrn ≤ 240)
    (total : utf16Length listed ≤ 1320) :
    utf16Length ("- " ++ ownerUrn ++ " (owner of " ++ listed ++ ")") ≤ 3000 := by
  have start : utf16Length "- " ≤ 200 := line_short (by decide)
  have between : utf16Length " (owner of " ≤ 200 := line_short (by decide)
  have close : utf16Length ")" ≤ 200 := line_short (by decide)
  rw [utf16Length_append, utf16Length_append, utf16Length_append, utf16Length_append]
  omega

theorem ownerReviewer_short (canonical : isCanonicalEvidence evidence = true) :
    ∀ reviewer ∈ ownerReviewers evidence, utf16Length (reviewerLine reviewer) ≤ 3000 := by
  rw [ownerReviewers_eq, List.forall_mem_map]
  intro ownerUrn present
  obtain ⟨known, _, few⟩ := ownerAssets_known canonical present
  have comma : utf16Length ", " ≤ 200 := line_short (by decide)
  have listed := @utf16Length_intercalate ", " _ 240
    fun assetUrn isAsset => knownUrns_short (known assetUrn isAsset)
  apply ownerLine_short (knownUrns_short (owner_known_urn (owner_known canonical present)))
  exact listed.trans (Nat.mul_le_mul few (Nat.add_le_add_left comma 240))

/-- Two plain texts differ at a place up to which they are the same. -/
theorem differ_at {first second left right : List Char} {one other : Char} (place : ℕ)
    (same : first.take place = second.take place) (isFirst : first.drop place = one :: left)
    (isSecond : second.drop place = other :: right)
    (plain : (first ++ second).all isPlain = true) (row : sameRow one other = true)
    (apart : one ≠ other) : DifferPlainly (String.ofList first) (String.ofList second) := by
  have firstParts : first.take place ++ one :: left = first := by
    rw [← isFirst, List.take_append_drop]
  have secondParts : first.take place ++ other :: right = second := by
    rw [← isSecond, same, List.take_append_drop]
  refine ⟨first.take place, left, right, one, other, by rw [firstParts], by rw [secondParts], ?_,
    row, apart⟩
  intro char present
  apply List.all_eq_true.mp plain
  rw [firstParts] at present
  rcases List.mem_append.mp present with early | late
  · exact List.mem_append_left _ early
  · rw [← secondParts]
    exact List.mem_append_right _ (List.mem_append_right _ late)

theorem DifferPlainly.after {first second start : String} (plain : start.toList.all isPlain = true)
    (differ : DifferPlainly first second) : DifferPlainly (start ++ first) (start ++ second) := by
  obtain ⟨common, left, right, one, other, rfl, rfl, visible, row, apart⟩ := differ
  refine ⟨start.toList ++ common, left, right, one, other, ?_, ?_, ?_, row, apart⟩
  · rw [List.append_assoc, @String.ofList_append start.toList, String.ofList_toList]
  · rw [List.append_assoc, @String.ofList_append start.toList, String.ofList_toList]
  · intro char present
    rw [List.append_assoc, List.append_assoc, List.mem_append] at present
    rcases present with early | late
    · exact List.all_eq_true.mp plain char early
    · exact visible char (by rwa [List.append_assoc])

theorem owners_differ {first second : String}
    (isFirst : first ∈ [canonicalFinanceOwnerUrn, canonicalRiskOwnerUrn])
    (isSecond : second ∈ [canonicalFinanceOwnerUrn, canonicalRiskOwnerUrn])
    (differ : first ≠ second) : DifferPlainly ("OWNER:" ++ first) ("OWNER:" ++ second) := by
  have start : "OWNER:".toList = _ := String.toList_ofList
  have apart : DifferPlainly canonicalFinanceOwnerUrn canonicalRiskOwnerUrn :=
    differ_at 40 rfl rfl rfl (by decide) (by decide) (by decide)
  apply DifferPlainly.after
  · rw [start]
    decide
  simp only [List.mem_cons, List.not_mem_nil, or_false] at isFirst isSecond
  rcases isFirst with rfl | rfl <;> rcases isSecond with rfl | rfl
  · exact absurd rfl differ
  · exact apart
  · exact apart.symm
  · exact absurd rfl differ

end Reviewers

section Escalations

variable {script : Script} {data : ImpactContextData}

/-- The dashboard and the model are the only assets that can lack an owner. -/
theorem missing_pair (accepted : contextDataIssues script data = [])
    (complete : data.collectionStatus = .complete) : ∃ dashboard model,
      missingOwnerAssets data.evidence ⊆ [dashboard, model] ∧
      criticalAsset dashboard = some canonicalDashboardUrn ∧
      criticalAsset model = some canonicalFraudModelUrn := by
  obtain ⟨_, _, dashboard, model, _, _, _, _, items⟩ :=
    canonicalEvidence_items (complete_canonical accepted complete)
  have dashboardUrn := items.dashboardCanonical
  have modelUrn := items.modelCanonical
  simp only [isCanonicalDashboard, isCanonicalModel, Bool.and_eq_true, beq_iff_eq,
    and_assoc] at dashboardUrn modelUrn
  refine ⟨dashboard, model, ?_, ?_, ?_⟩
  · intro item isMissing
    obtain ⟨isItem, asset, critical⟩ := missing_critical isMissing
    cases kind : item.payload <;> simp only [criticalAsset, kind, reduceCtorEq] at critical
    case dashboard =>
        have same := selected_eq items.dashboards isItem (by simp [dashboardOf, kind])
        exact List.mem_cons.mpr (Or.inl same)
    case mlModel =>
        have same := selected_eq items.models isItem (by simp [modelOf, kind])
        exact List.mem_cons_of_mem _ (List.mem_singleton.mpr same)
  · rw [criticalAsset, (dashboardOf_some.mp items.dashboard).2]
    exact congrArg some dashboardUrn.1
  · rw [criticalAsset, (modelOf_some.mp items.model).2]
    exact congrArg some modelUrn.1

theorem missing_known (accepted : contextDataIssues script data = [])
    (complete : data.collectionStatus = .complete) {item : EvidenceItem}
    (isMissing : item ∈ missingOwnerAssets data.evidence) :
    ∃ asset ∈ knownUrns, criticalAsset item = some asset := by
  obtain ⟨dashboard, model, within, isDashboard, isModel⟩ := missing_pair accepted complete
  rcases List.mem_cons.mp (within isMissing) with rfl | later
  · exact ⟨_, .tail _ (.tail _ (.head _)), isDashboard⟩
  · rw [List.mem_singleton.mp later]
    exact ⟨_, .tail _ (.tail _ (.tail _ (.head _))), isModel⟩

theorem missing_single (accepted : contextDataIssues script data = []) :
    ((missingOwnerAssets data.evidence).map (·.id)).Nodup :=
  (ids_sublist accepted List.filter_sublist).2

theorem missing_two (accepted : contextDataIssues script data = [])
    (complete : data.collectionStatus = .complete) :
    (missingOwnerAssets data.evidence).length ≤ 2 := by
  obtain ⟨dashboard, model, within, _⟩ := missing_pair accepted complete
  exact (List.subperm_of_subset (missing_single accepted).of_map within).length_le

theorem escalatedReviewer_accepted (accepted : contextDataIssues script data = [])
    (complete : data.collectionStatus = .complete) :
    ∀ item ∈ missingOwnerAssets data.evidence, ∀ place,
      (escalatedReviewer item).issues place = [] := by
  intro item isMissing place
  obtain ⟨asset, known, critical⟩ := missing_known accepted complete isMissing
  have prefixed := accepted_ids accepted item (missing_critical isMissing).1
  simp only [escalatedReviewer, critical, Option.getD_some, MigrationReviewer.issues,
    List.append_eq_nil_iff]
  exact ⟨⟨issueUnless_nil.mpr prefixed, knownUrns_accepted asset known _⟩,
    lengthIssues_ofList (by decide) _⟩

theorem escalationLine_short {asset reason : String} (named : utf16Length asset ≤ 240)
    (short : utf16Length reason ≤ 500) :
    utf16Length ("- Escalation: " ++ asset ++ " (" ++ reason ++ ")") ≤ 3000 := by
  have start : utf16Length "- Escalation: " ≤ 200 := line_short (by decide)
  have between : utf16Length " (" ≤ 200 := line_short (by decide)
  have close : utf16Length ")" ≤ 200 := line_short (by decide)
  rw [utf16Length_append, utf16Length_append, utf16Length_append, utf16Length_append]
  omega

theorem escalatedReviewer_short (accepted : contextDataIssues script data = [])
    (complete : data.collectionStatus = .complete) :
    ∀ item ∈ missingOwnerAssets data.evidence,
      utf16Length (reviewerLine (escalatedReviewer item)) ≤ 3000 := by
  intro item isMissing
  obtain ⟨asset, known, critical⟩ := missing_known accepted complete isMissing
  have reason : utf16Length "No recorded owner; escalate to the data platform owner" ≤ 200 :=
    line_short (by decide)
  rw [escalatedReviewer, critical]
  exact escalationLine_short (knownUrns_short known) (reason.trans (by decide))

end Escalations

section Keys

variable {script : Script} {data : ImpactContextData}

/-- The digits of identifiers are plain and stand in one row. -/
theorem prefixedId_digits {id : String} (prefixed : isPrefixedId "ev_" id = true) :
    ∃ digits : List Char, id = String.ofList (['e', 'v', '_'] ++ digits) ∧ digits.length = 24 ∧
      ∀ char ∈ digits, isPlain char = true ∧ (char.isDigit || char.isLower) = true := by
  have hex : ("0123456789abcdef".toList.all fun char =>
      isPlain char && (char.isDigit || char.isLower)) = true := by decide
  obtain ⟨digits, same, each⟩ := prefixedId_split prefixed
  refine ⟨digits, String.toList_inj.mp (by rw [same, String.toList_ofList]), ?_, ?_⟩
  · have word : "ev_".toList = ['e', 'v', '_'] := String.toList_ofList
    simp only [isPrefixedId, isHex, word, same, Bool.and_eq_true, beq_iff_eq] at prefixed
    exact prefixed.2.1
  · intro char present
    exact (Bool.and_eq_true _ _).mp (List.all_eq_true.mp hex char (each char present))

/-- The identifiers of two escalations tell their keys apart. -/
theorem escalations_differ {firstId secondId firstUrn secondUrn : String}
    (firstPrefixed : isPrefixedId "ev_" firstId = true)
    (secondPrefixed : isPrefixedId "ev_" secondId = true) (firstKnown : firstUrn ∈ knownUrns)
    (secondKnown : secondUrn ∈ knownUrns) (differ : firstId ≠ secondId) :
    DifferPlainly ("UNRESOLVED_OWNER:" ++ firstId ++ ":" ++ firstUrn)
      ("UNRESOLVED_OWNER:" ++ secondId ++ ":" ++ secondUrn) := by
  obtain ⟨firstDigits, rfl, firstLong, firstHex⟩ := prefixedId_digits firstPrefixed
  obtain ⟨secondDigits, rfl, secondLong, secondHex⟩ := prefixedId_digits secondPrefixed
  obtain ⟨firstChars, rfl, _, firstPlain⟩ := knownUrns_plain firstUrn firstKnown
  obtain ⟨secondChars, rfl, _, secondPlain⟩ := knownUrns_plain secondUrn secondKnown
  have apart : firstDigits ≠ secondDigits := fun same => differ (by rw [same])
  obtain ⟨common, left, right, one, other, rfl, rfl, unlike⟩ :=
    first_difference (firstLong.trans secondLong.symm) apart
  have row : sameRow one other = true := by
    rw [sameRow, (firstHex one (by simp)).2, (secondHex other (by simp)).2]
    rfl
  have start : "UNRESOLVED_OWNER:".toList = _ := String.toList_ofList
  rw [String.append_assoc, String.append_assoc, String.append_assoc, String.append_assoc]
  apply DifferPlainly.after
  · rw [start]
    decide
  refine ⟨['e', 'v', '_'] ++ common, left ++ ':' :: firstChars, right ++ ':' :: secondChars, one,
    other, ?_, ?_, ?_, row, unlike⟩
  · apply String.toList_inj.mp
    simp
  · apply String.toList_inj.mp
    simp
  · have firstVisible : ∀ char ∈ common ++ one :: left, isPlain char = true :=
      fun char present => (firstHex char present).1
    have secondVisible : ∀ char ∈ common ++ other :: right, isPlain char = true :=
      fun char present => (secondHex char present).1
    simp only [List.forall_mem_append, List.forall_mem_cons] at firstVisible secondVisible ⊢
    have start : ∀ char ∈ ['e', 'v', '_'], isPlain char = true := List.all_eq_true.mp (by decide)
    simp only [List.forall_mem_cons] at start
    exact ⟨⟨⟨start, firstVisible.1⟩, firstVisible.2.1, firstVisible.2.2, rfl, firstPlain⟩,
      secondVisible.2.1, secondVisible.2.2, rfl, secondPlain⟩

/-- Owners stand apart from escalations. -/
theorem owner_escalation_differ {ownerUrn id assetUrn : String}
    (isOwner : ownerUrn ∈ [canonicalFinanceOwnerUrn, canonicalRiskOwnerUrn])
    (prefixed : isPrefixedId "ev_" id = true) (known : assetUrn ∈ knownUrns) :
    DifferPlainly ("OWNER:" ++ ownerUrn) ("UNRESOLVED_OWNER:" ++ id ++ ":" ++ assetUrn) := by
  obtain ⟨ownerChars, rfl, _, ownerPlain⟩ := knownUrns_plain ownerUrn (owner_known_urn isOwner)
  obtain ⟨digits, rfl, _, hex⟩ := prefixedId_digits prefixed
  obtain ⟨assetChars, rfl, _, assetPlain⟩ := knownUrns_plain assetUrn known
  have ownerStart : "OWNER:".toList = 'O' :: ['W', 'N', 'E', 'R', ':'] := String.toList_ofList
  have assetStart : "UNRESOLVED_OWNER:".toList = 'U' :: ['N', 'R', 'E', 'S', 'O', 'L', 'V', 'E',
      'D', '_', 'O', 'W', 'N', 'E', 'R', ':'] := String.toList_ofList
  have visible : ∀ char ∈ digits, isPlain char = true := fun char present => (hex char present).1
  refine ⟨[], ['W', 'N', 'E', 'R', ':'] ++ ownerChars, ['N', 'R', 'E', 'S', 'O', 'L', 'V', 'E',
    'D', '_', 'O', 'W', 'N', 'E', 'R', ':'] ++ (['e', 'v', '_'] ++ digits) ++ ':' :: assetChars,
    'O', 'U', ?_, ?_, ?_, by decide, by decide⟩
  · apply String.toList_inj.mp
    simp [ownerStart]
  · apply String.toList_inj.mp
    simp [assetStart]
  · have owner : ∀ char ∈ ['W', 'N', 'E', 'R', ':'], isPlain char = true :=
      List.all_eq_true.mp (by decide)
    have asset : ∀ char ∈ ['N', 'R', 'E', 'S', 'O', 'L', 'V', 'E', 'D', '_', 'O', 'W', 'N', 'E',
        'R', ':'], isPlain char = true := List.all_eq_true.mp (by decide)
    have start : ∀ char ∈ ['e', 'v', '_'], isPlain char = true := List.all_eq_true.mp (by decide)
    simp only [List.forall_mem_append, List.forall_mem_cons, List.nil_append]
    simp only [List.forall_mem_cons] at owner asset start
    exact ⟨⟨rfl, owner, ownerPlain⟩, rfl, ⟨asset, start, visible⟩, rfl, assetPlain⟩

end Keys

section Assembly

variable {script : Script} {data : ImpactContextData}

/-- The owners come before the escalations until they are sorted. -/
def reviewersOf (evidence : List EvidenceItem) : List MigrationReviewer :=
  ownerReviewers evidence ++ (missingOwnerAssets evidence).map escalatedReviewer

theorem mem_reviewersOf {evidence : List EvidenceItem} {reviewer : MigrationReviewer} :
    reviewer ∈ reviewersOf evidence ↔ reviewer ∈ ownerReviewers evidence ∨
      ∃ item ∈ missingOwnerAssets evidence, escalatedReviewer item = reviewer := by
  rw [reviewersOf, List.mem_append, List.mem_map]

theorem reviewersOf_accepted (accepted : contextDataIssues script data = [])
    (complete : data.collectionStatus = .complete) :
    ∀ reviewer ∈ reviewersOf data.evidence, ∀ place, reviewer.issues place = [] := by
  intro reviewer listed
  rcases mem_reviewersOf.mp listed with owner | ⟨item, isMissing, rfl⟩
  · exact ownerReviewer_accepted (complete_canonical accepted complete) reviewer owner
  · exact escalatedReviewer_accepted accepted complete item isMissing

theorem reviewersOf_short (accepted : contextDataIssues script data = [])
    (complete : data.collectionStatus = .complete) :
    ∀ reviewer ∈ reviewersOf data.evidence, utf16Length (reviewerLine reviewer) ≤ 3000 := by
  intro reviewer listed
  rcases mem_reviewersOf.mp listed with owner | ⟨item, isMissing, rfl⟩
  · exact ownerReviewer_short (complete_canonical accepted complete) reviewer owner
  · exact escalatedReviewer_short accepted complete item isMissing

theorem reviewersOf_few (accepted : contextDataIssues script data = [])
    (complete : data.collectionStatus = .complete) : (reviewersOf data.evidence).length ≤ 5 := by
  have owned := ownerUrns_three (complete_canonical accepted complete)
  have missing := missing_two accepted complete
  rw [reviewersOf, ownerReviewers_eq, List.length_append, List.length_map, List.length_map]
  omega

/-- The dashboard has an owner or is escalated. -/
theorem reviewersOf_filled (accepted : contextDataIssues script data = [])
    (complete : data.collectionStatus = .complete) : 1 ≤ (reviewersOf data.evidence).length := by
  have canonical := complete_canonical accepted complete
  obtain ⟨_, _, dashboard, _, _, payload, _, _, items⟩ := canonicalEvidence_items canonical
  by_cases unowned : payload.ownerUrns = []
  · have present := selected_mem items.dashboards
    have isMissing : dashboard ∈ missingOwnerAssets data.evidence := by
      rw [items.missing canonical present, (dashboardOf_some.mp items.dashboard).2]
      exact congrArg some unowned
    exact List.length_pos_of_mem (mem_reviewersOf.mpr (Or.inr ⟨dashboard, isMissing, rfl⟩))
  · have recorded : canonicalDashboardUrn ∈ ownerAssetUrns data.evidence := by
      by_contra absent
      exact unowned ((items.unowned canonical).1.mp absent)
    obtain ⟨owner, isOwner, _⟩ := List.mem_map.mp recorded
    have listed : owner.ownerUrn ∈ ownerUrns data.evidence :=
      mem_ownerUrns.mpr ⟨owner, isOwner, rfl⟩
    rw [reviewersOf, ownerReviewers_eq, List.length_append, List.length_map]
    have := List.length_pos_of_mem listed
    omega

/-- The collation cannot confuse two reviewers. -/
theorem reviewersOf_differ (accepted : contextDataIssues script data = [])
    (complete : data.collectionStatus = .complete) : (reviewersOf data.evidence).Pairwise
      fun left right => DifferPlainly (reviewerKey left) (reviewerKey right) := by
  have canonical := complete_canonical accepted complete
  have prefixed : ∀ item ∈ missingOwnerAssets data.evidence, isPrefixedId "ev_" item.id = true :=
    fun item isMissing => accepted_ids accepted item (missing_critical isMissing).1
  rw [reviewersOf, List.pairwise_append, ownerReviewers_eq, List.pairwise_map, List.pairwise_map]
  refine ⟨?_, ?_, ?_⟩
  · refine (eraseDups_nodup _).imp_of_mem ?_
    intro first second isFirst isSecond differ
    exact owners_differ (owner_known canonical isFirst) (owner_known canonical isSecond) differ
  · refine (List.pairwise_map.mp (missing_single accepted)).imp_of_mem ?_
    intro first second isFirst isSecond differ
    obtain ⟨firstUrn, firstKnown, firstCritical⟩ := missing_known accepted complete isFirst
    obtain ⟨secondUrn, secondKnown, secondCritical⟩ := missing_known accepted complete isSecond
    rw [escalatedReviewer, escalatedReviewer, firstCritical, secondCritical]
    exact escalations_differ (prefixed first isFirst) (prefixed second isSecond) firstKnown
      secondKnown differ
  · intro reviewer isOwner other isEscalated
    obtain ⟨ownerUrn, present, rfl⟩ := List.mem_map.mp isOwner
    obtain ⟨item, isMissing, rfl⟩ := List.mem_map.mp isEscalated
    obtain ⟨assetUrn, known, critical⟩ := missing_known accepted complete isMissing
    rw [escalatedReviewer, critical]
    exact owner_escalation_differ (owner_known canonical present) (prefixed item isMissing) known

theorem cited_of_rule {evidence : List EvidenceItem} {ruleId : RiskRuleId} {item : EvidenceItem}
    (isItem : item ∈ ruleEvidence evidence ruleId) :
    item.id ∈ reasonEvidence (firedReasons evidence) := by
  obtain ⟨found, present, rfl⟩ := firedReasons_mem (List.ne_nil_of_mem isItem)
  rw [reasonEvidence, sorted_mem, List.mem_dedup, List.mem_flatMap]
  refine ⟨found, present, ?_⟩
  rw [(firedReasons_found present).2]
  exact List.mem_map_of_mem isItem

/-- The paths of a complete context are cited both. -/
theorem cited_two (accepted : contextDataIssues script data = [])
    (complete : data.collectionStatus = .complete) :
    2 ≤ (reasonEvidence (firedReasons data.evidence)).length := by
  obtain ⟨dashboardPath, modelPath, _, _, _, _, _, _, items⟩ :=
    canonicalEvidence_items (complete_canonical accepted complete)
  have single : ([dashboardPath, modelPath].map (·.id)).Nodup :=
    (items.paths.map _).nodup_iff.mp (ids_sublist accepted List.filter_sublist).2
  have cited : [dashboardPath, modelPath].map (·.id) ⊆
      reasonEvidence (firedReasons data.evidence) := by
    intro id listed
    obtain ⟨item, isPath, rfl⟩ := List.mem_map.mp listed
    obtain ⟨isItem, isSome⟩ := List.mem_filter.mp (items.paths.symm.subset isPath)
    obtain ⟨⟨target, payload⟩, found⟩ := Option.isSome_iff_exists.mp isSome
    have isDownstream : item ∈ ruleEvidence data.evidence .lg001 := by
      simp [ruleEvidence, downstreamPaths, isItem, (pathOf_some.mp found).2]
    exact cited_of_rule isDownstream
  exact (List.subperm_of_subset single cited).length_le

theorem cited_prefixed (accepted : contextDataIssues script data = []) :
    ∀ id ∈ reasonEvidence (firedReasons data.evidence), isPrefixedId "ev_" id = true := by
  intro id cited
  obtain ⟨item, isItem, rfl⟩ := List.mem_map.mp (reasonEvidence_subset data.evidence id cited)
  exact accepted_ids accepted item isItem

theorem cited_most (accepted : contextDataIssues script data = []) :
    (reasonEvidence (firedReasons data.evidence)).length ≤ 200 := by
  have fewer := ((reasonEvidence_nodup _).subperm (reasonEvidence_subset data.evidence)).length_le
  rw [List.length_map] at fewer
  exact fewer.trans (evidence_count accepted)

theorem cited_canonical (evidence : List EvidenceItem) :
    canonicalIds (reasonEvidence (firedReasons evidence)) :=
  ⟨reasonEvidence_nodup _, (sorted_eq (sorted_pairwise _)).symm⟩

end Assembly

section Guarantee

variable {script : Script} {spelling : Spelling} {change : ProposedChange}
variable {context : Domain.ImpactContext} {comparison : RiskComparison}

theorem filledCandidate_shaped {rationale : Option String} {ids : List String}
    {reviewers : List MigrationReviewer} (changed : proposedChangeIssues script change = [])
    (known : isFingerprint context.impactContextFingerprint = true)
    (planned : ∀ summary ∈ rationale, ∀ place, lengthIssues 1 2000 summary place = [])
    (prefixed : ∀ id ∈ ids, isPrefixedId "ev_" id = true) (two : 2 ≤ ids.length)
    (most : ids.length ≤ 200) (filled : 1 ≤ reviewers.length) (few : reviewers.length ≤ 5)
    (accepted : ∀ reviewer ∈ reviewers, ∀ place, reviewer.issues place = [])
    (short : ∀ reviewer ∈ reviewers, utf16Length (reviewerLine reviewer) ≤ 3000) :
    (filledCandidate change context rationale ids reviewers).shapeIssues = [] := by
  simp only [proposedChangeIssues, ProposedChange.shapeIssues, List.append_eq_nil_iff,
    fingerprintIssues_nil, issueUnless_nil, and_assoc] at changed
  obtain ⟨_, fingerprint, patch, _, _, isSha, _⟩ := changed
  have summary : ∀ place, lengthIssues 1 2000
      (filledCandidate change context rationale ids reviewers).summary place = [] := by
    cases rationale with
    | none => exact lengthIssues_ofList (by decide)
    | some summary => exact planned summary rfl
  have document : ∀ place, lengthIssues 1 100000 (migrationDoc reviewers) place = [] :=
    migrationDoc_accepted few short
  have stepCount : (canonicalSteps ids).length = 3 := rfl
  have artifactCount : (canonicalArtifacts change.baseSha reviewers).length = 8 := rfl
  exact candidate_shaped fingerprint patch known prefixed ⟨le_trans (by decide) two, most⟩ summary
    (step_shaped prefixed two most) ⟨stepCount.ge, stepCount.le.trans (by decide)⟩
    (canonicalArtifact_accepted isSha document)
    ⟨le_trans (by decide) artifactCount.ge, artifactCount.le.trans (by decide)⟩ accepted
    ⟨filled, few.trans (by decide)⟩ ⟨by simp [filledCandidate], by simp [filledCandidate]⟩
    (lengthIssues_ofList (by decide))

/-- The builder fills in this candidate. -/
theorem builder_fills {collation : Collation String}
    (accepted : contextDataIssues script context.toImpactContextData = [])
    (complete : context.collectionStatus = .complete)
    (reasons : comparison.grounded.reasons = firedReasons context.evidence)
    (rationale : Option String) :
    buildCanonicalCandidate collation.le change context comparison rationale =
      .ok (filledCandidate change context rationale
        (reasonEvidence (firedReasons context.evidence))
        (collation.sortBy reviewerKey (reviewersOf context.evidence))) := by
  have connected : connectedEvidence context.evidence = context.evidence :=
    connectedEvidence_eq accepted
  have reviewers := requiredReviewers_eq accepted collation.le
  rw [connected] at reviewers
  have filled : reasonEvidence (firedReasons context.evidence) ≠ [] := by
    have two := cited_two accepted complete
    apply List.ne_nil_of_length_pos
    omega
  have covers := distribution_covers (cited_canonical context.evidence).1
    (cited_canonical context.evidence).2
  simp only [buildCanonicalCandidate, reasons, reject, if_neg filled, reviewers, require,
    if_pos covers, bind, Except.bind]
  rfl

variable {collation : Collation String}

theorem sorted_owned (evidence : List EvidenceItem) :
    ((collation.sortBy reviewerKey (reviewersOf evidence)).filterMap MigrationReviewer.owned).Perm
      ((ownerUrns evidence).map fun ownerUrn =>
        (ownerUrn, sorted (assetsOf evidence ownerUrn))) := by
  have escalations : ((missingOwnerAssets evidence).map escalatedReviewer).filterMap
      MigrationReviewer.owned = [] := by
    rw [List.filterMap_map, List.filterMap_eq_nil_iff]
    intro item _
    rfl
  have owned : (reviewersOf evidence).filterMap MigrationReviewer.owned =
      (ownerUrns evidence).map fun ownerUrn =>
        (ownerUrn, sorted (assetsOf evidence ownerUrn)) := by
    rw [reviewersOf, List.filterMap_append, escalations, List.append_nil, ownerReviewers_eq,
      List.filterMap_map]
    exact congrFun List.filterMap_eq_map _
  rw [← owned]
  exact (Collation.sortBy_perm _).filterMap _

theorem sorted_escalated (evidence : List EvidenceItem) :
    ((collation.sortBy reviewerKey (reviewersOf evidence)).filterMap
      MigrationReviewer.escalated).Perm
        ((missingOwnerAssets evidence).map fun item =>
          (item.id, (criticalAsset item).getD "")) := by
  have owners : (ownerReviewers evidence).filterMap MigrationReviewer.escalated = [] := by
    rw [ownerReviewers_eq, List.filterMap_map, List.filterMap_eq_nil_iff]
    intro ownerUrn _
    rfl
  have escalated : (reviewersOf evidence).filterMap MigrationReviewer.escalated =
      (missingOwnerAssets evidence).map fun item => (item.id, (criticalAsset item).getD "") := by
    rw [reviewersOf, List.filterMap_append, owners, List.nil_append, List.filterMap_map]
    exact congrFun List.filterMap_eq_map _
  rw [← escalated]
  exact (Collation.sortBy_perm _).filterMap _

theorem ownerUrns_count (evidence : List EvidenceItem) :
    (ownerUrns evidence).length = (ownerAssets evidence).length := by
  have same : (ownerUrns evidence).Perm ((ownerAssets evidence).map Prod.fst) := by
    refine (List.perm_ext_iff_of_nodup (eraseDups_nodup _) (OrderedMap.group_distinct _)).mpr ?_
    intro ownerUrn
    show ownerUrn ∈ ownerUrns evidence ↔ ownerUrn ∈ (ownerAssets evidence).map Prod.fst
    rw [ownerUrns, List.mem_eraseDups, ownerAssets, OrderedMap.mem_group_keys, List.map_map]
    rfl
  rw [same.length_eq, List.length_map]

theorem reviewers_escalate (accepted : contextDataIssues script context.toImpactContextData = [])
    (complete : context.collectionStatus = .complete) :
    Escalates context.evidence (firedReasons context.evidence)
      (collation.sortBy reviewerKey (reviewersOf context.evidence)) := by
  refine ⟨(missingOwnerAssets context.evidence).map fun item =>
    escalationKey (item.id, (criticalAsset item).getD ""), ?_, ?_⟩
  · have ids : lg005Ids (firedReasons context.evidence) =
        (missingOwnerAssets context.evidence).map (·.id) := lg005EvidenceIds_eq context.evidence
    rw [ids, List.forall₂_map_left_iff, List.forall₂_map_right_iff, List.forall₂_same]
    intro item isMissing
    obtain ⟨assetUrn, known, critical⟩ := missing_known accepted complete isMissing
    refine (expectedEscalation_ok (accepted_order accepted).2).mpr
      ⟨item, (missing_critical isMissing).1, rfl, assetUrn, ?_, by rw [critical]; rfl⟩
    have written : assetUrn ≠ "" := by
      rintro rfl
      exact absurd (knownUrns_accepted "" known []) (by decide)
    show (criticalAsset item).filter (· ≠ "") = some assetUrn
    rw [critical, Option.filter_some, if_pos (decide_eq_true written)]
  · have perm := (@sorted_escalated collation context.evidence).map escalationKey
    rw [List.map_map] at perm
    exact sorted_perm perm

/-- A comparison succeeds for an accepted change with its accepted complete context only. -/
theorem comparison_grounds {baselineAt groundedAt : IsoDateTime}
    (compared : compareAuthoritativeRisk script spelling change context baselineAt groundedAt =
      .ok comparison) :
    Grounds script spelling change context ∧ groundedAt.Valid ∧
      context.collectedAt.time ≤ groundedAt.time ∧
      comparison.grounded = groundedAssessment change context groundedAt := by
  simp only [compareAuthoritativeRisk, bind_ok] at compared
  obtain ⟨_, isChange, _, isContext, _, _, grounded, evaluated, isComparison⟩ := compared
  obtain ⟨changed, rfl⟩ := parse_ok.mp isChange
  obtain ⟨known, rfl⟩ := parse_ok.mp isContext
  obtain ⟨_, rfl⟩ := parse_ok.mp isComparison
  have checked := evaluated
  simp only [evaluateGroundedRisk, bind_ok, require_ok] at checked
  obtain ⟨_, sameChange, _, sameContext, _, bound, _, complete, _, _, _, _, isAssessment⟩ := checked
  obtain ⟨_, rfl⟩ := parse_ok.mp sameChange
  obtain ⟨_, rfl⟩ := parse_ok.mp sameContext
  have grounds : Grounds script spelling change context := ⟨changed, known, bound, complete⟩
  have valid : groundedAt.Valid := by
    have issues := (parse_ok.mp isAssessment).1
    simp only [riskAssessmentIssues, List.append_eq_nil_iff, dateIssues_nil] at issues
    exact issues.1.1.1.2
  obtain ⟨timely, same⟩ := (grounds.evaluated_ok valid grounded).mp evaluated
  exact ⟨grounds, valid, timely, same.symm⟩

/-- Two reviewers may be compared by any collation that orders plain texts, and the candidate is
accepted by its schema and bound to its change, its context and its assessment. -/
theorem candidate_acceptance (script : Script) (spelling : Spelling)
    (collation : Collation String) (orders : OrdersPlain collation) (change : ProposedChange)
    (context : Domain.ImpactContext) (comparison : RiskComparison)
    (baselineAt groundedAt : IsoDateTime) (rationale : Option String)
    (planned : ∀ summary ∈ rationale, ∀ place, lengthIssues 1 2000 summary place = [])
    (compared : compareAuthoritativeRisk script spelling change context baselineAt groundedAt =
      .ok comparison) :
    ∃ candidate,
      buildCanonicalCandidate collation.le change context comparison rationale = .ok candidate ∧
      migrationCandidateIssues candidate = [] ∧
      canonicalIds (candidate.requiredReviewers.map reviewerKey) ∧
      bindMigrationCandidate script spelling candidate change context comparison.grounded =
        .ok candidate := by
  obtain ⟨grounds, valid, timely, isGrounded⟩ := comparison_grounds compared
  have accepted := grounds.data
  have complete := grounds.complete
  obtain ⟨known, _⟩ := impactContextIssues_nil.mp grounds.contextAccepted
  have reasons : comparison.grounded.reasons = firedReasons context.evidence := by
    rw [isGrounded, groundedAssessment, connectedEvidence_eq accepted]
  have perm := @Collation.sortBy_perm _ _ collation reviewerKey (reviewersOf context.evidence)
  have ordered := sortBy_canonical orders (reviewersOf_differ accepted complete)
  have shaped : (filledCandidate change context rationale
      (reasonEvidence (firedReasons context.evidence))
      (collation.sortBy reviewerKey (reviewersOf context.evidence))).shapeIssues = [] := by
    refine filledCandidate_shaped grounds.changeAccepted known planned (cited_prefixed accepted)
      (cited_two accepted complete) (cited_most accepted) ?_ ?_ ?_ ?_
    · rw [perm.length_eq]
      exact reviewersOf_filled accepted complete
    · rw [perm.length_eq]
      exact reviewersOf_few accepted complete
    · intro reviewer listed
      exact reviewersOf_accepted accepted complete reviewer (perm.subset listed)
    · intro reviewer listed
      exact reviewersOf_short accepted complete reviewer (perm.subset listed)
  have wellFormed : migrationCandidateIssues (filledCandidate change context rationale
      (reasonEvidence (firedReasons context.evidence))
      (collation.sortBy reviewerKey (reviewersOf context.evidence))) = [] :=
    List.append_eq_nil_iff.mpr
      ⟨shaped, filledCandidate_refined (cited_canonical context.evidence) ordered⟩
  refine ⟨_, builder_fills accepted complete reasons rationale, wellFormed, ordered,
    bindMigrationCandidate_ok.mpr ⟨?_, rfl⟩⟩
  have blocking : BlockingAssessment context comparison.grounded := by
    rw [isGrounded]
    exact grounds.blocking
  have owned := @sorted_owned collation context.evidence
  exact {
    wellFormed := wellFormed
    changed := grounds.changeAccepted
    known := grounds.contextAccepted
    assessed := by
      rw [isGrounded]
      exact (grounds.bind_ok _ _).mpr ⟨rfl, rfl, valid, timely⟩
    source := by
      rw [isGrounded] at blocking ⊢
      exact require_ok.mpr ⟨grounds.bound, rfl, rfl, rfl, rfl, rfl, rfl, blocking.outcome.1⟩
    cited := by
      rw [reasons]
      rfl
    within := reasonEvidence_subset context.evidence
    count := by
      rw [← ownerUrns_count]
      exact owned.length_eq.trans (List.length_map _)
    owned := by
      intro reviewer listed
      obtain ⟨ownerUrn, _, rfl⟩ := List.mem_map.mp (owned.subset listed)
      rw [ownerAssets, OrderedMap.lookup_group, assetsOf]
    escalated := by
      rw [reasons]
      exact reviewers_escalate accepted complete
    base := by
      intro artifact present sha named
      apply canonicalArtifact_based artifact present
      revert named
      cases kind : artifact.kind with
      | dbtModel expected =>
          simp [MigrationArtifact.expectedBaseSha, kind]
      | _ => simp [MigrationArtifact.expectedBaseSha, kind] }

theorem candidate_acceptance_sample : ∃ candidate comparison,
    buildCanonicalCandidate localeCollation.le sampleChange (sampleRun 'a' 0) comparison
      (some "r") = .ok candidate ∧ migrationCandidateIssues candidate = [] := by
  have valid : (sampleDate 0).Valid := Or.inl Nat.one_ne_zero
  obtain ⟨comparison, compared⟩ := compare_total sampleChange_accepted (sampleRun_accepted 'a' 0)
    rfl rfl valid valid ((evaluationTimes_iff sampleGrounds.data).mpr (le_refl _))
  have planned : ∀ summary ∈ some "r", ∀ place, lengthIssues 1 2000 summary place = [] := by
    intro summary isSummary
    cases isSummary
    exact lengthIssues_ofList (by decide)
  obtain ⟨candidate, built, wellFormed, _⟩ := candidate_acceptance sampleScript Spelling.sample
    localeCollation localeCollation_plain sampleChange (sampleRun 'a' 0) comparison (sampleDate 0)
    (sampleDate 0) (some "r") planned compared
  exact ⟨candidate, comparison, built, wellFormed⟩

end Guarantee

end LineageGuard.Agent
