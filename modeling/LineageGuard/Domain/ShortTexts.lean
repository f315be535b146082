import LineageGuard.Domain.Migration
import Mathlib.Tactic

/-
This file proves that short literal texts, paths, artifacts and steps are accepted.
-/

namespace LineageGuard.Domain

section Lengths

theorem utf16Length_append (first second : String) :
    utf16Length (first ++ second) = utf16Length first + utf16Length second := by
  rw [utf16Length, utf16Length, utf16Length, String.toList_append, List.map_append,
    List.sum_append]

theorem utf16Length_twice (chars : List Char) :
    utf16Length (String.ofList chars) ≤ 2 * chars.length := by
  have each : ∀ unit ∈ chars.map fun char => if 0x10000 ≤ char.toNat then 2 else 1, unit ≤ 2 := by
    intro unit present
    obtain ⟨char, _, rfl⟩ := List.mem_map.mp present
    split <;> omega
  have total := List.sum_le_card_nsmul _ 2 each
  rw [List.length_map, smul_eq_mul] at total
  rw [utf16Length_ofList]
  omega

theorem line_short {chars : List Char} (short : chars.length ≤ 100) :
    utf16Length (String.ofList chars) ≤ 200 := by
  have := utf16Length_twice chars
  omega

theorem line_filled {chars : List Char} (filled : chars ≠ []) :
    1 ≤ utf16Length (String.ofList chars) := by
  obtain ⟨char, rest, rfl⟩ := List.exists_cons_of_ne_nil filled
  rw [utf16Length_ofList, List.map_cons, List.sum_cons]
  split <;> omega

/-- A small letter is a short text. -/
theorem letter_short {char : Char} (small : char.isLower = true) {most : ℕ} (least : 1 ≤ most)
    (place : List PathItem) : lengthIssues 1 most (String.ofList [char]) place = [] := by
  apply lengthIssues_ofList
  have bound : char.toNat < 0x10000 := by
    delta Char.isLower at small
    simp only [Bool.and_eq_true, decide_eq_true_eq] at small
    exact lt_of_le_of_lt (UInt32.le_iff_toNat_le.mp small.2) (by decide)
  simp only [List.map_cons, List.map_nil, List.sum_cons, List.sum_nil, if_neg bound.not_ge]
  exact ⟨le_rfl, least⟩

end Lengths

section Plain

/-- A plain character is a visible character of ASCII or a blank. -/
def isPlain (char : Char) : Bool := decide (0x20 ≤ char.toNat) && decide (char.toNat < 0x7f)

theorem codeUnits_plain {chars : List Char} (plain : ∀ char ∈ chars, isPlain char = true) :
    codeUnits (String.ofList chars) = chars.map Char.toNat := by
  rw [codeUnits, String.toList_ofList, List.map_eq_flatMap]
  apply List.flatMap_congr
  intro char present
  have bounds := plain char present
  simp only [isPlain, Bool.and_eq_true, decide_eq_true_eq] at bounds
  rw [if_pos (by omega)]

/-- Ascending texts are distinct and sorted. -/
theorem literals_canonical {texts : List (List Char)}
    (plain : ∀ chars ∈ texts, ∀ char ∈ chars, isPlain char = true)
    (ascending : texts.Pairwise fun left right => left.map Char.toNat < right.map Char.toNat) :
    canonicalIds (texts.map String.ofList) := by
  constructor
  · rw [List.Nodup, List.pairwise_map]
    refine ascending.imp ?_
    intro left right before same
    rw [String.ofList_inj.mp same] at before
    exact lt_irrefl _ before
  · symm
    apply sorted_eq
    rw [List.pairwise_map]
    refine ascending.imp_of_mem ?_
    intro left right isLeft isRight before
    rw [codeUnits_plain (plain left isLeft), codeUnits_plain (plain right isRight)]
    exact before.le

theorem listed_canonical (texts : List (List Char))
    (plain : (texts.all fun chars => chars.all isPlain) = true)
    (ascending : texts.Pairwise fun left right => left.map Char.toNat < right.map Char.toNat) :
    canonicalIds (texts.map String.ofList) := by
  refine literals_canonical ?_ ascending
  intro chars isChars char isChar
  exact List.all_eq_true.mp (List.all_eq_true.mp plain chars isChars) char isChar

end Plain

section Paths

theorem literalPath_accepted {pattern : String → Bool} {chars : List Char}
    (short : 1 ≤ chars.length ∧ chars.length ≤ 100) (relative : isRelative chars = true)
    (normal : isNormalized chars = true) (matched : pattern (String.ofList chars) = true)
    (place : List PathItem) : artifactPathIssues pattern (String.ofList chars) place = [] := by
  have filled : 1 ≤ utf16Length (String.ofList chars) :=
    line_filled (List.ne_nil_of_length_pos short.1)
  have most : utf16Length (String.ofList chars) ≤ 240 := (line_short short.2).trans (by decide)
  simp only [artifactPathIssues, List.append_eq_nil_iff, issueUnless_nil, String.toList_ofList]
  exact ⟨⟨⟨lengthIssues_nil.mpr ⟨filled, most⟩, relative⟩, normal⟩, matched⟩

/-- A literal path splits into the folder, its own part and the ending. -/
theorem literal_between {start close middle : List Char} {allowed : Char → Bool}
    (filled : middle ≠ []) (within : middle.all allowed = true) :
    isBetween (String.ofList start) (String.ofList close) allowed (start ++ middle ++ close) =
      true := by
  refine isBetween_iff.mpr ⟨middle, filled, List.all_eq_true.mp within, ?_⟩
  rw [String.toList_ofList, String.toList_ofList]

theorem dbtPath_matched {folder middle : List Char} (filled : middle ≠ [])
    (within : middle.all isPathChar = true) (inProject : Bool) :
    isDbtPath (String.ofList folder) (String.ofList
      ((if inProject then "walkthrough/dbt/" else "walkthrough/").toList ++ folder ++ ['/'] ++
        middle ++ ['.', 's', 'q', 'l'])) = true := by
  have found : ∀ start : List Char, isBetween (String.ofList start ++ String.ofList folder ++ "/")
      ".sql" isPathChar (start ++ folder ++ ['/'] ++ middle ++ ['.', 's', 'q', 'l']) = true := by
    intro start
    have slash : "/" = String.ofList ['/'] := rfl
    rw [slash, ← String.ofList_append, ← String.ofList_append]
    exact literal_between filled within
  have split : ∀ text : String, String.ofList text.toList = text := fun _ => String.ofList_toList
  rw [isDbtPath, String.toList_ofList, Bool.or_eq_true]
  cases inProject with
  | false =>
      refine Or.inl ?_
      have plain := found "walkthrough/".toList
      rwa [split] at plain
  | true =>
      refine Or.inr ?_
      have project := found "walkthrough/dbt/".toList
      rwa [split] at project

end Paths

section Parts

theorem artifact_accepted {kind : ArtifactKind} {path content : String}
    (based : ∀ sha, kind = .dbtModel sha → isGitSha sha = true)
    (short : ∀ place, lengthIssues 1 100000 content place = [])
    (located : ∀ place, artifactPathIssues (isPathOfKind kind) path place = [])
    (place : List PathItem) : MigrationArtifact.issues ⟨kind, path, content⟩ place = [] := by
  rw [MigrationArtifact.issues, short, located, List.append_nil, List.append_nil]
  cases kind with
  | dbtModel sha => exact issueUnless_nil.mpr (based sha rfl)
  | _ => rfl

theorem isArtifactPath_of {kind : ArtifactKind} {path : String}
    (located : artifactPathIssues (isPathOfKind kind) path [] = []) :
    isArtifactPath path = true := by
  rw [isArtifactPath, List.any_eq_true]
  refine ⟨isPathOfKind kind, ?_, List.isEmpty_iff.mpr located⟩
  cases kind <;> simp [isPathOfKind]

theorem step_accepted {step : MigrationStep} (named : isStepId step.id = true)
    (titled : ∀ place, lengthIssues 1 160 step.title place = [])
    (explained : ∀ place, lengthIssues 1 1000 step.rationale place = [])
    (cited : ∀ id ∈ step.affectedEvidenceIds, isPrefixedId "ev_" id = true)
    (evidence : 1 ≤ step.affectedEvidenceIds.length ∧ step.affectedEvidenceIds.length ≤ 200)
    (located : ∀ target ∈ step.artifactTargets, isArtifactPath target = true)
    (targets : 1 ≤ step.artifactTargets.length ∧ step.artifactTargets.length ≤ 20)
    (place : List PathItem) : step.issues place = [] := by
  have ids : eachIssues step.affectedEvidenceIds (below place "affectedEvidenceIds")
      evidenceIdIssues = [] :=
    eachIssues_of fun id present _ => issueUnless_nil.mpr (cited id present)
  have paths : eachIssues step.artifactTargets (below place "artifactTargets")
      migrationArtifactPathIssues = [] :=
    eachIssues_of fun target present _ => issueUnless_nil.mpr (located target present)
  simp only [MigrationStep.issues, List.append_eq_nil_iff, issueUnless_nil, countIssues_nil]
  exact ⟨⟨⟨⟨⟨⟨named, titled _⟩, explained _⟩, ids⟩, evidence⟩, paths⟩, targets⟩

theorem candidate_shaped {candidate : MigrationCandidate}
    (changed : isFingerprint candidate.sourceChangeFingerprint = true)
    (patched : isFingerprint candidate.sourcePatchFingerprint = true)
    (known : isFingerprint candidate.sourceImpactContextFingerprint = true)
    (cited : ∀ id ∈ candidate.sourceEvidenceIds, isPrefixedId "ev_" id = true)
    (evidence : 1 ≤ candidate.sourceEvidenceIds.length ∧
      candidate.sourceEvidenceIds.length ≤ 200)
    (summary : ∀ place, lengthIssues 1 2000 candidate.summary place = [])
    (steps : ∀ step ∈ candidate.steps, ∀ place, step.issues place = [])
    (stepCount : 3 ≤ candidate.steps.length ∧ candidate.steps.length ≤ 20)
    (artifacts : ∀ artifact ∈ candidate.artifacts, ∀ place, artifact.issues place = [])
    (artifactCount : 5 ≤ candidate.artifacts.length ∧ candidate.artifacts.length ≤ 20)
    (reviewers : ∀ reviewer ∈ candidate.requiredReviewers, ∀ place, reviewer.issues place = [])
    (reviewerCount : 1 ≤ candidate.requiredReviewers.length ∧
      candidate.requiredReviewers.length ≤ 20)
    (window : 1 ≤ candidate.compatibilityWindowDays ∧ candidate.compatibilityWindowDays ≤ 90)
    (plan : ∀ place, lengthIssues 1 2000 candidate.rollbackPlan place = []) :
    candidate.shapeIssues = [] := by
  have ids : eachIssues candidate.sourceEvidenceIds [.field "sourceEvidenceIds"]
      evidenceIdIssues = [] :=
    eachIssues_of fun id present _ => issueUnless_nil.mpr (cited id present)
  simp only [MigrationCandidate.shapeIssues, List.append_eq_nil_iff, fingerprintIssues_nil,
    countIssues_nil, issueUnless_nil, and_assoc]
  exact ⟨changed, patched, known, ids, evidence.1, evidence.2, summary _, eachIssues_of steps,
    stepCount.1, stepCount.2, eachIssues_of artifacts, artifactCount.1, artifactCount.2,
    eachIssues_of reviewers, reviewerCount.1, reviewerCount.2, window.1, window.2, plan _⟩

/-- An identifier with twenty-four digits is accepted. -/
theorem literalId_prefixed {start digits : List Char} (long : digits.length = 24)
    (each : digits.all (fun char => "0123456789abcdef".toList.contains char) = true) :
    isPrefixedId (String.ofList start) (String.ofList (start ++ digits)) = true := by
  simp only [isPrefixedId, String.toList_ofList, List.take_left', List.drop_left', isHex,
    Bool.and_eq_true, beq_iff_eq]
  exact ⟨trivial, long, each⟩

end Parts

end LineageGuard.Domain
