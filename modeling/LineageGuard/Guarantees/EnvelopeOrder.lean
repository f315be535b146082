import LineageGuard.Guarantees.SourceAllowlist
import Mathlib.Tactic

/-
This file proves for which sources the schema accepts the envelope that the builder orders.
-/

namespace LineageGuard.Domain

open Json Attempt

section Orders

variable {collation : Collation String} {Item : Type} {key : Item → String} {items : List Item}

/-- The collation puts every two paths in the order of their code units. -/
def OrdersByCodeUnits (collation : Collation String) (paths : List String) : Prop :=
  ∀ left ∈ paths, ∀ right ∈ paths, left ≠ right →
    (collation.le left right = true ↔ codeUnits left < codeUnits right)

theorem ordersByCodeUnits_apart {paths : List String} (alike : OrdersByCodeUnits collation paths) :
    collation.TellsApart paths := by
  intro left isLeft right isRight ties
  by_contra differ
  have before := (alike left isLeft right isRight differ).mp ties.1
  have after := (alike right isRight left isLeft (Ne.symm differ)).mp ties.2
  exact lt_asymm before after

/-- A later path that could stand first would stay first. -/
theorem later_not_first (every : ∀ ordered : List Item, ordered.Perm items →
      (collation.sortBy key ordered).map key = sorted (ordered.map key))
    {left right : Item} (isLeft : left ∈ items) (isRight : right ∈ items)
    (before : codeUnits (key left) < codeUnits (key right)) :
    collation.le (key right) (key left) = false := by
  have differ : right ≠ left := by
    rintro rfl
    exact lt_irrefl _ before
  obtain ⟨ordered, perm, sublist⟩ := Collation.exists_order isRight isLeft differ
  rw [Bool.eq_false_iff]
  intro first
  have stays : [right, left].Sublist (collation.sortBy key ordered) :=
    Collation.sortBy_stable first sublist
  have kept := stays.map key
  rw [every ordered perm] at kept
  have pairs := List.pairwise_map.mp ((sorted_pairwise (ordered.map key)).sublist kept)
  exact not_le_of_gt before (List.rel_of_pairwise_cons pairs List.mem_cons_self)

/-- Every order of the items is sorted by code units exactly when the collation compares so. -/
theorem sortBy_sorted_iff (single : (items.map key).Nodup) :
    (∀ ordered : List Item, ordered.Perm items →
      (collation.sortBy key ordered).map key = sorted (ordered.map key)) ↔
      OrdersByCodeUnits collation (items.map key) := by
  constructor
  · intro every left isLeft right isRight differ
    obtain ⟨first, isFirst, rfl⟩ := List.mem_map.mp isLeft
    obtain ⟨second, isSecond, rfl⟩ := List.mem_map.mp isRight
    constructor
    · intro ordered
      by_contra notBefore
      have after := lt_of_le_of_ne (not_lt.mp notBefore) fun same =>
        differ (codeUnits_inj same.symm)
      rw [later_not_first every isSecond isFirst after] at ordered
      cases ordered
    · intro before
      have total := collation.total (key first) (key second)
      rwa [later_not_first every isFirst isSecond before, Bool.or_false] at total
  · intro alike ordered perm
    have sortedPerm : (collation.sortBy key ordered).Perm ordered := Collation.sortBy_perm ordered
    have distinct : ((collation.sortBy key ordered).map key).Nodup :=
      ((sortedPerm.trans perm).map key).nodup_iff.mpr single
    have pairs : ((collation.sortBy key ordered).map key).Pairwise
        fun left right => codeUnits left ≤ codeUnits right := by
      rw [List.pairwise_map]
      refine ((Collation.sortBy_pairwise ordered).and (List.pairwise_map.mp distinct)).imp_of_mem ?_
      intro left right isLeft isRight related
      have leftKey := List.mem_map_of_mem (f := key) ((sortedPerm.trans perm).mem_iff.mp isLeft)
      have rightKey := List.mem_map_of_mem (f := key) ((sortedPerm.trans perm).mem_iff.mp isRight)
      exact ((alike _ leftKey _ rightKey related.2).mp related.1).le
    rw [← sorted_eq pairs]
    exact sorted_perm (sortedPerm.map key)

end Orders

section Sources

variable {script : Script} {collation : Collation String} {isUrl : String → Bool}
variable {input : SourceAllowlistInput} {files : List SourceFileInput}
variable {migration : SourceFileInput}

/-- The digests and the paths of a source are valid, and its paths are distinct. -/
structure ValidSource (input : SourceAllowlistInput) : Prop where
  baseSha : isHex 40 input.baseSha.toList = true
  headSha : isHex 40 input.headSha.toList = true
  blobSha : ∀ file ∈ input.files, ∀ blobSha ∈ file.blobSha, isHex 40 blobSha.toList = true
  path : ∀ file ∈ input.files, 1 ≤ utf16Length file.path ∧ utf16Length file.path ≤ 400
  distinct : (input.files.map (·.path)).Nodup

/-- These are the checks of the builder itself. -/
structure PassesChecks (input : SourceAllowlistInput) : Prop where
  repository : assertRepository input = .ok ()
  opened : assertOpen input = .ok ()
  inert : assertNoUnrelatedExecutables input.files = .ok ()
  rename : ∃ migration, selectMigration input.files = .ok migration ∧
    assertExactlyOneCanonicalRename migration = .ok ()

/-- These are the limits of the schema that no check of the builder covers. -/
structure WithinLimits (isUrl : String → Bool) (input : SourceAllowlistInput) : Prop where
  repository : (3 ≤ utf16Length input.repository ∧ utf16Length input.repository ≤ 140) ∧
    isRepository input.repository = true
  number : 0 < input.prNumber ∧ input.prNumber < 2 ^ 53
  url : isUrl input.prUrl = true ∧ utf16Length input.prUrl ≤ 500
  count : input.files.length ≤ 50
  moved : input.baseSha ≠ input.headSha

def envelopeFile (script : Script) (file : SourceFileInput) : EnvelopeFile :=
  ⟨file.path, script.digest file.patch.toList, file.blobSha⟩

def unsignedEnvelope (script : Script) (collation : Collation String)
    (input : SourceAllowlistInput) (selectedPath : String) : SourceChangeEnvelope :=
  ⟨input.repository, input.prNumber, input.prUrl, input.baseSha, input.headSha,
    collation.sortBy (·.path) (input.files.map (envelopeFile script)), selectedPath, ""⟩

/-- This is the envelope that the builder gives to the schema. -/
def builtEnvelope (script : Script) (collation : Collation String) (input : SourceAllowlistInput)
    (selectedPath : String) : SourceChangeEnvelope :=
  { unsignedEnvelope script collation input selectedPath with
    sourceFingerprint :=
      script.sha256 (unsignedEnvelope script collation input selectedPath).identity }

theorem build_ok {envelope : SourceChangeEnvelope} (passes : PassesChecks input)
    (selected : selectMigration input.files = .ok migration) :
    buildCanonicalSourceEnvelope script collation isUrl input = .ok envelope ↔
      sourceChangeEnvelopeIssues script isUrl
          (builtEnvelope script collation input migration.path) = [] ∧
        envelope = builtEnvelope script collation input migration.path := by
  obtain ⟨found, isFound, once⟩ := passes.rename
  obtain rfl : found = migration := Except.ok.inj (isFound.symm.trans selected)
  simp only [buildCanonicalSourceEnvelope, bind_ok, require_ok, pure_ok, passes.repository,
    passes.opened, passes.inert, isFound, once, exists_const, true_and, Except.ok.injEq,
    exists_eq_left', builtEnvelope, unsignedEnvelope]
  exact and_congr_right fun _ => eq_comm

theorem selectMigration_mem (selected : selectMigration files = .ok migration) :
    migration ∈ files := by
  rw [selectMigration] at selected
  split at selected
  · cases selected
  · next found one =>
      simp only [bind_ok, require_ok, reject_ok, pure_ok] at selected
      obtain ⟨_, _, _, _, rfl⟩ := selected
      exact List.mem_of_mem_filter (one ▸ List.mem_singleton_self _)
  · cases selected

theorem builtEnvelope_paths (selectedPath : String) :
    (builtEnvelope script collation input selectedPath).files.map (·.path) =
      (collation.sortBy (·.path) input.files).map (·.path) := by
  show (collation.sortBy _ (input.files.map (envelopeFile script))).map _ = _
  rw [Collation.sortBy_map, List.map_map]
  rfl

/-- The schema accepts the envelope exactly when the limits hold and the paths are in its order. -/
theorem builtEnvelope_issues (valid : ValidSource input) (present : migration ∈ input.files) :
    sourceChangeEnvelopeIssues script isUrl
        (builtEnvelope script collation input migration.path) = [] ↔
      WithinLimits isUrl input ∧ (collation.sortBy (·.path) input.files).map (·.path) =
        sorted (input.files.map (·.path)) := by
  have paths : (builtEnvelope script collation input migration.path).files.map (·.path) =
      (collation.sortBy (·.path) input.files).map (·.path) := builtEnvelope_paths migration.path
  have perm : (collation.sortBy (fun file : SourceFileInput => file.path) input.files).Perm
      input.files := Collation.sortBy_perm _
  have filesPerm : (builtEnvelope script collation input migration.path).files.Perm
      (input.files.map (envelopeFile script)) := Collation.sortBy_perm _
  have pathsPerm := perm.map (·.path)
  have each : eachIssues (builtEnvelope script collation input migration.path).files
      [.field "files"] EnvelopeFile.issues = [] := by
    apply eachIssues_of
    intro file isFile place
    obtain ⟨source, isSource, rfl⟩ := List.mem_map.mp (filesPerm.mem_iff.mp isFile)
    simp only [EnvelopeFile.issues, List.append_eq_nil_iff, lengthIssues_nil, fingerprintIssues_nil]
    refine ⟨⟨valid.path source isSource, digest_fingerprint script _⟩, ?_⟩
    show (source.blobSha.elim [] fun blobSha => shaIssues blobSha _) = []
    cases blob : source.blobSha with
    | none => rfl
    | some blobSha => exact issueUnless_nil.mpr (valid.blobSha source isSource blobSha blob)
  have count : (builtEnvelope script collation input migration.path).files.length =
      input.files.length := by
    rw [filesPerm.length_eq, List.length_map]
  have some : 1 ≤ input.files.length := List.length_pos_of_mem present
  have listed := pathsPerm.mem_iff.mpr (List.mem_map_of_mem present)
  have distinct := pathsPerm.nodup_iff.mpr valid.distinct
  have digest : isFingerprint
      (builtEnvelope script collation input migration.path).sourceFingerprint = true :=
    digest_fingerprint script _
  have selected := valid.path migration present
  simp only [sourceChangeEnvelopeIssues, List.append_eq_nil_iff, lengthIssues_nil, issueUnless_nil,
    shaIssues, countIssues_nil, fingerprintIssues_nil, each, count, distinct, digest,
    sorted_perm pathsPerm, paths]
  constructor
  · rintro ⟨⟨⟨⟨⟨⟨⟨⟨⟨⟨⟨⟨⟨⟨⟨⟨length, form⟩, positive⟩, small⟩, isUrl⟩, short⟩, _⟩, _⟩, _⟩, few⟩, _⟩, _⟩,
      _⟩, _⟩, ordered⟩, moved⟩, _⟩
    exact ⟨⟨⟨length, form⟩, ⟨positive, small⟩, ⟨isUrl, short.2⟩, few.2, moved⟩, ordered⟩
  · rintro ⟨limits, ordered⟩
    exact ⟨⟨⟨⟨⟨⟨⟨⟨⟨⟨⟨⟨⟨⟨⟨⟨limits.repository.1, limits.repository.2⟩, limits.number.1⟩,
      limits.number.2⟩, limits.url.1⟩, Nat.zero_le _, limits.url.2⟩, valid.baseSha⟩, valid.headSha⟩,
      trivial⟩, some, limits.count⟩, selected⟩, trivial⟩, listed⟩, trivial⟩, ordered⟩,
      limits.moved⟩, rfl⟩

theorem selectMigration_perm (same : files.Perm input.files)
    (selected : selectMigration input.files = .ok migration) :
    selectMigration files = .ok migration := by
  have single : input.files.filter isSql = [migration] := by
    rw [selectMigration] at selected
    split at selected
    · cases selected
    · next found one =>
        simp only [bind_ok, require_ok, reject_ok, pure_ok] at selected
        obtain ⟨_, _, _, _, rfl⟩ := selected
        exact one
    · cases selected
  have alsoSingle : files.filter isSql = [migration] := by
    apply List.perm_singleton.mp
    rw [← single]
    exact same.filter isSql
  rw [selectMigration, single] at selected
  rw [selectMigration, alsoSingle]
  exact selected

theorem assertNoUnrelatedExecutables_ok {done : Unit} :
    assertNoUnrelatedExecutables files = .ok done ↔
      ∀ file ∈ files, isSql file = false → isInert file.path = true := by
  simp only [assertNoUnrelatedExecutables, require_ok, List.map_eq_nil_iff, List.filter_eq_nil_iff,
    Bool.and_eq_true, Bool.not_eq_true', not_and, Bool.not_eq_false]

/-- Neither the checks nor the limits depend on the order of the files. -/
theorem PassesChecks.perm (passes : PassesChecks input) (same : files.Perm input.files) :
    PassesChecks { input with files := files } := by
  obtain ⟨migration, selected, once⟩ := passes.rename
  refine ⟨passes.repository, passes.opened, ?_, migration, selectMigration_perm same selected, once⟩
  rw [assertNoUnrelatedExecutables_ok]
  intro file present
  exact assertNoUnrelatedExecutables_ok.mp passes.inert file (same.mem_iff.mp present)

theorem ValidSource.perm (valid : ValidSource input) (same : files.Perm input.files) :
    ValidSource { input with files := files } where
  baseSha := valid.baseSha
  headSha := valid.headSha
  blobSha file present := valid.blobSha file (same.mem_iff.mp present)
  path file present := valid.path file (same.mem_iff.mp present)
  distinct := (same.map _).nodup_iff.mpr valid.distinct

theorem withinLimits_perm (same : files.Perm input.files) :
    WithinLimits isUrl { input with files := files } ↔ WithinLimits isUrl input := by
  constructor
  · rintro ⟨repository, number, url, count, moved⟩
    exact ⟨repository, number, url, same.length_eq ▸ count, moved⟩
  · rintro ⟨repository, number, url, count, moved⟩
    exact ⟨repository, number, url, same.length_eq.symm ▸ count, moved⟩

/-- A collation that tells the paths apart gives the same envelope for every order. -/
theorem builtEnvelope_perm (valid : ValidSource input) (same : files.Perm input.files)
    (apart : collation.TellsApart (input.files.map (·.path))) (selectedPath : String) :
    builtEnvelope script collation { input with files := files } selectedPath =
      builtEnvelope script collation input selectedPath := by
  have paths : (files.map (envelopeFile script)).map (·.path) = files.map (·.path) := by
    rw [List.map_map]
    rfl
  have inOrder : collation.sortBy (·.path) (files.map (envelopeFile script)) =
      collation.sortBy (·.path) (input.files.map (envelopeFile script)) := by
    apply Collation.sortBy_unique (same.map _)
    · rw [paths]
      exact (same.map _).nodup_iff.mpr valid.distinct
    · rw [paths]
      intro left isLeft right isRight
      exact apart left ((same.map _).mem_iff.mp isLeft) right ((same.map _).mem_iff.mp isRight)
  simp only [builtEnvelope, unsignedEnvelope, inOrder]

/-- Every order of the files gives the same accepted envelope exactly when the other limits of the
schema hold and the script compares the paths as their code units do. -/
theorem envelope_complete (script : Script) (collation : Collation String) (isUrl : String → Bool)
    (input : SourceAllowlistInput) (valid : ValidSource input) (passes : PassesChecks input) :
    (∃ envelope, sourceChangeEnvelopeIssues script isUrl envelope = [] ∧
      ∀ files : List SourceFileInput, files.Perm input.files →
        buildCanonicalSourceEnvelope script collation isUrl { input with files := files } =
          .ok envelope) ↔
      WithinLimits isUrl input ∧ OrdersByCodeUnits collation (input.files.map (·.path)) := by
  obtain ⟨migration, selected, _⟩ := passes.rename
  have present := selectMigration_mem selected
  constructor
  · rintro ⟨envelope, _, built⟩
    have checked : ∀ files : List SourceFileInput, files.Perm input.files →
        WithinLimits isUrl input ∧ (collation.sortBy (·.path) files).map (·.path) =
          sorted (files.map (·.path)) := by
      intro files same
      have accepted := ((build_ok (passes.perm same) (selectMigration_perm same selected)).mp
        (built files same)).1
      rw [builtEnvelope_issues (valid.perm same) (same.mem_iff.mpr present),
        withinLimits_perm same] at accepted
      exact accepted
    exact ⟨(checked input.files (List.Perm.refl _)).1,
      (sortBy_sorted_iff valid.distinct).mp fun files same => (checked files same).2⟩
  · rintro ⟨limits, alike⟩
    have accepted : sourceChangeEnvelopeIssues script isUrl
        (builtEnvelope script collation input migration.path) = [] :=
      (builtEnvelope_issues valid present).mpr
        ⟨limits, (sortBy_sorted_iff valid.distinct).mpr alike _ (List.Perm.refl _)⟩
    refine ⟨builtEnvelope script collation input migration.path, accepted, fun files same => ?_⟩
    have kept : builtEnvelope script collation { input with files := files } migration.path =
        builtEnvelope script collation input migration.path :=
      builtEnvelope_perm valid same (ordersByCodeUnits_apart alike) migration.path
    refine (build_ok (passes.perm same) (selectMigration_perm same selected)).mpr ⟨?_, kept.symm⟩
    rw [kept]
    exact accepted

end Sources

section Samples

def documented (path : String) : List SourceFileInput :=
  [⟨path, "", none⟩, ⟨"docs/a.md", "", none⟩,
    ⟨"walkthrough/migrations/1.sql", renamingLine "buyer_id", none⟩]

/-- A document goes along with the migration. -/
def documentedAt (path : String) : SourceAllowlistInput :=
  { renamingTo "buyer_id" with files := documented path }

theorem documentedAt_passes {path : String} (document : isSql ⟨path, "", none⟩ = false)
    (inert : isInert path = true) : PassesChecks (documentedAt path) := by
  have other : isSql ⟨"docs/a.md", "", none⟩ = false ∧ isInert "docs/a.md" = true := by
    decide
  refine ⟨rfl, rfl, assertNoUnrelatedExecutables_ok.mpr ?_,
    ⟨"walkthrough/migrations/1.sql", renamingLine "buyer_id", none⟩, ?_, by decide⟩
  · intro file present notSql
    simp only [documentedAt, documented, List.mem_cons, List.not_mem_nil, or_false] at present
    rcases present with rfl | rfl | rfl
    · exact inert
    · exact other.2
    · revert notSql
      decide
  · have single : (documented path).filter isSql =
        [⟨"walkthrough/migrations/1.sql", renamingLine "buyer_id", none⟩] := by
      rw [documented, List.filter_cons_of_neg (by simpa using document),
        List.filter_cons_of_neg (by simpa using other.1)]
      decide
    show selectMigration (documented path) = _
    rw [selectMigration, single]
    decide

theorem documentedAt_valid {path : String}
    (short : 1 ≤ utf16Length path ∧ utf16Length path ≤ 400) (differs : path ≠ "docs/a.md")
    (apart : path ≠ "walkthrough/migrations/1.sql") : ValidSource (documentedAt path) := by
  have shas : isHex 40 (renamingTo "buyer_id").baseSha.toList = true ∧
      isHex 40 (renamingTo "buyer_id").headSha.toList = true := by decide
  refine ⟨shas.1, shas.2, ?_, ?_, ?_⟩
  · intro file present blobSha isBlob
    simp only [documentedAt, documented, List.mem_cons, List.not_mem_nil, or_false] at present
    rcases present with rfl | rfl | rfl <;> cases isBlob
  · intro file present
    simp only [documentedAt, documented, List.mem_cons, List.not_mem_nil, or_false] at present
    rcases present with rfl | rfl | rfl
    · exact short
    · decide
    · decide
  · simp [documentedAt, documented, differs, apart]

theorem documentedAt_limits (path : String) :
    WithinLimits (fun _ => true) (documentedAt path) := by
  have limits : WithinLimits (fun _ => true) (renamingTo "buyer_id") :=
    ⟨by decide, by decide, by decide, by decide, by decide⟩
  exact ⟨limits.repository, limits.number, limits.url, by simp [documentedAt, documented],
    limits.moved⟩

theorem envelope_complete_sample : ∃ envelope,
    buildCanonicalSourceEnvelope (Script.probe 0 []) localeCollation (fun _ => true)
      (documentedAt "a.md") = .ok envelope := by
  have compared : (let paths := (documentedAt "a.md").files.map (·.path)
      paths.all fun left => paths.all fun right => decide (left ≠ right →
        (localeCollation.le left right = true ↔ codeUnits left < codeUnits right))) = true := by
    decide
  have alike : OrdersByCodeUnits localeCollation ((documentedAt "a.md").files.map (·.path)) := by
    intro left isLeft right isRight
    exact of_decide_eq_true
      (List.all_eq_true.mp (List.all_eq_true.mp compared left isLeft) right isRight)
  obtain ⟨envelope, _, built⟩ := (envelope_complete (Script.probe 0 []) localeCollation
    (fun _ => true) (documentedAt "a.md")
    (documentedAt_valid (by decide) (by decide) (by decide))
    (documentedAt_passes (by decide) (by decide))).mpr
      ⟨documentedAt_limits "a.md", alike⟩
  exact ⟨envelope, built _ (List.Perm.refl _)⟩

/-- The locale puts a capital letter behind a small one that the code units put after it. -/
theorem readme_refused : ValidSource (documentedAt "README.md") ∧
    PassesChecks (documentedAt "README.md") ∧
    WithinLimits (fun _ => true) (documentedAt "README.md") ∧
    ∀ envelope, buildCanonicalSourceEnvelope (Script.probe 0 []) localeCollation (fun _ => true)
      (documentedAt "README.md") ≠ .ok envelope := by
  have valid : ValidSource (documentedAt "README.md") :=
    documentedAt_valid (by decide) (by decide) (by decide)
  have passes : PassesChecks (documentedAt "README.md") :=
    documentedAt_passes (by decide) (by decide)
  refine ⟨valid, passes, documentedAt_limits _, fun envelope built => ?_⟩
  obtain ⟨migration, selected, _⟩ := passes.rename
  have ordered := ((builtEnvelope_issues valid (selectMigration_mem selected)).mp
    ((build_ok passes selected).mp built).1).2
  have pairs : ((localeCollation.sortBy (·.path) (documentedAt "README.md").files).map
      (·.path)).Pairwise fun left right => localeCollation.le left right = true := by
    rw [List.pairwise_map]
    exact Collation.sortBy_pairwise (documentedAt "README.md").files
  have inOrder : sorted ((documentedAt "README.md").files.map (·.path)) =
      ["README.md", "docs/a.md", "walkthrough/migrations/1.sql"] := by decide
  rw [ordered, inOrder] at pairs
  have first := List.rel_of_pairwise_cons pairs List.mem_cons_self
  revert first
  decide

end Samples

end LineageGuard.Domain
