import LineageGuard.Acceptance.TreeDelta
import Mathlib.Tactic

/-
This file compares the two checks of a published tree.
-/

namespace LineageGuard.Acceptance

open Attempt

section Listings

def entries (response : TreeResponse) : List (String × TreeEntry) :=
  response.tree.map fun entry => (entry.path, entry)

def blobs (response : TreeResponse) : List (String × String) :=
  (response.tree.filter fun entry => entry.type = "blob").map fun entry => (entry.path, entry.sha)

/-- A complete listing has every field of every entry and no path twice. -/
structure Complete (response : TreeResponse) : Prop where
  whole : response.truncated = some false
  distinct : (response.tree.map (·.path)).Nodup
  filled : ∀ entry ∈ response.tree,
    entry.path ≠ "" ∧ entry.mode ≠ "" ∧ entry.type ≠ "" ∧ entry.sha ≠ ""
  plain : ∀ entry ∈ response.tree, ':' ∉ entry.mode.toList ∧ ':' ∉ entry.type.toList

variable {response : TreeResponse}

theorem entries_keys (response : TreeResponse) :
    (entries response).map Prod.fst = response.tree.map (·.path) := by
  rw [entries, List.map_map]
  rfl

theorem Complete.entries_distinct (complete : Complete response) :
    ((entries response).map Prod.fst).Nodup := by
  rw [entries_keys]
  exact complete.distinct

theorem Complete.blobs_distinct (complete : Complete response) :
    ((blobs response).map Prod.fst).Nodup := by
  rw [blobs, List.map_map]
  exact complete.distinct.sublist (List.filter_sublist.map _)

theorem Complete.readTreeBlobs_eq (complete : Complete response) (treeSha : String) :
    readTreeBlobs treeSha response = .ok (blobs response) := by
  have whole : ¬ response.truncated = some true := by simp [complete.whole]
  rw [readTreeBlobs, reject, if_neg whole]
  exact congrArg Except.ok (OrderedMap.ofList_eq complete.blobs_distinct)

theorem readEntries_eq {found rest : List TreeEntry}
    (distinct : ((found ++ rest).map (·.path)).Nodup)
    (filled : ∀ entry ∈ rest, entry.path ≠ "" ∧ entry.mode ≠ "" ∧ entry.type ≠ "" ∧ entry.sha ≠ "") :
    rest.foldlM readEntry (found.map fun entry => (entry.path, entry)) =
      .ok ((found ++ rest).map fun entry => (entry.path, entry)) := by
  induction rest generalizing found with
  | nil => rw [List.foldlM_nil, List.append_nil]; rfl
  | cons entry rest ih =>
      rw [List.forall_mem_cons] at filled
      obtain ⟨⟨path, mode, type, sha⟩, others⟩ := filled
      have fresh : entry.path ∉ (found.map fun entry => (entry.path, entry)).map Prod.fst := by
        rw [List.map_map]
        intro present
        rw [List.map_append, List.map_cons] at distinct
        exact List.disjoint_of_nodup_append distinct present List.mem_cons_self
      rw [List.append_cons] at distinct ⊢
      have next := ih distinct others
      rw [List.map_append, List.map_singleton] at next
      simp only [List.foldlM_cons, readEntry, reject, path, mode, type, sha, fresh, or_self,
        if_false, OrderedMap.set, bind, Except.bind, pure, Except.pure]
      exact next

theorem Complete.readTree_eq (complete : Complete response) :
    readTree response = .ok (entries response) := by
  have read := @readEntries_eq [] response.tree complete.distinct complete.filled
  rw [readTree, require, if_pos complete.whole]
  exact read

theorem Complete.blobs_lookup (complete : Complete response) {path sha : String} :
    (blobs response).lookup path = some sha ↔
      ∃ entry, (entries response).lookup path = some entry ∧ entry.type = "blob" ∧
        entry.sha = sha := by
  rw [OrderedMap.lookup_iff complete.blobs_distinct]
  simp only [OrderedMap.lookup_iff complete.entries_distinct]
  simp only [blobs, entries, List.mem_map, List.mem_filter, decide_eq_true_eq, Prod.mk.injEq]
  constructor
  · rintro ⟨entry, ⟨present, blob⟩, rfl, rfl⟩
    exact ⟨entry, ⟨entry, present, rfl, rfl⟩, blob, rfl⟩
  · rintro ⟨_, ⟨entry, present, rfl, rfl⟩, blob, rfl⟩
    exact ⟨entry, ⟨present, blob⟩, rfl, rfl⟩

theorem Complete.lookup_mem (complete : Complete response) {path : String} {entry : TreeEntry}
    (found : (entries response).lookup path = some entry) :
    entry ∈ response.tree ∧ entry.path = path := by
  have present := (OrderedMap.lookup_iff complete.entries_distinct).mp found
  obtain ⟨other, isOther, same⟩ := List.mem_map.mp present
  obtain ⟨rfl, rfl⟩ := Prod.mk.inj same
  exact ⟨isOther, rfl⟩

end Listings

section Identities

theorem separated_inj {separator : Char} {first second firstRest secondRest : List Char}
    (firstPlain : separator ∉ first) (secondPlain : separator ∉ second)
    (same : first ++ separator :: firstRest = second ++ separator :: secondRest) :
    first = second ∧ firstRest = secondRest := by
  induction first generalizing second with
  | nil =>
      cases second with
      | nil => exact ⟨rfl, (List.cons.inj same).2⟩
      | cons char rest =>
          obtain ⟨rfl, _⟩ := List.cons.inj same
          exact absurd List.mem_cons_self secondPlain
  | cons char rest ih =>
      cases second with
      | nil =>
          obtain ⟨rfl, _⟩ := List.cons.inj same
          exact absurd List.mem_cons_self firstPlain
      | cons other others =>
          obtain ⟨rfl, tails⟩ := List.cons.inj same
          obtain ⟨rfl, rests⟩ := ih (fun present => firstPlain (List.mem_cons_of_mem _ present))
            (fun present => secondPlain (List.mem_cons_of_mem _ present)) tails
          exact ⟨rfl, rests⟩

/-- The identity of an entry has its mode, its type and its identifier. -/
theorem treeIdentity_inj {first second : TreeEntry}
    (firstPlain : ':' ∉ first.mode.toList ∧ ':' ∉ first.type.toList)
    (secondPlain : ':' ∉ second.mode.toList ∧ ':' ∉ second.type.toList)
    (same : treeIdentity (some first) = treeIdentity (some second)) :
    first.mode = second.mode ∧ first.type = second.type ∧ first.sha = second.sha := by
  have colon : ":".toList = [':'] := String.toList_ofList
  have texts := congrArg String.toList (Option.some.inj same)
  simp only [String.toList_append, colon, List.append_assoc, List.singleton_append] at texts
  obtain ⟨modes, rest⟩ := separated_inj firstPlain.1 secondPlain.1 texts
  obtain ⟨types, shas⟩ := separated_inj firstPlain.2 secondPlain.2 rest
  exact ⟨String.toList_inj.mp modes, String.toList_inj.mp types, String.toList_inj.mp shas⟩

variable {base head : TreeResponse}

/-- Entries of one identity are one blob or none. -/
theorem blobs_same (baseComplete : Complete base) (headComplete : Complete head) {path : String}
    (same : treeIdentity ((entries base).lookup path) =
      treeIdentity ((entries head).lookup path)) :
    (blobs base).lookup path = (blobs head).lookup path := by
  ext sha
  rw [baseComplete.blobs_lookup, headComplete.blobs_lookup]
  cases isBase : (entries base).lookup path with
  | none =>
      cases isHead : (entries head).lookup path with
      | none => simp
      | some headEntry => simp [isBase, isHead, treeIdentity] at same
  | some baseEntry =>
      cases isHead : (entries head).lookup path with
      | none => simp [isBase, isHead, treeIdentity] at same
      | some headEntry =>
          rw [isBase, isHead] at same
          obtain ⟨_, types, shas⟩ := treeIdentity_inj
            (baseComplete.plain _ (baseComplete.lookup_mem isBase).1)
            (headComplete.plain _ (headComplete.lookup_mem isHead).1) same
          simp [types, shas]

end Identities

section Bytes

theorem sextets_kept (content : List Char) :
    ((dropLineEnds content).takeWhile (· != '=')).filterMap sextet =
      (content.takeWhile (· != '=')).filterMap sextet := by
  have returned : sextet '\r' = none := by decide
  have ended : sextet '\n' = none := by decide
  fun_induction dropLineEnds content with
  | case1 rest ih => simp [ih, returned, ended]
  | case2 rest ih => simp [ih, ended]
  | case3 char rest _ _ ih =>
      by_cases padding : char = '='
      · simp [padding]
      · simp only [List.takeWhile_cons, bne_iff_ne, ne_eq, padding, not_false_eq_true, if_true,
          List.filterMap_cons, ih]
  | case4 => rfl

/-- The decoder passes over the line ends of a content. -/
theorem decoded_kept (utf8 : List ℕ → String) (content : List Char) :
    decoded utf8 (dropLineEnds content) = decoded utf8 content := by
  rw [decoded, decoded, base64Bytes, base64Bytes, sextets_kept]

/-- The text of a blob as it is read. -/
def blobText (utf8 : List ℕ → String) (readBlob : String → BlobResponse) (sha : String) : String :=
  (readBlob sha).content.elim "" fun content => decoded utf8 content.toList

/-- The blobs of a tree are read as they are, and only an empty blob has an empty content. -/
def Faithful (utf8 : List ℕ → String) (readBlob : String → BlobResponse) (response : TreeResponse) :
    Prop :=
  ∀ entry ∈ response.tree, entry.type = "blob" →
    ∃ content, readBlob entry.sha = ⟨some "base64", some content⟩ ∧
      (content = "" ↔ decoded utf8 content.toList = "")

variable {utf8 : List ℕ → String} {readBlob : String → BlobResponse} {head : TreeResponse}

theorem Faithful.read (faithful : Faithful utf8 readBlob head) (complete : Complete head)
    {path sha : String} (found : (blobs head).lookup path = some sha) :
    ∃ content, readBlob sha = ⟨some "base64", some content⟩ ∧
      (content = "" ↔ decoded utf8 content.toList = "") := by
  obtain ⟨entry, isEntry, blob, rfl⟩ := complete.blobs_lookup.mp found
  exact faithful entry (complete.lookup_mem isEntry).1 blob

end Bytes

section Agreement

variable (utf8 : List ℕ → String) (readBlob : String → BlobResponse)
variable (head base : TreeResponse) (artifacts : List GitHubArtifact)

/-- A blob outside of the artifacts differs, or an artifact is absent or has other bytes. -/
def Visible : Prop :=
  (∃ path, path ∉ artifacts.map (·.path) ∧
      (blobs base).lookup path ≠ (blobs head).lookup path) ∨
    ∃ artifact ∈ artifacts,
      ((blobs head).lookup artifact.path).map (blobText utf8 readBlob) ≠ some artifact.content

/-- Every entry outside of the artifacts keeps its mode, its type and its identifier, or it is a
directory above an artifact. -/
def Confined : Prop :=
  ∀ path, path ∉ artifacts.map (·.path) →
    treeIdentity ((entries base).lookup path) = treeIdentity ((entries head).lookup path) ∨
      isAuthorizedTreeAncestor path ((entries base).lookup path) ((entries head).lookup path)
        (OrderedMap.members (artifacts.map (·.path))) = true

/-- The artifacts have different paths and contents of some length, and their blobs are regular. -/
structure Regular : Prop where
  distinct : (artifacts.map (·.path)).Nodup
  filled : ∀ artifact ∈ artifacts, artifact.content ≠ ""
  modes : ∀ artifact ∈ artifacts, ∀ entry, (entries head).lookup artifact.path = some entry →
    entry.type = "blob" → entry.mode = "100644"

/-- No artifact has the content that its path has in the parent. -/
def Differs : Prop :=
  ∀ artifact ∈ artifacts, ∀ sha, (blobs base).lookup artifact.path = some sha →
    blobText utf8 readBlob sha ≠ artifact.content

variable {utf8 readBlob head base artifacts}

theorem mem_changedBlobs (complete : Complete head) (path : String) :
    path ∈ changedBlobs (blobs base) (blobs head) ↔
      (blobs base).lookup path ≠ (blobs head).lookup path := by
  have differ := @OrderedMap.mem_changed _ _ _ _ id (blobs base) _ complete.blobs_distinct path
  simp only [Option.map_id_fun, id_eq] at differ
  rw [← differ, changedBlobs, List.mem_append, List.mem_map, List.mem_filter]
  simp

theorem mem_changedEntries (complete : Complete head) (path : String) :
    path ∈ changedEntries (entries base) (entries head) ↔
      treeIdentity ((entries base).lookup path) ≠ treeIdentity ((entries head).lookup path) := by
  have differ := @OrderedMap.mem_changed _ _ _ _
    (fun entry : TreeEntry => entry.mode ++ ":" ++ entry.type ++ ":" ++ entry.sha)
    (entries base) _ complete.entries_distinct path
  rw [treeIdentity, treeIdentity, ← differ, changedEntries, OrderedMap.mem_members, List.mem_append,
    List.mem_map, List.mem_filter]
  simp [treeIdentity]

theorem readBlobBytes_eq {sha content : String}
    (read : readBlob sha = ⟨some "base64", some content⟩) :
    readBlobBytes utf8 readBlob sha = .ok (blobText utf8 readBlob sha) := by
  rw [readBlobBytes, blobText, read]
  rfl

/-- The loop finds no failure when every artifact has its bytes. -/
theorem byteFailures_nil (faithful : Faithful utf8 readBlob head) (complete : Complete head) :
    byteFailures utf8 readBlob (blobs head) artifacts = .ok [] ↔ ∀ artifact ∈ artifacts,
      ((blobs head).lookup artifact.path).map (blobText utf8 readBlob) = some artifact.content := by
  induction artifacts with
  | nil => simp [byteFailures, pure, Except.pure]
  | cons artifact rest ih =>
      rw [List.forall_mem_cons, ← ih, byteFailures]
      cases found : (blobs head).lookup artifact.path with
      | none =>
          cases byteFailures utf8 readBlob (blobs head) rest <;> simp [bind, Except.bind, pure,
            Except.pure]
      | some sha =>
          obtain ⟨content, read, _⟩ := faithful.read complete found
          simp only [readBlobBytes_eq read, bind_ok, Except.ok.injEq, exists_eq_left', pure_ok,
            Option.map_some, Option.some.injEq]
          constructor
          · rintro ⟨others, isOthers, none⟩
            split at none
            · cases none
            · next same => exact ⟨not_not.mp same, by rw [isOthers, none]⟩
          · rintro ⟨same, others⟩
            exact ⟨[], others, by rw [if_neg (not_not.mpr same)]⟩

theorem filter_nil {items : List String} {refuses : String → Prop} [DecidablePred refuses] :
    (items.filter fun item => refuses item) = [] ↔ ∀ item ∈ items, ¬ refuses item := by
  simp [List.filter_eq_nil_iff]

/-- The demo accepts a commit exactly when its comparison of blobs sees no difference. -/
theorem verifyTrees_accepted (headComplete : Complete head) (baseComplete : Complete base)
    (faithful : Faithful utf8 readBlob head) (differs : Differs utf8 readBlob base artifacts)
    (headSha baseSha : String) :
    accepted (verifyTrees utf8 readBlob headSha baseSha head base artifacts) = true ↔
      ¬ Visible utf8 readBlob head base artifacts := by
  have bytes : (blobBytes utf8 readBlob (blobs head) artifacts).ok = true ↔
      byteFailures utf8 readBlob (blobs head) artifacts = .ok [] := by
    rw [blobBytes]
    split <;> simp_all
  have delta : (treeDelta (blobs base) (blobs head) artifacts).ok = true ↔
      (∀ path, (blobs base).lookup path ≠ (blobs head).lookup path →
        path ∈ artifacts.map (·.path)) ∧
      ∀ path ∈ artifacts.map (·.path),
        (blobs base).lookup path ≠ (blobs head).lookup path := by
    simp only [treeDelta, apply_ite CheckResult.ok, Bool.if_true_left, Bool.or_false,
      decide_eq_true_eq, filter_nil, mem_changedBlobs headComplete, OrderedMap.mem_members,
      not_not]
  rw [verifyTrees, headComplete.readTreeBlobs_eq, baseComplete.readTreeBlobs_eq]
  simp only [accepted, List.all_cons, List.all_nil, Bool.and_true, Bool.and_eq_true, bytes, delta,
    byteFailures_nil faithful headComplete, Visible, not_or, not_exists, not_and, not_not]
  constructor
  · rintro ⟨⟨within, _⟩, same⟩
    refine ⟨fun path outside => ?_, same⟩
    by_contra changed
    exact outside (within path changed)
  · rintro ⟨outside, same⟩
    refine ⟨⟨fun path changed => ?_, fun path listed => ?_⟩, same⟩
    · by_contra absent
      exact changed (outside path absent)
    · obtain ⟨artifact, present, rfl⟩ := List.mem_map.mp listed
      intro unchanged
      have content := same artifact present
      rw [← unchanged, Option.map_eq_some_iff] at content
      obtain ⟨sha, found, text⟩ := content
      exact differs artifact present sha found text

theorem assertExactTreeDelta_ok (headComplete : Complete head) :
    assertExactTreeDelta (entries base) (entries head) artifacts = .ok () ↔
      (artifacts.map (·.path)).Nodup ∧ Confined head base artifacts ∧
      ∀ path ∈ artifacts.map (·.path), treeIdentity ((entries base).lookup path) ≠
        treeIdentity ((entries head).lookup path) := by
  have distinct : (OrderedMap.members (artifacts.map (·.path))).length = artifacts.length ↔
      (artifacts.map (·.path)).Nodup := by
    rw [← OrderedMap.members_length, List.length_map]
  simp only [assertExactTreeDelta, bind_ok, require_ok, distinct, filter_nil,
    mem_changedEntries headComplete, OrderedMap.mem_members, not_and, not_not, exists_const]
  refine and_congr Iff.rfl (and_congr ?_ Iff.rfl)
  constructor
  · intro each path outside
    by_contra! differs
    obtain ⟨changed, unauthorized⟩ := differs
    exact each path changed outside (Bool.eq_false_iff.mpr unauthorized)
  · intro confined path changed outside
    rcases confined path outside with same | authorized
    · exact absurd same changed
    · rw [authorized]
      simp

/-- A directory above an artifact is a blob in neither tree. -/
theorem ancestor_blobless (headComplete : Complete head) (baseComplete : Complete base)
    {path : String} {paths : List String}
    (authorized : isAuthorizedTreeAncestor path ((entries base).lookup path)
      ((entries head).lookup path) paths = true) :
    (blobs base).lookup path = (blobs head).lookup path := by
  simp only [isAuthorizedTreeAncestor, Bool.and_eq_true, List.all_eq_true] at authorized
  obtain ⟨⟨_, trees⟩, _⟩ := authorized
  have directory : ∀ {response : TreeResponse}, Complete response →
      (entries response).lookup path ∈
        [(entries base).lookup path, (entries head).lookup path] →
      (blobs response).lookup path = none := by
    intro response complete listed
    rw [Option.eq_none_iff_forall_ne_some]
    intro sha found
    obtain ⟨entry, isEntry, blob, _⟩ := complete.blobs_lookup.mp found
    have tree := trees entry (List.mem_filterMap.mpr ⟨_, listed, isEntry⟩)
    simp only [beq_iff_eq, blob] at tree
    exact nomatch tree.1
  rw [directory baseComplete List.mem_cons_self,
    directory headComplete (List.mem_cons_of_mem _ List.mem_cons_self)]

/-- An artifact passes when its path is a regular blob with its content. -/
theorem assertArtifactBytes_ok (headComplete : Complete head)
    (faithful : Faithful utf8 readBlob head) (artifact : GitHubArtifact) :
    assertArtifactBytes utf8 readBlob (entries head) artifact = .ok () ↔
      (∃ entry, (entries head).lookup artifact.path = some entry ∧ entry.type = "blob" ∧
        entry.mode = "100644" ∧ blobText utf8 readBlob entry.sha = artifact.content) ∧
      artifact.content ≠ "" := by
  simp only [assertArtifactBytes, bind_ok, present_ok, require_ok, Option.filter_eq_some_iff,
    Bool.and_eq_true, beq_iff_eq, bne_iff_ne, decoded_kept]
  constructor
  · rintro ⟨entry, ⟨found, blob, mode⟩, content, ⟨isContent, encoding, filled⟩, same⟩
    have isBlob := headComplete.blobs_lookup.mpr ⟨entry, found, blob, rfl⟩
    obtain ⟨read, isRead, empty⟩ := faithful.read headComplete isBlob
    rw [isRead, Option.some.injEq] at isContent
    subst isContent
    refine ⟨⟨entry, found, blob, mode, ?_⟩, ?_⟩
    · rw [blobText, isRead]
      exact same
    · rw [← same]
      exact fun none => filled (empty.mpr none)
  · rintro ⟨⟨entry, found, blob, mode, text⟩, filled⟩
    have isBlob := headComplete.blobs_lookup.mpr ⟨entry, found, blob, rfl⟩
    obtain ⟨read, isRead, empty⟩ := faithful.read headComplete isBlob
    rw [blobText, isRead, Option.elim_some] at text
    refine ⟨entry, ⟨found, blob, mode⟩, read, ⟨by rw [isRead], by rw [isRead], ?_⟩, text⟩
    rintro rfl
    exact filled (text.symm.trans (empty.mp rfl))

/-- The worker accepts a commit exactly when nothing besides the artifacts changed at all. -/
theorem reconcileTrees_ok (headComplete : Complete head) (baseComplete : Complete base)
    (faithful : Faithful utf8 readBlob head) (differs : Differs utf8 readBlob base artifacts) :
    reconcileTrees utf8 readBlob head base artifacts = .ok () ↔
      ¬ Visible utf8 readBlob head base artifacts ∧ Confined head base artifacts ∧
        Regular head artifacts := by
  simp only [reconcileTrees, headComplete.readTree_eq, baseComplete.readTree_eq, bind_ok,
    Except.ok.injEq, exists_eq_left', assertExactTreeDelta_ok headComplete, exists_const,
    assertExactArtifactBytes, forM_ok, assertArtifactBytes_ok headComplete faithful]
  simp only [Visible, not_or, not_exists, not_and, not_not]
  constructor
  · rintro ⟨⟨distinct, confined, _⟩, bytes⟩
    refine ⟨⟨?_, ?_⟩, confined, distinct, fun artifact present => (bytes artifact present).2, ?_⟩
    · intro path outside
      rcases confined path outside with same | authorized
      · exact blobs_same baseComplete headComplete same
      · exact ancestor_blobless headComplete baseComplete authorized
    · intro artifact present
      obtain ⟨entry, found, blob, _, text⟩ := (bytes artifact present).1
      rw [headComplete.blobs_lookup.mpr ⟨entry, found, blob, rfl⟩, Option.map_some, text]
    · intro artifact present entry found _
      obtain ⟨other, isOther, _, mode, _⟩ := (bytes artifact present).1
      rwa [Option.some.inj (found.symm.trans isOther)]
  · rintro ⟨⟨_, contents⟩, confined, regular⟩
    refine ⟨⟨regular.distinct, confined, ?_⟩, ?_⟩
    · intro path listed same
      obtain ⟨artifact, present, rfl⟩ := List.mem_map.mp listed
      have content := contents artifact present
      rw [← blobs_same baseComplete headComplete same, Option.map_eq_some_iff] at content
      obtain ⟨sha, found, text⟩ := content
      exact differs artifact present sha found text
    · intro artifact present
      obtain ⟨sha, found, text⟩ := Option.map_eq_some_iff.mp (contents artifact present)
      obtain ⟨entry, isEntry, blob, rfl⟩ := headComplete.blobs_lookup.mp found
      exact ⟨⟨entry, isEntry, blob, regular.modes artifact present entry isEntry blob, text⟩,
        regular.filled artifact present⟩

/-- The demo and the worker give one verdict, and the demo accepts no change of another entry. -/
def Agree (utf8 : List ℕ → String) (readBlob : String → BlobResponse) (headSha baseSha : String)
    (head base : TreeResponse) (artifacts : List GitHubArtifact) : Prop :=
  (accepted (verifyTrees utf8 readBlob headSha baseSha head base artifacts) = true ↔
      reconcileTrees utf8 readBlob head base artifacts = .ok ()) ∧
    (accepted (verifyTrees utf8 readBlob headSha baseSha head base artifacts) = true →
      Confined head base artifacts)

/-- The two checks agree exactly when a blob outside of the artifacts or the content of an artifact
differs, or no other entry changes and the artifacts are regular. -/
theorem acceptance_agreement (utf8 : List ℕ → String) (readBlob : String → BlobResponse)
    (headSha baseSha : String) (head base : TreeResponse) (artifacts : List GitHubArtifact)
    (headComplete : Complete head) (baseComplete : Complete base)
    (faithful : Faithful utf8 readBlob head) (differs : Differs utf8 readBlob base artifacts) :
    Agree utf8 readBlob headSha baseSha head base artifacts ↔
      Visible utf8 readBlob head base artifacts ∨
        (Confined head base artifacts ∧ Regular head artifacts) := by
  rw [Agree, verifyTrees_accepted headComplete baseComplete faithful differs,
    reconcileTrees_ok headComplete baseComplete faithful differs]
  constructor
  · rintro ⟨agree, _⟩
    by_cases visible : Visible utf8 readBlob head base artifacts
    · exact Or.inl visible
    · exact Or.inr (agree.mp visible).2
  · rintro (visible | ⟨confined, regular⟩)
    · exact ⟨⟨fun hidden => absurd visible hidden, fun all => all.1⟩,
        fun hidden => absurd visible hidden⟩
    · exact ⟨⟨fun hidden => ⟨hidden, confined, regular⟩, fun all => all.1⟩, fun _ => confined⟩

end Agreement

section Sample

/-- The parent holds one regular file, and the commit adds an artifact. -/
def sampleBase : TreeResponse := ⟨some false, [⟨"a", "100644", "blob", "1"⟩]⟩

def sampleHead : TreeResponse :=
  ⟨some false, [⟨"a", "100644", "blob", "1"⟩, ⟨"b", "100644", "blob", "2"⟩]⟩

/-- This commit makes the other file executable. -/
def executableHead : TreeResponse :=
  ⟨some false, [⟨"a", "100755", "blob", "1"⟩, ⟨"b", "100644", "blob", "2"⟩]⟩

def sampleBlob (sha : String) : BlobResponse :=
  ⟨some "base64", some (if sha = "2" then "eA==" else "")⟩

/-- The sample holds characters of one octet. -/
def asciiText (octets : List ℕ) : String := String.ofList (octets.map Char.ofNat)

def sampleArtifacts : List GitHubArtifact := [⟨"b", "x"⟩]

theorem sampleTrees_complete : Complete sampleBase ∧ Complete sampleHead ∧
    Complete executableHead := by
  refine ⟨⟨rfl, by decide, by decide, by decide⟩, ⟨rfl, by decide, by decide,
    by decide⟩, ⟨rfl, by decide, by decide, by decide⟩⟩

theorem sampleBlob_faithful (response : TreeResponse) :
    Faithful asciiText sampleBlob response := by
  intro entry _ _
  by_cases artifact : entry.sha = "2"
  · refine ⟨"eA==", by rw [sampleBlob, if_pos artifact], by decide⟩
  · refine ⟨"", by rw [sampleBlob, if_neg artifact], by decide⟩

theorem sampleArtifacts_differ : Differs asciiText sampleBlob sampleBase sampleArtifacts := by
  intro artifact present sha found
  rw [List.mem_singleton.mp present] at found
  have none : (blobs sampleBase).lookup "b" = none := by decide
  rw [none] at found
  exact nomatch found

theorem acceptance_agreement_sample :
    Agree asciiText sampleBlob "2" "1" sampleHead sampleBase sampleArtifacts := by
  obtain ⟨baseComplete, headComplete, _⟩ := sampleTrees_complete
  refine (acceptance_agreement asciiText sampleBlob "2" "1" sampleHead sampleBase sampleArtifacts
    headComplete baseComplete (sampleBlob_faithful _) sampleArtifacts_differ).mpr (Or.inr ⟨?_, ?_⟩)
  · intro path outside
    have other : path ≠ "b" := fun same => outside (List.mem_singleton.mpr same)
    refine Or.inl (congrArg treeIdentity ?_)
    simp [entries, sampleBase, sampleHead, List.lookup_cons, beq_eq_false_iff_ne.mpr other]
  · refine ⟨by decide, by decide, ?_⟩
    intro artifact present entry found _
    rw [List.mem_singleton.mp present] at found
    have regular : (entries sampleHead).lookup "b" = some ⟨"b", "100644", "blob", "2"⟩ := by decide
    rw [regular] at found
    rw [← Option.some.inj found]

/-- The demo accepts a commit that makes another file executable, and the worker refuses it. -/
theorem executable_accepted : Complete executableHead ∧ Complete sampleBase ∧
    Faithful asciiText sampleBlob executableHead ∧
    Differs asciiText sampleBlob sampleBase sampleArtifacts ∧
    ¬ Agree asciiText sampleBlob "2" "1" executableHead sampleBase sampleArtifacts := by
  obtain ⟨baseComplete, _, headComplete⟩ := sampleTrees_complete
  refine ⟨headComplete, baseComplete, sampleBlob_faithful _, sampleArtifacts_differ, ?_⟩
  have verified : accepted (verifyTrees asciiText sampleBlob "2" "1" executableHead sampleBase
      sampleArtifacts) = true := by decide
  have refused : reconcileTrees asciiText sampleBlob executableHead sampleBase sampleArtifacts ≠
      .ok () := by decide
  exact fun agree => refused (agree.1.mp verified)

end Sample

end LineageGuard.Acceptance
