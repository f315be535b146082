import LineageGuard.Acceptance.Knowledge
import Mathlib.Tactic

/-
This file proves when the readers of commits, trees and pull requests are honest.
-/

namespace LineageGuard.Acceptance.Inspect

open Json Attempt Domain Inspection Agent.WritebackPort

section Readings

variable {Number : Type} {Value : Type}

theorem get_honest (token absent method : String) (server : Server Number) (path : String) :
    Honest (shown token server path) (get token absent method server path) := by
  rw [get, shown]
  by_cases short : utf16Length token < 8
  · rw [if_pos short, reject, if_pos short]
    exact ⟨_, rfl⟩
  · rw [if_neg short, reject, if_neg short]
    cases server path with
    | answered body => rfl
    | _ => exact ⟨_, rfl⟩

theorem someObject_eq (value : JsonValue Number) :
    someObject value = if isNull value then .error .thrown else .ok () := rfl

theorem honest_someObject {known : Option Value} {value : JsonValue Number}
    {next : Unit → Inspected Value} :
    Honest known (someObject value >>= next) ↔ isNull value = false ∧ Honest known (next ()) := by
  rw [someObject_eq]
  cases isNull value with
  | true => exact iff_of_false not_honest_thrown (by simp)
  | false => exact (and_iff_right rfl).symm

/-- The items are all looked at before the reading goes on. -/
theorem forM_someObject (items : List (JsonValue Number)) :
    items.forM someObject = if items.any isNull then .error .thrown else .ok () := by
  induction items with
  | nil => rfl
  | cons item rest ih =>
      change (someObject item >>= fun _ => rest.forM someObject) = _
      rw [someObject_eq, List.any_cons, ih]
      cases isNull item <;> rfl

/-- A value that is given on unless an item is null is honest when the items are typed. -/
theorem honest_forM {typed : Prop} [Decidable typed] {items : List (JsonValue Number)}
    {value : Value} (filled : typed → ∀ item ∈ items, isNull item = false) :
    Honest (if typed then some value else none)
      (items.forM someObject >>= fun _ => (pure value : Inspected Value)) ↔ typed := by
  rw [forM_someObject]
  by_cases isTyped : typed
  · have quiet : items.any isNull = false := by
      rw [List.any_eq_false]
      intro item present
      rw [filled isTyped item present]
      exact Bool.false_ne_true
    rw [if_pos isTyped, quiet]
    exact iff_of_true rfl isTyped
  · rw [if_neg isTyped]
    cases items.any isNull with
    | true => exact iff_of_false not_honest_thrown isTyped
    | false => exact iff_of_false (fun honest => absurd (honest_ok.mp honest) (by simp)) isTyped

theorem hasText_filled {key : String} {value : JsonValue Number}
    (texts : hasText key value = true) : isNull value = false := by
  cases value with
  | null => exact absurd texts (by simp [hasText, memberText, member, property, Except.toOption])
  | _ => rfl

theorem listed_eq {key : String} {value : JsonValue Number} {items : List (JsonValue Number)}
    (found : memberArray key value = some items) : listed key value = items := by
  rw [listed, found, Option.getD_some]

theorem memberText_eq {key : String} {value : JsonValue Number} (texts : hasText key value = true) :
    member key value = some (.string ((memberText key value).getD "")) := by
  rw [hasText, memberText] at texts
  rw [memberText]
  cases found : member key value with
  | none => simp [found] at texts
  | some other => cases other <;> simp_all [asText]

end Readings

section GitHubReaders

variable {Number : Type} (token : String) (server : Server Number)

theorem pull_honest_iff (pr : JsonValue Number) (reason : Reason) :
    Honest (knownPullRequest pr)
      (someObject pr >>= fun _ => present (pullRequestView pr) (.uninspectable reason)) ↔
      Sound PullChecked PullTyped pr := by
  rw [honest_someObject, Sound, PullChecked, knownPullRequest]
  refine and_congr_right fun _ => ?_
  by_cases typed : PullTyped pr
  · rw [if_pos typed]
    exact iff_of_true (honest_present _ _) fun _ => typed
  · rw [if_neg typed]
    cases pullRequestView pr with
    | none => exact iff_of_true ⟨_, rfl⟩ fun found => absurd found (by simp)
    | some view =>
        refine iff_of_false (fun honest => absurd (honest_ok.mp honest) (by simp)) fun all => ?_
        exact typed (all rfl)

theorem readPullRequest_honest_iff (prNumber : ℕ) :
    Honest ((shown token server (pullPath prNumber)).bind knownPullRequest)
        (readPullRequest token server prNumber) ↔
      ∀ pr, shown token server (pullPath prNumber) = some pr → Sound PullChecked PullTyped pr := by
  rw [readPullRequest, githubGet, honest_bind_iff (get_honest ..)]
  exact forall₂_congr fun pr _ => pull_honest_iff pr _

theorem readCommit_honest_iff (sha : String) :
    Honest ((shown token server (commitPath sha)).bind knownCommit)
        (readCommit token server sha) ↔
      ∀ commit, shown token server (commitPath sha) = some commit →
        Sound CommitChecked CommitTyped commit := by
  rw [readCommit, githubGet, honest_bind_iff (get_honest ..)]
  refine forall₂_congr fun commit _ => ?_
  rw [honest_someObject, Sound, CommitChecked]
  refine and_congr_right fun _ => ?_
  dsimp only
  rw [knownCommit, Option.bind_eq_bind, uninspectable, honest_bind_iff (honest_present _ _)]
  cases (member "tree" commit).bind (memberText "sha") with
  | none => simp
  | some treeSha =>
      simp only [Option.some.injEq, forall_eq', Option.bind_eq_bind]
      rw [honest_bind_iff (honest_present _ _)]
      cases found : memberArray "parents" commit with
      | none => simp
      | some parents =>
          simp only [Option.some.injEq, forall_eq', Option.isSome_some, and_self, forall_const]
          refine honest_forM fun typed parent present => ?_
          rw [CommitTyped, listed_eq found] at typed
          exact hasText_filled (typed.2 parent present)

end GitHubReaders

section Blobs

variable {Number : Type} [DecidableEq Number]

theorem setBlob_json (blobs : List (String × String)) (path sha : String) :
    setBlob (blobsJson blobs : Blobs Number) (some (.string path)) (some (.string sha)) =
      blobsJson (OrderedMap.set blobs path sha) := by
  have known : ((blobsJson blobs : Blobs Number).any fun blob =>
      sameKey blob.1 (some (.string path))) = decide (path ∈ blobs.map Prod.fst) := by
    rw [blobsJson, List.any_map, Bool.eq_iff_iff, List.any_eq_true, decide_eq_true_eq,
      List.mem_map]
    simp only [Function.comp_apply, sameKey, beq_iff_eq]
  rw [setBlob, known, OrderedMap.set]
  by_cases present : path ∈ blobs.map Prod.fst
  · rw [decide_eq_true present, if_pos rfl, if_pos present, blobsJson, blobsJson, List.map_map,
      List.map_map]
    apply List.map_congr_left
    intro blob _
    simp only [Function.comp_apply, sameKey, beq_iff_eq]
    split <;> rfl
  · rw [decide_eq_false present, if_neg Bool.false_ne_true, if_neg present, blobsJson, blobsJson,
      List.map_append]
    rfl

/-- The typed entries of a listing make a map of texts. -/
theorem blobsOf_typed {tree : List (JsonValue Number)} (typed : ∀ entry ∈ tree, EntryTyped entry) :
    blobsOf tree = blobsJson (OrderedMap.ofList ((tree.filter isBlob).map fun entry =>
      ((memberText "path" entry).getD "", (memberText "sha" entry).getD ""))) := by
  rw [blobsOf, OrderedMap.ofList, List.foldl_map]
  have each : ∀ entry ∈ tree.filter isBlob, EntryTyped entry := fun entry present =>
    typed entry (List.mem_of_mem_filter present)
  have run : ∀ (entries : List (JsonValue Number)) (blobs : List (String × String)),
      (∀ entry ∈ entries, EntryTyped entry) →
      entries.foldl (fun blobs entry => setBlob blobs (member "path" entry) (member "sha" entry))
        (blobsJson blobs) =
      blobsJson (entries.foldl (fun blobs entry => OrderedMap.set blobs
        ((memberText "path" entry).getD "") ((memberText "sha" entry).getD "")) blobs) := by
    intro entries
    induction entries with
    | nil => exact fun _ _ => rfl
    | cons entry rest ih =>
        intro blobs all
        obtain ⟨path, _, sha⟩ := all entry List.mem_cons_self
        rw [List.foldl_cons, List.foldl_cons, memberText_eq path, memberText_eq sha, setBlob_json]
        exact ih _ fun other later => all other (List.mem_cons_of_mem _ later)
  exact run (tree.filter isBlob) [] each

theorem readTreeBlobs_honest_iff (token : String) (server : Server Number) (treeSha : String) :
    Honest ((shown token server (treePath treeSha)).bind fun listing =>
        (knownBlobs listing).map blobsJson) (readTreeBlobs token server treeSha) ↔
      ∀ listing, shown token server (treePath treeSha) = some listing →
        Sound TreeChecked TreeTyped listing := by
  rw [readTreeBlobs, githubGet, honest_bind_iff (get_honest ..)]
  refine forall₂_congr fun listing _ => ?_
  rw [honest_someObject, Sound, TreeChecked]
  refine and_congr_right fun _ => ?_
  cases truncated : memberTrue "truncated" listing with
  | true =>
      have unknown : knownBlobs listing = none := by
        rw [knownBlobs]
        simp [truncated]
      rw [unknown]
      exact iff_of_true ⟨_, rfl⟩ fun checked => absurd checked.1 (by simp)
  | false =>
      rw [reject, if_neg Bool.false_ne_true, knownBlobs, Option.bind_eq_bind, Option.map_bind]
      change Honest _ (present _ _ >>= _) ↔ _
      rw [uninspectable, honest_bind_iff (honest_present _ _)]
      cases found : memberArray "tree" listing with
      | none => simp
      | some tree =>
          simp only [Option.some.injEq, forall_eq', Option.isSome_some, and_self, forall_const,
            Function.comp_apply, truncated, true_and]
          have texts : TreeTyped listing → ∀ entry ∈ tree, EntryTyped entry := fun typed =>
            listed_eq found ▸ typed.2
          have same : (if TreeTyped listing then some (OrderedMap.ofList ((tree.filter isBlob).map
              fun entry => ((memberText "path" entry).getD "",
                (memberText "sha" entry).getD ""))) else none).map blobsJson =
              if TreeTyped listing then some (blobsOf tree) else none := by
            split
            · next typed => rw [blobsOf_typed (texts typed), Option.map_some]
            · rfl
          rw [same]
          exact honest_forM fun typed entry present => hasText_filled (texts typed entry present).1

end Blobs

section Files

variable {Number : Type} (token : String) (server : Server Number)

/-- A null comes before any file without a name. -/
def nullFirst : List (JsonValue Number) → Bool
  | [] => false
  | file :: rest => isNull file || (hasText "filename" file && nullFirst rest)

def pageItems (prNumber page : ℕ) : Option (List (JsonValue Number)) :=
  (shown token server (filesPath prNumber page)).bind asArray

/-- The pages are read up to the first one that is not full. -/
def meetsNull (prNumber : ℕ) : ℕ → ℕ → Bool
  | 0, _ => false
  | remaining + 1, page => (pageItems token server prNumber page).any fun items =>
      nullFirst items || (items.all (hasText "filename") &&
        decide (filesPerPage ≤ items.length) && meetsNull prNumber remaining (page + 1))

def listedFiles (prNumber : ℕ) : ℕ → ℕ → Option (List (JsonValue Number))
  | 0, _ => none
  | remaining + 1, page => (pageItems token server prNumber page).bind fun items =>
      if items.all (hasText "filename") then
        if items.length < filesPerPage then some items
        else (listedFiles prNumber remaining (page + 1)).map (items ++ ·)
      else none

theorem liveFile_named {file : JsonValue Number} :
    (liveFile file).isSome = hasText "filename" file := by
  rw [liveFile, hasText]
  cases memberText "filename" file <;> rfl

theorem mapM_readFile (prNumber : ℕ) (items : List (JsonValue Number)) :
    items.mapM (readFile prNumber) =
      if nullFirst items then .error .thrown
      else if items.all (hasText "filename") then .ok (items.filterMap liveFile)
      else .error (uninspectable (pullRequestName prNumber ++ " file entry is malformed")) := by
  induction items with
  | nil => rfl
  | cons file rest ih =>
      rw [List.mapM_cons, ih, readFile, someObject_eq, nullFirst, List.all_cons]
      cases isNull file with
      | true => rfl
      | false =>
          have named := @liveFile_named _ file
          cases found : liveFile file with
          | none =>
              rw [found, Option.isSome_none] at named
              rw [← named]
              rfl
          | some live =>
              rw [found, Option.isSome_some] at named
              rw [← named, List.filterMap_cons_some found]
              cases nullFirst rest with
              | true => rfl
              | false => cases rest.all (hasText "filename") <;> rfl

theorem nullFirst_named {items : List (JsonValue Number)}
    (named : items.all (hasText "filename") = true) : nullFirst items = false := by
  induction items with
  | nil => rfl
  | cons file rest ih =>
      rw [List.all_cons, Bool.and_eq_true] at named
      rw [nullFirst, hasText_filled named.1, ih named.2, Bool.and_false, Bool.or_false]

theorem readFiles_unread {prNumber page : ℕ} (remaining : ℕ)
    (unread : pageItems token server prNumber page = none) :
    ∃ reason, readFiles token server prNumber (remaining + 1) page =
      .error (.uninspectable reason) := by
  have asked := get_honest token "no GitHub token available to read with" "GET " server
    (filesPath prNumber page)
  rw [pageItems] at unread
  rw [readFiles, githubGet]
  cases found : shown token server (filesPath prNumber page) with
  | none =>
      rw [found] at asked
      obtain ⟨reason, stopped⟩ := asked
      rw [stopped]
      exact ⟨reason, rfl⟩
  | some batch =>
      rw [found, Honest] at asked
      rw [found, Option.bind_some] at unread
      rw [asked]
      change ∃ reason, (present (asArray batch) _ >>= _) = _
      rw [unread]
      exact ⟨_, rfl⟩

theorem readFiles_page {prNumber page : ℕ} (remaining : ℕ) {items : List (JsonValue Number)}
    (read : pageItems token server prNumber page = some items) :
    readFiles token server prNumber (remaining + 1) page =
      if nullFirst items then .error .thrown
      else if items.all (hasText "filename") then
        if items.length < filesPerPage then .ok (items.filterMap liveFile)
        else (readFiles token server prNumber remaining (page + 1)).map
          (items.filterMap liveFile ++ ·)
      else .error (uninspectable (pullRequestName prNumber ++ " file entry is malformed")) := by
  obtain ⟨batch, found, isArray⟩ := Option.bind_eq_some_iff.mp read
  have asked := get_honest token "no GitHub token available to read with" "GET " server
    (filesPath prNumber page)
  rw [found, Honest] at asked
  rw [readFiles, githubGet, asked]
  change (present (asArray batch) _ >>= _) = _
  rw [isArray]
  change (items.mapM (readFile prNumber) >>= _) = _
  rw [mapM_readFile]
  cases nullFirst items with
  | true => rfl
  | false =>
      cases items.all (hasText "filename") with
      | false => rfl
      | true =>
          change (if items.length < filesPerPage then _ else _) = _
          by_cases short : items.length < filesPerPage
          · rw [if_pos short]
            exact (if_pos short).symm
          · rw [if_neg short]
            cases readFiles token server prNumber remaining (page + 1) <;>
              exact (if_neg short).symm

/-- The pages throw at a null and otherwise are read honestly up to the types of their members. -/
theorem readFiles_listed (prNumber remaining page : ℕ) :
    if meetsNull token server prNumber remaining page then
      readFiles token server prNumber remaining page = .error .thrown
    else Honest ((listedFiles token server prNumber remaining page).map (List.filterMap liveFile))
      (readFiles token server prNumber remaining page) := by
  induction remaining generalizing page with
  | zero => exact ⟨_, rfl⟩
  | succ remaining ih =>
      rw [meetsNull, listedFiles]
      cases read : pageItems token server prNumber page with
      | none => exact readFiles_unread token server remaining read
      | some items =>
          rw [readFiles_page token server remaining read, Option.any_some, Option.bind_some]
          cases met : nullFirst items with
          | true => rfl
          | false =>
              cases named : items.all (hasText "filename") with
              | false => exact ⟨_, rfl⟩
              | true =>
                  by_cases short : items.length < filesPerPage
                  · have full : decide (filesPerPage ≤ items.length) = false :=
                      decide_eq_false (Nat.not_le.mpr short)
                    simp only [full, short, if_true, Bool.true_and, Bool.false_and, Bool.false_or,
                      Bool.false_eq_true, if_false]
                    rfl
                  · have full : decide (filesPerPage ≤ items.length) = true :=
                      decide_eq_true (Nat.not_lt.mp short)
                    simp only [full, short, if_true, if_false, Bool.true_and, Bool.false_or,
                      Bool.false_eq_true]
                    have later := ih (page + 1)
                    cases nulls : meetsNull token server prNumber remaining (page + 1) with
                    | true =>
                        rw [nulls, if_pos rfl] at later
                        rw [if_pos rfl, later]
                        rfl
                    | false =>
                        rw [nulls, if_neg Bool.false_ne_true] at later
                        rw [if_neg Bool.false_ne_true, Option.map_map]
                        have joined := honest_map (items.filterMap liveFile ++ ·) later
                        rw [Option.map_map] at joined
                        convert joined using 2
                        funext others
                        exact List.filterMap_append

theorem mapM_known (items : List (JsonValue Number)) :
    (items.mapM fun file => if FileTyped file then liveFile file else none) =
      if items.all (hasText "filename") = true ∧ ∀ file ∈ items, FileTyped file then
        some (items.filterMap liveFile)
      else none := by
  induction items with
  | nil => simp
  | cons file rest ih =>
      have named := @liveFile_named _ file
      simp only [List.mapM_cons, ih, List.all_cons, List.forall_mem_cons]
      cases found : liveFile file with
      | none =>
          rw [found, Option.isSome_none] at named
          rw [ite_self, ← named]
          simp
      | some live =>
          rw [found, Option.isSome_some] at named
          rw [List.filterMap_cons_some found, ← named, Bool.true_and]
          by_cases typed : FileTyped file
          · simp only [typed, if_true, true_and]
            split <;> rfl
          · simp [typed]

/-- The known files are those of the listing when each of its files is typed. -/
theorem knownFiles_eq (prNumber remaining page : ℕ) :
    knownFiles token server prNumber remaining page =
      ((listedFiles token server prNumber remaining page).filter fun items =>
        decide (∀ file ∈ items, FileTyped file)).map (List.filterMap liveFile) := by
  induction remaining generalizing page with
  | zero => rfl
  | succ remaining ih =>
      rw [knownFiles, listedFiles, pageItems, Option.bind_eq_bind]
      cases (shown token server (filesPath prNumber page)).bind asArray with
      | none => rfl
      | some items =>
          rw [Option.bind_some, Option.bind_some, mapM_known, ih (page + 1), Option.bind_eq_bind]
          cases named : items.all (hasText "filename") with
          | false => simp
          | true =>
              by_cases typed : ∀ file ∈ items, FileTyped file
              · rw [if_pos ⟨rfl, typed⟩, if_pos rfl, Option.bind_some]
                by_cases short : items.length < filesPerPage
                · rw [if_pos short, if_pos short, Option.filter_some, decide_eq_true typed]
                  rfl
                · rw [if_neg short, if_neg short]
                  cases listedFiles token server prNumber remaining (page + 1) with
                  | none => rfl
                  | some others =>
                      have whole : decide (∀ file ∈ items ++ others, FileTyped file) =
                          decide (∀ file ∈ others, FileTyped file) := by
                        rw [decide_eq_decide, List.forall_mem_append]
                        exact and_iff_right typed
                      rw [Option.map_some, Option.filter_some, Option.filter_some, whole]
                      split
                      · rw [Option.map_some, Option.map_some, Option.map_some,
                          List.filterMap_append]
                      · rfl
              · rw [if_neg fun both => typed both.2, if_pos rfl, Option.bind_none]
                by_cases short : items.length < filesPerPage
                · rw [if_pos short, Option.filter_some, decide_eq_false typed]
                  rfl
                · rw [if_neg short]
                  cases listedFiles token server prNumber remaining (page + 1) with
                  | none => rfl
                  | some others =>
                      have whole : ¬ ∀ file ∈ items ++ others, FileTyped file := fun all =>
                        typed (List.forall_mem_append.mp all).1
                      rw [Option.map_some, Option.filter_some, decide_eq_false whole]
                      rfl

end Files

section Sources

variable {Number : Type} (script : Script) (collation : Collation String)
  (isUrl : String → Bool) (numerals : Numerals Number) (repository : String)

theorem mapM_envelopeFile {files : List (LiveFile Number)}
    (patched : ∀ file ∈ files, (asText file.patch).isSome = true) :
    files.mapM (envelopeFile script numerals) = some ((files.map LiveFile.input).map fun file =>
      (⟨file.path, script.digest file.patch.toList, file.blobSha⟩ : EnvelopeFile)) := by
  induction files with
  | nil => rfl
  | cons file rest ih =>
      obtain ⟨isPatched, others⟩ := List.forall_mem_cons.mp patched
      rw [List.mapM_cons, ih others]
      obtain ⟨path, patch, blobSha⟩ := file
      cases patch with
      | string text => rfl
      | _ => exact absurd isPatched (by simp [asText])

theorem buildCanonicalSourceEnvelope_eq (input : SourceAllowlistInput) :
    buildCanonicalSourceEnvelope script collation isUrl input =
      acceptedMigration input >>= fun migration =>
        createSourceChangeEnvelope script isUrl ⟨input.repository, input.prNumber, input.prUrl,
          input.baseSha, input.headSha, collation.sortBy (·.path) (input.files.map fun file =>
            (⟨file.path, script.digest file.patch.toList, file.blobSha⟩ : EnvelopeFile)),
          migration.path, ""⟩ := by
  simp only [buildCanonicalSourceEnvelope, acceptedMigration, createSourceChangeEnvelope,
    bind_assoc, pure_bind]

/-- A source whose members are typed is bound as the allowlist binds it. -/
theorem bindSource_typed {view : PullRequestView Number} {files : List (LiveFile Number)}
    {prNumber : ℕ} (patched : ∀ file ∈ files, (asText file.patch).isSome = true)
    (numbered : view.natural numerals = some prNumber) :
    bindSource script collation isUrl numerals repository view files =
      (buildCanonicalSourceEnvelope script collation isUrl
        (sourceInput repository view prNumber files)).mapError some := by
  have texts : ∀ file ∈ files, isSql file.input → (asText file.patch).isSome = true :=
    fun file present _ => patched file present
  rw [bindSource, numbered, require, if_pos texts, mapM_envelopeFile script numerals patched,
    buildCanonicalSourceEnvelope_eq]
  simp only [present, bind, Except.bind]
  cases acceptedMigration (sourceInput repository view prNumber files) with
  | error failure => rfl
  | ok migration => simp only [Except.mapError, sourceInput]

theorem bindSource_unnumbered {view : PullRequestView Number} {files : List (LiveFile Number)}
    (unnumbered : view.natural numerals = none) :
    bindSource script collation isUrl numerals repository view files = .error none := by
  rw [bindSource, unnumbered]
  rfl

theorem memberOrEmpty_text {key : String} {value : JsonValue Number}
    (texts : optionalText key value = true) : (asText (memberOrEmpty key value)).isSome = true := by
  rw [optionalText] at texts
  rw [memberOrEmpty]
  cases found : member key value with
  | none => rfl
  | some other =>
      rw [found] at texts
      cases other with
      | string text => rfl
      | _ => exact absurd texts Bool.false_ne_true

theorem liveFile_patched {items : List (JsonValue Number)}
    (typed : ∀ file ∈ items, FileTyped file) :
    ∀ live ∈ items.filterMap liveFile, (asText live.patch).isSome = true := by
  intro live present
  obtain ⟨file, isItem, found⟩ := List.mem_filterMap.mp present
  rw [liveFile] at found
  cases named : memberText "filename" file with
  | none =>
      rw [named] at found
      cases found
  | some path =>
      rw [named] at found
      cases found
      exact memberOrEmpty_text (typed file isItem).1

/-- The allowlist accepts the pull request with the listed files. -/
def Bound (pr : JsonValue Number) (items : List (JsonValue Number)) : Prop :=
  ∃ view envelope, pullRequestView pr = some view ∧
    bindSource script collation isUrl numerals repository view (items.filterMap liveFile) =
      .ok envelope

variable (token : String) (server : Server Number)

/-- A source is misread when a null is met or when it is bound with members of other types. -/
def SourceSound (prNumber : ℕ) (pr : JsonValue Number) : Prop :=
  isNull pr = false ∧ (PullChecked pr → meetsNull token server prNumber maxPages 1 = false ∧
    ∀ items, listedFiles token server prNumber maxPages 1 = some items →
      Bound script collation isUrl numerals repository pr items →
        PullTyped pr ∧ ∀ file ∈ items, FileTyped file)

/-- The identity that the typed members of a checked pull request and of its files determine. -/
def knownIdentity (view : PullRequestView Number) (files : List (LiveFile Number)) :
    Option SourceIdentity := do
  let number ← view.natural numerals
  let envelope ← (buildCanonicalSourceEnvelope script collation isUrl
    (sourceInput repository view number files)).toOption
  return sourceIdentity files envelope

theorem bound_honest {view : PullRequestView Number} {files : List (LiveFile Number)}
    (patched : ∀ file ∈ files, (asText file.patch).isSome = true) :
    Honest (knownIdentity script collation isUrl numerals repository view files)
      ((bindSource script collation isUrl numerals repository view files).mapError
          (fun failure => .uninspectable (.unbound failure)) >>= fun envelope =>
        (pure (sourceIdentity files envelope) : Inspected SourceIdentity)) := by
  rw [knownIdentity]
  cases numbered : view.natural numerals with
  | none =>
      rw [bindSource_unnumbered script collation isUrl numerals repository numbered]
      exact ⟨_, rfl⟩
  | some number =>
      rw [bindSource_typed script collation isUrl numerals repository patched numbered]
      change Honest ((buildCanonicalSourceEnvelope script collation isUrl
        (sourceInput repository view number files)).toOption.bind _) _
      cases buildCanonicalSourceEnvelope script collation isUrl
          (sourceInput repository view number files) with
      | error failure => exact ⟨_, rfl⟩
      | ok envelope => rfl

theorem readSource_honest_iff (prNumber : ℕ) :
    Honest (knownSource token server script collation isUrl numerals prNumber repository)
        (readPullRequestSourceIdentity token server script collation isUrl numerals prNumber
          repository) ↔
      ∀ pr, shown token server (pullPath prNumber) = some pr →
        SourceSound script collation isUrl numerals repository token server prNumber pr := by
  rw [knownSource, readPullRequestSourceIdentity, readPullRequest, githubGet, bind_assoc,
    Option.bind_eq_bind, honest_bind_iff (get_honest ..)]
  refine forall₂_congr fun pr _ => ?_
  rw [bind_assoc, honest_someObject, SourceSound, PullChecked]
  refine and_congr_right fun _ => ?_
  rw [knownPullRequest]
  cases seen : pullRequestView pr with
  | none =>
      rw [ite_self]
      exact iff_of_true ⟨_, rfl⟩ fun found => absurd found (by simp)
  | some view =>
      simp only [Option.isSome_some, forall_const]
      change Honest ((if PullTyped pr then some view else none).bind fun view =>
        (knownFiles token server prNumber maxPages 1).bind
          (knownIdentity script collation isUrl numerals repository view))
        (readFiles token server prNumber maxPages 1 >>= _) ↔ _
      have listed := readFiles_listed token server prNumber maxPages 1
      rw [knownFiles_eq]
      cases nulls : meetsNull token server prNumber maxPages 1 with
      | true =>
          rw [nulls, if_pos rfl] at listed
          rw [listed]
          exact iff_of_false not_honest_thrown fun all => absurd all.1 (by simp)
      | false =>
          rw [nulls, if_neg Bool.false_ne_true] at listed
          cases found : listedFiles token server prNumber maxPages 1 with
          | none =>
              rw [found] at listed
              obtain ⟨reason, stopped⟩ := listed
              rw [stopped]
              refine iff_of_true ?_ ⟨rfl, fun items same => absurd same (by simp)⟩
              split <;> exact ⟨reason, rfl⟩
          | some items =>
              rw [found] at listed
              have ends : readFiles token server prNumber maxPages 1 =
                .ok (items.filterMap liveFile) := listed
              rw [ends]
              change Honest _ ((bindSource script collation isUrl numerals repository view
                (items.filterMap liveFile)).mapError _ >>= _) ↔ _
              by_cases typed : PullTyped pr ∧ ∀ file ∈ items, FileTyped file
              · rw [if_pos typed.1, Option.filter_some, decide_eq_true typed.2]
                refine iff_of_true (bound_honest script collation isUrl numerals repository
                  (liveFile_patched typed.2)) ⟨rfl, fun others same _ => ?_⟩
                rw [Option.some.injEq] at same
                exact same ▸ typed
              · have unknown : ((if PullTyped pr then some view else none).bind fun view =>
                    (((some items).filter fun items =>
                      decide (∀ file ∈ items, FileTyped file)).map (List.filterMap liveFile)).bind
                      (knownIdentity script collation isUrl numerals repository view)) = none := by
                  by_cases pull : PullTyped pr
                  · rw [Option.filter_some, decide_eq_false fun files => typed ⟨pull, files⟩]
                    split <;> rfl
                  · rw [if_neg pull]
                    rfl
                rw [unknown]
                cases bound : bindSource script collation isUrl numerals repository view
                    (items.filterMap liveFile) with
                | error failure =>
                    refine iff_of_true ⟨_, rfl⟩ ⟨rfl, fun others same accepted => ?_⟩
                    rw [Option.some.injEq] at same
                    obtain ⟨other, envelope, isView, binds⟩ := accepted
                    rw [seen, Option.some.injEq] at isView
                    rw [← same, ← isView, bound] at binds
                    cases binds
                | ok envelope =>
                    refine iff_of_false (fun honest => ?_) fun all => ?_
                    · exact absurd (honest_ok.mp honest) (by simp)
                    · exact typed (all.2 items rfl ⟨view, envelope, seen, bound⟩)

end Sources

end LineageGuard.Acceptance.Inspect
