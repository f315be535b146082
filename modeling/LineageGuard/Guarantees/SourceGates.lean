import LineageGuard.Agent.SourcePullRequest
import LineageGuard.Guarantees.EnvelopeOrder
import LineageGuard.Domain.ShortTexts
import Mathlib.Tactic

/-
This file compares the pull requests that pass the allowlist with the diffs that the parser accepts.
-/

namespace LineageGuard.Agent

open Json Attempt Domain Ecma

section Lines

variable {Item : Type}

/-- What is joined before a last part ends with the separator. -/
theorem intercalate_last (separator : Item) (front : List (List Item)) (last : List Item) :
    [separator].intercalate (front ++ [last]) =
      (front.flatMap fun part => part ++ [separator]) ++ last := by
  induction front with
  | nil => simp
  | cons part rest ih =>
      rw [List.cons_append, List.intercalate_cons_of_ne_nil (by simp), ih, List.flatMap_cons]
      simp only [List.append_assoc]

theorem splitOn_last [BEq Item] [LawfulBEq Item] (separator : Item)
    {front : List (List Item)} (last : List Item) (plain : ∀ part ∈ front, separator ∉ part) :
    ([separator].intercalate (front ++ [last])).splitOn separator =
      front ++ last.splitOn separator := by
  induction front with
  | nil => simp
  | cons part rest ih =>
      have others := ih fun other present => plain other (List.mem_cons_of_mem _ present)
      rw [List.cons_append, List.intercalate_cons_of_ne_nil (by simp), List.append_assoc,
        List.singleton_append,
        List.splitOn_append_cons_self_of_not_mem (plain part List.mem_cons_self), others]
      rfl

/-- A word without the separator stands on one side of it. -/
theorem infix_apart {separator : Item} {word : List Item} (plain : separator ∉ word)
    (part rest : List Item) :
    word <:+: part ++ separator :: rest ↔ word <:+: part ∨ word <:+: rest := by
  constructor
  · intro found
    rcases List.infix_append_iff_ne_nil.mp found with left | right | crossing
    · exact Or.inl left
    · rcases List.infix_cons_iff.mp right with first | later
      · cases word with
        | nil => exact Or.inr List.nil_infix
        | cons item others =>
            rw [(List.cons_prefix_cons.mp first).1] at plain
            exact absurd List.mem_cons_self plain
      · exact Or.inr later
    · obtain ⟨start, close, _, filled, rfl, _, inside⟩ := crossing
      obtain ⟨item, others, rfl⟩ := List.exists_cons_of_ne_nil filled
      rw [(List.cons_prefix_cons.mp inside).1] at plain
      exact absurd (List.mem_append_right _ List.mem_cons_self) plain
  · rintro (left | right)
    · exact left.trans (List.prefix_append _ _).isInfix
    · exact (List.infix_cons right).trans (List.suffix_append _ _).isInfix

theorem infix_last {separator : Item} {word : List Item} (plain : separator ∉ word)
    (front : List (List Item)) (last : List Item) :
    word <:+: [separator].intercalate (front ++ [last]) ↔
      (∃ part ∈ front, word <:+: part) ∨ word <:+: last := by
  induction front with
  | nil => simp
  | cons part rest ih =>
      rw [List.cons_append, List.intercalate_cons_of_ne_nil (by simp), List.append_assoc,
        List.singleton_append, infix_apart plain, ih]
      simp only [List.mem_cons, exists_eq_or_imp, or_assoc]

end Lines

section Frames

/-- The lines of a patch come behind the lines that are put in front of it. -/
theorem patchLines_last {front : List (List Char)} (plain : ∀ line ∈ front, '\n' ∉ line)
    (patch : List Char) :
    patchLines (['\n'].intercalate (front ++ [patch])) = front ++ patchLines patch := by
  have filled := List.splitOn_ne_nil '\n' patch
  rw [patchLines, splitOn_last '\n' patch plain, List.getLast?_append_of_ne_nil _ filled,
    List.dropLast_append_of_ne_nil filled, patchLines]
  split <;> rfl

/-- The letters of a migration path. -/
theorem migrationPath_chars {path : List Char} (named : isMigrationPath path = true) :
    ∀ char ∈ path, isPathChar char = true := by
  obtain ⟨middle, _, within, rfl⟩ := isBetween_iff.mp named
  have start : "walkthrough/migrations/".toList = _ := String.toList_ofList
  have close : ".sql".toList = _ := String.toList_ofList
  rw [start, close, List.forall_mem_append, List.forall_mem_append]
  refine ⟨⟨List.all_eq_true.mp (by decide), ?_⟩, List.all_eq_true.mp (by decide)⟩
  intro char present
  rw [isPathChar, within char present, Bool.true_or]

theorem migrationPath_absent {path : List Char} (named : isMigrationPath path = true)
    {char : Char} (other : isPathChar char = false) : char ∉ path := by
  intro present
  rw [migrationPath_chars named char present] at other
  exact Bool.noConfusion other

/-- Neither is the end of a first word nor the blank behind it in one line of a frame. -/
def Apart (first second : Char) : Prop := first ≠ 'y' ∨ second ≠ ' '

instance (first second : Char) : Decidable (Apart first second) :=
  inferInstanceAs (Decidable (_ ∨ _))

theorem apart_chain {path : List Char} (blank : ' ' ∉ path) : path.IsChain Apart := by
  apply List.Pairwise.isChain
  apply List.pairwise_of_forall_mem_list
  intro first _ second present
  exact Or.inr fun same => blank (same ▸ present)

theorem apart_append {before after : List Char} (first : before.IsChain Apart)
    (second : after.IsChain Apart) (ends : before.getLast? ≠ some 'y') :
    (before ++ after).IsChain Apart := by
  apply first.append second
  intro last isLast _ _
  exact Or.inl fun same => ends (same ▸ isLast)

/-- These are the words that git writes for a binary file. -/
theorem no_words {text : List Char} (chain : text.IsChain Apart) :
    ¬ "Binary files".toList <:+: text := by
  intro found
  have apart := chain.infix found
  exact absurd apart (by decide)

variable {selected : SourcePatch}

def frame (selected : SourcePatch) : List (List Char) := (frameLines selected).map String.toList

theorem fullDiff_chars (selected : SourcePatch) :
    (fullDiff selected).toList =
      ['\n'].intercalate (frame selected ++ [selected.patch.toList]) := by
  have lineBreak : "\n".toList = _ := String.toList_ofList
  rw [fullDiff, String.toList_intercalate, List.map_append, frame, lineBreak]
  rfl

/-- These are the lines of a frame by their letters. -/
theorem frame_cases {line : List Char} (present : line ∈ frame selected) :
    line = "diff --git a/".toList ++ selected.filename.toList ++ " b/".toList ++
        selected.filename.toList ∨
      line = "--- a/".toList ++ selected.filename.toList ∨
      line = "+++ b/".toList ++ selected.filename.toList ∨
      line ∈ ["new file mode 100644".toList, "index 0000000..1234567".toList,
        "--- /dev/null".toList] := by
  rw [frame, frameLines] at present
  split at present
  · simp only [List.map_cons, List.map_nil, List.mem_cons, List.not_mem_nil, or_false,
      String.toList_append] at present
    rcases present with header | rfl | rfl | rfl | new
    · exact Or.inl header
    · exact Or.inr (Or.inr (Or.inr (.head _)))
    · exact Or.inr (Or.inr (Or.inr (.tail _ (.head _))))
    · exact Or.inr (Or.inr (Or.inr (.tail _ (.tail _ (.head _)))))
    · exact Or.inr (Or.inr (Or.inl new))
  · simp only [List.map_cons, List.map_nil, List.mem_cons, List.not_mem_nil, or_false,
      String.toList_append] at present
    rcases present with header | old | new
    · exact Or.inl header
    · exact Or.inr (Or.inl old)
    · exact Or.inr (Or.inr (Or.inl new))

theorem frame_chars (named : isMigrationPath selected.filename.toList = true) :
    ∀ line ∈ frame selected, ∀ char ∈ line,
      (isPathChar char || char == ' ' || char == '+') = true := by
  have literal : ∀ {word : List Char},
      (word.all fun char => isPathChar char || char == ' ' || char == '+') = true →
      ∀ char ∈ word, (isPathChar char || char == ' ' || char == '+') = true :=
    fun all => List.all_eq_true.mp all
  have path : ∀ char ∈ selected.filename.toList,
      (isPathChar char || char == ' ' || char == '+') = true := by
    intro char present
    rw [migrationPath_chars named char present]
    rfl
  intro line present
  rcases frame_cases present with rfl | rfl | rfl | fixed
  · rw [List.forall_mem_append, List.forall_mem_append, List.forall_mem_append]
    exact ⟨⟨⟨literal (by decide), path⟩, literal (by decide)⟩, path⟩
  · rw [List.forall_mem_append]
    exact ⟨literal (by decide), path⟩
  · rw [List.forall_mem_append]
    exact ⟨literal (by decide), path⟩
  · simp only [List.mem_cons, List.not_mem_nil, or_false] at fixed
    rcases fixed with rfl | rfl | rfl <;> exact literal (by decide)

theorem frame_absent (named : isMigrationPath selected.filename.toList = true) {char : Char}
    (other : (isPathChar char || char == ' ' || char == '+') = false) :
    ∀ line ∈ frame selected, char ∉ line := by
  intro line present isChar
  rw [frame_chars named line present char isChar] at other
  exact Bool.noConfusion other

theorem frame_words (named : isMigrationPath selected.filename.toList = true) :
    ∀ line ∈ frame selected, ¬ "Binary files".toList <:+: line := by
  have path : selected.filename.toList.IsChain Apart :=
    apart_chain (migrationPath_absent named (by decide))
  have last : selected.filename.toList.getLast? = some 'l' := by
    obtain ⟨middle, _, _, same⟩ := isBetween_iff.mp named
    have close : ".sql".toList = _ := String.toList_ofList
    rw [same, close, List.getLast?_append]
    rfl
  have chains : ∀ line ∈ frame selected, line.IsChain Apart := by
    intro line present
    rcases frame_cases present with rfl | rfl | rfl | fixed
    · have first : ("diff --git a/".toList ++ selected.filename.toList).IsChain Apart :=
        apart_append (by decide) path (by decide)
      have ends : ("diff --git a/".toList ++ selected.filename.toList).getLast? ≠ some 'y' := by
        rw [List.getLast?_append, last, Option.some_or]
        decide
      refine apart_append (apart_append first (by decide) ends) path ?_
      have between : " b/".toList = _ := String.toList_ofList
      rw [between, List.getLast?_append]
      exact fun same => absurd (Option.some.inj same) (by decide)
    · exact apart_append (by decide) path (by decide)
    · exact apart_append (by decide) path (by decide)
    · simp only [List.mem_cons, List.not_mem_nil, or_false] at fixed
      rcases fixed with rfl | rfl | rfl <;> decide
  exact fun line present => no_words (chains line present)

end Frames

section Hunks

/-- The header counts the lines of the hunk, and the lines that it adds are the canonical statement
and otherwise blank or comments. -/
structure AddsStatement (header : HunkHeader) (body : List (List Char)) : Prop where
  filled : body ≠ []
  shaped : ∀ line ∈ body, isBodyLine line = true
  counted : body.countP (fun line => startsWith " " line || startsWith "-" line) =
      header.oldCount ∧
    body.countP (fun line => startsWith " " line || startsWith "+" line) = header.newCount
  statement : joinedCode body = canonicalSql.toList

/-- The patch is one hunk of a text file, and the hunk of a new file has no old lines. -/
structure OneHunk (patch : List Char) : Prop where
  plain : '\r' ∉ patch ∧ ¬ "Binary files".toList <:+: patch
  hunk : ∃ headerLine header body, patchLines patch = headerLine :: body ∧
    hunkHeader headerLine = some header ∧ 1 ≤ header.newStart ∧
    (if startsWith "@@ -0,0" patch then header.oldStart = 0 ∧ header.oldCount = 0
      else 1 ≤ header.oldStart) ∧ AddsStatement header body

theorem classifyBody_ok {body : List (List Char)} {done : Unit} :
    classifyBody body = .ok done ↔ joinedCode body = canonicalSql.toList := by
  have once : occurrences canonicalSql.toList = 1 := by decide
  rw [classifyBody]
  constructor
  · intro accepted
    split at accepted
    · cases accepted
    · split at accepted
      · exact require_ok.mp accepted
      · cases accepted
  · intro same
    rw [same, once, if_neg (lt_irrefl 1), if_pos rfl]
    exact require_ok.mpr rfl

theorem assertBody_ok {header : HunkHeader} {body : List (List Char)} :
    (∃ done, assertBody header body = .ok done ∧ classifyBody body = .ok ()) ↔
      AddsStatement header body := by
  simp only [assertBody, bind_ok, reject_ok, require_ok, exists_const, List.all_eq_true,
    classifyBody_ok]
  constructor
  · rintro ⟨⟨filled, shaped, counted⟩, statement⟩
    exact ⟨filled, shaped, counted, statement⟩
  · intro adds
    exact ⟨⟨adds.filled, adds.shaped, adds.counted⟩, adds.statement⟩

variable {selected : SourcePatch}

theorem frame_new (fresh : isNewFile selected = true) : frame selected =
    ["diff --git a/".toList ++ selected.filename.toList ++ " b/".toList ++
      selected.filename.toList, "new file mode 100644".toList,
      "index 0000000..1234567".toList, "--- /dev/null".toList,
      "+++ b/".toList ++ selected.filename.toList] := by
  simp only [frame, frameLines, fresh, if_true, List.map_cons, List.map_nil, String.toList_append]

theorem frame_old (fresh : isNewFile selected = false) : frame selected =
    ["diff --git a/".toList ++ selected.filename.toList ++ " b/".toList ++
      selected.filename.toList, "--- a/".toList ++ selected.filename.toList,
      "+++ b/".toList ++ selected.filename.toList] := by
  simp only [frame, frameLines, fresh, Bool.false_eq_true, if_false, List.map_cons, List.map_nil,
    String.toList_append]

theorem modeLines : isModeLine "new file mode 100644".toList = true ∧
    isModeLine "index 0000000..1234567".toList = true ∧
    isModeLine "--- /dev/null".toList = false := by decide

theorem oldHeader_other (path : List Char) :
    isModeLine ("--- a/".toList ++ path) = false ∧
      "--- a/".toList ++ path ≠ "--- /dev/null".toList := by
  have start : "--- a/".toList = _ := String.toList_ofList
  have absent : "--- /dev/null".toList = _ := String.toList_ofList
  rw [start, absent]
  refine ⟨rfl, ?_⟩
  intro same
  simp at same

/-- The parser reads behind the frame what the patch holds. -/
theorem classify_frame (named : isMigrationPath selected.filename.toList = true) :
    classifyMigrationGitDiff selected.filename.toList (fullDiff selected).toList = .ok () ↔
      OneHunk selected.patch.toList := by
  have breaks := @frame_absent _ named '\n' (by decide)
  have returns := @frame_absent _ named '\r' (by decide)
  have lines := patchLines_last breaks selected.patch.toList
  have returned : '\r' ∈ (fullDiff selected).toList ↔ '\r' ∈ selected.patch.toList := by
    rw [fullDiff_chars, intercalate_last, List.mem_append, List.mem_flatMap]
    constructor
    · rintro (⟨line, present, isChar⟩ | later)
      · rcases List.mem_append.mp isChar with within | isBreak
        · exact absurd within (returns line present)
        · exact absurd (List.mem_singleton.mp isBreak) (by decide)
      · exact later
    · exact Or.inr
  have words : "Binary files".toList <:+: (fullDiff selected).toList ↔
      "Binary files".toList <:+: selected.patch.toList := by
    rw [fullDiff_chars, infix_last (by decide)]
    constructor
    · rintro (⟨line, present, found⟩ | later)
      · exact absurd found (frame_words named line present)
      · exact later
    · exact Or.inr
  rw [classifyMigrationGitDiff]
  simp only [bind_ok, reject_ok, exists_const, returned, words]
  rw [fullDiff_chars, lines]
  obtain ⟨mode, index, absent⟩ := modeLines
  obtain ⟨old, other⟩ := oldHeader_other selected.filename.toList
  cases fresh : isNewFile selected with
  | true =>
      have starts : startsWith "@@ -0,0" selected.patch.toList = true := fresh
      rw [frame_new fresh]
      simp only [List.cons_append, List.nil_append, List.dropWhile_cons, mode, index, absent,
        if_true, Bool.false_eq_true, if_false, bind_ok, require_ok, true_and, exists_const]
      cases split : patchLines selected.patch.toList with
      | nil =>
          constructor
          · rintro ⟨_, refused⟩
            cases refused
          · rintro ⟨_, headerLine, header, body, whole, _⟩
            rw [split] at whole
            cases whole
      | cons headerLine body =>
          simp only [bind_ok, require_ok, reject_ok, present_ok, true_or, or_true, exists_const,
            true_and, if_true, not_lt]
          constructor
          · rintro ⟨plain, header, isHeader, placed, ⟨noLines, adds⟩⟩
            refine ⟨not_or.mp plain, headerLine, header, body, split, isHeader, placed, ?_,
              assertBody_ok.mp adds⟩
            rwa [if_pos starts]
          · rintro ⟨plain, _, header, _, whole, isHeader, placed, noLines, adds⟩
            rw [split, List.cons.injEq] at whole
            obtain ⟨rfl, rfl⟩ := whole
            rw [if_pos starts] at noLines
            exact ⟨not_or.mpr plain, header, isHeader, placed, noLines, assertBody_ok.mpr adds⟩
  | false =>
      have starts : ¬ startsWith "@@ -0,0" selected.patch.toList = true :=
        Bool.eq_false_iff.mp fresh
      rw [frame_old fresh]
      simp only [List.cons_append, List.nil_append, List.dropWhile_cons, old,
        Bool.false_eq_true, if_false, bind_ok, require_ok, true_and, exists_const]
      cases split : patchLines selected.patch.toList with
      | nil =>
          constructor
          · rintro ⟨_, refused⟩
            cases refused
          · rintro ⟨_, headerLine, header, body, whole, _⟩
            rw [split] at whole
            cases whole
      | cons headerLine body =>
          simp only [bind_ok, require_ok, reject_ok, present_ok, or_true, exists_const,
            true_and, if_neg other, not_lt]
          constructor
          · rintro ⟨plain, header, isHeader, placed, some, adds⟩
            refine ⟨not_or.mp plain, headerLine, header, body, split, isHeader, placed, ?_,
              assertBody_ok.mp adds⟩
            rwa [if_neg starts]
          · rintro ⟨plain, _, header, _, whole, isHeader, placed, some, adds⟩
            rw [split, List.cons.injEq] at whole
            obtain ⟨rfl, rfl⟩ := whole
            rw [if_neg starts] at some
            exact ⟨not_or.mpr plain, header, isHeader, placed, some, assertBody_ok.mpr adds⟩

end Hunks

section Inputs

variable {script : Script} {repository baseSha headSha : String} {file : RepositoryChangeFile}

theorem hex_length {count : ℕ} {text : String} (digits : isHex count text.toList = true) :
    utf16Length text = count := by
  have small : ("0123456789abcdef".toList.all fun digit => digit.toNat < 0x10000) = true := by
    decide
  simp only [isHex, Bool.and_eq_true, beq_iff_eq, List.all_eq_true,
    List.contains_iff_mem] at digits
  obtain ⟨long, each⟩ := digits
  have units : (text.toList.map fun char => if 0x10000 ≤ char.toNat then 2 else 1) =
      List.replicate text.toList.length 1 := by
    rw [List.eq_replicate_iff, List.length_map]
    refine ⟨rfl, ?_⟩
    intro unit present
    obtain ⟨char, isChar, rfl⟩ := List.mem_map.mp present
    have below := of_decide_eq_true (List.all_eq_true.mp small char (each char isChar))
    rw [if_neg (not_le.mpr below)]
  rw [utf16Length, units, List.sum_replicate, long, smul_eq_mul, mul_one]

/-- The identifiers of a source pull request. -/
structure SourceIdentity (repository baseSha headSha : String) : Prop where
  length : 3 ≤ utf16Length repository ∧ utf16Length repository ≤ 140
  named : isRepository repository = true
  base : isHex 40 baseSha.toList = true
  head : isHex 40 headSha.toList = true
  moved : baseSha ≠ headSha

theorem safePath_migration {path : String} (named : isMigrationPath path.toList = true)
    (place : List PathItem) :
    safeRepositoryPathIssues path place = [] ↔ utf16Length path ≤ 240 := by
  obtain ⟨middle, _, within, same⟩ := isBetween_iff.mp named
  have start : "walkthrough/migrations/".toList =
      "walkthrough".toList ++ '/' :: ("migrations".toList ++ ['/']) := by decide
  have close : ".sql".toList = _ := String.toList_ofList
  have slash : '/' ∉ middle ++ ".sql".toList := by
    rw [close, List.mem_append]
    rintro (present | present)
    · exact absurd (within _ present) (by decide)
    · exact absurd present (by decide)
  have parts : segments path.toList =
      ["walkthrough".toList, "migrations".toList, middle ++ ".sql".toList] := by
    rw [segments, same, start, List.append_assoc, List.append_assoc, List.cons_append,
      List.append_assoc, List.singleton_append,
      List.splitOn_append_cons_self_of_not_mem (by decide),
      List.splitOn_append_cons_self_of_not_mem (by decide), List.splitOn_eq_singleton slash]
  have long : ∀ dots : List Char, dots.length ≤ 2 → middle ++ ".sql".toList ≠ dots := by
    rintro dots short rfl
    rw [close, List.length_append] at short
    simp at short
  have normal : isNormalized path.toList = true := by
    rw [isNormalized, parts]
    simp only [List.all_cons, List.all_nil, Bool.and_true, Bool.and_eq_true, decide_eq_true_eq]
    exact ⟨by decide, by decide, long [] (by decide), long ['.'] (by decide),
      long ['.', '.'] (by decide)⟩
  have relative : isRelative path.toList = true := by
    have backslash : '\\' ∉ path.toList := migrationPath_absent named (by decide)
    rw [isRelative, List.contains_eq_mem, decide_eq_false backslash, same, start]
    rfl
  have filled : 1 ≤ utf16Length path := by
    have length := @line_filled path.toList (by rw [same, start]; exact List.cons_ne_nil _ _)
    rwa [String.ofList_toList] at length
  simp only [safeRepositoryPathIssues, List.append_eq_nil_iff, lengthIssues_nil, issueUnless_nil,
    relative, normal, filled, true_and, and_true]

def githubInput (repository baseSha headSha : String) (file : RepositoryChangeFile) :
    RepositoryChangeInput :=
  ⟨.github, repository, baseSha, headSha, [file]⟩

theorem input_accepted (identity : SourceIdentity repository baseSha headSha)
    (named : isMigrationPath file.path.toList = true) :
    repositoryChangeInputIssues (githubInput repository baseSha headSha file) = [] ↔
      utf16Length file.path ≤ 240 ∧
        1 ≤ utf16Length file.patch ∧ utf16Length file.patch ≤ 32000 := by
  have base : isGitSha baseSha = true := by rw [isGitSha, identity.base, Bool.true_or]
  have head : isGitSha headSha = true := by rw [isGitSha, identity.head, Bool.true_or]
  have same : utf16Length baseSha = utf16Length headSha :=
    (hex_length identity.base).trans (hex_length identity.head).symm
  have most : utf16Length repository ≤ 200 := identity.length.2.trans (by decide)
  simp only [repositoryChangeInputIssues, githubInput, List.append_eq_nil_iff, lengthIssues_nil,
    issueUnless_nil, countIssues_nil, eachIssues, List.zipIdx_cons, List.zipIdx_nil,
    List.flatMap_cons, List.flatMap_nil, RepositoryChangeFile.issues,
    safePath_migration named, identity.length.1, most, identity.named, base, head, identity.moved,
    same, List.length_singleton, and_true, true_and, ne_eq, not_false_eq_true, le_refl]

theorem built_accepted (identity : SourceIdentity repository baseSha headSha)
    (safe : ∀ place, safeRepositoryPathIssues file.path place = []) :
    ∃ change, buildProposedChange script (githubInput repository baseSha headSha file) file =
      .ok change := by
  have base : isGitSha baseSha = true := by rw [isGitSha, identity.base, Bool.true_or]
  have head : isGitSha headSha = true := by rw [isGitSha, identity.head, Bool.true_or]
  have same : utf16Length baseSha = utf16Length headSha :=
    (hex_length identity.base).trans (hex_length identity.head).symm
  have most : utf16Length repository ≤ 200 := identity.length.2.trans (by decide)
  simp only [buildProposedChange, bind_ok, require_ok, exists_const, pure_ok]
  refine ⟨_, ?_, rfl⟩
  simp only [proposedChangeIssues, ProposedChange.shapeIssues, List.append_eq_nil_iff,
    issueUnless_nil, lengthIssues_nil, fingerprintIssues_nil]
  exact ⟨⟨⟨⟨⟨⟨⟨⟨⟨⟨⟨⟨stableId_prefixed script "chg" _, digest_fingerprint script _⟩,
    digest_fingerprint script _⟩, identity.length.1, most⟩, identity.named⟩, base⟩, head⟩,
    eachIssues_of (by
      intro path listed place
      rw [List.mem_singleton.mp listed]
      exact safe place)⟩, rfl⟩, identity.moved⟩, same⟩, rfl⟩, rfl⟩

end Inputs

section Agreement

variable {script : Script} {collation : Collation String} {isUrl : String → Bool}
variable {info : SourcePRInfo} {repository : String} {envelope : SourceChangeEnvelope}
variable {selected : SourcePatch}

def frameLength (selected : SourcePatch) : ℕ :=
  if isNewFile selected then 3 * utf16Length selected.filename + 82
  else 4 * utf16Length selected.filename + 31

theorem fullDiff_length (selected : SourcePatch) :
    utf16Length (fullDiff selected) = frameLength selected + utf16Length selected.patch := by
  have diff : utf16Length "diff --git a/" = 13 := utf16Length_ofList _
  have between : utf16Length " b/" = 3 := utf16Length_ofList _
  have lineBreak : utf16Length "\n" = 1 := utf16Length_ofList _
  have mode : utf16Length "new file mode 100644" = 20 := utf16Length_ofList _
  have index : utf16Length "index 0000000..1234567" = 22 := utf16Length_ofList _
  have absent : utf16Length "--- /dev/null" = 13 := utf16Length_ofList _
  have old : utf16Length "--- a/" = 6 := utf16Length_ofList _
  have new : utf16Length "+++ b/" = 6 := utf16Length_ofList _
  have joined : ∀ (part next : String) (rest : List String), utf16Length
      ("\n".intercalate (part :: next :: rest)) =
        utf16Length part + 1 + utf16Length ("\n".intercalate (next :: rest)) := by
    intro part next rest
    rw [String.intercalate_cons_of_ne_nil (List.cons_ne_nil _ _), utf16Length_append,
      utf16Length_append, lineBreak]
  rw [fullDiff, frameLines, frameLength]
  split
  · simp only [List.cons_append, List.nil_append, joined, String.intercalate_singleton,
      utf16Length_append, diff, between, mode, index, absent, new]
    omega
  · simp only [List.cons_append, List.nil_append, joined, String.intercalate_singleton,
      utf16Length_append, diff, between, old, new]
    omega

/-- The parser also accepts the migration of a pull request when its file stands in the directory
itself, its diff is not too long and its patch is one hunk with the canonical statement. -/
structure Fits (selected : SourcePatch) : Prop where
  named : isMigrationPath selected.filename.toList = true
  short : utf16Length selected.filename ≤ 240
  bounded : frameLength selected + utf16Length selected.patch ≤ 32000
  hunk : OneHunk selected.patch.toList

theorem modelPath_apart {path : List Char}
    (under : startsWith "walkthrough/migrations/" path = true) : isModelPath path = false := by
  rw [Bool.eq_false_iff]
  intro model
  obtain ⟨rest, rfl⟩ := List.isPrefixOf_iff_prefix.mp under
  obtain ⟨middle, _, _, same⟩ := isBetween_iff.mp model
  have letters : some 'i' = some 'o' := by
    have place := congrArg (fun path : List Char => path[13]?) same
    rw [List.append_assoc] at place
    exact place
  exact absurd letters (by decide)

theorem classifyGitDiff_ok {path patch : List Char}
    (under : startsWith "walkthrough/migrations/" path = true) :
    classifyGitDiff path patch = .ok () ↔
      isMigrationPath path = true ∧ classifyMigrationGitDiff path patch = .ok () := by
  rw [classifyGitDiff]
  cases named : isMigrationPath path with
  | true => rw [if_pos rfl, eq_self, true_and]
  | false =>
      rw [if_neg Bool.false_ne_true]
      simp [modelPath_apart under, bind_ok, reject_ok]

/-- An accepted pull request has one migration, and its identifiers are valid. -/
theorem envelope_source
    (built : buildSourceEnvelope script collation isUrl info repository = .ok envelope) :
    SourceIdentity repository info.baseSha info.headSha ∧ ∃ selected ∈ info.patches,
      endsWith ".sql" selected.filename.toList = true ∧
      (∀ other ∈ info.patches, endsWith ".sql" other.filename.toList = true →
        other = selected) ∧
      startsWith "walkthrough/migrations/" selected.filename.toList = true ∧
      envelope.selectedPath = selected.filename := by
  simp only [buildSourceEnvelope, buildCanonicalSourceEnvelope, bind_ok, require_ok,
    pure_ok] at built
  obtain ⟨_, _, _, _, _, _, migration, found, _, _, _, issues, rfl⟩ := built
  simp only [sourceChangeEnvelopeIssues, shaIssues, List.append_eq_nil_iff, lengthIssues_nil,
    issueUnless_nil, and_assoc] at issues
  obtain ⟨least, most, named, _, _, _, _, _, base, head, _, _, _, _, _, _, _, _, moved, _⟩ := issues
  have one := selectMigration_ok found
  have under : startsWith "walkthrough/migrations/" migration.path.toList = true := by
    rw [selectMigration, one] at found
    simp only [bind_ok, require_ok] at found
    exact found.choose_spec.1
  have isMigration : migration ∈ (envelopeFiles info).filter isSql :=
    one ▸ List.mem_singleton_self _
  obtain ⟨listed, sql⟩ := List.mem_filter.mp isMigration
  obtain ⟨selected, present, rfl⟩ := List.mem_map.mp listed
  refine ⟨⟨⟨least, most⟩, named, base, head, moved⟩, selected, present, sql, ?_, under, rfl⟩
  intro other isOther otherSql
  have also : (⟨other.filename, other.patch, other.blobSha⟩ : SourceFileInput) ∈
      (envelopeFiles info).filter isSql :=
    List.mem_filter.mpr ⟨List.mem_map_of_mem isOther, otherSql⟩
  rw [one, List.mem_singleton, SourceFileInput.mk.injEq] at also
  obtain ⟨filename, patch, blobSha⟩ := also
  cases other
  cases selected
  simp only [SourcePatch.mk.injEq]
  exact ⟨filename, patch, blobSha⟩

theorem sourceChange_built
    (built : buildSourceEnvelope script collation isUrl info repository = .ok envelope)
    (present : selected ∈ info.patches) (sql : endsWith ".sql" selected.filename.toList = true)
    (only : ∀ other ∈ info.patches, endsWith ".sql" other.filename.toList = true →
      other = selected) (path : envelope.selectedPath = selected.filename) :
    ∃ change, buildSourceChange script collation isUrl info repository = some change ∧
      change.unifiedDiff = fullDiff selected := by
  have found : (info.patches.find? fun patch => patch.filename = envelope.selectedPath) =
      some selected := by
    cases first : info.patches.find? fun patch => patch.filename = envelope.selectedPath with
    | none =>
        have absent := List.find?_eq_none.mp first selected present
        exact absurd (decide_eq_true path.symm) absent
    | some other =>
        have same : other.filename = envelope.selectedPath := by simpa using List.find?_some first
        rw [path] at same
        rw [only other (List.mem_of_find?_eq_some first) (same ▸ sql)]
  rw [buildSourceChange, built]
  simp only [Except.toOption, Option.bind_eq_bind, Option.bind_some, found]
  exact ⟨_, rfl, rfl⟩

theorem parseProposedChange_single {input : RepositoryChangeInput} {file : RepositoryChangeFile}
    {proposed : ProposedChange} (only : input.files = [file]) :
    parseProposedChange script input = .ok proposed ↔ repositoryChangeInputIssues input = [] ∧
      classify input.source file = .ok () ∧
      buildProposedChange script input file = .ok proposed := by
  simp only [parseProposedChange, bind_ok, require_ok, exists_const, only, mapError_ok]
  constructor
  · rintro ⟨issues, _, classified, accepted⟩
    exact ⟨issues, classified, accepted⟩
  · rintro ⟨issues, classified, accepted⟩
    exact ⟨issues, (), classified, accepted⟩

/-- The parser accepts the diff of a migration that fits and no other one. -/
theorem parse_fits {baseSha headSha : String} (identity : SourceIdentity repository baseSha headSha)
    (under : startsWith "walkthrough/migrations/" selected.filename.toList = true) :
    (∃ proposed, parseProposedChange script (githubInput repository baseSha headSha
      ⟨selected.filename, fullDiff selected⟩) = .ok proposed) ↔ Fits selected := by
  have opened : ∀ proposed, parseProposedChange script (githubInput repository baseSha headSha
      ⟨selected.filename, fullDiff selected⟩) = .ok proposed ↔ _ :=
    fun proposed => parseProposedChange_single rfl
  simp only [opened, exists_and_left]
  constructor
  · rintro ⟨issues, classified, _⟩
    obtain ⟨named, accepted⟩ := (classifyGitDiff_ok under).mp classified
    have limits := @input_accepted repository baseSha headSha
      ⟨selected.filename, fullDiff selected⟩ identity named
    obtain ⟨short, _, bounded⟩ := limits.mp issues
    rw [fullDiff_length] at bounded
    exact ⟨named, short, bounded, (classify_frame named).mp accepted⟩
  · intro fits
    have named : isMigrationPath selected.filename.toList = true := fits.named
    have most : utf16Length (fullDiff selected) ≤ 32000 := by
      rw [fullDiff_length]
      exact fits.bounded
    have least : 1 ≤ utf16Length (fullDiff selected) := by
      rw [fullDiff_length, frameLength]
      split <;> omega
    have limits := @input_accepted repository baseSha headSha
      ⟨selected.filename, fullDiff selected⟩ identity named
    refine ⟨limits.mpr ⟨fits.short, least, most⟩,
      (classifyGitDiff_ok under).mpr ⟨named, (classify_frame named).mpr fits.hunk⟩, ?_⟩
    exact built_accepted identity fun place => (safePath_migration named place).mpr fits.short

/-- A pull request that passes the allowlist leads to a proposed change exactly when its migration
fits the parser too. -/
theorem source_gates (script : Script) (collation : Collation String) (isUrl : String → Bool)
    (info : SourcePRInfo) (repository : String) (envelope : SourceChangeEnvelope)
    (built : buildSourceEnvelope script collation isUrl info repository = .ok envelope) :
    (∃ change proposed,
      buildSourceChange script collation isUrl info repository = some change ∧
      parseSourceChange script repository info envelope change = .ok proposed) ↔
    ∀ selected ∈ info.patches, endsWith ".sql" selected.filename.toList = true →
      Fits selected := by
  obtain ⟨identity, selected, present, sql, only, under, path⟩ := envelope_source built
  obtain ⟨change, isChange, diff⟩ := sourceChange_built built present sql only path
  have parsed : (∃ proposed, parseSourceChange script repository info envelope change =
      .ok proposed) ↔ Fits selected := by
    rw [parseSourceChange, path, diff]
    exact parse_fits identity under
  constructor
  · rintro ⟨other, proposed, isOther, accepted⟩ file isFile fileSql
    obtain rfl : other = change := Option.some.inj (isOther.symm.trans isChange)
    rw [only file isFile fileSql]
    exact parsed.mp ⟨proposed, accepted⟩
  · intro fits
    obtain ⟨proposed, accepted⟩ := parsed.mpr (fits selected present sql)
    exact ⟨change, proposed, isChange, accepted⟩

end Agreement

section Sample

/-- The migration of this pull request adds the canonical statement, and these lines follow it. -/
def canonicalPatch (rest : List Char) : List Char :=
  "@@ -0,0 +1 @@\n+".toList ++ (canonicalSql.toList ++ rest)

def sampleSource (rest : List Char) : SourcePRInfo where
  prNumber := 1
  prUrl := "u"
  prState := "open"
  baseSha := String.ofList (List.replicate 40 'a')
  headSha := String.ofList (List.replicate 40 'b')
  patches := [⟨"walkthrough/migrations/1.sql", String.ofList (canonicalPatch rest), none⟩]

def unfinished : List Char := "\n\\ No newline at end of file".toList

theorem canonicalPatch_added : ∀ rest ∈ [[], unfinished],
    addedText (canonicalPatch rest) = canonicalSql.toList := by
  simp only [List.forall_mem_cons, List.not_mem_nil, false_implies, implies_true, and_true]
  decide

theorem canonicalSql_matched : countMatches anyRenameColumn canonicalSql.toList = 1 ∧
    countMatches renameStatement canonicalSql.toList = 1 := by
  decide

def gateInput (rest : List Char) : SourceAllowlistInput where
  repository := "a/b"
  expectedRepository := "a/b"
  prNumber := 1
  prUrl := "u"
  prState := "open"
  baseSha := String.ofList (List.replicate 40 'a')
  headSha := String.ofList (List.replicate 40 'b')
  files := [⟨"walkthrough/migrations/1.sql", String.ofList (canonicalPatch rest), none⟩]

theorem sampleFile_named (patch : String) :
    isSql ⟨"walkthrough/migrations/1.sql", patch, none⟩ = true ∧
      startsWith "walkthrough/migrations/" "walkthrough/migrations/1.sql".toList = true := by
  have path : "walkthrough/migrations/1.sql".toList = _ := String.toList_ofList
  simp only [isSql, path]
  decide

theorem gateInput_passes {rest : List Char}
    (added : addedText (canonicalPatch rest) = canonicalSql.toList) :
    PassesChecks (gateInput rest) ∧ selectMigration (gateInput rest).files =
      .ok ⟨"walkthrough/migrations/1.sql", String.ofList (canonicalPatch rest), none⟩ := by
  obtain ⟨sql, under⟩ := sampleFile_named (String.ofList (canonicalPatch rest))
  have filled : (canonicalPatch rest).all isSpace = false := rfl
  have selected : selectMigration (gateInput rest).files =
      .ok ⟨"walkthrough/migrations/1.sql", String.ofList (canonicalPatch rest), none⟩ := by
    have one : (gateInput rest).files.filter isSql =
        [⟨"walkthrough/migrations/1.sql", String.ofList (canonicalPatch rest), none⟩] :=
      List.filter_cons_of_pos sql
    rw [selectMigration, one]
    simp only [bind_ok, require_ok, reject_ok, pure_ok, under, String.toList_ofList, filled,
      exists_const, Bool.false_eq_true, not_false_eq_true, and_true]
  refine ⟨⟨rfl, rfl, ?_, _, selected, ?_⟩, selected⟩
  · rw [assertNoUnrelatedExecutables_ok]
    intro file present other
    rw [List.mem_singleton.mp present, isSql] at other
    exact absurd (sql.symm.trans other) Bool.noConfusion
  · obtain ⟨all, canonical⟩ := canonicalSql_matched
    have written : canonicalSql.toList.all isSpace = false := rfl
    simp only [assertExactlyOneCanonicalRename, String.toList_ofList, added, all, canonical,
      bind_ok, reject_ok, written]
    exact ⟨(), Bool.false_ne_true, (), by decide, (), by decide, (), by decide, by decide⟩

theorem gateInput_valid (rest : List Char) : ValidSource (gateInput rest) ∧
    WithinLimits (fun _ => true) (gateInput rest) := by
  have base : isHex 40 (gateInput rest).baseSha.toList = true := by
    rw [gateInput, String.toList_ofList]
    decide
  have head : isHex 40 (gateInput rest).headSha.toList = true := by
    rw [gateInput, String.toList_ofList]
    decide
  have named : utf16Length "walkthrough/migrations/1.sql" = 28 := utf16Length_ofList _
  have repository : utf16Length "a/b" = 3 := utf16Length_ofList _
  have url : utf16Length "u" = 1 := utf16Length_ofList _
  have moved : (gateInput rest).baseSha ≠ (gateInput rest).headSha := by
    intro same
    exact absurd (String.ofList_inj.mp same) (by decide)
  have slash : isRepository "a/b" = true := by
    have letters : "a/b".toList = _ := String.toList_ofList
    rw [isRepository, letters]
    decide
  have limits : WithinLimits (fun _ => true) (gateInput rest) :=
    ⟨⟨⟨repository.ge, repository.le.trans (by decide)⟩, slash⟩,
      ⟨Nat.one_pos, Nat.one_lt_two_pow (by decide)⟩, ⟨rfl, url.le.trans (by decide)⟩,
      Nat.le_add_left 1 49, moved⟩
  refine ⟨⟨base, head, ?_, ?_, List.nodup_singleton _⟩, limits⟩
  · intro file present blobSha isBlob
    rw [List.mem_singleton.mp present] at isBlob
    cases isBlob
  · intro file present
    rw [List.mem_singleton.mp present, named]
    decide

theorem sampleSource_built {rest : List Char}
    (added : addedText (canonicalPatch rest) = canonicalSql.toList) :
    ∃ envelope, buildSourceEnvelope (Script.probe 0 []) localeCollation (fun _ => true)
      (sampleSource rest) "a/b" = .ok envelope := by
  obtain ⟨passes, selected⟩ := gateInput_passes added
  obtain ⟨valid, limits⟩ := gateInput_valid rest
  have input : buildSourceEnvelope (Script.probe 0 []) localeCollation (fun _ => true)
      (sampleSource rest) "a/b" = buildCanonicalSourceEnvelope (Script.probe 0 []) localeCollation
        (fun _ => true) (gateInput rest) := rfl
  rw [input]
  refine ⟨_, (build_ok passes selected).mpr ⟨?_, rfl⟩⟩
  have ordered : (localeCollation.sortBy (·.path) (gateInput rest).files).map (·.path) =
      sorted ((gateInput rest).files.map (·.path)) := by
    rw [Collation.sortBy, gateInput, List.mergeSort_singleton]
    rfl
  exact (builtEnvelope_issues valid (List.mem_singleton_self _)).mpr ⟨limits, ordered⟩

theorem sampleSource_fits {selected : SourcePatch}
    (filename : selected.filename = "walkthrough/migrations/1.sql")
    (patch : selected.patch = String.ofList (canonicalPatch [])) : Fits selected := by
  have path : "walkthrough/migrations/1.sql".toList = _ := String.toList_ofList
  have named : utf16Length "walkthrough/migrations/1.sql" = 28 := utf16Length_ofList _
  have few : (canonicalPatch []).length ≤ 100 := by decide
  have long := utf16Length_twice (canonicalPatch [])
  have framed : frameLength selected ≤ 200 := by
    rw [frameLength, filename, named]
    split <;> omega
  refine ⟨by rw [filename, path]; decide, by rw [filename, named]; decide, ?_, ?_⟩
  · rw [patch]
    omega
  · rw [patch, String.toList_ofList]
    have words : ¬ "Binary files".toList <:+: canonicalPatch [] := by
      intro found
      have letter : 'f' ∈ canonicalPatch [] := found.subset (by decide)
      exact absurd letter (by decide)
    refine ⟨⟨by decide, words⟩, "@@ -0,0 +1 @@".toList, ⟨0, 0, 1, 1⟩,
      ['+' :: canonicalSql.toList], by decide, by decide, le_refl 1, ?_, ?_⟩
    · rw [if_pos (by decide)]
      exact ⟨rfl, rfl⟩
    · exact ⟨List.cons_ne_nil _ _, by decide, by decide, by decide⟩

theorem source_gates_sample : ∃ envelope change proposed,
    buildSourceEnvelope (Script.probe 0 []) localeCollation (fun _ => true) (sampleSource [])
      "a/b" = .ok envelope ∧
    parseSourceChange (Script.probe 0 []) "a/b" (sampleSource []) envelope change =
      .ok proposed := by
  obtain ⟨envelope, built⟩ :=
    sampleSource_built (canonicalPatch_added [] List.mem_cons_self)
  obtain ⟨change, proposed, _, parsed⟩ := (source_gates (Script.probe 0 []) localeCollation
    (fun _ => true) (sampleSource []) "a/b" envelope built).mpr (by
      intro selected present _
      rw [List.mem_singleton.mp present]
      exact sampleSource_fits rfl rfl)
  exact ⟨envelope, change, proposed, built, parsed⟩

/-- The mark of a file without a last line break passes the first gate and not the second one. -/
theorem unfinished_refused : ∃ envelope,
    buildSourceEnvelope (Script.probe 0 []) localeCollation (fun _ => true)
      (sampleSource unfinished) "a/b" = .ok envelope ∧
    ∀ change proposed, buildSourceChange (Script.probe 0 []) localeCollation (fun _ => true)
        (sampleSource unfinished) "a/b" = some change →
      parseSourceChange (Script.probe 0 []) "a/b" (sampleSource unfinished) envelope change ≠
        .ok proposed := by
  obtain ⟨envelope, built⟩ :=
    sampleSource_built (canonicalPatch_added unfinished (.tail _ (.head _)))
  refine ⟨envelope, built, ?_⟩
  intro change proposed isChange parsed
  obtain ⟨identity, selected, present, sql, only, under, path⟩ := envelope_source built
  obtain ⟨other, isOther, diff⟩ := sourceChange_built built present sql only path
  obtain rfl : change = other := Option.some.inj (isChange.symm.trans isOther)
  rw [parseSourceChange, path, diff] at parsed
  have fits : Fits selected := (parse_fits identity under).mp ⟨proposed, parsed⟩
  rw [List.mem_singleton.mp present] at fits
  obtain ⟨_, header, body, lines, _, _, _, adds⟩ := fits.hunk.hunk
  rw [String.toList_ofList] at lines
  have known : patchLines (canonicalPatch unfinished) = ["@@ -0,0 +1 @@".toList,
      '+' :: canonicalSql.toList, "\\ No newline at end of file".toList] := by decide
  rw [known, List.cons.injEq] at lines
  obtain ⟨_, rfl⟩ := lines
  exact absurd (adds.shaped _ (.tail _ (.head _))) (by decide)

end Sample

end LineageGuard.Agent
