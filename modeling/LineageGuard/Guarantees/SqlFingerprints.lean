import LineageGuard.Datahub.SqlFingerprint
import Mathlib.Tactic

/-
This file compares the fingerprints that the two languages give a statement.
-/

namespace LineageGuard.Datahub

open Words Ecma

section Hidden

/-- A carriage return ends a line comment for one language alone. -/
inductive Region
  | code | comment | returned
  deriving DecidableEq

/-- This is the text after a carriage return in a line comment, which one language keeps. -/
def hiddenText : Region → List Char → List Char
  | .code, '-' :: '-' :: rest => hiddenText .comment rest
  | .code, _ :: rest => hiddenText .code rest
  | .comment, char :: rest =>
      if char = '\n' then hiddenText .code rest
      else if char = '\r' then char :: hiddenText .returned rest
      else hiddenText .comment rest
  | .returned, '-' :: '-' :: rest => ' ' :: hiddenText .comment rest
  | .returned, char :: rest =>
      if char = '\n' then hiddenText .code rest else char :: hiddenText .returned rest
  | _, [] => []

def jsText (region : Region) (text : List Char) : List Char :=
  stripLines (fun char => char == '\r' || char == '\n') (region == .comment) text

def pyText (region : Region) (text : List Char) : List Char :=
  stripLines (fun char => char == '\n') (region != .code) text

/-- These are the steps of the two readers and of the hidden text over one statement. -/
inductive Reads : Region → List Char → List Char → List Char → Prop
  | ended (region : Region) : Reads region [] [] []
  | opened {js py hidden : List Char} : Reads .comment js py hidden →
      Reads .code (' ' :: js) (' ' :: py) hidden
  | plain {js py hidden : List Char} (char : Char) : Reads .code js py hidden →
      Reads .code (char :: js) (char :: py) hidden
  | closed {js py hidden : List Char} (region : Region) : Reads .code js py hidden →
      Reads region ('\n' :: js) ('\n' :: py) hidden
  | returned {js py hidden : List Char} : Reads .returned js py hidden →
      Reads .comment ('\r' :: js) py ('\r' :: hidden)
  | reopened {js py hidden : List Char} : Reads .comment js py hidden →
      Reads .returned (' ' :: js) py (' ' :: hidden)
  | hidden {js py hidden : List Char} (char : Char) : Reads .returned js py hidden →
      Reads .returned (char :: js) py (char :: hidden)

theorem strip_code (ends : Char → Bool) {char : Char} {rest : List Char}
    (plain : ∀ later, char = '-' → rest = '-' :: later → False) :
    stripLines ends false (char :: rest) = char :: stripLines ends false rest := by
  rw [stripLines]
  exact fun later first second => plain later first second

theorem strip_kept {ends : Char → Bool} {char : Char} (kept : ends char = false)
    (rest : List Char) : stripLines ends true (char :: rest) = stripLines ends true rest := by
  rw [stripLines, kept, if_neg Bool.false_ne_true]

theorem reads_text (region : Region) (text : List Char) :
    Reads region (jsText region text) (pyText region text) (hiddenText region text) := by
  fun_induction hiddenText region text with
  | case1 rest ih => exact .opened ih
  | case2 char rest plain ih =>
      have js : jsText .code (char :: rest) = char :: jsText .code rest := strip_code _ plain
      have py : pyText .code (char :: rest) = char :: pyText .code rest := strip_code _ plain
      rw [js, py]
      exact .plain char ih
  | case3 rest ih => exact .closed .comment ih
  | case4 rest _ ih => exact .returned ih
  | case5 char rest line returned ih =>
      have js : jsText .comment (char :: rest) = jsText .comment rest :=
        strip_kept (by simp [line, returned]) rest
      have py : pyText .comment (char :: rest) = pyText .comment rest :=
        strip_kept (by simp [line]) rest
      rwa [js, py]
  | case6 rest ih => exact .reopened ih
  | case7 rest plain ih => exact .closed .returned ih
  | case8 char rest plain line ih =>
      have js : jsText .returned (char :: rest) = char :: jsText .returned rest := strip_code _ plain
      have py : pyText .returned (char :: rest) = pyText .returned rest :=
        strip_kept (by simp [line]) rest
      rw [js, py]
      exact .hidden char ih
  | case9 region => cases region <;> exact .ended _

variable {region : Region} {js py hidden : List Char} {space : Char → Bool}

/-- One reader keeps what the other one keeps and the hidden text. -/
theorem Reads.countP (read : Reads region js py hidden) (counts : Char → Bool) :
    js.countP counts = py.countP counts + hidden.countP counts := by
  induction read with
  | ended => rfl
  | opened _ ih => rw [List.countP_cons, List.countP_cons, ih]; omega
  | plain char _ ih => rw [List.countP_cons, List.countP_cons, ih]; omega
  | closed _ _ ih => rw [List.countP_cons, List.countP_cons, ih]; omega
  | returned _ ih => rw [List.countP_cons, List.countP_cons, ih]; omega
  | reopened _ ih => rw [List.countP_cons, List.countP_cons, ih]; omega
  | hidden char _ ih => rw [List.countP_cons, List.countP_cons, ih]; omega

/-- The words of one reader are words of the other one, whatever word a region continues. -/
def WordsWithin (space : Char → Bool) : Region → List Char → List Char → Prop
  | .code, js, py => ∀ before, (words space (before ++ py)).Sublist (words space (before ++ js))
  | .comment, js, py => (words space py).Sublist (words space js)
  | .returned, js, py => ∀ before, (words space py).Sublist (words space (before ++ js))

theorem Reads.within (read : Reads region js py hidden) (blank : space ' ' = true)
    (line : space '\n' = true) (ret : space '\r' = true) : WordsWithin space region js py := by
  induction read with
  | ended region =>
      cases region with
      | code => exact fun before => List.Sublist.refl _
      | comment => exact List.Sublist.refl _
      | returned => exact fun before => by rw [words_nil]; exact List.nil_sublist _
  | opened _ ih =>
      intro before
      rw [words_append blank, words_append blank]
      exact (List.Sublist.refl _).append ih
  | plain char _ ih =>
      intro before
      have rest := ih (before ++ [char])
      rwa [List.append_assoc, List.append_assoc] at rest
  | @closed js py _ region _ ih =>
      have rest : (words space py).Sublist (words space js) := ih []
      cases region with
      | code =>
          intro before
          rw [words_append line, words_append line]
          exact (List.Sublist.refl _).append rest
      | comment =>
          change (words space ('\n' :: py)).Sublist (words space ('\n' :: js))
          rwa [words_space line, words_space line]
      | returned =>
          intro before
          rw [words_append line, words_space line]
          exact rest.trans (List.sublist_append_right _ _)
  | @returned js py _ _ ih =>
      change (words space py).Sublist (words space ('\r' :: js))
      rw [words_space ret]
      exact ih []
  | reopened _ ih =>
      intro before
      rw [words_append blank]
      exact List.Sublist.trans ih (List.sublist_append_right _ _)
  | hidden char _ ih =>
      intro before
      have rest := ih (before ++ [char])
      rwa [List.append_assoc] at rest

/-- Where the kept text is blank, the words are those of the hidden text. -/
def WordsHidden (space : Char → Bool) : Region → List Char → List Char → Prop
  | .returned, js, hidden => ∀ before, words space (before ++ js) = words space (before ++ hidden)
  | _, js, hidden => words space js = words space hidden

theorem Reads.starts (read : Reads region js py hidden) (inside : region ≠ .returned) :
    ∀ first ∈ hidden.head?, first = '\r' := by
  induction read with
  | ended => simp
  | opened _ ih => exact ih nofun
  | plain _ _ ih => exact ih nofun
  | closed _ _ ih => exact ih nofun
  | returned _ _ => simp
  | reopened _ _ => exact absurd rfl inside
  | hidden _ _ _ => exact absurd rfl inside

theorem Reads.blank (read : Reads region js py hidden) (blank : space ' ' = true)
    (line : space '\n' = true) (ret : space '\r' = true)
    (none : ∀ char ∈ py, space char = true) : WordsHidden space region js hidden := by
  induction read with
  | ended region =>
      cases region with
      | code => rfl
      | comment => rfl
      | returned => exact fun before => rfl
  | opened _ ih =>
      rw [List.forall_mem_cons] at none
      exact (words_space blank _).trans (ih none.2)
  | plain char _ ih =>
      rw [List.forall_mem_cons] at none
      exact (words_space none.1 _).trans (ih none.2)
  | @closed js py hidden region read ih =>
      rw [List.forall_mem_cons] at none
      have rest : words space js = words space hidden := ih none.2
      cases region with
      | code => exact (words_space line _).trans rest
      | comment => exact (words_space line _).trans rest
      | returned =>
          intro before
          rw [words_append line, rest]
          cases hidden with
          | nil => rw [words_nil, List.append_nil, List.append_nil]
          | cons first later =>
              obtain rfl : first = '\r' := read.starts nofun first rfl
              rw [words_append ret, words_space ret]
  | returned _ ih =>
      have rest := ih none []
      exact (words_space ret _).trans (rest.trans (words_space ret _).symm)
  | @reopened js py hidden read ih =>
      intro before
      have rest : words space js = words space hidden := ih none
      rw [words_append blank, words_append blank, rest]
  | hidden char _ ih =>
      intro before
      have rest := ih none (before ++ [char])
      rwa [List.append_assoc, List.append_assoc] at rest

end Hidden

section Agreement

/-- The text after a carriage return in a line comment of this statement. -/
def hiddenIn (statement : List Char) : List Char := hiddenText .code (stripBlocks none statement)

/-- No odd space stands outside of the comments, and a carriage return in a line comment is followed
by spaces and comments alone. A statement without any text may also hide semicolons there. -/
def Aligned (statement : List Char) : Prop :=
  (∀ char ∈ withoutComments statement, char ∉ oddSpaces) ∧
    ((∀ char ∈ hiddenIn statement, Ecma.isSpace char = true) ∨
      ((∀ char ∈ withoutComments statement, isPySpace char = true) ∧
        ∃ word, words Ecma.isSpace (hiddenIn statement) = [word] ∧ ∀ char ∈ word, char = ';'))

theorem spaces_same {char : Char} (even : char ∉ oddSpaces) :
    Ecma.isSpace char = isPySpace char := by
  have odd : [0x1c, 0x1d, 0x1e, 0x1f, 0x85, 0xfeff].all (fun code =>
      oddSpaces.any fun other => other.toNat == code) = true := by decide
  have codes : ∀ code ∈ [0x1c, 0x1d, 0x1e, 0x1f, 0x85, 0xfeff], char.toNat ≠ code := by
    intro code listed same
    apply even
    obtain ⟨other, isOdd, isCode⟩ := List.any_eq_true.mp (List.all_eq_true.mp odd code listed)
    rwa [← Char.toNat_inj.mp ((beq_iff_eq.mp isCode).trans same.symm)]
  simp only [List.forall_mem_cons, List.not_mem_nil, false_implies, implies_true, and_true] at codes
  rw [Bool.eq_iff_iff]
  simp only [Ecma.isSpace, isPySpace, Bool.or_eq_true, Bool.and_eq_true, decide_eq_true_eq,
    List.contains_iff_mem, List.mem_cons, List.not_mem_nil, or_false]
  omega

theorem odd_apart : ∀ char ∈ oddSpaces, (Ecma.isSpace char ≠ isPySpace char) ∧ char ≠ ' ' ∧
    (char == ';') = false := by
  have apart : oddSpaces.all (fun char =>
      decide ((Ecma.isSpace char ≠ isPySpace char) ∧ char ≠ ' ' ∧ (char == ';') = false)) =
        true := by decide
  exact fun char odd => of_decide_eq_true (List.all_eq_true.mp apart char odd)

theorem statement_reads (statement : List Char) :
    Reads .code (withoutSqlComments statement) (withoutComments statement) (hiddenIn statement) :=
  reads_text .code (stripBlocks none statement)

theorem js_within (statement : List Char) :
    (words Ecma.isSpace (withoutComments statement)).Sublist
      (words Ecma.isSpace (withoutSqlComments statement)) :=
  (statement_reads statement).within (by decide) (by decide) (by decide) []

theorem flatten_length (space : Char → Bool) (text : List Char) :
    (words space text).flatten.length = text.countP fun char => !space char := by
  rw [words_flatten, List.countP_eq_length_filter]

/-- The words agree when the hidden text has none. -/
theorem words_hidden (statement : List Char) :
    words Ecma.isSpace (withoutComments statement) = words Ecma.isSpace (withoutSqlComments statement) ↔
      ∀ char ∈ hiddenIn statement, Ecma.isSpace char = true := by
  have counts := (statement_reads statement).countP fun char => !Ecma.isSpace char
  constructor
  · intro same char present
    have lengths := congrArg (fun words => words.flatten.length) same
    simp only [flatten_length] at lengths
    have none : (hiddenIn statement).countP (fun char => !Ecma.isSpace char) = 0 := by omega
    simpa using List.countP_eq_zero.mp none char present
  · intro blank
    have none : (hiddenIn statement).countP (fun char => !Ecma.isSpace char) = 0 :=
      List.countP_eq_zero.mpr (by simpa using blank)
    refine sublist_whole (js_within statement) (fun word => words_filled) ?_
    rw [flatten_length, flatten_length, counts, none, Nat.add_zero]

/-- The texts before they are written in lower case. -/
def jsWords (statement : List Char) : List Char :=
  (join ' ' (words Ecma.isSpace (withoutSqlComments statement))).rdropWhile (· == ';')

def pyWords (statement : List Char) : List Char :=
  (join ' ' (words isPySpace (withoutComments statement))).rdropWhile (· == ';')

theorem normalizeSqlStatement_eq (lowering : Lowering) (statement : List Char) :
    normalizeSqlStatement lowering statement = lowering.lower (jsWords statement) := by
  have joined := join_splitRuns Ecma.isSpace [' '] (withoutSqlComments statement)
  rw [normalizeSqlStatement, jsWords, join, joined]
  rfl

theorem aligned_same {statement : List Char} (aligned : Aligned statement) :
    jsWords statement = pyWords statement := by
  obtain ⟨even, blank | ⟨none, word, single, ends⟩⟩ := aligned
  · have same := words_congr fun char present => spaces_same (even char present)
    rw [jsWords, pyWords, ← same, (words_hidden statement).mpr blank]
  · have same : ∀ char ∈ withoutComments statement, Ecma.isSpace char = true := by
      intro char present
      rw [spaces_same (even char present)]
      exact none char present
    have hidden : words Ecma.isSpace (withoutSqlComments statement) =
        words Ecma.isSpace (hiddenIn statement) :=
      (statement_reads statement).blank (by decide) (by decide) (by decide) same
    have alone : join ' ' [word] = word := by simp [join]
    rw [jsWords, pyWords, hidden, single, words_blank none, alone,
      List.rdropWhile_eq_nil_iff.mpr fun char present => beq_iff_eq.mpr (ends char present)]
    rfl

/-- An odd space of the kept text stays in one of the two texts only. -/
theorem odd_separates (lowering : Lowering) {statement : List Char} {char : Char}
    (odd : char ∈ oddSpaces) (present : char ∈ withoutComments statement) :
    lowering.lower (jsWords statement) ≠ lowering.lower (pyWords statement) := by
  obtain ⟨differ, noBlank, stays⟩ := odd_apart char odd
  have kept : ∀ (space : Char → Bool) (text : List Char), char ∈ text →
      (char ∈ (join ' ' (words space text)).rdropWhile (· == ';') ↔ space char = false) := by
    intro space text isChar
    rw [@rdropWhile_mem _ (· == ';') _ _ stays]
    constructor
    · intro joined
      rcases mem_join joined with isBlank | word
      · exact absurd isBlank noBlank
      · exact (mem_flatten.mp word).2
    · intro letter
      exact join_mem (mem_flatten.mpr ⟨isChar, letter⟩)
  have inJs : char ∈ withoutSqlComments statement := by
    have counts := (statement_reads statement).countP (· == char)
    have some : 0 < (withoutComments statement).countP (· == char) :=
      List.countP_pos_iff.mpr ⟨char, present, beq_self_eq_true char⟩
    obtain ⟨other, isOther, same⟩ := List.countP_pos_iff.mp (by omega :
      0 < (withoutSqlComments statement).countP (· == char))
    rwa [← beq_iff_eq.mp same]
  intro same
  have both := lowering.lower_odd (jsWords statement) char odd
  rw [same, lowering.lower_odd (pyWords statement) char odd, jsWords, pyWords,
    kept _ _ inJs, kept _ _ present] at both
  apply differ
  cases js : Ecma.isSpace char <;> cases py : isPySpace char <;> simp [js, py] at both ⊢

theorem same_aligned (lowering : Lowering) {statement : List Char}
    (same : lowering.lower (jsWords statement) = lowering.lower (pyWords statement)) :
    Aligned statement := by
  have even : ∀ char ∈ withoutComments statement, char ∉ oddSpaces :=
    fun char present odd => odd_separates lowering odd present same
  refine ⟨even, ?_⟩
  by_cases blank : ∀ char ∈ hiddenIn statement, Ecma.isSpace char = true
  · exact Or.inl blank
  · have differ := fun equal => blank ((words_hidden statement).mp equal)
    have spaces : words Ecma.isSpace (withoutComments statement) =
        words isPySpace (withoutComments statement) :=
      words_congr fun char present => spaces_same (even char present)
    have trailing : (' ' == ';') = false := by decide
    rcases @trimmed_weight _ ' ' _ lowering.size_pos (· == ';') trailing _ _
      (js_within statement) differ with lighter | ⟨none, word, single, ends⟩
    · have lengths := congrArg List.length same
      rw [lowering.lower_length, lowering.lower_length, jsWords, pyWords, ← spaces] at lengths
      omega
    · right
      have kept : ∀ char ∈ withoutComments statement, Ecma.isSpace char = true := by
        intro char present
        by_contra letter
        have word := mem_flatten.mpr ⟨present, Bool.not_eq_true _ ▸ letter⟩
        rw [none] at word
        exact nomatch word
      have hidden : words Ecma.isSpace (withoutSqlComments statement) =
          words Ecma.isSpace (hiddenIn statement) :=
        (statement_reads statement).blank (by decide) (by decide) (by decide) kept
      refine ⟨fun char present => ?_, word, hidden ▸ single, fun char present =>
        beq_iff_eq.mp (ends char present)⟩
      rw [← spaces_same (even char present)]
      exact kept char present

end Agreement

section Sample

/-- The samples hold letters that stay as they are. -/
def Lowering.sample : Lowering where
  lower text := text
  size _ := 1
  size_pos _ := Nat.one_pos
  lower_length text := by simp [weight]
  lower_odd _ _ _ := Iff.rfl

/-- This script tells texts apart by their eighth character. -/
def eighthScript : Script := Script.probe 7 []

theorem sampleStatement_even :
    ∀ char ∈ withoutComments "select a -- b\r\n ;".toList, char ∉ oddSpaces := by
  have even : (withoutComments "select a -- b\r\n ;".toList).all (fun char =>
      !oddSpaces.contains char) = true := by decide
  intro char present odd
  have absent := List.all_eq_true.mp even char present
  rw [List.contains_iff_mem.mpr odd] at absent
  cases absent

theorem sampleStatement_blank :
    ∀ char ∈ hiddenIn "select a -- b\r\n ;".toList, Ecma.isSpace char = true :=
  have blank : (hiddenIn "select a -- b\r\n ;".toList).all Ecma.isSpace = true := by
    decide
  List.all_eq_true.mp blank

end Sample

end LineageGuard.Datahub
