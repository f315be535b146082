import LineageGuard.Library.EcmaText
import LineageGuard.Library.Words
import Mathlib.Tactic

/-
This file gives the parts into which spaces and a mark divide a text and what is replaced in it.
-/

namespace Words

variable {Item : Type} {space : Item → Bool}

section Runs

/-- A list is divided in one way at the first place of an item. -/
theorem divided_once {item : Item} {before other after rest : List Item} (first : item ∉ before)
    (second : item ∉ other) (same : before ++ item :: after = other ++ item :: rest) :
    before = other ∧ after = rest := by
  induction before generalizing other with
  | nil =>
      cases other with
      | nil => exact ⟨rfl, (List.cons.inj same).2⟩
      | cons head other => exact absurd ((List.cons.inj same).1 ▸ List.mem_cons_self) second
  | cons head before ih =>
      cases other with
      | nil => exact absurd ((List.cons.inj same).1 ▸ List.mem_cons_self) first
      | cons next other =>
          obtain ⟨heads, rests⟩ := List.cons.inj same
          rw [List.mem_cons, not_or] at first second
          obtain ⟨front, back⟩ := ih first.2 second.2 rests
          rw [heads, front]
          exact ⟨rfl, back⟩

theorem words_run {run : List Item} (blank : ∀ item ∈ run, space item = true) (filled : run ≠ [])
    (before after : List Item) :
    words space (before ++ run ++ after) = words space before ++ words space after := by
  obtain ⟨item, rest, rfl⟩ := List.exists_cons_of_ne_nil filled
  rw [List.forall_mem_cons] at blank
  have later : words space (rest ++ after) = words space after := by
    have rest_blank := blank.2
    clear blank filled
    induction rest with
    | nil => rfl
    | cons next rest ih =>
        rw [List.forall_mem_cons] at rest_blank
        rw [List.cons_append, words_space rest_blank.1, ih rest_blank.2]
  rw [List.append_assoc, List.cons_append, words_append blank.1, later]

theorem words_map {Other : Type} {blank : Other → Bool} (change : Item → Other)
    (same : ∀ item, blank (change item) = space item) (text : List Item) :
    words blank (text.map change) = (words space text).map (List.map change) := by
  induction text with
  | nil => rw [List.map_nil, words_nil, words_nil, List.map_nil]
  | cons item rest ih =>
      rw [List.map_cons]
      cases isSpace : space item with
      | true => rw [words_space isSpace, words_space ((same item).trans isSpace), ih]
      | false =>
          rw [words_letter isSpace, words_letter ((same item).trans isSpace), ih]
          have next : (rest.map change).head?.any (fun next => !blank next) =
              rest.head?.any fun next => !space next := by
            cases rest with
            | nil => rfl
            | cons next rest => simp [same]
          rw [next]
          split
          · cases words space rest <;> rfl
          · rfl

/-- A text without spaces is its only word. -/
theorem words_alone {text : List Item} (letters : ∀ item ∈ text, space item = false)
    (filled : text ≠ []) : words space text = [text] := by
  induction text with
  | nil => exact absurd rfl filled
  | cons item rest ih =>
      rw [List.forall_mem_cons] at letters
      rw [words_letter letters.1]
      cases rest with
      | nil => simp
      | cons next rest =>
          rw [ih letters.2 (List.cons_ne_nil _ _)]
          have isLetter : space next = false := letters.2 next List.mem_cons_self
          simp [isLetter]

end Runs

section Parts

variable [DecidableEq Item] {mark blank : Item}

/-- A mark is set apart by spaces. -/
def spread (mark blank : Item) (text : List Item) : List Item :=
  text.flatMap fun item => if item = mark then [blank, item, blank] else [item]

/-- The parts of a text are its words, and a mark is a part of its own. -/
def parts (space : Item → Bool) (mark blank : Item) (text : List Item) : List (List Item) :=
  words space (spread mark blank text)

theorem spread_append (before after : List Item) :
    spread mark blank (before ++ after) = spread mark blank before ++ spread mark blank after :=
  List.flatMap_append

theorem spread_plain {text : List Item} (plain : mark ∉ text) : spread mark blank text = text := by
  induction text with
  | nil => rfl
  | cons item rest ih =>
      rw [List.mem_cons, not_or] at plain
      rw [spread, List.flatMap_cons, if_neg (Ne.symm plain.1)]
      exact congrArg (item :: ·) (ih plain.2)

theorem parts_run (letter : space mark = false) {run : List Item}
    (spaces : ∀ item ∈ run, space item = true) (filled : run ≠ []) (before after : List Item) :
    parts space mark blank (before ++ run ++ after) =
      parts space mark blank before ++ parts space mark blank after := by
  have plain : mark ∉ run := by
    intro present
    rw [spaces mark present] at letter
    cases letter
  rw [parts, spread_append, spread_append, spread_plain plain, words_run spaces filled]
  rfl

theorem parts_mark (letter : space mark = false) (isSpace : space blank = true)
    (before after : List Item) :
    parts space mark blank (before ++ mark :: after) =
      parts space mark blank before ++ [mark] :: parts space mark blank after := by
  have apart : spread mark blank (mark :: after) =
      blank :: mark :: blank :: spread mark blank after := by
    rw [spread, List.flatMap_cons, if_pos rfl]
    rfl
  rw [parts, spread_append, apart, words_append isSpace, words_letter letter]
  simp [isSpace, words_space, parts]

theorem parts_map (change : Item → Item) (same : ∀ item, space (change item) = space item)
    (marks : ∀ item, change item = mark ↔ item = mark) (blanks : change blank = blank)
    (text : List Item) :
    parts space mark blank (text.map change) =
      (parts space mark blank text).map (List.map change) := by
  have moved : spread mark blank (text.map change) = (spread mark blank text).map change := by
    induction text with
    | nil => rfl
    | cons item rest ih =>
        rw [List.map_cons, spread, List.flatMap_cons, spread, List.flatMap_cons, List.map_append]
        by_cases isMark : item = mark
        · rw [if_pos isMark, if_pos ((marks item).mpr isMark)]
          simp only [List.map_cons, List.map_nil, blanks]
          exact congrArg _ ih
        · rw [if_neg isMark, if_neg (isMark ∘ (marks item).mp)]
          exact congrArg _ ih
  rw [parts, moved, words_map change same]
  rfl

/-- The parts hold what is no space. -/
theorem mem_parts (isSpace : space blank = true) {text : List Item}
    {item : Item} : (∃ part ∈ parts space mark blank text, item ∈ part) ↔
      item ∈ text ∧ space item = false := by
  have held : (item ∈ spread mark blank text ∧ space item = false) ↔
      item ∈ text ∧ space item = false := by
    refine and_congr_left fun other => ?_
    rw [spread, List.mem_flatMap]
    constructor
    · rintro ⟨found, present, among⟩
      split_ifs at among with isMark
      · rcases List.mem_cons.mp among with rfl | later
        · rw [isSpace] at other
          cases other
        · rcases List.mem_pair.mp later with rfl | rfl
          · exact present
          · rw [isSpace] at other
            cases other
      · rwa [List.mem_singleton.mp among]
    · intro present
      refine ⟨item, present, ?_⟩
      split_ifs
      · exact List.mem_cons_of_mem _ List.mem_cons_self
      · exact List.mem_singleton_self _
  rw [← held, ← mem_flatten, List.mem_flatten, parts]

theorem parts_congr {other : Item → Bool} {text : List Item}
    (same : ∀ item ∈ text, space item = other item) (blanks : space blank = other blank) :
    parts space mark blank text = parts other mark blank text := by
  refine words_congr fun item present => ?_
  obtain ⟨found, among, inside⟩ := List.mem_flatMap.mp present
  split_ifs at inside with isMark
  · rcases List.mem_cons.mp inside with rfl | later
    · exact blanks
    · rcases List.mem_pair.mp later with rfl | rfl
      · exact same _ among
      · exact blanks
  · rw [List.mem_singleton.mp inside]
    exact same _ among

/-- The spaces around a text are in none of its parts. -/
theorem parts_trim (letter : space mark = false) (text : List Item) :
    parts space mark blank (trim space text) = parts space mark blank text := by
  have none : parts space mark blank ([] : List Item) = [] := words_nil space
  have front : parts space mark blank (text.dropWhile space) = parts space mark blank text := by
    have whole := List.takeWhile_append_dropWhile (p := space) (l := text)
    by_cases empty : text.takeWhile space = []
    · rw [empty, List.nil_append] at whole
      rw [whole]
    · have split := @parts_run _ space _ mark blank letter _
        (fun item present => List.mem_takeWhile_imp present) empty [] (text.dropWhile space)
      rw [List.nil_append, none, List.nil_append, whole] at split
      exact split.symm
  have back : parts space mark blank ((text.dropWhile space).rdropWhile space) =
      parts space mark blank (text.dropWhile space) := by
    have whole := List.rdropWhile_append_rtakeWhile (p := space) (l := text.dropWhile space)
    by_cases empty : (text.dropWhile space).rtakeWhile space = []
    · rw [empty, List.append_nil] at whole
      rw [whole]
    · have split := @parts_run _ space _ mark blank letter _
        (fun item present => List.mem_rtakeWhile_imp present) empty
        ((text.dropWhile space).rdropWhile space) []
      rw [none, List.append_nil, List.append_nil, whole] at split
      exact split.symm
  rw [trim, back, front]

end Parts

end Words

namespace Ecma

section Replacement

variable {pattern : Pattern} {replacement : List Char}

theorem replaceFrom_skipped (skipped : List Char) (rest : List Char) :
    replaceFrom pattern replacement skipped.length (skipped ++ rest) =
      replaceAll pattern replacement rest := by
  induction skipped with
  | nil => rfl
  | cons char skipped ih =>
      rw [List.cons_append, List.length_cons, replaceFrom]
      exact ih

theorem replaceAll_matched {char : Char} {rest after : List Char}
    (found : pattern (char :: rest) = some after) (consumes : after <:+ rest) :
    replaceAll pattern replacement (char :: rest) =
      replacement ++ replaceAll pattern replacement after := by
  obtain ⟨skipped, rfl⟩ := consumes
  rw [replaceAll, replaceFrom, found]
  simp only
  have long : (skipped ++ after).length - after.length = skipped.length := by simp
  rw [long, replaceFrom_skipped]

theorem replaceAll_kept {char : Char} {rest : List Char} (none : pattern (char :: rest) = none) :
    replaceAll pattern replacement (char :: rest) =
      char :: replaceAll pattern replacement rest := by
  rw [replaceAll, replaceFrom, none]
  rfl

/-- What holds of the rest of a text and its replacement holds of the text and its replacement. -/
theorem replaceAll_induction {Holds : List Char → List Char → Prop} (nil : Holds [] [])
    (kept : ∀ char rest out, pattern (char :: rest) = none → Holds rest out →
      Holds (char :: rest) (char :: out))
    (matched : ∀ char rest after out, pattern (char :: rest) = some after → after <:+ rest →
      Holds after out → Holds (char :: rest) (replacement ++ out))
    (consumes : ∀ char rest after, pattern (char :: rest) = some after → after <:+ rest)
    (text : List Char) : Holds text (replaceAll pattern replacement text) := by
  induction size : text.length using Nat.strong_induction_on generalizing text with
  | _ size ih =>
      cases text with
      | nil => exact nil
      | cons char rest =>
          cases found : pattern (char :: rest) with
          | none =>
              rw [replaceAll_kept found]
              refine kept char rest _ found (ih rest.length ?_ rest rfl)
              rw [← size]
              exact Nat.lt_succ_self _
          | some after =>
              have within := consumes char rest after found
              rw [replaceAll_matched found within]
              refine matched char rest after _ found within (ih after.length ?_ after rfl)
              rw [← size]
              exact Nat.lt_succ_of_le within.length_le

theorem replaceAll_all {accepts : Char → Bool}
    (consumes : ∀ char rest after, pattern (char :: rest) = some after → after <:+ rest)
    (replaced : replacement.all accepts = true) {text : List Char}
    (all : text.all accepts = true) : (replaceAll pattern replacement text).all accepts = true := by
  refine @replaceAll_induction pattern replacement
    (fun text out => text.all accepts = true → out.all accepts = true) id ?_ ?_ consumes text all
  · intro char rest out _ later whole
    rw [List.all_cons, Bool.and_eq_true] at whole
    rw [List.all_cons, whole.1, later whole.2]
    rfl
  · intro char rest after out _ within later whole
    rw [List.all_cons, Bool.and_eq_true] at whole
    rw [List.all_append, replaced, later]
    · rfl
    · rw [List.all_eq_true] at whole ⊢
      exact fun item present => whole.2 item (within.subset present)

/-- A change of characters that the pattern does not see may also be made afterwards. -/
theorem replaceAll_map (change : Char → Char)
    (blind : ∀ text, pattern (text.map change) = (pattern text).map (List.map change))
    (consumes : ∀ char rest after, pattern (char :: rest) = some after → after <:+ rest)
    (kept : replacement.map change = replacement) (text : List Char) :
    replaceAll pattern replacement (text.map change) =
      (replaceAll pattern replacement text).map change := by
  refine @replaceAll_induction pattern replacement
    (fun text out => replaceAll pattern replacement (text.map change) = out.map change) rfl ?_ ?_
    consumes text
  · intro char rest out none same
    have stays := blind (char :: rest)
    rw [none, List.map_cons] at stays
    rw [List.map_cons, replaceAll_kept stays, same, List.map_cons]
  · intro char rest after out found within same
    have moves := blind (char :: rest)
    rw [found, List.map_cons] at moves
    rw [List.map_cons, replaceAll_matched moves (within.map change), same, List.map_append, kept]

end Replacement

end Ecma
