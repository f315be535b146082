import Mathlib.Data.List.DropRight
import Mathlib.Tactic

/-
This file gives the words of a text and the texts that are joined from words.
-/

namespace Words

variable {Item : Type} {space : Item → Bool}

section Splitting

/-- The words of a text are its longest parts without a space. -/
def words (space : Item → Bool) (text : List Item) : List (List Item) :=
  (text.splitOnP space).filter fun word => !word.isEmpty

/-- The text without the spaces around it. -/
def trim (space : Item → Bool) (text : List Item) : List Item :=
  (text.dropWhile space).rdropWhile space

/-- The parts between the runs of spaces may be empty at both ends. -/
def splitRuns (space : Item → Bool) : List Item → List (List Item)
  | [] => [[]]
  | item :: rest =>
      if space item then
        if rest.head?.any space then splitRuns space rest else [] :: splitRuns space rest
      else (splitRuns space rest).modifyHead (item :: ·)

@[simp] theorem words_nil (space : Item → Bool) : words space [] = [] := by
  rw [words, List.splitOnP_nil]
  rfl

theorem words_append {item : Item} (isSpace : space item = true) (before after : List Item) :
    words space (before ++ item :: after) = words space before ++ words space after := by
  rw [words, List.splitOnP_append_cons before after isSpace, List.filter_append]
  rfl

theorem words_space {item : Item} (isSpace : space item = true) (rest : List Item) :
    words space (item :: rest) = words space rest := by
  have split := words_append isSpace [] rest
  rwa [List.nil_append, words_nil, List.nil_append] at split

theorem words_blank {text : List Item} (blank : ∀ item ∈ text, space item = true) :
    words space text = [] := by
  induction text with
  | nil => exact words_nil space
  | cons item rest ih =>
      rw [List.forall_mem_cons] at blank
      rw [words_space blank.1, ih blank.2]

/-- An item that is no space starts the first word or a word of its own. -/
theorem words_letter {item : Item} (letter : space item = false) (rest : List Item) :
    words space (item :: rest) =
      if rest.head?.any (fun next => !space next) then
        (words space rest).modifyHead (item :: ·)
      else [item] :: words space rest := by
  rw [words, List.splitOnP_cons_eq_if_modifyHead, letter, if_neg Bool.false_ne_true]
  obtain ⟨first, others, split⟩ := List.exists_cons_of_ne_nil (List.splitOnP_ne_nil space rest)
  have filled : (item :: first).isEmpty = false := rfl
  rw [split, List.modifyHead_cons, List.filter_cons_of_pos (by simp [filled]), words, split]
  cases rest with
  | nil =>
      rw [List.splitOnP_nil, List.cons.injEq] at split
      obtain ⟨rfl, rfl⟩ := split
      rfl
  | cons next rest =>
      rw [List.splitOnP_cons_eq_if_modifyHead] at split
      cases isSpace : space next with
      | true =>
          rw [isSpace, if_pos rfl, List.cons.injEq] at split
          obtain ⟨rfl, rfl⟩ := split
          simp [isSpace]
      | false =>
          rw [isSpace, if_neg Bool.false_ne_true] at split
          obtain ⟨word, more, others⟩ :=
            List.exists_cons_of_ne_nil (List.splitOnP_ne_nil space rest)
          rw [others, List.modifyHead_cons, List.cons.injEq] at split
          obtain ⟨rfl, rfl⟩ := split
          simp [isSpace]

/-- The words of a text depend on the spaces among its own items. -/
theorem words_congr {other : Item → Bool} {text : List Item}
    (same : ∀ item ∈ text, space item = other item) : words space text = words other text := by
  induction text with
  | nil => rw [words_nil, words_nil]
  | cons item rest ih =>
      rw [List.forall_mem_cons] at same
      cases isSpace : space item with
      | true => rw [words_space isSpace, words_space (same.1 ▸ isSpace), ih same.2]
      | false =>
          have next : rest.head?.any (fun next => !space next) =
              rest.head?.any fun next => !other next := by
            cases rest with
            | nil => rfl
            | cons next rest => simp [same.2 next List.mem_cons_self]
          rw [words_letter isSpace, words_letter (same.1 ▸ isSpace), ih same.2, next]

theorem words_filled {text word : List Item} (present : word ∈ words space text) : word ≠ [] := by
  rw [words, List.mem_filter] at present
  simpa using present.2

/-- The words hold what is no space. -/
theorem words_flatten (space : Item → Bool) (text : List Item) :
    (words space text).flatten = text.filter fun item => !space item := by
  induction text with
  | nil => rw [words_nil]; rfl
  | cons item rest ih =>
      cases isSpace : space item with
      | true => rw [words_space isSpace, ih, List.filter_cons_of_neg (by simp [isSpace])]
      | false =>
          rw [words_letter isSpace, List.filter_cons_of_pos (by simp [isSpace]), ← ih]
          cases first : words space rest with
          | nil =>
              have none : rest.head?.any (fun next => !space next) = false := by
                rw [first, List.flatten_nil, eq_comm, List.filter_eq_nil_iff] at ih
                cases rest with
                | nil => rfl
                | cons next rest => simpa using ih next List.mem_cons_self
              rw [none, if_neg Bool.false_ne_true]
              rfl
          | cons word others => split <;> rfl

theorem mem_flatten {item : Item} {text : List Item} :
    item ∈ (words space text).flatten ↔ item ∈ text ∧ space item = false := by
  rw [words_flatten, List.mem_filter, Bool.not_eq_true']

/-- A text that ends with no space is split into its words and perhaps an empty first part. -/
theorem splitRuns_eq {text : List Item} (filled : text ≠ [])
    (ends : ∀ last ∈ text.getLast?, space last = false) :
    splitRuns space text =
      if text.head?.any space then [] :: words space text else words space text := by
  induction text with
  | nil => exact absurd rfl filled
  | cons item rest ih =>
      cases rest with
      | nil =>
          have letter : space item = false := ends item rfl
          simp [splitRuns, letter, words_letter]
      | cons next rest =>
          have later := ih (List.cons_ne_nil _ _) (by simpa using ends)
          rw [splitRuns, later]
          cases isSpace : space item <;> cases after : space next <;>
            simp [isSpace, after, words_space, words_letter]

theorem trim_words (space : Item → Bool) (text : List Item) :
    words space (trim space text) = words space text := by
  have front : ∀ text : List Item, words space (text.dropWhile space) = words space text := by
    intro text
    induction text with
    | nil => rfl
    | cons item rest ih =>
        cases isSpace : space item with
        | true => rw [List.dropWhile_cons_of_pos isSpace, ih, words_space isSpace]
        | false => rw [List.dropWhile_cons_of_neg (by simp [isSpace])]
  have back : ∀ text : List Item, words space (text.rdropWhile space) = words space text := by
    intro text
    induction text using List.reverseRecOn with
    | nil => rfl
    | append_singleton text last ih =>
        cases isSpace : space last with
        | true =>
            rw [List.rdropWhile_concat_pos _ _ _ isSpace, ih, words_append isSpace, words_nil,
              List.append_nil]
        | false => rw [List.rdropWhile_concat_neg _ _ _ (by simp [isSpace])]
  rw [trim, back, front]

/-- Splitting a trimmed text at its runs of spaces and joining the parts joins the words. -/
theorem join_splitRuns (space : Item → Bool) (separator : List Item) (text : List Item) :
    separator.intercalate (splitRuns space (trim space text)) =
      separator.intercalate (words space text) := by
  rw [← trim_words space text]
  by_cases filled : trim space text = []
  · rw [filled, words_nil]
    rfl
  · have ends : ∀ last ∈ (trim space text).getLast?, space last = false := by
      intro last isLast
      rw [List.getLast?_eq_getLast_of_ne_nil filled, Option.mem_some_iff] at isLast
      have letter := List.rdropWhile_last_not space _ filled
      rw [← isLast]
      exact Bool.not_eq_true _ ▸ letter
    have starts : (trim space text).head?.any space = false := by
      obtain ⟨first, rest, parts⟩ := List.exists_cons_of_ne_nil filled
      obtain ⟨after, whole⟩ := List.rdropWhile_prefix space (text.dropWhile space)
      rw [trim] at parts
      rw [parts, List.cons_append] at whole
      have letter := List.head?_dropWhile_not space text
      rw [← whole] at letter
      rw [trim, parts]
      simpa using letter
    rw [splitRuns_eq filled ends, starts, if_neg Bool.false_ne_true]

/-- Words that hold all items of more words are all of them. -/
theorem sublist_whole {fewer more : List (List Item)} (within : fewer.Sublist more)
    (filled : ∀ word ∈ more, word ≠ [])
    (same : fewer.flatten.length = more.flatten.length) : fewer = more := by
  induction within with
  | slnil => rfl
  | @cons fewer more word within _ =>
      rw [List.forall_mem_cons] at filled
      have long := List.length_pos_iff.mpr filled.1
      have shorter := within.flatten.length_le
      rw [List.flatten_cons, List.length_append] at same
      omega
  | cons_cons word _ ih =>
      rw [List.forall_mem_cons] at filled
      rw [List.flatten_cons, List.flatten_cons, List.length_append, List.length_append] at same
      rw [ih filled.2 (by omega)]

end Splitting

section Joining

/-- The words are joined with a separator between them. -/
def join (separator : Item) (words : List (List Item)) : List Item := [separator].intercalate words

variable {separator : Item} {size : Item → ℕ}

theorem join_concat {words : List (List Item)} (filled : words ≠ []) (last : List Item) :
    join separator (words ++ [last]) = join separator words ++ separator :: last := by
  induction words with
  | nil => exact absurd rfl filled
  | cons first rest ih =>
      cases rest with
      | nil => simp [join, List.intercalate]
      | cons second rest =>
          have later := ih (List.cons_ne_nil _ _)
          simp only [join, List.intercalate, List.cons_append, List.intersperse_cons_cons,
            List.flatten_cons, List.append_assoc] at later ⊢
          rw [later]

theorem mem_join {words : List (List Item)} {item : Item} (present : item ∈ join separator words) :
    item = separator ∨ item ∈ words.flatten := by
  induction words using List.reverseRecOn with
  | nil => exact nomatch present
  | append_singleton words last ih =>
      rw [List.flatten_append, List.flatten_singleton]
      by_cases filled : words = []
      · subst filled
        exact Or.inr (by simpa [join] using present)
      · rw [join_concat filled, List.mem_append, List.mem_cons] at present
        rcases present with before | rfl | later
        · exact (ih before).imp_right fun found => List.mem_append_left _ found
        · exact Or.inl rfl
        · exact Or.inr (List.mem_append_right _ later)

theorem join_mem {words : List (List Item)} {item : Item} (present : item ∈ words.flatten) :
    item ∈ join separator words := by
  induction words using List.reverseRecOn with
  | nil => exact nomatch present
  | append_singleton words last ih =>
      rw [List.flatten_append, List.flatten_singleton, List.mem_append] at present
      by_cases filled : words = []
      · subst filled
        simpa [join] using present
      · rw [join_concat filled, List.mem_append, List.mem_cons]
        rcases present with before | later
        · exact Or.inl (ih before)
        · exact Or.inr (Or.inr later)

/-- The part before an item that stays is kept. -/
theorem rdropWhile_kept {ends : Item → Bool} (stays : ends separator = false)
    (before after : List Item) :
    (before ++ separator :: after).rdropWhile ends =
      before ++ separator :: after.rdropWhile ends := by
  induction after using List.reverseRecOn with
  | nil => rw [List.rdropWhile_nil, List.rdropWhile_concat_neg _ _ _ (by simp [stays])]
  | append_singleton after last ih =>
      rw [← List.cons_append, ← List.append_assoc]
      cases dropped : ends last with
      | true => rw [List.rdropWhile_concat_pos _ _ _ dropped, List.rdropWhile_concat_pos _ _ _ dropped,
          ih]
      | false =>
          rw [List.rdropWhile_concat_neg _ _ _ (by simp [dropped]),
            List.rdropWhile_concat_neg _ _ _ (by simp [dropped]), List.append_assoc,
            List.cons_append]

theorem rdropWhile_mem {ends : Item → Bool} {text : List Item} {item : Item}
    (stays : ends item = false) : item ∈ text.rdropWhile ends ↔ item ∈ text := by
  constructor
  · exact fun present => (List.rdropWhile_prefix ends text).subset present
  · intro present
    obtain ⟨before, after, rfl⟩ := List.append_of_mem present
    rw [rdropWhile_kept stays]
    exact List.mem_append_right _ List.mem_cons_self

def weight (size : Item → ℕ) (text : List Item) : ℕ := (text.map size).sum

theorem weight_append (size : Item → ℕ) (before after : List Item) :
    weight size (before ++ after) = weight size before + weight size after := by
  rw [weight, List.map_append, List.sum_append]
  rfl

theorem weight_cons (size : Item → ℕ) (item : Item) (rest : List Item) :
    weight size (item :: rest) = size item + weight size rest := rfl

theorem weight_pos (positive : ∀ item, 0 < size item) {text : List Item} (filled : text ≠ []) :
    0 < weight size text := by
  obtain ⟨item, rest, rfl⟩ := List.exists_cons_of_ne_nil filled
  rw [weight_cons]
  exact Nat.add_pos_left (positive item) _

theorem weight_sublist {fewer more : List Item} (within : fewer.Sublist more) :
    weight size fewer ≤ weight size more :=
  (within.map size).sum_le_sum fun _ _ => Nat.zero_le _

theorem weight_lt {Part : Type} {measure : Part → ℕ} (positive : ∀ part, 0 < measure part)
    {fewer more : List Part} (within : fewer.Sublist more) (differ : fewer ≠ more) :
    weight measure fewer < weight measure more := by
  induction within with
  | slnil => exact absurd rfl differ
  | cons part within _ =>
      rw [weight_cons]
      exact (weight_sublist within).trans_lt (Nat.lt_add_of_pos_left (positive part))
  | cons_cons part _ ih =>
      rw [weight_cons, weight_cons]
      exact Nat.add_lt_add_left (ih fun same => differ (congrArg _ same)) _

/-- The joined words weigh more when there are more of them. -/
theorem join_weight (positive : ∀ item, 0 < size item) {fewer more : List (List Item)}
    (within : fewer.Sublist more) :
    weight size (join separator fewer) ≤ weight size (join separator more) ∧
      (fewer ≠ [] → fewer ≠ more →
        weight size (join separator fewer) < weight size (join separator more)) := by
  have total : ∀ words : List (List Item), words ≠ [] →
      weight size (join separator words) + size separator =
        weight (fun word => weight size word + size separator) words := by
    intro words filled
    induction words using List.reverseRecOn with
    | nil => exact absurd rfl filled
    | append_singleton words last ih =>
        rw [weight_append]
        by_cases first : words = []
        · subst first
          simp [join, weight]
        · rw [join_concat first, weight_append, weight_cons, ← ih first]
          have single : weight (fun word => weight size word + size separator) [last] =
              weight size last + size separator := rfl
          omega
  have short : weight size (join separator ([] : List (List Item))) = 0 := rfl
  by_cases empty : fewer = []
  · subst empty
    rw [short]
    exact ⟨Nat.zero_le _, fun filled => absurd rfl filled⟩
  · have filled : more ≠ [] := fun none => empty (List.sublist_nil.mp (none ▸ within))
    have lighter : weight (fun word => weight size word + size separator) fewer ≤
        weight (fun word => weight size word + size separator) more := weight_sublist within
    rw [← total fewer empty, ← total more filled] at lighter
    refine ⟨by omega, fun _ differ => ?_⟩
    have strict : weight (fun word => weight size word + size separator) fewer <
        weight (fun word => weight size word + size separator) more :=
      weight_lt (fun word => Nat.add_pos_right _ (positive separator)) within differ
    rw [← total fewer empty, ← total more filled] at strict
    omega

/-- Fewer words give a shorter text also after the ends are removed, unless the only word ends
entirely. -/
theorem trimmed_weight (positive : ∀ item, 0 < size item) {ends : Item → Bool}
    (stays : ends separator = false) {fewer more : List (List Item)}
    (within : fewer.Sublist more) (differ : fewer ≠ more) :
    weight size ((join separator fewer).rdropWhile ends) <
        weight size ((join separator more).rdropWhile ends) ∨
      (fewer = [] ∧ ∃ word, more = [word] ∧ ∀ item ∈ word, ends item = true) := by
  induction more using List.reverseRecOn with
  | nil => exact absurd (List.sublist_nil.mp within) differ
  | append_singleton words last _ =>
      have long : words ≠ [] → (join separator (words ++ [last])).rdropWhile ends =
          join separator words ++ separator :: last.rdropWhile ends := by
        intro filled
        rw [join_concat filled, rdropWhile_kept stays]
      have heavy := positive separator
      obtain ⟨before, after, rfl, first, rest⟩ := List.sublist_append_iff.mp within
      obtain ⟨lighter, strict⟩ := @join_weight _ separator _ positive _ _ first
      rcases List.sublist_singleton.mp rest with rfl | rfl
      · rw [List.append_nil]
        by_cases filled : words = []
        · subst filled
          rw [List.sublist_nil.mp first]
          by_cases removed : ∀ item ∈ last, ends item = true
          · exact Or.inr ⟨rfl, last, rfl, removed⟩
          · refine Or.inl (weight_pos positive ?_)
            have single : join separator [last] = last := by simp [join]
            rw [List.nil_append, single, ne_eq, List.rdropWhile_eq_nil_iff]
            exact removed
        · left
          have shorter : weight size ((join separator before).rdropWhile ends) ≤
              weight size (join separator before) :=
            weight_sublist (List.rdropWhile_prefix ends (join separator before)).sublist
          rw [long filled, weight_append, weight_cons]
          omega
      · left
        have other : before ≠ words := by
          rintro rfl
          exact differ rfl
        have filled : words ≠ [] := by
          rintro rfl
          exact other (List.sublist_nil.mp first)
        rw [long filled, weight_append, weight_cons]
        by_cases alone : before = []
        · subst alone
          have single : join separator ([] ++ [last]) = last := by simp [join]
          rw [single]
          omega
        · rw [join_concat alone, rdropWhile_kept stays, weight_append, weight_cons]
          have less := strict alone other
          omega

end Joining

end Words
