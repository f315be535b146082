import Mathlib.Tactic

/-
This file gives the value that a journal holds and the rules that each of its entries obeys.
-/

namespace Journal

variable {Entry Value : Type}

/-- A journal holds the value of the last entry that sets one, and the first value before. -/
def Holds (sets : Entry → Option Value) (first : Value) (journal : List Entry) (value : Value) :
    Prop :=
  (value = first ∧ ∀ entry ∈ journal, sets entry = none) ∨
    ∃ before entry after, journal = before ++ entry :: after ∧ sets entry = some value ∧
      ∀ later ∈ after, sets later = none

/-- Every entry obeys its rule against the entries before it. -/
def Everywhere (rule : List Entry → Entry → Prop) (journal : List Entry) : Prop :=
  ∀ before entry after, journal = before ++ entry :: after → rule before entry

section Holds

variable {sets : Entry → Option Value} {first value : Value} {journal : List Entry}

theorem holds_nil : Holds sets first [] value ↔ value = first := by
  simp [Holds]

/-- A split of a longer journal ends with the added entry or splits the shorter one. -/
theorem append_split {entry last : Entry} {before after : List Entry} :
    journal ++ [last] = before ++ entry :: after ↔
      (journal = before ∧ last = entry ∧ after = []) ∨
        ∃ rest, after = rest ++ [last] ∧ journal = before ++ entry :: rest := by
  induction after using List.reverseRecOn with
  | nil => simp
  | append_singleton rest other =>
      rw [← List.cons_append, ← List.append_assoc, List.append_singleton_inj]
      simp only [List.append_eq_nil_iff, List.cons_ne_self, and_false, false_or,
        List.append_singleton_inj]
      constructor
      · rintro ⟨same, rfl⟩
        exact ⟨rest, ⟨rfl, rfl⟩, same⟩
      · rintro ⟨_, ⟨rfl, rfl⟩, same⟩
        exact ⟨same, rfl⟩

/-- An entry that sets a value decides it, and every other entry leaves it. -/
theorem holds_append {last : Entry} :
    Holds sets first (journal ++ [last]) value ↔
      sets last = some value ∨ (sets last = none ∧ Holds sets first journal value) := by
  constructor
  · rintro (⟨same, silent⟩ | ⟨before, entry, after, whole, isSet, silent⟩)
    · have earlier : ∀ entry ∈ journal, sets entry = none := by
        intro entry present
        exact silent entry (List.mem_append_left _ present)
      exact Or.inr ⟨silent last (by simp), Or.inl ⟨same, earlier⟩⟩
    · rcases append_split.mp whole with ⟨_, rfl, _⟩ | ⟨rest, rfl, shorter⟩
      · exact Or.inl isSet
      · have earlier : ∀ later ∈ rest, sets later = none := by
          intro later present
          exact silent later (List.mem_append_left _ present)
        exact Or.inr ⟨silent last (by simp), Or.inr ⟨before, entry, rest, shorter, isSet, earlier⟩⟩
  · rintro (isSet | ⟨silentLast, ⟨same, silent⟩ | ⟨before, entry, after, rfl, isSet, silent⟩⟩)
    · exact Or.inr ⟨journal, last, [], rfl, isSet, by simp⟩
    · refine Or.inl ⟨same, ?_⟩
      intro entry present
      rcases List.mem_append.mp present with old | added
      · exact silent entry old
      · rw [List.mem_singleton.mp added]
        exact silentLast
    · refine Or.inr ⟨before, entry, after ++ [last], by simp, isSet, ?_⟩
      intro later present
      rcases List.mem_append.mp present with old | added
      · exact silent later old
      · rw [List.mem_singleton.mp added]
        exact silentLast

/-- A fold over a journal computes the value that the journal holds. -/
theorem holds_foldl : Holds sets first journal value ↔
    journal.foldl (fun held entry => (sets entry).getD held) first = value := by
  induction journal using List.reverseRecOn generalizing value with
  | nil =>
      rw [holds_nil]
      exact eq_comm
  | append_singleton journal last ih =>
      rw [holds_append, List.foldl_append, ih]
      cases isSet : sets last <;> simp [isSet]

end Holds

section Everywhere

variable {rule : List Entry → Entry → Prop} {journal : List Entry}

theorem everywhere_nil : Everywhere rule [] := by
  intro before entry after whole
  simp at whole

/-- A longer journal obeys the rule exactly when its last entry does as well. -/
theorem everywhere_append {last : Entry} :
    Everywhere rule (journal ++ [last]) ↔ Everywhere rule journal ∧ rule journal last := by
  constructor
  · intro obeys
    refine ⟨?_, obeys journal last [] rfl⟩
    intro before entry after whole
    exact obeys before entry (after ++ [last]) (by rw [whole]; simp)
  · rintro ⟨obeys, obeysLast⟩ before entry after whole
    rcases append_split.mp whole with ⟨rfl, rfl, _⟩ | ⟨rest, _, shorter⟩
    · exact obeysLast
    · exact obeys before entry rest shorter

end Everywhere

end Journal
