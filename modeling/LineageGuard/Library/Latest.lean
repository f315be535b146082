import Mathlib.Tactic

/-
This file gives the last item of a list that satisfies a condition.
-/

namespace Latest

variable {Item : Type}

/-- The last accepted item comes with its index. -/
def latest (accepts : Item → Bool) (items : List Item) : Option (ℕ × Item) :=
  (items.zipIdx.filter fun entry => accepts entry.1).getLast?.map fun entry => (entry.2, entry.1)

variable {accepts : Item → Bool} {items : List Item} {index : ℕ} {item : Item}

theorem latest_append (accepts : Item → Bool) (items : List Item) (item : Item) :
    latest accepts (items ++ [item]) =
      if accepts item then some (items.length, item) else latest accepts items := by
  rw [latest, List.zipIdx_append, List.filter_append]
  by_cases accepted : accepts item = true
  · simp [List.zipIdx_cons, accepted]
  · simp [List.zipIdx_cons, accepted, latest]

/-- No accepted item follows the last one. -/
theorem latest_some : latest accepts items = some (index, item) ↔
    items[index]? = some item ∧ accepts item = true ∧
      ∀ later other, index < later → items[later]? = some other → accepts other = false := by
  induction items using List.reverseRecOn generalizing index item with
  | nil => simp [latest]
  | append_singleton items last ih =>
      rw [latest_append]
      by_cases accepted : accepts last = true
      · rw [if_pos accepted, Option.some.injEq, Prod.mk.injEq]
        constructor
        · rintro ⟨rfl, rfl⟩
          refine ⟨by simp, accepted, fun later other after isOther => ?_⟩
          rw [List.getElem?_eq_none (by simp; omega)] at isOther
          exact nomatch isOther
        · rintro ⟨isItem, _, none⟩
          have short : index < items.length + 1 := by
            simpa using (List.getElem?_eq_some_iff.mp isItem).1
          have here : index = items.length := by
            by_contra other
            have refused := none items.length last (by omega) (by simp)
            rw [accepted] at refused
            exact nomatch refused
          subst here
          rw [List.getElem?_concat_length] at isItem
          exact ⟨rfl, Option.some.inj isItem⟩
      · rw [if_neg accepted, ih]
        rw [Bool.not_eq_true] at accepted
        constructor
        · rintro ⟨isItem, isAccepted, none⟩
          have short := (List.getElem?_eq_some_iff.mp isItem).1
          refine ⟨by rw [List.getElem?_append_left short]; exact isItem, isAccepted, ?_⟩
          intro later other after isOther
          by_cases within : later < items.length
          · rw [List.getElem?_append_left within] at isOther
            exact none later other after isOther
          · have bound : later < items.length + 1 := by
              simpa using (List.getElem?_eq_some_iff.mp isOther).1
            obtain rfl : later = items.length := by omega
            rw [List.getElem?_concat_length] at isOther
            rw [← Option.some.inj isOther]
            exact accepted
        · rintro ⟨isItem, isAccepted, none⟩
          have bound : index < items.length + 1 := by
            simpa using (List.getElem?_eq_some_iff.mp isItem).1
          have short : index < items.length := by
            by_contra outside
            obtain rfl : index = items.length := by omega
            rw [List.getElem?_concat_length] at isItem
            rw [Option.some.inj isItem, isAccepted] at accepted
            exact nomatch accepted
          rw [List.getElem?_append_left short] at isItem
          refine ⟨isItem, isAccepted, fun later other after isOther => ?_⟩
          have within := (List.getElem?_eq_some_iff.mp isOther).1
          exact none later other after (by rw [List.getElem?_append_left within]; exact isOther)

theorem latest_none : latest accepts items = none ↔ ∀ item ∈ items, accepts item = false := by
  induction items using List.reverseRecOn with
  | nil => simp [latest]
  | append_singleton items last ih =>
      rw [latest_append]
      by_cases accepted : accepts last = true
      · rw [if_pos accepted]
        refine iff_of_false nofun fun none => ?_
        rw [none last (by simp)] at accepted
        exact nomatch accepted
      · rw [if_neg accepted, ih]
        rw [Bool.not_eq_true] at accepted
        simp only [List.mem_append, List.mem_singleton]
        constructor
        · rintro none item (present | rfl)
          · exact none item present
          · exact accepted
        · exact fun none item present => none item (Or.inl present)

/-- The last accepted item is also the last one that a narrower condition accepts. -/
theorem latest_narrow {narrow : Item → Bool} (isLatest : latest accepts items = some (index, item))
    (accepted : narrow item = true) (within : ∀ other, narrow other = true → accepts other = true) :
    latest narrow items = some (index, item) := by
  obtain ⟨isItem, _, none⟩ := latest_some.mp isLatest
  rw [latest_some]
  refine ⟨isItem, accepted, fun later other after isOther => ?_⟩
  by_contra found
  have refused := none later other after isOther
  rw [within other (Bool.not_eq_false _ ▸ found)] at refused
  exact nomatch refused

end Latest
