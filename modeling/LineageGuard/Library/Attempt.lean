import Mathlib.Tactic

/-
This file gives the rules for computations that commit a value or raise an error.
-/

namespace Attempt

variable {Error Value Result : Type}

/-- The check raises the error unless the condition holds. -/
def require (condition : Prop) [Decidable condition] (error : Error) : Except Error Unit :=
  if condition then .ok () else .error error

/-- The check raises the error when the condition holds. -/
def reject (condition : Prop) [Decidable condition] (error : Error) : Except Error Unit :=
  if condition then .error error else .ok ()

/-- The lookup raises the error when the value is missing. -/
def present (value : Option Value) (error : Error) : Except Error Value :=
  match value with
  | some found => .ok found
  | none => .error error

/-- The check runs only under the condition. -/
def whenever (condition : Prop) [Decidable condition] (check : Except Error Unit) :
    Except Error Unit :=
  if condition then check else .ok ()

@[simp] theorem bind_ok {first : Except Error Value} {next : Value → Except Error Result}
    {result : Result} :
    (first >>= next) = .ok result ↔ ∃ value, first = .ok value ∧ next value = .ok result := by
  cases first <;> simp [bind, Except.bind]

@[simp] theorem pure_ok {value result : Value} :
    (pure value : Except Error Value) = .ok result ↔ value = result := by
  simp [pure, Except.pure]

/-- The check of all items passes when each of them does. -/
theorem forM_ok {Item : Type} {check : Item → Except Error Unit} {items : List Item} :
    items.forM check = .ok () ↔ ∀ item ∈ items, check item = .ok () := by
  induction items with
  | nil => simp
  | cons item rest ih =>
      change (check item >>= fun _ => rest.forM check) = .ok () ↔ _
      rw [bind_ok, List.forall_mem_cons, ← ih]
      constructor
      · rintro ⟨⟨⟩, first, others⟩
        exact ⟨first, others⟩
      · rintro ⟨first, others⟩
        exact ⟨_, first, others⟩

@[simp] theorem require_ok {condition : Prop} [Decidable condition] {error : Error} {done : Unit} :
    require condition error = .ok done ↔ condition := by
  unfold require
  split <;> simp [*]

@[simp] theorem reject_ok {condition : Prop} [Decidable condition] {error : Error} {done : Unit} :
    reject condition error = .ok done ↔ ¬ condition := by
  unfold reject
  split <;> simp [*]

@[simp] theorem whenever_ok {condition : Prop} [Decidable condition] {check : Except Error Unit}
    {done : Unit} : whenever condition check = .ok done ↔ (condition → check = .ok ()) := by
  unfold whenever
  split <;> simp [*]

@[simp] theorem present_ok {value : Option Value} {error : Error} {found : Value} :
    present value error = .ok found ↔ value = some found := by
  cases value <;> simp [present]

@[simp] theorem mapError_ok {first : Except Error Value} {Other : Type} {change : Error → Other}
    {value : Value} : first.mapError change = .ok value ↔ first = .ok value := by
  cases first <;> simp [Except.mapError]

/-- The values of a list come from its items one by one. -/
theorem mapM_ok {Item : Type} {check : Item → Except Error Value} {items : List Item}
    {values : List Value} :
    items.mapM check = .ok values ↔
      List.Forall₂ (fun item value => check item = .ok value) items values := by
  induction items generalizing values with
  | nil =>
      rw [List.mapM_nil, pure_ok, List.forall₂_nil_left_iff]
      exact eq_comm
  | cons item rest ih =>
      rw [List.mapM_cons, bind_ok]
      constructor
      · rintro ⟨value, first, others⟩
        obtain ⟨found, isFound, same⟩ := bind_ok.mp others
        rw [pure_ok] at same
        rw [← same]
        exact List.Forall₂.cons first (ih.mp isFound)
      · intro each
        cases each with
        | cons first others =>
            exact ⟨_, first, bind_ok.mpr ⟨_, ih.mpr others, rfl⟩⟩

end Attempt
