import Mathlib.Tactic

/-
This file gives the three-valued logic of SQL guards.
-/

namespace SqlLogic

/-- A truth value is unknown when a comparison meets a missing operand. -/
abbrev Truth := Option Bool

def or3 : Truth → Truth → Truth
  | some true, _ => some true
  | _, some true => some true
  | some false, some false => some false
  | _, _ => none

/-- A disjunction of guards, read from left to right. -/
def anyOf : List Truth → Truth
  | [] => some false
  | guard :: rest => or3 guard (anyOf rest)

/-- A conditional statement takes its branch only on a true condition. -/
def Holds (truth : Truth) : Prop := truth = some true

instance (truth : Truth) : Decidable (Holds truth) := inferInstanceAs (Decidable (_ = _))

section Comparisons
variable {A : Type} [DecidableEq A]

/-- This is the operator `<>`. -/
def notEqual : Option A → Option A → Truth
  | some left, some right => some (decide (left ≠ right))
  | _, _ => none

/-- This is the predicate `IS DISTINCT FROM`. -/
def isDistinct (left right : Option A) : Truth := some (decide (left ≠ right))

end Comparisons

/-- This is the predicate `IS NULL`. -/
def isNull {A : Type} (value : Option A) : Truth := some value.isNone

/-- This is the operator `<=` on numbers. -/
def lessEqual : Option Nat → Option Nat → Truth
  | some left, some right => some (decide (left ≤ right))
  | _, _ => none

/-- This is the operator `>` on numbers. -/
def greater : Option Nat → Option Nat → Truth
  | some left, some right => some (decide (right < left))
  | _, _ => none

/-- A disjunction is true exactly when one of its guards is true. -/
theorem or3_holds (left right : Truth) : Holds (or3 left right) ↔ Holds left ∨ Holds right := by
  rcases left with _ | _ | _ <;> rcases right with _ | _ | _ <;> simp [or3, Holds]

@[simp] theorem anyOf_nil_holds : ¬ Holds (anyOf []) := by simp [anyOf, Holds]

@[simp] theorem anyOf_cons_holds (guard : Truth) (rest : List Truth) :
    Holds (anyOf (guard :: rest)) ↔ Holds guard ∨ Holds (anyOf rest) :=
  or3_holds guard (anyOf rest)

theorem anyOf_append_holds (first second : List Truth) :
    Holds (anyOf (first ++ second)) ↔ Holds (anyOf first) ∨ Holds (anyOf second) := by
  induction first with
  | nil => simp
  | cons guard rest ih => simp [ih, or_assoc]

section Comparisons
variable {A : Type} [DecidableEq A]

/-- A missing operand on either side passes an inequality guard. -/
@[simp] theorem notEqual_holds (left right : Option A) :
    Holds (notEqual left right) ↔ ∃ x y, left = some x ∧ right = some y ∧ x ≠ y := by
  cases left <;> cases right <;> simp [notEqual, Holds]

@[simp] theorem notEqual_some_holds (left : A) (right : Option A) :
    Holds (notEqual (some left) right) ↔ ∃ y, right = some y ∧ left ≠ y := by
  cases right <;> simp [notEqual, Holds]

/-- A passed inequality guard leaves the argument missing or equal to the stored value. -/
theorem not_notEqual_some_holds (stored : A) (argument : Option A) :
    ¬ Holds (notEqual (some stored) argument) ↔ argument = none ∨ argument = some stored := by
  cases argument with
  | none => simp [notEqual, Holds]
  | some value =>
      simp only [notEqual, Holds, Option.some.injEq, decide_eq_true_eq, ne_eq, not_not,
        reduceCtorEq, false_or]
      exact eq_comm

@[simp] theorem not_notEqual_values (left right : A) :
    ¬ Holds (notEqual (some left) (some right)) ↔ left = right := by
  simp [notEqual, Holds]

@[simp] theorem isDistinct_holds (left right : Option A) :
    Holds (isDistinct left right) ↔ left ≠ right := by
  simp [isDistinct, Holds]

end Comparisons

@[simp] theorem isNull_holds {A : Type} (value : Option A) :
    Holds (isNull value) ↔ value = none := by
  cases value <;> simp [isNull, Holds]

@[simp] theorem lessEqual_holds (left right : Option Nat) :
    Holds (lessEqual left right) ↔ ∃ x y, left = some x ∧ right = some y ∧ x ≤ y := by
  cases left <;> cases right <;> simp [lessEqual, Holds]

@[simp] theorem not_lessEqual_values (left right : Nat) :
    ¬ Holds (lessEqual (some left) (some right)) ↔ right < left := by
  simp [lessEqual, Holds]

@[simp] theorem greater_holds (left right : Option Nat) :
    Holds (greater left right) ↔ ∃ x y, left = some x ∧ right = some y ∧ y < x := by
  cases left <;> cases right <;> simp [greater, Holds]

@[simp] theorem not_greater_values (left right : Nat) :
    ¬ Holds (greater (some left) (some right)) ↔ left ≤ right := by
  simp [greater, Holds]

end SqlLogic
