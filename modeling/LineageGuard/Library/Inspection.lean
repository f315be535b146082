import LineageGuard.Library.Attempt
import Mathlib.Tactic

/-
This file gives readings of answers that nothing has checked and the rules of their honesty.
-/

namespace Inspection

/-- A reading stops when it cannot tell the value or by an error of its own. -/
inductive Stop (Reason : Type)
  | uninspectable (reason : Reason)
  | thrown

abbrev Reading (Reason Value : Type) : Type := Except (Stop Reason) Value

variable {Reason Value Result : Type}

/-- An honest reading gives the determined value, and without one it tells why. -/
def Honest (determined : Option Value) (reading : Reading Reason Value) : Prop :=
  match determined with
  | some value => reading = .ok value
  | none => ∃ reason, reading = .error (.uninspectable reason)

theorem honest_iff {determined : Option Value} {reading : Reading Reason Value} :
    Honest determined reading ↔
      (∀ value, reading = .ok value ↔ determined = some value) ∧ reading ≠ .error .thrown := by
  cases determined with
  | none =>
      constructor
      · rintro ⟨reason, rfl⟩
        exact ⟨by simp, by simp⟩
      · intro honest
        cases reading with
        | ok value => exact absurd ((honest.1 value).mp rfl) (by simp)
        | error stop =>
            cases stop with
            | uninspectable reason => exact ⟨reason, rfl⟩
            | thrown => exact absurd rfl honest.2
  | some found =>
      constructor
      · intro honest
        rw [Honest] at honest
        rw [honest]
        exact ⟨by simp, by simp⟩
      · intro honest
        exact (honest.1 found).mpr rfl

theorem not_honest_thrown {determined : Option Value} :
    ¬ Honest determined (.error .thrown : Reading Reason Value) := by
  intro honest
  exact (honest_iff.mp honest).2 rfl

theorem honest_uninspectable {determined : Option Value} {reason : Reason} :
    Honest determined (.error (.uninspectable reason)) ↔ determined = none := by
  cases determined <;> simp [Honest]

theorem honest_ok {determined : Option Value} {value : Value} :
    Honest determined (.ok value : Reading Reason Value) ↔ determined = some value := by
  cases determined <;> simp [Honest, eq_comm]

theorem honest_present (found : Option Value) (reason : Reason) :
    Honest found (Attempt.present found (.uninspectable reason)) := by
  cases found with
  | none => exact ⟨reason, rfl⟩
  | some value => rfl

theorem honest_map {determined : Option Value} {reading : Reading Reason Value}
    (view : Value → Result) (honest : Honest determined reading) :
    Honest (determined.map view) (reading.map view) := by
  cases determined with
  | none =>
      obtain ⟨reason, stopped⟩ := honest
      exact ⟨reason, by rw [stopped, Except.map]⟩
  | some value =>
      rw [Honest] at honest
      rw [honest]
      rfl

/-- A reading that goes on from an honest one is honest when it is so for the determined value. -/
theorem honest_bind_iff {determined : Option Value} {reading : Reading Reason Value}
    {known : Value → Option Result} {next : Value → Reading Reason Result}
    (honest : Honest determined reading) :
    Honest (determined.bind known) (reading >>= next) ↔
      ∀ value, determined = some value → Honest (known value) (next value) := by
  cases determined with
  | none =>
      obtain ⟨reason, stopped⟩ := honest
      rw [stopped]
      constructor
      · intro _ value found
        cases found
      · intro _
        exact ⟨reason, rfl⟩
  | some found =>
      rw [Honest] at honest
      rw [honest]
      constructor
      · intro whole value same
        rw [Option.some.injEq] at same
        exact same ▸ whole
      · intro each
        exact each found rfl

/-- A decided reading never says that it cannot tell the value. -/
def Decided (reading : Reading Reason Value) : Prop :=
  ∀ reason, reading ≠ .error (.uninspectable reason)

theorem decided_ok (value : Value) : Decided (.ok value : Reading Reason Value) := by
  intro reason stopped
  cases stopped

theorem decided_thrown : Decided (.error .thrown : Reading Reason Value) := by
  intro reason stopped
  cases stopped

theorem decided_bind {reading : Reading Reason Value} {next : Value → Reading Reason Result}
    (first : Decided reading) (others : ∀ value, Decided (next value)) :
    Decided (reading >>= next) := by
  cases reading with
  | ok value => exact others value
  | error stop =>
      intro reason stopped
      cases stop with
      | uninspectable other => exact first other rfl
      | thrown => cases stopped

theorem decided_mapM {Item : Type} {reader : Item → Reading Reason Value}
    (each : ∀ item, Decided (reader item)) (items : List Item) : Decided (items.mapM reader) := by
  induction items with
  | nil => exact decided_ok []
  | cons item rest ih =>
      rw [List.mapM_cons]
      apply decided_bind (each item)
      intro value
      exact decided_bind ih fun values => decided_ok (value :: values)

/-- A decided reading is honest about no unknown value. -/
theorem not_honest_decided {reading : Reading Reason Value} (decided : Decided reading) :
    ¬ Honest none reading := by
  rintro ⟨reason, stopped⟩
  exact decided reason stopped

end Inspection
