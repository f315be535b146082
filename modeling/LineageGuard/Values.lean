import Mathlib.Tactic

/-
This file gives the values that the domain and the store share.
-/

namespace LineageGuard

/-- Each kind of identifier has its own textual start. -/
inductive IdKind
  | run | evt | lease | retry | bundle | decision | migration | val
  | approval | effect | effectReservation | effectAttempt | effectFence | receipt | failure
  | reconciliation
  deriving DecidableEq, Repr

/-- An identifier is a number that its hexadecimal digits write. -/
structure Id (kind : IdKind) where
  suffix : ℕ
  deriving DecidableEq, Repr

abbrev RunId := Id .run
abbrev EventId := Id .evt
abbrev LeaseId := Id .lease
abbrev RetryId := Id .retry
abbrev BundleId := Id .bundle
abbrev DecisionId := Id .decision
abbrev MigrationId := Id .migration
abbrev ValidationReceiptId := Id .val
abbrev ApprovalId := Id .approval
abbrev IntentId := Id .effect
abbrev ReservationId := Id .effectReservation
abbrev AttemptId := Id .effectAttempt
abbrev AttemptFence := Id .effectFence
abbrev ReceiptId := Id .receipt
abbrev FailureId := Id .failure
abbrev ReconciliationId := Id .reconciliation

/-- A fingerprint is the number that a lowercase SHA-256 digest writes. -/
structure Fingerprint where
  digest : ℕ
  deriving DecidableEq, Repr

/-- A JSON document is known by its content and by the length of its canonical text. -/
structure Jsonb where
  content : ℕ
  bytes : ℕ
  deriving DecidableEq, Repr

/-- A timestamp counts microseconds and a date counts milliseconds from the start of the year 0.
The driver drops the microseconds of a timestamp that it reads. -/
def toDate (instant : ℕ) : ℕ := instant / 1000

def toTimestamp (date : ℕ) : ℕ := date * 1000

/-- The four-digit years end before this date. -/
def isoLimit : ℕ := 315569520000000

/-- A date-time text is its instant and its spelling, and spelling 0 is that of `toISOString`. -/
structure IsoDateTime where
  instant : ℕ
  spelling : ℕ
  deriving DecidableEq, Repr

/-- This is the value of `getTime`. -/
def IsoDateTime.time (text : IsoDateTime) : ℕ := toDate text.instant

def toISOString (date : ℕ) : IsoDateTime := ⟨toTimestamp date, 0⟩

/-- The text of `toISOString` has a four-digit year exactly before the limit. -/
def IsoDateTime.Valid (text : IsoDateTime) : Prop := text.spelling ≠ 0 ∨ text.time < isoLimit

instance (text : IsoDateTime) : Decidable text.Valid := inferInstanceAs (Decidable (_ ∨ _))

/-- A character outside the basic plane counts twice in a script's text length. -/
def utf16Length (text : String) : ℕ :=
  (text.toList.map fun char => if 0x10000 ≤ char.toNat then 2 else 1).sum

/-- The largest safe integer of a script. -/
def maxSafeInteger : ℕ := 9007199254740991

theorem toDate_mono {first second : ℕ} (ordered : first ≤ second) :
    toDate first ≤ toDate second := Nat.div_le_div_right ordered

@[simp] theorem toDate_toTimestamp (date : ℕ) : toDate (toTimestamp date) = date := by
  simp [toDate, toTimestamp]

/-- A date is not later than the date of an instant exactly when its own instant is not. -/
theorem toTimestamp_le {date : ℕ} {instant : ℕ} :
    toTimestamp date ≤ instant ↔ date ≤ toDate instant := by
  simp only [toTimestamp, toDate]
  omega

theorem lt_toTimestamp {date : ℕ} {instant : ℕ} :
    instant < toTimestamp date ↔ toDate instant < date := by
  simp only [toTimestamp, toDate]
  omega

theorem toTimestamp_inj {first second : ℕ} :
    toTimestamp first = toTimestamp second ↔ first = second := by
  simp only [toTimestamp]
  omega

@[simp] theorem toISOString_time (date : ℕ) : (toISOString date).time = date :=
  toDate_toTimestamp date

@[simp] theorem toISOString_instant (date : ℕ) :
    (toISOString date).instant = toTimestamp date := rfl

theorem toISOString_inj {first second : ℕ} :
    toISOString first = toISOString second ↔ first = second := by
  simp [toISOString, toTimestamp_inj]

theorem toISOString_valid {date : ℕ} : (toISOString date).Valid ↔ date < isoLimit := by
  simp [IsoDateTime.Valid, toISOString, IsoDateTime.time]

/-- The database counts no more characters than the script. -/
theorem length_le_utf16Length (text : String) : text.length ≤ utf16Length text := by
  rw [utf16Length, ← String.length_toList]
  induction text.toList with
  | nil => simp
  | cons char rest ih =>
      rw [List.map_cons, List.sum_cons, List.length_cons]
      split <;> omega

theorem length_pos_of_utf16Length {text : String} (counted : 1 ≤ utf16Length text) :
    1 ≤ text.length := by
  by_contra empty
  have none : text.toList = [] := by
    rw [← List.length_eq_zero_iff, String.length_toList]
    omega
  simp [utf16Length, none] at counted

end LineageGuard
