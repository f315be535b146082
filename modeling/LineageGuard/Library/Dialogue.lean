import Mathlib.Tactic

/-
This file gives the rules for programs that ask an environment and continue with its replies.
-/

namespace Dialogue

/-- A program ends with a value or an error, or it asks and continues with the reply. -/
inductive Program (Call : Type) (Reply : Call → Type) (Error Value : Type)
  | done (result : Except Error Value)
  | ask (call : Call) (next : Reply call → Program Call Reply Error Value)

/-- An exchange pairs a call with its reply. -/
structure Exchange (Call : Type) (Reply : Call → Type) where
  call : Call
  reply : Reply call

section Programs

variable {Call : Type} {Reply : Call → Type} {Error Value Result : Type}

namespace Program

def bind (first : Program Call Reply Error Value)
    (next : Value → Program Call Reply Error Result) : Program Call Reply Error Result :=
  match first with
  | .done (.ok value) => next value
  | .done (.error error) => .done (.error error)
  | .ask call answered => .ask call fun reply => (answered reply).bind next

instance : Monad (Program Call Reply Error) where
  pure value := .done (.ok value)
  bind := bind

/-- The handler continues after an error. -/
def recover (first : Program Call Reply Error Value)
    (handler : Error → Program Call Reply Error Value) : Program Call Reply Error Value :=
  match first with
  | .done (.ok value) => .done (.ok value)
  | .done (.error error) => handler error
  | .ask call answered => .ask call fun reply => (answered reply).recover handler

def perform (call : Call) : Program Call Reply Error (Reply call) :=
  .ask call fun reply => .done (.ok reply)

def fail (error : Error) : Program Call Reply Error Value := .done (.error error)

/-- The result of the whole program is changed at its end. -/
def conclude {OtherError : Type} (change : Except Error Value → Except OtherError Result)
    (first : Program Call Reply Error Value) : Program Call Reply OtherError Result :=
  match first with
  | .done result => .done (change result)
  | .ask call answered => .ask call fun reply => (answered reply).conclude change

theorem bind_assoc {Final : Type} (first : Program Call Reply Error Value)
    (second : Value → Program Call Reply Error Result)
    (third : Result → Program Call Reply Error Final) :
    (first >>= second) >>= third = first >>= fun value => second value >>= third := by
  show (first.bind second).bind third = first.bind fun value => (second value).bind third
  induction first with
  | done result => cases result <;> rfl
  | ask call answered ih => simp only [Program.bind, ih]

/-- Nothing follows an error. -/
theorem bind_fail (close : Program Call Reply Error Unit) (error : Error)
    (next : Value → Program Call Reply Error Result) :
    (close >>= fun _ => fail error) >>= next = close >>= fun _ => fail error := by
  show (close.bind fun _ => fail error).bind next = close.bind fun _ => fail error
  induction close with
  | done result => cases result <;> rfl
  | ask call answered ih => simp only [Program.bind, ih]

/-- The closing part runs after an error, which is raised again. -/
def closeOnError (first : Program Call Reply Error Value)
    (close : Program Call Reply Error Unit) : Program Call Reply Error Value :=
  first.recover fun error => close >>= fun _ => fail error

/-- The closing part runs in every case. -/
def closing (first : Program Call Reply Error Value)
    (close : Program Call Reply Error Unit) : Program Call Reply Error Value :=
  first.closeOnError close >>= fun value => close >>= fun _ => pure value

end Program

/-- A run of a program is one list of exchanges together with the result. -/
inductive Runs : Program Call Reply Error Value → List (Exchange Call Reply) →
    Except Error Value → Prop
  | done (result : Except Error Value) : Runs (.done result) [] result
  | ask {call : Call} {next : Reply call → Program Call Reply Error Value} (reply : Reply call)
      {trace : List (Exchange Call Reply)} {result : Except Error Value}
      (rest : Runs (next reply) trace result) : Runs (.ask call next) (⟨call, reply⟩ :: trace) result

theorem Runs.bind_ok {first : Program Call Reply Error Value}
    {next : Value → Program Call Reply Error Result} {before after : List (Exchange Call Reply)}
    {value : Value} {result : Except Error Result} (runs : Runs first before (.ok value))
    (continues : Runs (next value) after result) :
    Runs (first >>= next) (before ++ after) result := by
  generalize ended : (.ok value : Except Error Value) = outcome at runs
  induction runs with
  | done result =>
      subst ended
      exact continues
  | ask reply rest ih => exact .ask reply (ih ended)

theorem Runs.bind_error {first : Program Call Reply Error Value}
    {next : Value → Program Call Reply Error Result} {trace : List (Exchange Call Reply)}
    {error : Error} (runs : Runs first trace (.error error)) :
    Runs (first >>= next) trace (.error error) := by
  generalize ended : (.error error : Except Error Value) = outcome at runs
  induction runs with
  | done result =>
      subst ended
      exact .done _
  | ask reply rest ih => exact .ask reply (ih ended)

theorem Runs.recover_ok {first : Program Call Reply Error Value}
    {handler : Error → Program Call Reply Error Value} {trace : List (Exchange Call Reply)}
    {value : Value} (runs : Runs first trace (.ok value)) :
    Runs (first.recover handler) trace (.ok value) := by
  generalize ended : (.ok value : Except Error Value) = outcome at runs
  induction runs with
  | done result =>
      subst ended
      exact .done _
  | ask reply rest ih => exact .ask reply (ih ended)

theorem Runs.recover_error {first : Program Call Reply Error Value}
    {handler : Error → Program Call Reply Error Value}
    {before after : List (Exchange Call Reply)} {error : Error} {result : Except Error Value}
    (runs : Runs first before (.error error)) (continues : Runs (handler error) after result) :
    Runs (first.recover handler) (before ++ after) result := by
  generalize ended : (.error error : Except Error Value) = outcome at runs
  induction runs with
  | done result =>
      subst ended
      exact continues
  | ask reply rest ih => exact .ask reply (ih ended)

/-- A run of a sequence ends in its first part or goes through both parts. -/
theorem Runs.bind_cases {first : Program Call Reply Error Value}
    {next : Value → Program Call Reply Error Result} {trace : List (Exchange Call Reply)}
    {result : Except Error Result} (runs : Runs (first >>= next) trace result) :
    (∃ error, Runs first trace (.error error) ∧ result = .error error) ∨
      ∃ before after value, trace = before ++ after ∧ Runs first before (.ok value) ∧
        Runs (next value) after result := by
  induction first generalizing trace with
  | done outcome =>
      cases outcome with
      | ok value => exact Or.inr ⟨[], trace, value, rfl, .done _, runs⟩
      | error error =>
          have ended : Runs (.done (.error error)) trace result := runs
          cases ended
          exact Or.inl ⟨error, .done _, rfl⟩
  | ask call answered ih =>
      have asked : Runs (.ask call fun reply => answered reply >>= next) trace result := runs
      cases asked with
      | ask reply rest =>
          rcases ih reply rest with ⟨error, runs, ended⟩ | ⟨before, after, value, split, runs, rest⟩
          · exact Or.inl ⟨error, .ask reply runs, ended⟩
          · exact Or.inr ⟨⟨call, reply⟩ :: before, after, value, by rw [split, List.cons_append],
              .ask reply runs, rest⟩

/-- A run with a value goes through both parts of a sequence. -/
theorem Runs.bind_value {first : Program Call Reply Error Value}
    {next : Value → Program Call Reply Error Result} {trace : List (Exchange Call Reply)}
    {result : Result} (runs : Runs (first >>= next) trace (.ok result)) :
    ∃ before after value, trace = before ++ after ∧ Runs first before (.ok value) ∧
      Runs (next value) after (.ok result) := by
  rcases runs.bind_cases with ⟨error, _, raised⟩ | continued
  · cases raised
  · exact continued

/-- A changed result comes from the result of the program. -/
theorem Runs.conclude_iff {OtherError : Type} {change : Except Error Value → Except OtherError Result}
    {first : Program Call Reply Error Value} {trace : List (Exchange Call Reply)}
    {result : Except OtherError Result} :
    Runs (first.conclude change) trace result ↔
      ∃ outcome, Runs first trace outcome ∧ result = change outcome := by
  induction first generalizing trace with
  | done outcome =>
      constructor
      · intro runs
        have ended : Runs (.done (change outcome)) trace result := runs
        cases ended
        exact ⟨outcome, .done _, rfl⟩
      · rintro ⟨found, runs, rfl⟩
        cases runs
        exact .done _
  | ask call answered ih =>
      constructor
      · intro runs
        have asked : Runs (.ask call fun reply => (answered reply).conclude change) trace result :=
          runs
        cases asked with
        | ask reply rest =>
            obtain ⟨outcome, found, same⟩ := (ih reply).mp rest
            exact ⟨outcome, .ask reply found, same⟩
      · rintro ⟨outcome, runs, same⟩
        cases runs with
        | ask reply rest => exact .ask reply ((ih reply).mpr ⟨outcome, rest, same⟩)

/-- A run of a recovered program ends with a value or goes on with the handler. -/
theorem Runs.recover_cases {first : Program Call Reply Error Value}
    {handler : Error → Program Call Reply Error Value} {trace : List (Exchange Call Reply)}
    {result : Except Error Value} (runs : Runs (first.recover handler) trace result) :
    (∃ value, Runs first trace (.ok value) ∧ result = .ok value) ∨
      ∃ before after error, trace = before ++ after ∧ Runs first before (.error error) ∧
        Runs (handler error) after result := by
  induction first generalizing trace with
  | done outcome =>
      cases outcome with
      | ok value =>
          have ended : Runs (.done (.ok value)) trace result := runs
          cases ended
          exact Or.inl ⟨value, .done _, rfl⟩
      | error error => exact Or.inr ⟨[], trace, error, rfl, .done _, runs⟩
  | ask call answered ih =>
      have asked : Runs (.ask call fun reply => (answered reply).recover handler) trace result :=
        runs
      cases asked with
      | ask reply rest =>
          rcases ih reply rest with ⟨value, runs, ended⟩ | ⟨before, after, error, split, runs, rest⟩
          · exact Or.inl ⟨value, .ask reply runs, ended⟩
          · exact Or.inr ⟨⟨call, reply⟩ :: before, after, error, by rw [split, List.cons_append],
              .ask reply runs, rest⟩

theorem Runs.done_cases {outcome result : Except Error Value}
    {trace : List (Exchange Call Reply)}
    (runs : Runs (.done outcome : Program Call Reply Error Value) trace result) :
    trace = [] ∧ result = outcome := by
  cases runs
  exact ⟨rfl, rfl⟩

theorem Runs.perform_cases {call : Call}
    {next : Reply call → Program Call Reply Error Result} {trace : List (Exchange Call Reply)}
    {result : Except Error Result} (runs : Runs (Program.perform call >>= next) trace result) :
    ∃ reply rest, trace = ⟨call, reply⟩ :: rest ∧ Runs (next reply) rest result := by
  have asked : Runs (.ask call next) trace result := runs
  cases asked with
  | ask reply rest => exact ⟨reply, _, rfl, rest⟩

/-- A closing part that succeeds keeps the result. -/
theorem Runs.closing {first : Program Call Reply Error Value}
    {close : Program Call Reply Error Unit} {before after : List (Exchange Call Reply)}
    {result : Except Error Value} (runs : Runs first before result)
    (closes : Runs close after (.ok ())) : Runs (first.closing close) (before ++ after) result := by
  cases result with
  | ok value =>
      have kept : Runs (close >>= fun _ => Program.done (.ok value)) (after ++ []) (.ok value) :=
        closes.bind_ok (.done _)
      rw [List.append_nil] at kept
      exact runs.recover_ok.bind_ok kept
  | error error =>
      have raised : Runs (close >>= fun _ => Program.done (.error error)) (after ++ [])
          (.error error : Except Error Value) := closes.bind_ok (.done _)
      rw [List.append_nil] at raised
      exact (runs.recover_error raised).bind_error

/-- No run of the program has a bad exchange. -/
def Avoids (bad : Exchange Call Reply → Prop) (program : Program Call Reply Error Value) : Prop :=
  ∀ trace result, Runs program trace result → ∀ exchange ∈ trace, ¬ bad exchange

variable {bad : Exchange Call Reply → Prop}

theorem Avoids.done (outcome : Except Error Value) :
    Avoids bad (.done outcome : Program Call Reply Error Value) := by
  intro trace result runs
  rw [runs.done_cases.1]
  exact fun _ present => nomatch present

theorem Avoids.bind {first : Program Call Reply Error Value}
    {next : Value → Program Call Reply Error Result} (avoids : Avoids bad first)
    (rest : ∀ value, Avoids bad (next value)) : Avoids bad (first >>= next) := by
  intro trace result runs
  rcases runs.bind_cases with ⟨error, part, _⟩ | ⟨before, after, value, rfl, part, continues⟩
  · exact avoids _ _ part
  · intro exchange present
    rcases List.mem_append.mp present with early | late
    · exact avoids _ _ part exchange early
    · exact rest value _ _ continues exchange late

theorem Avoids.perform {call : Call} {next : Reply call → Program Call Reply Error Result}
    (good : ∀ reply, ¬ bad ⟨call, reply⟩) (rest : ∀ reply, Avoids bad (next reply)) :
    Avoids bad (Program.perform call >>= next) := by
  intro trace result runs
  obtain ⟨reply, others, rfl, continues⟩ := runs.perform_cases
  rintro exchange present
  rcases List.mem_cons.mp present with rfl | later
  · exact good reply
  · exact rest reply _ _ continues exchange later

end Programs

section Rules

variable {Call : Type} {Reply : Call → Type} {Error Value Result : Type}
variable {guard : List (Exchange Call Reply) → Call → Prop}
variable {past : List (Exchange Call Reply)}

/-- The guard holds of every call and the ending of every result, given the earlier exchanges. -/
def Holds (guard : List (Exchange Call Reply) → Call → Prop)
    (ending : List (Exchange Call Reply) → Except Error Value → Prop) :
    List (Exchange Call Reply) → Program Call Reply Error Value → Prop
  | past, .done result => ending past result
  | past, .ask call next =>
      guard past call ∧ ∀ reply, Holds guard ending (past ++ [⟨call, reply⟩]) (next reply)

/-- An error ends a sequence and a value continues it. -/
def Continues (guard : List (Exchange Call Reply) → Call → Prop)
    (ending : List (Exchange Call Reply) → Except Error Result → Prop)
    (next : Value → Program Call Reply Error Result) (past : List (Exchange Call Reply)) :
    Except Error Value → Prop
  | .ok value => Holds guard ending past (next value)
  | .error error => ending past (.error error)

theorem Holds.bind {ending : List (Exchange Call Reply) → Except Error Result → Prop}
    {first : Program Call Reply Error Value} {next : Value → Program Call Reply Error Result}
    (holds : Holds guard (Continues guard ending next) past first) :
    Holds guard ending past (first >>= next) := by
  induction first generalizing past with
  | done result =>
      cases result with
      | ok value => exact holds
      | error error => exact holds
  | ask call answered ih => exact ⟨holds.1, fun reply => ih reply (holds.2 reply)⟩

/-- A value ends a recovered program and an error continues with the handler. -/
def Recovers (guard : List (Exchange Call Reply) → Call → Prop)
    (ending : List (Exchange Call Reply) → Except Error Value → Prop)
    (handler : Error → Program Call Reply Error Value) (past : List (Exchange Call Reply)) :
    Except Error Value → Prop
  | .ok value => ending past (.ok value)
  | .error error => Holds guard ending past (handler error)

theorem Holds.recover {ending : List (Exchange Call Reply) → Except Error Value → Prop}
    {first : Program Call Reply Error Value} {handler : Error → Program Call Reply Error Value}
    (holds : Holds guard (Recovers guard ending handler) past first) :
    Holds guard ending past (first.recover handler) := by
  induction first generalizing past with
  | done result =>
      cases result with
      | ok value => exact holds
      | error error => exact holds
  | ask call answered ih => exact ⟨holds.1, fun reply => ih reply (holds.2 reply)⟩

/-- The closing part follows every error, which it keeps unless it fails itself. -/
theorem Holds.closeOnError {ending : List (Exchange Call Reply) → Except Error Value → Prop}
    {first : Program Call Reply Error Value} {close : Program Call Reply Error Unit}
    (holds : Holds guard (Recovers guard ending fun error => close >>= fun _ => .fail error) past
      first) : Holds guard ending past (first.closeOnError close) := holds.recover

/-- The closing part follows every result. -/
def Closes (guard : List (Exchange Call Reply) → Call → Prop)
    (ending : List (Exchange Call Reply) → Except Error Value → Prop)
    (close : Program Call Reply Error Unit) (past : List (Exchange Call Reply))
    (result : Except Error Value) : Prop :=
  Holds guard ending past (close >>= fun _ => .done result)

theorem Holds.closing {ending : List (Exchange Call Reply) → Except Error Value → Prop}
    {first : Program Call Reply Error Value} {close : Program Call Reply Error Unit}
    (holds : Holds guard (Closes guard ending close) past first) :
    Holds guard ending past (first.closing close) := by
  induction first generalizing past with
  | done result =>
      cases result with
      | ok value => exact holds
      | error error =>
          rw [Program.closing, Program.closeOnError, Program.recover, Program.bind_fail]
          exact holds
  | ask call answered ih => exact ⟨holds.1, fun reply => ih reply (holds.2 reply)⟩

theorem Holds.perform {ending : List (Exchange Call Reply) → Except Error Result → Prop}
    {call : Call} {next : Reply call → Program Call Reply Error Result} (allowed : guard past call)
    (holds : ∀ reply, Holds guard ending (past ++ [⟨call, reply⟩]) (next reply)) :
    Holds guard ending past (Program.perform call >>= next) := ⟨allowed, holds⟩

/-- A stronger guard and a stronger ending imply the weaker ones. -/
theorem Holds.mono {weaker : List (Exchange Call Reply) → Call → Prop}
    {ending other : List (Exchange Call Reply) → Except Error Value → Prop}
    {program : Program Call Reply Error Value} (holds : Holds guard ending past program)
    (calls : ∀ past call, guard past call → weaker past call)
    (results : ∀ past result, ending past result → other past result) :
    Holds weaker other past program := by
  induction program generalizing past with
  | done result => exact results past result holds
  | ask call next ih => exact ⟨calls past call holds.1, fun reply => ih reply (holds.2 reply)⟩

/-- An ending of every later trace needs no look at the program. -/
theorem Holds.of_ending {ending : List (Exchange Call Reply) → Except Error Value → Prop}
    (allowed : ∀ past call, guard past call)
    (holds : ∀ later result, ending (past ++ later) result)
    (program : Program Call Reply Error Value) : Holds guard ending past program := by
  induction program generalizing past with
  | done result =>
      have ended := holds [] result
      rwa [List.append_nil] at ended
  | ask call next ih =>
      refine ⟨allowed past call, fun reply => ih reply fun later result => ?_⟩
      rw [List.append_assoc]
      exact holds _ result

/-- What holds of a program holds of each of its runs. -/
theorem Holds.run {ending : List (Exchange Call Reply) → Except Error Value → Prop}
    {program : Program Call Reply Error Value} {trace : List (Exchange Call Reply)}
    {result : Except Error Value} (holds : Holds guard ending past program)
    (runs : Runs program trace result) :
    (∀ before exchange after, trace = before ++ exchange :: after →
      guard (past ++ before) exchange.call) ∧ ending (past ++ trace) result := by
  induction runs generalizing past with
  | done result =>
      refine ⟨fun before exchange after split => ?_, ?_⟩
      · exact absurd split (by simp)
      · rw [List.append_nil]
        exact holds
  | @ask call next reply rest result runs ih =>
      obtain ⟨calls, final⟩ := ih (holds.2 reply)
      constructor
      · intro before exchange after split
        cases before with
        | nil =>
            rw [List.nil_append, List.cons.injEq] at split
            rw [List.append_nil, ← split.1]
            exact holds.1
        | cons first remaining =>
            rw [List.cons_append, List.cons.injEq] at split
            have allowed := calls remaining exchange after split.2
            rwa [← split.1, List.append_cons]
      · rwa [List.append_cons]

end Rules

end Dialogue
