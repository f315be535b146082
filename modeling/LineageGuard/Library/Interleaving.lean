import LineageGuard.Library.Dialogue
import LineageGuard.Library.Runs
import Mathlib.Tactic

/-
This file gives the rules for programs that share a world and take turns at each call.
-/

namespace Interleaving

open Dialogue

/-- The world answers a call of a program and also changes by itself. -/
structure Semantics (World Choice Change Call : Type) (Reply : Call → Type) where
  respond : ℕ → Choice → World → (call : Call) → Reply call × World
  change : Change → World → World

/-- A pool holds the shared world and what remains of each program. -/
structure Pool (World Call : Type) (Reply : Call → Type) (Error Value : Type) where
  world : World
  programs : List (Program Call Reply Error Value)

/-- A choice settles what a call leaves open, and a program may stop at any call. -/
inductive Event (Choice Change Task : Type)
  | start (task : Task)
  | proceed (index : ℕ) (choice : Choice)
  | stop (index : ℕ)
  | change (change : Change)

section Steps

variable {World Choice Change Task Call : Type} {Reply : Call → Type} {Error Value Result : Type}
variable (semantics : Semantics World Choice Change Call Reply)
variable (tasks : Task → Program Call Reply Error Value) (stopped : Error)

def proceed (pool : Pool World Call Reply Error Value) (index : ℕ) (choice : Choice) :
    Pool World Call Reply Error Value :=
  match pool.programs[index]? with
  | some (.ask call next) =>
      let answer := semantics.respond index choice pool.world call
      ⟨answer.2, pool.programs.set index (next answer.1)⟩
  | _ => pool

def halt (pool : Pool World Call Reply Error Value) (index : ℕ) :
    Pool World Call Reply Error Value :=
  match pool.programs[index]? with
  | some (.ask _ _) => { pool with programs := pool.programs.set index (.done (.error stopped)) }
  | _ => pool

def step (pool : Pool World Call Reply Error Value) :
    Event Choice Change Task → Pool World Call Reply Error Value
  | .start task => { pool with programs := pool.programs ++ [tasks task] }
  | .proceed index choice => proceed semantics pool index choice
  | .stop index => halt stopped pool index
  | .change change => { pool with world := semantics.change change pool.world }

/-- A program that runs alone performs each call with the choice for it. -/
def alone (index : ℕ) (choose : Call → Choice) :
    World → Program Call Reply Error Value → World × Except Error Value
  | world, .done result => (world, result)
  | world, .ask call next =>
      let answer := semantics.respond index (choose call) world call
      alone index choose answer.2 (next answer.1)

variable {semantics}

/-- A run of a sequence alone goes through its first part. -/
theorem alone_bind {index : ℕ} {choose : Call → Choice} {world : World}
    {first : Program Call Reply Error Value} {next : Value → Program Call Reply Error Result} :
    alone semantics index choose world (first >>= next) =
      match alone semantics index choose world first with
      | (between, .ok value) => alone semantics index choose between (next value)
      | (between, .error error) => (between, .error error) := by
  induction first generalizing world with
  | done result => cases result <;> rfl
  | ask call answered ih => exact ih _

theorem alone_reply {index : ℕ} {choose : Call → Choice} {world between : World} {call : Call}
    {reply : Reply call} {next : Reply call → Program Call Reply Error Result}
    (answered : semantics.respond index (choose call) world call = (reply, between)) :
    alone semantics index choose world (Program.perform call >>= next) =
      alone semantics index choose between (next reply) := by
  show alone semantics index choose (semantics.respond index (choose call) world call).2
    (next (semantics.respond index (choose call) world call).1) = _
  rw [answered]

theorem alone_ok {index : ℕ} {choose : Call → Choice} {world between : World} {value : Value}
    {first : Program Call Reply Error Value} {next : Value → Program Call Reply Error Result}
    (ended : alone semantics index choose world first = (between, .ok value)) :
    alone semantics index choose world (first >>= next) =
      alone semantics index choose between (next value) := by
  rw [alone_bind, ended]

theorem alone_error {index : ℕ} {choose : Call → Choice} {world between : World} {error : Error}
    {first : Program Call Reply Error Value} {next : Value → Program Call Reply Error Result}
    (ended : alone semantics index choose world first = (between, .error error)) :
    alone semantics index choose world (first >>= next) = (between, .error error) := by
  rw [alone_bind, ended]

/-- A sequence with a value went through a value of its first part. -/
theorem alone_value {index : ℕ} {choose : Call → Choice} {world ended : World} {value : Result}
    {first : Program Call Reply Error Value} {next : Value → Program Call Reply Error Result}
    (runs : alone semantics index choose world (first >>= next) = (ended, .ok value)) :
    ∃ between found, alone semantics index choose world first = (between, .ok found) ∧
      alone semantics index choose between (next found) = (ended, .ok value) := by
  rw [alone_bind] at runs
  split at runs
  · next between found isFirst => exact ⟨between, found, isFirst, runs⟩
  · exact nomatch (Prod.mk.inj runs).2

variable (semantics)

/-- The program performs some of its calls without a turn of another program. -/
inductive Advances (index : ℕ) : World → Program Call Reply Error Value → World →
    Program Call Reply Error Value → Prop
  | refl (world : World) (program : Program Call Reply Error Value) :
      Advances index world program world program
  | ask {world after : World} {call : Call} {next : Reply call → Program Call Reply Error Value}
      {later : Program Call Reply Error Value} (choice : Choice)
      (rest : Advances index (semantics.respond index choice world call).2
        (next (semantics.respond index choice world call).1) after later) :
      Advances index world (.ask call next) after later

variable {semantics}

theorem Advances.trans {index : ℕ} {first second third : World}
    {program between later : Program Call Reply Error Value}
    (before : Advances semantics index first program second between)
    (after : Advances semantics index second between third later) :
    Advances semantics index first program third later := by
  induction before with
  | refl world program => exact after
  | ask choice rest ih => exact .ask choice (ih after)

theorem Advances.bind {index : ℕ} {world after : World}
    {first later : Program Call Reply Error Value}
    (advances : Advances semantics index world first after later)
    (next : Value → Program Call Reply Error Result) :
    Advances semantics index world (first >>= next) after (later >>= next) := by
  induction advances with
  | refl world program => exact .refl _ _
  | ask choice rest ih => exact .ask choice ih

/-- A program that runs alone advances to its end. -/
theorem Advances.alone (index : ℕ) (choose : Call → Choice) (world : World)
    (program : Program Call Reply Error Value) :
    Advances semantics index world program (alone semantics index choose world program).1
      (.done (Interleaving.alone semantics index choose world program).2) := by
  induction program generalizing world with
  | done result => exact .refl _ _
  | ask call next ih => exact .ask (choose call) (ih _ _)

/-- What a program does alone is a run of the pool. -/
theorem Advances.run {index : ℕ} {world after : World}
    {program later : Program Call Reply Error Value}
    (advances : Advances semantics index world program after later)
    {programs : List (Program Call Reply Error Value)} (held : programs[index]? = some program) :
    ∃ choices : List Choice,
      Runs.run (step semantics tasks stopped) ⟨world, programs⟩ (choices.map (.proceed index)) =
        ⟨after, programs.set index later⟩ := by
  induction advances generalizing programs with
  | refl world program =>
      obtain ⟨inside, isProgram⟩ := List.getElem?_eq_some_iff.mp held
      refine ⟨[], ?_⟩
      rw [← isProgram, List.set_getElem_self]
      rfl
  | @ask world after call next later choice rest ih =>
      have inside := (List.getElem?_eq_some_iff.mp held).1
      obtain ⟨choices, runs⟩ := ih (List.getElem?_set_self inside)
      have moved : proceed semantics ⟨world, programs⟩ index choice =
          ⟨(semantics.respond index choice world call).2,
            programs.set index (next (semantics.respond index choice world call).1)⟩ := by
        rw [proceed, held]
      refine ⟨choice :: choices, ?_⟩
      rw [List.map_cons, Runs.run_cons, step, moved, runs, List.set_set]

/-- A task that starts in a reached pool and advances alone reaches the next pool. -/
theorem Advances.reached {start pool : Pool World Call Reply Error Value} {task : Task}
    {after : World} {later : Program Call Reply Error Value}
    (reached : Runs.Reachable (step semantics tasks stopped) start pool)
    (advances : Advances semantics pool.programs.length pool.world (tasks task) after later) :
    Runs.Reachable (step semantics tasks stopped) start ⟨after, pool.programs ++ [later]⟩ := by
  have held : (pool.programs ++ [tasks task])[pool.programs.length]? = some (tasks task) := by
    rw [List.getElem?_append_right le_rfl, Nat.sub_self]
    rfl
  obtain ⟨choices, runs⟩ := advances.run tasks stopped held
  have moved := (reached.next (.start task)).run (choices.map (.proceed pool.programs.length))
  rw [step, runs, List.set_append_right _ _ le_rfl, Nat.sub_self] at moved
  exact moved

end Steps

section Discipline

variable {World Choice Change Task Call : Type} {Reply : Call → Type} {Error Value Result : Type}

/-- The invariant holds of every world, and each program relies on what the others may change. -/
structure Discipline (World : Type) where
  invariant : World → Prop
  rely : ℕ → World → World → Prop
  refl : ∀ index world, rely index world world
  trans : ∀ {index first second third}, rely index first second → rely index second third →
    rely index first third

variable (discipline : Discipline World)

/-- A step of the program keeps the invariant and what the other programs rely on. -/
def Discipline.Allowed (index : ℕ) (before after : World) : Prop :=
  discipline.invariant after ∧ ∀ other, other ≠ index → discipline.rely other before after

/-- Every later step of the program is allowed, and each value has its ending from then on. -/
def Safe (semantics : Semantics World Choice Change Call Reply) (ending : World → Value → Prop)
    (index : ℕ) : World → Program Call Reply Error Value → Prop
  | _, .done (.error _) => True
  | world, .done (.ok value) =>
      ∀ later, discipline.rely index world later → discipline.invariant later → ending later value
  | world, .ask call next =>
      ∀ between, discipline.rely index world between → discipline.invariant between → ∀ choice,
        discipline.Allowed index between (semantics.respond index choice between call).2 ∧
          Safe semantics ending index (semantics.respond index choice between call).2
            (next (semantics.respond index choice between call).1)

variable {discipline} {semantics : Semantics World Choice Change Call Reply}
variable {ending : World → Value → Prop} {index : ℕ}

/-- Steps of the other programs keep a program safe. -/
theorem Safe.later {world after : World} {program : Program Call Reply Error Value}
    (safe : Safe discipline semantics ending index world program)
    (changed : discipline.rely index world after) :
    Safe discipline semantics ending index after program := by
  cases program with
  | done result =>
      cases result with
      | ok value => exact fun later others => safe later (discipline.trans changed others)
      | error error => trivial
  | ask call next => exact fun between others => safe between (discipline.trans changed others)

theorem Safe.pure {world : World} {value : Value}
    (holds : ∀ later, discipline.rely index world later → discipline.invariant later →
      ending later value) :
    Safe discipline semantics ending index world
      (Pure.pure value : Program Call Reply Error Value) := holds

theorem Safe.fail {world : World} {error : Error} :
    Safe discipline semantics ending index world
      (.fail error : Program Call Reply Error Value) := trivial

theorem Safe.perform {world : World} {call : Call}
    {next : Reply call → Program Call Reply Error Value}
    (holds : ∀ between, discipline.rely index world between → discipline.invariant between →
      ∀ choice, discipline.Allowed index between (semantics.respond index choice between call).2 ∧
        Safe discipline semantics ending index (semantics.respond index choice between call).2
          (next (semantics.respond index choice between call).1)) :
    Safe discipline semantics ending index world (Program.perform call >>= next) := holds

/-- A call that only reads is allowed in every world. -/
theorem Safe.read {world : World} {call : Call}
    {next : Reply call → Program Call Reply Error Value}
    (quiet : ∀ choice between, (semantics.respond index choice between call).2 = between)
    (holds : ∀ between, discipline.rely index world between → discipline.invariant between →
      ∀ choice, Safe discipline semantics ending index between
        (next (semantics.respond index choice between call).1)) :
    Safe discipline semantics ending index world (Program.perform call >>= next) := by
  refine Safe.perform fun between others kept choice => ?_
  rw [quiet]
  exact ⟨⟨kept, fun other _ => discipline.refl other between⟩, holds between others kept choice⟩

/-- A sequence is safe when its second part is safe after each value of the first part. -/
theorem Safe.bind {goal : World → Result → Prop} {world : World}
    {first : Program Call Reply Error Value} {next : Value → Program Call Reply Error Result}
    (safe : Safe discipline semantics
      (fun later value => Safe discipline semantics goal index later (next value)) index world first)
    (kept : discipline.invariant world) :
    Safe discipline semantics goal index world (first >>= next) := by
  induction first generalizing world with
  | done result =>
      cases result with
      | ok value => exact safe world (discipline.refl index world) kept
      | error error => trivial
  | ask call answered ih =>
      intro between others holds choice
      obtain ⟨allowed, rest⟩ := safe between others holds choice
      exact ⟨allowed, ih _ rest allowed.1⟩

theorem Safe.mono {other : World → Value → Prop} {world : World}
    {program : Program Call Reply Error Value}
    (safe : Safe discipline semantics ending index world program)
    (weaker : ∀ later value, discipline.invariant later → ending later value → other later value) :
    Safe discipline semantics other index world program := by
  induction program generalizing world with
  | done result =>
      cases result with
      | ok value => exact fun later others kept => weaker later value kept (safe later others kept)
      | error error => trivial
  | ask call next ih =>
      intro between others kept choice
      obtain ⟨allowed, rest⟩ := safe between others kept choice
      exact ⟨allowed, ih _ rest⟩

theorem Safe.both {other : World → Value → Prop} {world : World}
    {program : Program Call Reply Error Value}
    (first : Safe discipline semantics ending index world program)
    (second : Safe discipline semantics other index world program) :
    Safe discipline semantics (fun later value => ending later value ∧ other later value) index
      world program := by
  induction program generalizing world with
  | done result =>
      cases result with
      | ok value => exact fun later others kept => ⟨first later others kept, second later others kept⟩
      | error error => trivial
  | ask call next ih =>
      intro between others kept choice
      obtain ⟨allowed, rest⟩ := first between others kept choice
      exact ⟨allowed, ih _ rest (second between others kept choice).2⟩

/-- A result that is known already ends the program or continues it. -/
theorem Safe.settled {goal : World → Result → Prop} {world : World} {result : Except Error Value}
    {next : Value → Program Call Reply Error Result}
    (holds : ∀ value, result = .ok value → Safe discipline semantics goal index world (next value)) :
    Safe discipline semantics goal index world (Program.done result >>= next) := by
  cases result with
  | ok value => exact holds value rfl
  | error error => trivial

/-- A sequence continues from what its first part ensures. -/
theorem Safe.andThen {goal : World → Result → Prop} {world : World}
    {first : Program Call Reply Error Value} {next : Value → Program Call Reply Error Result}
    (safe : Safe discipline semantics ending index world first) (kept : discipline.invariant world)
    (rest : ∀ later value, discipline.invariant later → ending later value →
      Safe discipline semantics goal index later (next value)) :
    Safe discipline semantics goal index world (first >>= next) :=
  (safe.mono rest).bind kept

/-- No call of the program changes the world. -/
def Quiet (semantics : Semantics World Choice Change Call Reply) :
    Program Call Reply Error Value → Prop
  | .done _ => True
  | .ask call next =>
      (∀ index choice world, (semantics.respond index choice world call).2 = world) ∧
        ∀ reply, Quiet semantics (next reply)

theorem Quiet.bind {first : Program Call Reply Error Value}
    {next : Value → Program Call Reply Error Result} (quiet : Quiet semantics first)
    (rest : ∀ value, Quiet semantics (next value)) : Quiet semantics (first >>= next) := by
  induction first with
  | done result =>
      cases result with
      | ok value => exact rest value
      | error error => trivial
  | ask call answered ih => exact ⟨quiet.1, fun reply => ih reply (quiet.2 reply)⟩

theorem Quiet.read {call : Call} {next : Reply call → Program Call Reply Error Value}
    (quiet : ∀ index choice world, (semantics.respond index choice world call).2 = world)
    (rest : ∀ reply, Quiet semantics (next reply)) :
    Quiet semantics (Program.perform call >>= next) := ⟨quiet, rest⟩

theorem Quiet.settled {result : Except Error Value}
    {next : Value → Program Call Reply Error Result} (rest : ∀ value, Quiet semantics (next value)) :
    Quiet semantics (Program.done result >>= next) :=
  Quiet.bind (show Quiet semantics (.done result) from trivial) rest

theorem Quiet.forM {Item : Type} {program : Item → Program Call Reply Error Unit} (items : List Item)
    (quiet : ∀ item, Quiet semantics (program item)) : Quiet semantics (items.forM program) := by
  induction items with
  | nil => trivial
  | cons item rest ih => exact (quiet item).bind fun _ => ih

/-- Only the other programs change the world during a quiet program. -/
theorem Quiet.safe {program : Program Call Reply Error Value} (quiet : Quiet semantics program)
    {start world : World} (changed : discipline.rely index start world) :
    Safe discipline semantics (fun later _ => discipline.rely index start later) index world
      program := by
  induction program generalizing world with
  | done result =>
      cases result with
      | ok value => exact fun later others _ => discipline.trans changed others
      | error error => trivial
  | ask call next ih =>
      intro between others kept choice
      rw [quiet.1]
      exact ⟨⟨kept, fun other _ => discipline.refl other between⟩,
        ih _ (quiet.2 _) (discipline.trans changed others)⟩

/-- A handler that only raises another error keeps a program safe. -/
theorem Safe.recover_fail {world : World} {program : Program Call Reply Error Value}
    (safe : Safe discipline semantics ending index world program) (raised : Error → Error) :
    Safe discipline semantics ending index world
      (program.recover fun error => .fail (raised error)) := by
  induction program generalizing world with
  | done result =>
      cases result with
      | ok value => exact safe
      | error error => trivial
  | ask call next ih =>
      intro between others kept choice
      obtain ⟨allowed, rest⟩ := safe between others kept choice
      exact ⟨allowed, ih _ rest⟩

/-- What the program relies on is kept during a quiet first part. -/
theorem Safe.after {goal : World → Result → Prop} {world : World}
    {first : Program Call Reply Error Value} {next : Value → Program Call Reply Error Result}
    (safe : Safe discipline semantics ending index world first) (quiet : Quiet semantics first)
    (kept : discipline.invariant world)
    (rest : ∀ later value, discipline.invariant later → discipline.rely index world later →
      ending later value → Safe discipline semantics goal index later (next value)) :
    Safe discipline semantics goal index world (first >>= next) :=
  (safe.both (quiet.safe (discipline.refl index world))).andThen kept
    fun later value holds both => rest later value holds both.2 both.1

end Discipline

section Pools

variable {World Choice Change Task Call : Type} {Reply : Call → Type} {Error Value : Type}
variable {semantics : Semantics World Choice Change Call Reply} {discipline : Discipline World}
variable {tasks : Task → Program Call Reply Error Value} {stopped : Error}
variable {ending : World → Value → Prop} {endings : ℕ → World → Value → Prop}

/-- The invariant holds and every program is safe, each with its own ending. -/
def KeptAt (discipline : Discipline World) (semantics : Semantics World Choice Change Call Reply)
    (endings : ℕ → World → Value → Prop) (pool : Pool World Call Reply Error Value) : Prop :=
  discipline.invariant pool.world ∧ ∀ index program, pool.programs[index]? = some program →
    Safe discipline semantics (endings index) index pool.world program

/-- The invariant holds and every program is safe. -/
def Kept (discipline : Discipline World) (semantics : Semantics World Choice Change Call Reply)
    (ending : World → Value → Prop) (pool : Pool World Call Reply Error Value) : Prop :=
  discipline.invariant pool.world ∧ ∀ index program, pool.programs[index]? = some program →
    Safe discipline semantics ending index pool.world program

theorem getElem?_set_cases {Item : Type} {items : List Item} {index other : ℕ} {item found : Item}
    (held : (items.set index item)[other]? = some found) :
    (other = index ∧ found = item) ∨ (other ≠ index ∧ items[other]? = some found) := by
  by_cases same : other = index
  · subst same
    have inside := (List.getElem?_eq_some_iff.mp held).1
    rw [List.length_set] at inside
    rw [List.getElem?_set_self inside, Option.some.injEq] at held
    exact Or.inl ⟨rfl, held.symm⟩
  · rw [List.getElem?_set_ne (Ne.symm same)] at held
    exact Or.inr ⟨same, held⟩

theorem KeptAt.proceed {pool : Pool World Call Reply Error Value}
    (kept : KeptAt discipline semantics endings pool) (index : ℕ) (choice : Choice) :
    KeptAt discipline semantics endings (proceed semantics pool index choice) := by
  unfold Interleaving.proceed
  split
  · next call next held =>
      obtain ⟨allowed, rest⟩ := kept.2 index _ held pool.world (discipline.refl index _) kept.1 choice
      refine ⟨allowed.1, fun other program isProgram => ?_⟩
      rcases getElem?_set_cases isProgram with ⟨rfl, rfl⟩ | ⟨apart, present⟩
      · exact rest
      · exact (kept.2 other program present).later (allowed.2 other apart)
  · exact kept

theorem KeptAt.halt {pool : Pool World Call Reply Error Value}
    (kept : KeptAt discipline semantics endings pool) (index : ℕ) :
    KeptAt discipline semantics endings (halt stopped pool index) := by
  unfold Interleaving.halt
  split
  · refine ⟨kept.1, fun other program isProgram => ?_⟩
    rcases getElem?_set_cases isProgram with ⟨rfl, rfl⟩ | ⟨apart, present⟩
    · trivial
    · exact kept.2 other program present
  · exact kept

/-- A task that is safe at its start is safe in every pool. -/
theorem KeptAt.start {pool : Pool World Call Reply Error Value}
    (kept : KeptAt discipline semantics endings pool) {program : Program Call Reply Error Value}
    (safe : ∀ index world, discipline.invariant world →
      Safe discipline semantics (endings index) index world program) :
    KeptAt discipline semantics endings { pool with programs := pool.programs ++ [program] } := by
  refine ⟨kept.1, fun index found held => ?_⟩
  rw [List.getElem?_append] at held
  split at held
  · exact kept.2 index found held
  · obtain ⟨_, rfl⟩ := List.getElem?_eq_some_iff.mp held
    rw [List.getElem_singleton]
    exact safe index pool.world kept.1

theorem KeptAt.step {pool : Pool World Call Reply Error Value}
    (kept : KeptAt discipline semantics endings pool)
    (starts : ∀ task index world, discipline.invariant world →
      Safe discipline semantics (endings index) index world (tasks task))
    (changes : ∀ change world, discipline.invariant world →
      discipline.invariant (semantics.change change world) ∧
        ∀ index, discipline.rely index world (semantics.change change world))
    (event : Event Choice Change Task) :
    KeptAt discipline semantics endings (step semantics tasks stopped pool event) := by
  cases event with
  | start task => exact kept.start (starts task)
  | proceed index choice => exact kept.proceed index choice
  | stop index => exact kept.halt index
  | change change =>
      obtain ⟨holds, others⟩ := changes change pool.world kept.1
      exact ⟨holds, fun index program held => (kept.2 index program held).later (others index)⟩

/-- Every pool that a run reaches keeps the discipline. -/
theorem KeptAt.run {start : Pool World Call Reply Error Value}
    (initial : KeptAt discipline semantics endings start)
    (starts : ∀ task index world, discipline.invariant world →
      Safe discipline semantics (endings index) index world (tasks task))
    (changes : ∀ change world, discipline.invariant world →
      discipline.invariant (semantics.change change world) ∧
        ∀ index, discipline.rely index world (semantics.change change world))
    {pool : Pool World Call Reply Error Value}
    (reached : Runs.Reachable (Interleaving.step semantics tasks stopped) start pool) :
    KeptAt discipline semantics endings pool :=
  reached.invariant initial fun _ event kept => kept.step starts changes event

/-- The program has ended, and only the others have changed the world since then. -/
def Ended (discipline : Discipline World) (index : ℕ) (result : Except Error Value) (world : World)
    (pool : Pool World Call Reply Error Value) : Prop :=
  discipline.rely index world pool.world ∧ pool.programs[index]? = some (.done result)

theorem Ended.step {pool : Pool World Call Reply Error Value} {index : ℕ}
    {result : Except Error Value} {world : World}
    (kept : KeptAt discipline semantics endings pool)
    (changes : ∀ change world, discipline.invariant world →
      discipline.invariant (semantics.change change world) ∧
        ∀ index, discipline.rely index world (semantics.change change world))
    (ended : Ended discipline index result world pool) (event : Event Choice Change Task) :
    Ended discipline index result world (step semantics tasks stopped pool event) := by
  obtain ⟨relies, done⟩ := ended
  have apart : ∀ {other : ℕ} {call : Call} {next : Reply call → Program Call Reply Error Value},
      pool.programs[other]? = some (.ask call next) → other ≠ index := by
    rintro other call next held rfl
    rw [done] at held
    cases held
  cases event with
  | start task =>
      refine ⟨relies, ?_⟩
      show (pool.programs ++ [tasks task])[index]? = _
      rw [List.getElem?_append_left (List.getElem?_eq_some_iff.mp done).1, done]
  | proceed other choice =>
      rw [Interleaving.step, Interleaving.proceed]
      split
      · next call next held =>
          have allowed := (kept.2 other _ held pool.world (discipline.refl other _) kept.1 choice).1
          refine ⟨discipline.trans relies (allowed.2 index (apart held).symm), ?_⟩
          rw [List.getElem?_set_ne (apart held), done]
      · exact ⟨relies, done⟩
  | stop other =>
      rw [Interleaving.step, Interleaving.halt]
      split
      · next call next held =>
          refine ⟨relies, ?_⟩
          rw [List.getElem?_set_ne (apart held), done]
      · exact ⟨relies, done⟩
  | change change =>
      exact ⟨discipline.trans relies ((changes change pool.world kept.1).2 index), done⟩

/-- A program that has ended stays as it is in every later pool. -/
theorem KeptAt.ended {pool later : Pool World Call Reply Error Value} {index : ℕ}
    {result : Except Error Value} (kept : KeptAt discipline semantics endings pool)
    (starts : ∀ task index world, discipline.invariant world →
      Safe discipline semantics (endings index) index world (tasks task))
    (changes : ∀ change world, discipline.invariant world →
      discipline.invariant (semantics.change change world) ∧
        ∀ index, discipline.rely index world (semantics.change change world))
    (ended : pool.programs[index]? = some (.done result))
    (reached : Runs.Reachable (Interleaving.step semantics tasks stopped) pool later) :
    Ended discipline index result pool.world later := by
  have keeps : ∀ (between : Pool World Call Reply Error Value) (event : Event Choice Change Task),
      KeptAt discipline semantics endings between ∧
        Ended discipline index result pool.world between →
      KeptAt discipline semantics endings (Interleaving.step semantics tasks stopped between event) ∧
        Ended discipline index result pool.world
          (Interleaving.step semantics tasks stopped between event) :=
    fun between event holds => ⟨holds.1.step starts changes event,
      Ended.step holds.1 changes holds.2 event⟩
  exact (reached.invariant ⟨kept, discipline.refl index pool.world, ended⟩ keeps).2

theorem Kept.run {start : Pool World Call Reply Error Value}
    (initial : Kept discipline semantics ending start)
    (starts : ∀ task index world, discipline.invariant world →
      Safe discipline semantics ending index world (tasks task))
    (changes : ∀ change world, discipline.invariant world →
      discipline.invariant (semantics.change change world) ∧
        ∀ index, discipline.rely index world (semantics.change change world))
    {pool : Pool World Call Reply Error Value}
    (reached : Runs.Reachable (step semantics tasks stopped) start pool) :
    Kept discipline semantics ending pool :=
  KeptAt.run initial starts changes reached

end Pools

end Interleaving
