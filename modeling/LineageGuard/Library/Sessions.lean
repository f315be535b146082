import LineageGuard.Library.Interleaving
import Mathlib.Tactic

/-
This file gives the rules for programs that run one after another and may stop at any call.
-/

namespace Sessions

open Dialogue Interleaving

variable {World Choice Change Task Call : Type} {Reply : Call → Type} {Error Value Result : Type}
variable (semantics : Semantics World Choice Change Call Reply)

/-- The invariant holds after every call, and each value has its ending. -/
def Keeps (invariant : World → Prop) (ending : World → Value → Prop) :
    World → Program Call Reply Error Value → Prop
  | _, .done (.error _) => True
  | world, .done (.ok value) => ending world value
  | world, .ask call next => ∀ choice,
      invariant (semantics.respond 0 choice world call).2 ∧
        Keeps invariant ending (semantics.respond 0 choice world call).2
          (next (semantics.respond 0 choice world call).1)

/-- A session runs one task and stops after any of its calls. -/
def Session (program : Program Call Reply Error Value) (world after : World) : Prop :=
  ∃ later, Advances semantics 0 world program after later

/-- Sessions follow one another, and the world also changes between them. -/
inductive History (tasks : Task → Program Call Reply Error Value) (start : World) : World → Prop
  | start : History tasks start start
  | session {world after : World} (task : Task) (earlier : History tasks start world)
      (runs : Session semantics (tasks task) world after) : History tasks start after
  | change {world : World} (change : Change) (earlier : History tasks start world) :
      History tasks start (semantics.change change world)

variable {semantics} {invariant : World → Prop} {ending : World → Value → Prop} {world : World}

theorem Keeps.pure {value : Value} (holds : ending world value) :
    Keeps semantics invariant ending world (Pure.pure value : Program Call Reply Error Value) := holds

theorem Keeps.fail {error : Error} :
    Keeps semantics invariant ending world (.fail error : Program Call Reply Error Value) := trivial

theorem Keeps.done {outcome : Except Error Value}
    (holds : ∀ value, outcome = .ok value → ending world value) :
    Keeps semantics invariant ending world (.done outcome : Program Call Reply Error Value) := by
  cases outcome with
  | ok value => exact holds value rfl
  | error error => trivial

theorem Keeps.perform {call : Call} {next : Reply call → Program Call Reply Error Value}
    (holds : ∀ choice, invariant (semantics.respond 0 choice world call).2 ∧
      Keeps semantics invariant ending (semantics.respond 0 choice world call).2
        (next (semantics.respond 0 choice world call).1)) :
    Keeps semantics invariant ending world (Program.perform call >>= next) := holds

/-- A sequence is kept when its second part is kept after each value of the first part. -/
theorem Keeps.bind {goal : World → Result → Prop} {first : Program Call Reply Error Value}
    {next : Value → Program Call Reply Error Result}
    (keeps : Keeps semantics invariant
      (fun later value => Keeps semantics invariant goal later (next value)) world first) :
    Keeps semantics invariant goal world (first >>= next) := by
  induction first generalizing world with
  | done outcome =>
      cases outcome with
      | ok value => exact keeps
      | error error => trivial
  | ask call answered ih =>
      intro choice
      obtain ⟨holds, rest⟩ := keeps choice
      exact ⟨holds, ih _ rest⟩

theorem Keeps.mono {other : World → Value → Prop} {program : Program Call Reply Error Value}
    (keeps : Keeps semantics invariant ending world program)
    (weaker : ∀ later value, ending later value → other later value) :
    Keeps semantics invariant other world program := by
  induction program generalizing world with
  | done outcome =>
      cases outcome with
      | ok value => exact weaker world value keeps
      | error error => trivial
  | ask call next ih =>
      intro choice
      obtain ⟨holds, rest⟩ := keeps choice
      exact ⟨holds, ih _ rest⟩

/-- The value of a part and the world after it satisfy the ending of the part. -/
theorem Keeps.andThen {between : World → Value → Prop} {goal : World → Result → Prop}
    {first : Program Call Reply Error Value} {next : Value → Program Call Reply Error Result}
    (keeps : Keeps semantics invariant between world first)
    (rest : ∀ later value, between later value → Keeps semantics invariant goal later (next value)) :
    Keeps semantics invariant goal world (first >>= next) := (keeps.mono rest).bind

/-- A fact that no call ends still holds at the end. -/
theorem Keeps.frame {fact : World → Prop} {program : Program Call Reply Error Value}
    (stable : ∀ choice world call, fact world → fact (semantics.respond 0 choice world call).2)
    (keeps : Keeps semantics invariant ending world program) (holds : fact world) :
    Keeps semantics invariant (fun later value => fact later ∧ ending later value) world
      program := by
  induction program generalizing world with
  | done outcome =>
      cases outcome with
      | ok value => exact ⟨holds, keeps⟩
      | error error => trivial
  | ask call next ih =>
      intro choice
      obtain ⟨kept, rest⟩ := keeps choice
      exact ⟨kept, ih _ rest (stable choice world call holds)⟩

/-- The invariant holds wherever a session stops. -/
theorem Keeps.session {program : Program Call Reply Error Value} {after : World}
    (keeps : Keeps semantics invariant ending world program) (holds : invariant world)
    (runs : Session semantics program world after) : invariant after := by
  obtain ⟨later, advances⟩ := runs
  induction advances with
  | refl world program => exact holds
  | ask choice rest ih => exact ih (keeps choice).2 (keeps choice).1

/-- An invariant of every session holds in every world of a history. -/
theorem History.keeps {tasks : Task → Program Call Reply Error Value} {start : World}
    (initial : invariant start)
    (sessions : ∀ task world, invariant world →
      Keeps semantics invariant (fun _ _ => True) world (tasks task))
    (changes : ∀ change world, invariant world → invariant (semantics.change change world))
    (history : History semantics tasks start world) : invariant world := by
  induction history with
  | start => exact initial
  | session task earlier runs ih => exact (sessions task _ ih).session ih runs
  | change change earlier ih => exact changes change _ ih

section Calls

/-- Every call that the program can make is allowed. -/
def Only (allowed : Call → Prop) : Program Call Reply Error Value → Prop
  | .done _ => True
  | .ask call next => allowed call ∧ ∀ reply, Only allowed (next reply)

variable {allowed : Call → Prop}

theorem Only.pure {value : Value} :
    Only allowed (Pure.pure value : Program Call Reply Error Value) := trivial

theorem Only.fail {error : Error} :
    Only allowed (.fail error : Program Call Reply Error Value) := trivial

theorem Only.perform {call : Call} (isAllowed : allowed call) :
    Only allowed (Program.perform call : Program Call Reply Error _) :=
  ⟨isAllowed, fun _ => trivial⟩

theorem Only.bind {first : Program Call Reply Error Value}
    {next : Value → Program Call Reply Error Result} (starts : Only allowed first)
    (continues : ∀ value, Only allowed (next value)) : Only allowed (first >>= next) := by
  induction first with
  | done outcome =>
      cases outcome with
      | ok value => exact continues value
      | error error => trivial
  | ask call answered ih => exact ⟨starts.1, fun reply => ih reply (starts.2 reply)⟩

theorem Only.forM {Item : Type} {body : Item → Program Call Reply Error Unit} (items : List Item)
    (each : ∀ item, Only allowed (body item)) : Only allowed (items.forM body) := by
  induction items with
  | nil => exact Only.pure
  | cons item rest ih => exact (each item).bind fun _ => ih

theorem Only.foldlM {Item Progress : Type}
    {body : Progress → Item → Program Call Reply Error Progress} (items : List Item)
    (progress : Progress) (each : ∀ progress item, Only allowed (body progress item)) :
    Only allowed (items.foldlM body progress) := by
  induction items generalizing progress with
  | nil => exact Only.pure
  | cons item rest ih => exact (each progress item).bind fun later => ih later

theorem Only.mapM {Item : Type} {body : Item → Program Call Reply Error Value} (items : List Item)
    (each : ∀ item, Only allowed (body item)) : Only allowed (items.mapM body) := by
  have loops : ∀ (items : List Item) (found : List Value),
      Only allowed (List.mapM.loop body items found) := by
    intro items
    induction items with
    | nil => exact fun found => Only.pure
    | cons item rest ih => exact fun found => (each item).bind fun value => ih (value :: found)
  exact loops items []

/-- An invariant of the allowed calls holds wherever the program stops. -/
theorem Only.keeps {program : Program Call Reply Error Value} (only : Only allowed program)
    (kept : ∀ call, allowed call → ∀ choice world, invariant world →
      invariant (semantics.respond 0 choice world call).2)
    (holds : invariant world) : Keeps semantics invariant (fun _ _ => True) world program := by
  induction program generalizing world with
  | done outcome => cases outcome <;> trivial
  | ask call next ih =>
      intro choice
      have later := kept call only.1 choice world holds
      exact ⟨later, ih _ (only.2 _) later⟩

end Calls

section Triples

variable {semantics : Semantics World Choice Change Call Reply} {invariant : World → Prop}

/-- From every world with the condition the program keeps the invariant up to its ending. -/
def Triple (semantics : Semantics World Choice Change Call Reply) (invariant before : World → Prop)
    (program : Program Call Reply Error Value) (after : Value → World → Prop) : Prop :=
  ∀ world, before world → Keeps semantics invariant (fun later value => after value later) world
    program

variable {before : World → Prop} {after : Value → World → Prop}

theorem Triple.pure {value : Value} (holds : ∀ world, before world → after value world) :
    Triple semantics invariant before (Pure.pure value : Program Call Reply Error Value) after :=
  fun world starts => holds world starts

theorem Triple.fail {error : Error} :
    Triple semantics invariant before (.fail error : Program Call Reply Error Value) after :=
  fun _ _ => Keeps.fail

theorem Triple.done {outcome : Except Error Value}
    (holds : ∀ value, outcome = .ok value → ∀ world, before world → after value world) :
    Triple semantics invariant before (.done outcome : Program Call Reply Error Value) after :=
  fun world starts => Keeps.done fun value isValue => holds value isValue world starts

theorem Triple.perform {call : Call} {after : Reply call → World → Prop}
    (holds : ∀ world, before world → ∀ choice,
      invariant (semantics.respond 0 choice world call).2 ∧
        after (semantics.respond 0 choice world call).1 (semantics.respond 0 choice world call).2) :
    Triple semantics invariant before (Program.perform call : Program Call Reply Error _) after :=
  fun world starts choice => holds world starts choice

/-- The second part starts where the first part ends. -/
theorem Triple.bind {goal : Result → World → Prop} {first : Program Call Reply Error Value}
    {next : Value → Program Call Reply Error Result}
    (starts : Triple semantics invariant before first after)
    (continues : ∀ value, Triple semantics invariant (after value) (next value) goal) :
    Triple semantics invariant before (first >>= next) goal :=
  fun world holds => (starts world holds).andThen fun later value ends => continues value later ends

/-- The second part starts at the named condition. -/
theorem Triple.through {goal : Result → World → Prop} {first : Program Call Reply Error Value}
    {next : Value → Program Call Reply Error Result} (between : Value → World → Prop)
    (starts : Triple semantics invariant before first between)
    (continues : ∀ value, Triple semantics invariant (between value) (next value) goal) :
    Triple semantics invariant before (first >>= next) goal := starts.bind continues

theorem Triple.weaken {stronger : World → Prop} {weaker : Value → World → Prop}
    {program : Program Call Reply Error Value}
    (triple : Triple semantics invariant before program after)
    (starts : ∀ world, stronger world → before world)
    (ends : ∀ value world, after value world → weaker value world) :
    Triple semantics invariant stronger program weaker :=
  fun world holds => (triple world (starts world holds)).mono fun later value => ends value later

theorem Triple.ends {weaker : Value → World → Prop} {program : Program Call Reply Error Value}
    (triple : Triple semantics invariant before program after)
    (ends : ∀ value world, after value world → weaker value world) :
    Triple semantics invariant before program weaker :=
  triple.weaken (fun _ => id) ends

/-- A fact that no call ends is kept from the start. -/
theorem Triple.frame {fact : World → Prop} {program : Program Call Reply Error Value}
    (stable : ∀ choice world call, fact world → fact (semantics.respond 0 choice world call).2)
    (starts : ∀ world, before world → fact world)
    (triple : Triple semantics invariant before program after) :
    Triple semantics invariant before program (fun value world => fact world ∧ after value world) :=
  fun world holds => (triple world holds).frame stable (starts world holds)

/-- A fact of the condition is known in the proof. -/
theorem Triple.given {fact : Prop} {program : Program Call Reply Error Value}
    (triple : fact → Triple semantics invariant before program after) :
    Triple semantics invariant (fun world => fact ∧ before world) program after :=
  fun world holds => triple holds.1 world holds.2

/-- One item of the condition is chosen in the proof. -/
theorem Triple.choose {Item : Type} {starts : Item → World → Prop}
    {program : Program Call Reply Error Value}
    (triple : ∀ item, Triple semantics invariant (starts item) program after) :
    Triple semantics invariant (fun world => ∃ item, starts item world) program after := by
  intro world holds
  obtain ⟨item, begins⟩ := holds
  exact triple item world begins

/-- The condition depends on the items that remain. -/
theorem Triple.forM {Item : Type} {body : Item → Program Call Reply Error Unit}
    (remaining : List Item → World → Prop) (items : List Item)
    (step : ∀ item rest, item ∈ items → Triple semantics invariant (remaining (item :: rest))
      (body item) (fun _ => remaining rest)) :
    Triple semantics invariant (remaining items) (items.forM body) (fun _ => remaining []) := by
  induction items with
  | nil => exact Triple.pure fun _ => id
  | cons item rest ih =>
      exact (step item rest List.mem_cons_self).bind fun _ =>
        ih fun other others present => step other others (List.mem_cons_of_mem _ present)

theorem Triple.foldlM {Item Progress : Type}
    {body : Progress → Item → Program Call Reply Error Progress}
    (remaining : List Item → Progress → World → Prop) (items : List Item) (progress : Progress)
    (step : ∀ progress item rest, item ∈ items → Triple semantics invariant
      (remaining (item :: rest) progress) (body progress item) (remaining rest)) :
    Triple semantics invariant (remaining items progress) (items.foldlM body progress)
      (remaining []) := by
  induction items generalizing progress with
  | nil => exact Triple.pure fun _ => id
  | cons item rest ih =>
      exact (step progress item rest List.mem_cons_self).bind fun later =>
        ih later fun progress other others present =>
          step progress other others (List.mem_cons_of_mem _ present)

/-- The condition depends on the items that came before. -/
theorem Triple.forM_done {Item : Type} {body : Item → Program Call Reply Error Unit}
    (reached : List Item → World → Prop) (items : List Item)
    (step : ∀ earlier item, item ∈ items → Triple semantics invariant (reached earlier) (body item)
      (fun _ => reached (earlier ++ [item]))) :
    Triple semantics invariant (reached []) (items.forM body) (fun _ => reached items) := by
  have loops : ∀ later earlier, (∀ item ∈ later, item ∈ items) →
      Triple semantics invariant (reached earlier) (later.forM body)
        (fun _ => reached (earlier ++ later)) := by
    intro later
    induction later with
    | nil =>
        intro earlier _
        exact Triple.pure fun world holds => by rwa [List.append_nil]
    | cons item rest ih =>
        intro earlier within
        refine (step earlier item (within item List.mem_cons_self)).bind fun _ => ?_
        have continues := ih (earlier ++ [item]) fun other present =>
          within other (List.mem_cons_of_mem _ present)
        rwa [List.append_assoc, List.singleton_append] at continues
  exact loops items [] fun item => id

/-- Every item keeps the condition and gives a value that holds. -/
theorem Triple.mapM {Item : Type} {body : Item → Program Call Reply Error Value}
    {holds : Value → Prop} (items : List Item)
    (step : ∀ item ∈ items, Triple semantics invariant before (body item)
      (fun value world => holds value ∧ before world)) :
    Triple semantics invariant before (items.mapM body)
      (fun values world => (∀ value ∈ values, holds value) ∧ before world) := by
  have loops : ∀ (items : List Item) (found : List Value), (∀ value ∈ found, holds value) →
      (∀ item ∈ items, Triple semantics invariant before (body item)
        (fun value world => holds value ∧ before world)) →
      Triple semantics invariant before (List.mapM.loop body items found)
        (fun values world => (∀ value ∈ values, holds value) ∧ before world) := by
    intro items
    induction items with
    | nil =>
        intro found kept _
        exact Triple.pure fun world starts =>
          ⟨fun value present => kept value (List.mem_reverse.mp present), starts⟩
    | cons item rest ih =>
        intro found kept step world starts
        refine (step item List.mem_cons_self world starts).andThen ?_
        intro later value ends
        refine ih (value :: found) ?_ (fun other present =>
          step other (List.mem_cons_of_mem _ present)) later ends.2
        intro other present
        rcases List.mem_cons.mp present with isValue | earlier
        · rw [isValue]
          exact ends.1
        · exact kept other earlier
  exact loops items [] nofun step

end Triples

end Sessions
