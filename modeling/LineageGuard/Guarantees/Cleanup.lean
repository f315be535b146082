import LineageGuard.Library.EcmaPatterns
import LineageGuard.Validation.Cleanup
import Mathlib.Tactic

/-
This file proves that the cleanup removes owned objects only and ends with an observed absence.
-/

namespace LineageGuard.Validation

open Words Ecma Dialogue

section Messages

/-- These messages of the daemon say that an object does not exist. -/
def noSuchMessages (kind : DockerKind) : Language Char :=
  [[caselessly "Error:", caselessly "Error response from daemon:"].sum, caselessly " No such ",
    1 + caselessly "object: ", caselessly (kind.text ++ ": "), filledWith isReferenceChar].prod

def notFoundMessages : DockerKind → Language Char
  | .container => noSuchMessages .container
  | .network => [noSuchMessages .network, [caselessly "Error response from daemon: network ",
      filledWith isReferenceChar, caselessly " not found"].prod].sum

theorem noSuch_takes (kind : DockerKind) : Takes (noSuchMessages kind) (noSuch kind) :=
  sequence_takes (.cons (firstOf_takes (.cons (caseless_takes _) (.cons (caseless_takes _) .nil)))
    (.cons (caseless_takes _) (.cons (perhaps_takes (caseless_takes _))
      (.cons (caseless_takes _) (.cons (repeated_takes _) .nil)))))

theorem networkNotFound_takes : Takes [caselessly "Error response from daemon: network ",
    filledWith isReferenceChar, caselessly " not found"].prod networkNotFound :=
  sequence_takes (.cons (caseless_takes _) (.cons (repeated_takes _)
    (.cons (caseless_takes _) .nil)))

theorem matchesWhole_message {language : Language Char} {pattern : Pattern} {output : List Char}
    (takes : Takes language pattern) (matched : matchesWhole pattern output = true) :
    ∃ front message back, output = front ++ message ++ back ∧ front.all isSpace = true ∧
      back.all isSpace = true ∧ message ∈ language := by
  obtain ⟨back, found, blank⟩ := (Option.any_eq_true _ _).mp matched
  obtain ⟨message, within, whole⟩ := takes _ _ found
  refine ⟨output.takeWhile isSpace, message, back, ?_, ?_, blank, within⟩
  · rw [List.append_assoc, ← whole, List.takeWhile_append_dropWhile]
  · exact List.all_eq_true.mpr fun _ => List.mem_takeWhile_imp

/-- The accepted output is one of the messages with white space around it. -/
theorem isProvenDockerNotFound_message {kind : DockerKind} {output : List Char}
    (proven : isProvenDockerNotFound kind output = true) :
    ∃ front message back, output = front ++ message ++ back ∧ front.all isSpace = true ∧
      back.all isSpace = true ∧ message ∈ notFoundMessages kind := by
  cases kind with
  | container => exact matchesWhole_message (noSuch_takes .container) proven
  | network =>
      exact matchesWhole_message
        (firstOf_takes (.cons (noSuch_takes .network) (.cons networkNotFound_takes .nil))) proven

end Messages

section Observations

variable {Raised : Type} (host : DockerHost) (kind : DockerKind)

/-- The daemon answered the inspection with the identifier of the object and its owner. -/
def AnsweredOwner (id owner : String) (answer : CommandResult) : Prop :=
  answer.exitCode = 0 ∧ isObjectId id.toList = true ∧
    trim isSpace answer.stdout.toList = id.toList ++ '\t' :: owner.toList

/-- The daemon answered the inspection with nothing but the message that there is no object. -/
def AnsweredAbsent (answer : CommandResult) : Prop :=
  answer.exitCode ≠ 0 ∧ ∃ front message back,
    answer.stdout.toList ++ '\n' :: answer.stderr.toList = front ++ message ++ back ∧
      front.all isSpace = true ∧ back.all isSpace = true ∧ message ∈ notFoundMessages kind

/-- The trace ends with the answer to the inspection of the object. -/
def LastInspected (reference : String) (answered : CommandResult → Prop)
    (trace : CommandTrace Raised) : Prop :=
  ∃ earlier answer, trace = earlier ++ [⟨inspectCommand host kind reference, .ok answer⟩] ∧
    answered answer

/-- A removal directly follows the answer that the object has the owner. -/
def RemovesOwned (owner : String) (trace : CommandTrace Raised) : Prop :=
  ∀ before exchange after, trace = before ++ exchange :: after →
    (∃ reference, exchange.call = inspectCommand host kind reference) ∨
      ∃ id reference, exchange.call = removeCommand host kind id ∧
        LastInspected host kind reference (AnsweredOwner id owner) before

/-- The last command inspects the removed object, or the requested one when there was no removal,
and the daemon answers that it does not exist. -/
def EndsAbsent (requested : String) (trace : CommandTrace Raised) : Prop :=
  ∃ reference, LastInspected host kind reference (AnsweredAbsent kind) trace ∧
    (∀ id reply, (⟨removeCommand host kind id, reply⟩ : Exchange _ _) ∈ trace → id = reference) ∧
    ((∀ id reply, (⟨removeCommand host kind id, reply⟩ : Exchange _ _) ∉ trace) →
      reference = requested)

variable {host kind} {trace : CommandTrace Raised}

theorem inspectCommand_ne (reference id : String) :
    inspectCommand host kind reference ≠ removeCommand host kind id := by
  intro same
  have sameArgs := congrArg (fun command => command.args.length) same
  cases kind with
  | container => exact absurd sameArgs (show (5 : ℕ) ≠ 3 by decide)
  | network => exact absurd sameArgs (show (5 : ℕ) ≠ 3 by decide)

theorem removeCommand_injective {id other : String}
    (same : removeCommand host kind id = removeCommand host kind other) : id = other := by
  have sameArgs := congrArg (fun command => command.args.getLast?) same
  cases kind with
  | container => exact Option.some_inj.mp sameArgs
  | network => exact Option.some_inj.mp sameArgs

end Observations

section Steps

variable {Raised Value : Type} {host : DockerHost} {kind : DockerKind} {owner : String}
variable {trace : CommandTrace Raised}

theorem runCommand_cases {command : FixedCommand} {next : CommandResult → Commands Raised Value}
    {result : Except (CleanupFailure Raised) Value}
    (runs : Runs (runCommand command >>= next) trace result) :
    (∃ raised, trace = [⟨command, .error raised⟩] ∧ result = .error (.runner raised)) ∨
      ∃ answer rest, trace = ⟨command, .ok answer⟩ :: rest ∧ Runs (next answer) rest result := by
  rw [runCommand, Program.bind_assoc] at runs
  obtain ⟨reply, rest, rfl, continues⟩ := runs.perform_cases
  cases reply with
  | error raised =>
      obtain ⟨rfl, rfl⟩ := continues.done_cases
      exact Or.inl ⟨raised, rfl, rfl⟩
  | ok answer => exact Or.inr ⟨answer, rest, rfl, continues⟩

theorem runCommand_ok {command : FixedCommand} {next : CommandResult → Commands Raised Value}
    {answer : CommandResult} {result : Except (CleanupFailure Raised) Value}
    (continues : Runs (next answer) trace result) :
    Runs (runCommand command >>= next) (⟨command, .ok answer⟩ :: trace) result := by
  have performed : Runs (Program.perform command)
      ([⟨command, .ok answer⟩] : CommandTrace Raised)
      (.ok (.ok answer) : Except (CleanupFailure Raised) _) := .ask _ (.done _)
  have asked : Runs (runCommand command) ([⟨command, .ok answer⟩] : CommandTrace Raised)
      (.ok answer) := performed.bind_ok (.done _)
  exact asked.bind_ok continues

/-- One inspection asks one question, and its result comes from the answer. -/
theorem inspect_runs {reference : String}
    {result : Except (CleanupFailure Raised) (Option String)}
    (runs : Runs (inspectOwnedDockerObject host kind reference owner) trace result) :
    ∃ reply, trace = [⟨inspectCommand host kind reference, reply⟩] ∧
      (result = .ok none → ∃ answer, reply = .ok answer ∧ AnsweredAbsent kind answer) ∧
      ∀ id, result = .ok (some id) →
        ∃ answer, reply = .ok answer ∧ AnsweredOwner id owner answer := by
  rcases runCommand_cases runs with ⟨raised, rfl, rfl⟩ | ⟨answer, rest, rfl, continues⟩
  · exact ⟨_, rfl, by simp, by simp⟩
  · split_ifs at continues with failed proven
    · obtain ⟨rfl, rfl⟩ := continues.done_cases
      exact ⟨_, rfl, fun _ => ⟨answer, rfl, failed, isProvenDockerNotFound_message proven⟩, by simp⟩
    · obtain ⟨rfl, rfl⟩ := continues.done_cases
      exact ⟨_, rfl, by simp, by simp⟩
    · split at continues
      · next id actualOwner fields =>
          split_ifs at continues with owned
          · obtain ⟨rfl, rfl⟩ := continues.done_cases
            refine ⟨_, rfl, by simp, fun found same => ⟨answer, rfl, not_not.mp failed, ?_⟩⟩
            obtain rfl := Option.some_inj.mp (Except.ok.inj same)
            have joined := @List.intercalate_splitOn _ (trim isSpace answer.stdout.toList) _ _ '\t'
            rw [fields] at joined
            rw [String.toList_ofList]
            refine ⟨owned.1, ?_⟩
            rw [← joined, owned.2]
            simp [List.intercalate]
          · obtain ⟨rfl, rfl⟩ := continues.done_cases
            exact ⟨_, rfl, by simp, by simp⟩
      · obtain ⟨rfl, rfl⟩ := continues.done_cases
        exact ⟨_, rfl, by simp, by simp⟩

theorem requiredCommand_runs {command : FixedCommand}
    {result : Except (CleanupFailure Raised) Unit}
    (runs : Runs (requiredCommand command) trace result) :
    ∃ reply, trace = [⟨command, reply⟩] := by
  rcases runCommand_cases runs with ⟨raised, rfl, rfl⟩ | ⟨answer, rest, rfl, continues⟩
  · exact ⟨_, rfl⟩
  · by_cases failed : answer.exitCode ≠ 0
    · rw [if_pos failed] at continues
      obtain ⟨rfl, rfl⟩ := continues.done_cases
      exact ⟨_, rfl⟩
    · rw [if_neg failed] at continues
      have ended : Runs (.done (.ok ())) rest result := continues
      obtain ⟨rfl, rfl⟩ := ended.done_cases
      exact ⟨_, rfl⟩

theorem removesOwned_nil : RemovesOwned host kind owner ([] : CommandTrace Raised) := by
  intro before exchange after split
  exact absurd split (by simp)

/-- Each further command is the last one of its trace. -/
theorem removesOwned_concat {last : Exchange FixedCommand (CommandReply Raised)}
    (owned : RemovesOwned host kind owner trace)
    (allowed : (∃ reference, last.call = inspectCommand host kind reference) ∨
      ∃ id reference, last.call = removeCommand host kind id ∧
        LastInspected host kind reference (AnsweredOwner id owner) trace) :
    RemovesOwned host kind owner (trace ++ [last]) := by
  intro before exchange after split
  rcases List.eq_nil_or_concat after with rfl | ⟨others, final, rfl⟩
  · obtain ⟨rfl, same⟩ := List.append_inj' split rfl
    rw [← List.singleton_inj.mp same]
    exact allowed
  · rw [List.concat_eq_append, ← List.cons_append, ← List.append_assoc] at split
    exact owned before exchange others (List.append_inj' split rfl).1

end Steps

section Cleanup

variable {Raised : Type} {host : DockerHost} {kind : DockerKind} {name owner : String}
variable {knownId : Option String} {trace : CommandTrace Raised}
variable {result : Except (CleanupFailure Raised) Unit}

/-- A cleanup that is resolved asked once or removed one object between two questions. -/
theorem removeOwnedDockerObject_runs
    (runs : Runs (removeOwnedDockerObject host kind name owner knownId) trace result) :
    (∃ reply, trace = [⟨inspectCommand host kind (knownId.getD name), reply⟩] ∧
      (result = .ok () → ∃ answer, reply = .ok answer ∧ AnsweredAbsent kind answer)) ∨
    ∃ id answer reply rest,
      trace = [⟨inspectCommand host kind (knownId.getD name), .ok answer⟩] ++
        [⟨removeCommand host kind id, reply⟩] ++ rest ∧
      AnsweredOwner id owner answer ∧
      ((rest = [] ∧ result ≠ .ok ()) ∨ ∃ last, rest = [⟨inspectCommand host kind id, last⟩] ∧
        (result = .ok () → ∃ answer, last = .ok answer ∧ AnsweredAbsent kind answer)) := by
  rcases runs.bind_cases with ⟨error, asked, rfl⟩ | ⟨first, later, found, rfl, asked, continues⟩
  · obtain ⟨reply, rfl, _, _⟩ := inspect_runs asked
    exact Or.inl ⟨reply, rfl, by simp⟩
  · obtain ⟨reply, rfl, absent, owned⟩ := inspect_runs asked
    cases found with
    | none =>
        obtain ⟨rfl, rfl⟩ := continues.done_cases
        exact Or.inl ⟨reply, rfl, fun _ => absent rfl⟩
    | some id =>
        obtain ⟨answer, rfl, answered⟩ := owned id rfl
        refine Or.inr ⟨id, answer, ?_⟩
        rcases continues.bind_cases with
          ⟨error, removed, rfl⟩ | ⟨second, third, _, rfl, removed, proves⟩
        · obtain ⟨reply, rfl⟩ := requiredCommand_runs removed
          exact ⟨reply, [], rfl, answered, Or.inl ⟨rfl, by simp⟩⟩
        · obtain ⟨reply, rfl⟩ := requiredCommand_runs removed
          refine ⟨reply, third, by simp, answered, Or.inr ?_⟩
          rcases proves.bind_cases with
            ⟨error, again, rfl⟩ | ⟨fourth, fifth, left, rfl, again, ends⟩
          · obtain ⟨last, rfl, _, _⟩ := inspect_runs again
            exact ⟨last, rfl, by simp⟩
          · obtain ⟨last, rfl, gone, _⟩ := inspect_runs again
            cases left with
            | none =>
                obtain ⟨rfl, rfl⟩ := ends.done_cases
                exact ⟨last, rfl, fun _ => gone rfl⟩
            | some _ =>
                obtain ⟨rfl, rfl⟩ := ends.done_cases
                exact ⟨last, rfl, by simp⟩

theorem cleanup_removesOwned
    (runs : Runs (removeOwnedDockerObject host kind name owner knownId) trace result) :
    RemovesOwned host kind owner trace := by
  have asked (reply : Except Raised CommandResult) : RemovesOwned host kind owner
      ([⟨inspectCommand host kind (knownId.getD name), reply⟩] : CommandTrace Raised) :=
    removesOwned_concat removesOwned_nil (Or.inl ⟨_, rfl⟩)
  rcases removeOwnedDockerObject_runs runs with
    ⟨reply, rfl, _⟩ | ⟨id, answer, reply, rest, rfl, answered, ends⟩
  · exact asked reply
  · have removed : RemovesOwned host kind owner
        ([⟨inspectCommand host kind (knownId.getD name), .ok answer⟩] ++
          [⟨removeCommand host kind id, reply⟩]) :=
      removesOwned_concat (asked (.ok answer)) (Or.inr ⟨id, _, rfl, [], answer, rfl, answered⟩)
    rcases ends with ⟨rfl, _⟩ | ⟨last, rfl, _⟩
    · rw [List.append_nil]
      exact removed
    · exact removesOwned_concat removed (Or.inl ⟨id, rfl⟩)

theorem cleanup_endsAbsent
    (runs : Runs (removeOwnedDockerObject host kind name owner knownId) trace (.ok ())) :
    EndsAbsent host kind (knownId.getD name) trace := by
  rcases removeOwnedDockerObject_runs runs with
    ⟨reply, rfl, absent⟩ | ⟨id, answer, reply, rest, rfl, answered, ends⟩
  · obtain ⟨answer, rfl, gone⟩ := absent rfl
    refine ⟨_, ⟨[], answer, rfl, gone⟩, ?_, fun _ => rfl⟩
    intro id reply present
    have same := List.mem_singleton.mp present
    exact absurd (congrArg Exchange.call same).symm (inspectCommand_ne _ _)
  · rcases ends with ⟨_, raised⟩ | ⟨last, rfl, absent⟩
    · exact absurd rfl raised
    · obtain ⟨final, rfl, gone⟩ := absent rfl
      refine ⟨id, ⟨_, final, rfl, gone⟩, ?_, ?_⟩
      · intro other reply' present
        simp only [List.mem_append, List.mem_singleton, or_assoc] at present
        rcases present with first | second | third
        · exact absurd (congrArg Exchange.call first).symm (inspectCommand_ne _ _)
        · exact removeCommand_injective (congrArg Exchange.call second)
        · exact absurd (congrArg Exchange.call third).symm (inspectCommand_ne _ _)
      · intro none
        exact absurd (by simp) (none id reply)

/-- The cleanup removes an object only after the answer that it has the owner, and it is resolved
only after the answer that the object does not exist. -/
theorem cleanup_ownership_safe
    (runs : Runs (removeOwnedDockerObject host kind name owner knownId) trace result) :
    RemovesOwned host kind owner trace ∧
      (result = .ok () → EndsAbsent host kind (knownId.getD name) trace) := by
  refine ⟨cleanup_removesOwned runs, ?_⟩
  rintro rfl
  exact cleanup_endsAbsent runs

theorem inspect_owned_run {reference : String} {id : List Char} {answer : CommandResult}
    (succeeded : answer.exitCode = 0) (identifier : isObjectId id = true)
    (fields : (trim isSpace answer.stdout.toList).splitOn '\t' = [id, owner.toList]) :
    Runs (inspectOwnedDockerObject host kind reference owner)
      ([⟨inspectCommand host kind reference, .ok answer⟩] : CommandTrace Raised)
      (.ok (some (String.ofList id))) := by
  refine runCommand_ok ?_
  rw [if_neg (not_not.mpr succeeded), fields]
  dsimp only
  rw [if_pos ⟨identifier, rfl⟩]
  exact .done _

theorem inspect_absent_run {reference : String} {answer : CommandResult}
    (failed : answer.exitCode ≠ 0) (proven : isProvenDockerNotFound kind
      (answer.stdout.toList ++ '\n' :: answer.stderr.toList) = true) :
    Runs (inspectOwnedDockerObject host kind reference owner)
      ([⟨inspectCommand host kind reference, .ok answer⟩] : CommandTrace Raised) (.ok none) := by
  refine runCommand_ok ?_
  rw [if_pos failed, if_pos proven]
  exact .done _

theorem removal_run {id : List Char} {answer done gone : CommandResult}
    (asked : Runs (inspectOwnedDockerObject host kind (knownId.getD name) owner)
      ([⟨inspectCommand host kind (knownId.getD name), .ok answer⟩] : CommandTrace Raised)
      (.ok (some (String.ofList id))))
    (succeeded : done.exitCode = 0)
    (proven : Runs (inspectOwnedDockerObject host kind (String.ofList id) owner)
      ([⟨inspectCommand host kind (String.ofList id), .ok gone⟩] : CommandTrace Raised)
      (.ok none)) :
    Runs (removeOwnedDockerObject host kind name owner knownId)
      ([⟨inspectCommand host kind (knownId.getD name), .ok answer⟩,
        ⟨removeCommand host kind (String.ofList id), .ok done⟩,
        ⟨inspectCommand host kind (String.ofList id), .ok gone⟩] : CommandTrace Raised)
      (.ok ()) := by
  have removed : Runs (requiredCommand (removeCommand host kind (String.ofList id)))
      ([⟨removeCommand host kind (String.ofList id), .ok done⟩] : CommandTrace Raised)
      (.ok ()) := by
    refine runCommand_ok ?_
    rw [if_neg (not_not.mpr succeeded)]
    exact .done _
  exact asked.bind_ok (removed.bind_ok (proven.bind_ok (.done _)))

def sampleHost : DockerHost := ⟨⟨"/usr/bin/docker", "d"⟩, "/tmp", ⟨1000, 4096⟩⟩

def sampleObject : List Char := List.replicate 64 'a'

def sampleTrace : CommandTrace Unit :=
  [⟨inspectCommand sampleHost .network "net",
      .ok ⟨0, String.ofList (sampleObject ++ ['\t', 'm', 'e', '\n']), ""⟩⟩,
    ⟨removeCommand sampleHost .network (String.ofList sampleObject), .ok ⟨0, "", ""⟩⟩,
    ⟨inspectCommand sampleHost .network (String.ofList sampleObject),
      .ok ⟨1, "", "Error: No such network: a"⟩⟩]

theorem sampleTrace_runs : Runs
    (removeOwnedDockerObject sampleHost .network "net" "me" none) sampleTrace (.ok ()) := by
  refine removal_run (inspect_owned_run rfl (by decide) ?_) rfl
    (inspect_absent_run (by decide) (by decide))
  rw [String.toList_ofList]
  decide

theorem sampleTrace_safe :
    RemovesOwned sampleHost .network "me" sampleTrace ∧
      EndsAbsent sampleHost .network "net" sampleTrace := by
  have safe := cleanup_ownership_safe sampleTrace_runs
  exact ⟨safe.1, safe.2 rfl⟩

end Cleanup

end LineageGuard.Validation
