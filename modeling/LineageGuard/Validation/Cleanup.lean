import LineageGuard.Library.Dialogue
import LineageGuard.Validation.Validator
import Mathlib.Tactic

/-
This file translates the cleanup of the Docker objects that a validation created.
-/

namespace LineageGuard.Validation

open Words Ecma Dialogue

section Commands

structure DockerExecutable where
  path : String
  digest : String

/-- These are the bounds that the policy sets for every command. -/
structure CommandBounds where
  timeoutMs : ℕ
  maxOutputBytes : ℕ

structure FixedCommand where
  executable : String
  executableDigest : String
  args : List String
  cwd : String
  timeoutMs : ℕ
  maxOutputBytes : ℕ
  deriving DecidableEq

structure CommandResult where
  exitCode : ℤ
  stdout : String
  stderr : String

/-- The runner may reject with any value. -/
inductive CleanupFailure (Raised : Type)
  | validation (error : ValidationError)
  | runner (raised : Raised)

/-- A command either gives a result or is rejected. -/
abbrev CommandReply (Raised : Type) (_command : FixedCommand) : Type :=
  Except Raised CommandResult

abbrev Commands (Raised Value : Type) : Type :=
  Program FixedCommand (CommandReply Raised) (CleanupFailure Raised) Value

abbrev CommandTrace (Raised : Type) : Type :=
  List (Exchange FixedCommand (CommandReply Raised))

/-- Every command runs the same executable in the same directory. -/
structure DockerHost where
  docker : DockerExecutable
  cwd : String
  policy : CommandBounds

def DockerHost.dockerCommand (host : DockerHost) (args : List String) : FixedCommand :=
  ⟨host.docker.path, host.docker.digest, args, host.cwd, host.policy.timeoutMs,
    host.policy.maxOutputBytes⟩

variable {Raised : Type}

def runCommand (command : FixedCommand) : Commands Raised CommandResult :=
  Program.perform command >>= fun reply =>
    match reply with
    | .ok result => pure result
    | .error raised => .fail (.runner raised)

def reject {Value : Type} (code : ValidationErrorCode) (diagnostic : String) :
    Commands Raised Value := .fail (.validation ⟨code, diagnostic⟩)

end Commands

section Diagnostics

/-- The word in front of an equals sign ends with the name of a credential. -/
def credentialName (word : List Char) : Option (List Char) :=
  ["password", "token", "secret"].findSome? fun name =>
    let ending := word.drop (word.length - name.length)
    if ending.map Char.toLower = name.toList then some ending else none

/-- A credential starts a word and its value is not empty. -/
def credential (before : Option Char) (text : List Char) :
    Option (List Char × List Char) :=
  if boundary before text.head? then
    match text.dropWhile isWord with
    | '=' :: value =>
        if value.head?.any fun char => !isSpace char then
          (credentialName (text.takeWhile isWord)).map fun name =>
            (name, value.dropWhile fun char => !isSpace char)
        else none
    | _ => none
  else none

def redactFrom : Option Char → ℕ → List Char → List Char
  | _, _, [] => []
  | _, skipped + 1, char :: rest => redactFrom (some char) skipped rest
  | before, 0, char :: rest =>
      match credential before (char :: rest) with
      | some (name, after) =>
          name ++ "=[REDACTED]".toList ++ redactFrom (some char) (rest.length - after.length) rest
      | none => char :: redactFrom (some char) 0 rest

def sanitizeValidationDiagnostic (value : String) : String :=
  let visible := value.toList.map fun char =>
    if char.toNat < 32 ∨ char.toNat = 127 then ' ' else char
  String.ofList ((trim isSpace (replaceAll spaces [' '] (redactFrom none 0 visible))).take 160)

variable {Raised : Type}

def requiredCommand (command : FixedCommand) : Commands Raised Unit := do
  let result ← runCommand command
  if result.exitCode ≠ 0 then
    reject .commandFailed ("validator setup exit_code=" ++ toString result.exitCode ++ " detail=" ++
      sanitizeValidationDiagnostic (if result.stderr = "" then result.stdout else result.stderr))
  else pure ()

end Diagnostics

section Objects

inductive DockerKind
  | container
  | network
  deriving DecidableEq

def DockerKind.text : DockerKind → String
  | .container => "container"
  | .network => "network"

def isReferenceChar (char : Char) : Bool :=
  char.isAlphanum || ['_', '.', ':', '-'].contains char

def daemonError : Pattern := firstOf [caseless "Error:", caseless "Error response from daemon:"]

def noSuch (kind : DockerKind) : Pattern :=
  sequence [daemonError, caseless " No such ", perhaps (caseless "object: "),
    caseless (kind.text ++ ": "), repeated isReferenceChar]

def networkNotFound : Pattern :=
  sequence [caseless "Error response from daemon: network ", repeated isReferenceChar,
    caseless " not found"]

/-- The pattern matches the whole text up to the white space around it. -/
def matchesWhole (pattern : Pattern) (output : List Char) : Bool :=
  (behind isSpace pattern output).any fun after => after.all isSpace

def isProvenDockerNotFound (kind : DockerKind) (output : List Char) : Bool :=
  match kind with
  | .container => matchesWhole (noSuch .container) output
  | .network => matchesWhole (firstOf [noSuch .network, networkNotFound]) output

def isObjectId (id : List Char) : Bool :=
  decide (id.length = 64) &&
    id.all fun char => ('a' ≤ char && char ≤ 'f') || ('0' ≤ char && char ≤ '9')

def ownerFormat : DockerKind → String
  | .container => "\x7b\x7b.Id\x7d\x7d\t\x7b\x7bindex .Config.Labels " ++
      "\"lineageguard.validation-owner\"\x7d\x7d"
  | .network => "\x7b\x7b.Id\x7d\x7d\t\x7b\x7bindex .Labels " ++
      "\"lineageguard.validation-owner\"\x7d\x7d"

variable {Raised : Type} (host : DockerHost) (kind : DockerKind)

def inspectCommand (reference : String) : FixedCommand :=
  host.dockerCommand [kind.text, "inspect", "--format", ownerFormat kind, reference]

def removeCommand (id : String) : FixedCommand :=
  host.dockerCommand (match kind with
    | .container => ["rm", "--force", id]
    | .network => ["network", "rm", id])

def inspectOwnedDockerObject (reference owner : String) : Commands Raised (Option String) := do
  let inspect ← runCommand (inspectCommand host kind reference)
  if inspect.exitCode ≠ 0 then
    if isProvenDockerNotFound kind (inspect.stdout.toList ++ '\n' :: inspect.stderr.toList) then
      pure none
    else reject .cleanupFailed ("ambiguous Docker " ++ kind.text ++ " inspection failure")
  else
    match (trim isSpace inspect.stdout.toList).splitOn '\t' with
    | [id, actualOwner] =>
        if isObjectId id = true ∧ actualOwner = owner.toList then pure (some (String.ofList id))
        else reject .cleanupFailed ("refused cleanup of unowned Docker " ++ kind.text)
    | _ => reject .cleanupFailed ("refused cleanup of unowned Docker " ++ kind.text)

def removeOwnedDockerObject (name owner : String) (knownId : Option String) :
    Commands Raised Unit := do
  match ← inspectOwnedDockerObject host kind (knownId.getD name) owner with
  | none => pure ()
  | some id =>
      requiredCommand (removeCommand host kind id)
      match ← inspectOwnedDockerObject host kind id owner with
      | none => pure ()
      | some _ => reject .cleanupFailed ("Docker " ++ kind.text ++ " removal was not proven")

end Objects

end LineageGuard.Validation
