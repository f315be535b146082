import LineageGuard.Library.Json
import Mathlib.Tactic

/-
This file gives the readers that turn a JSON value into typed data or refuse it.
-/

namespace Contract

open Json

/-- A reader refuses a value or gives what it stands for. -/
abbrev Reader (Data : Type) : Type := Value → Option Data

/-- Every integer up to this one is a number of its own. -/
def maxSafeInteger : ℕ := 9007199254740991

def nonnegativeInteger : Reader ℕ
  | .number value => if 0 ≤ value ∧ value ≤ maxSafeInteger then some value.toNat else none
  | _ => none

/-- The check reads the text as it stands. -/
def checkedText (accepts : String → Bool) : Reader String
  | .string text => if accepts text then some text else none
  | _ => none

def boolean : Reader Bool
  | .bool value => some value
  | _ => none

def anything : Reader Unit := fun _ => some ()

variable {Data : Type}

def nullable (read : Reader Data) : Reader (Option Data)
  | .null => some none
  | value => (read value).map some

def listOf (most : ℕ) (read : Reader Data) : Reader (List Data)
  | .array items => if items.length ≤ most then items.mapM read else none
  | _ => none

/-- A strict object has no member outside of its keys. -/
def strictObject (keys : List String) : Reader (List (String × Value))
  | .object members => if members.all fun member => keys.contains member.1 then some members else none
  | _ => none

def passingObject : Reader (List (String × Value))
  | .object members => some members
  | _ => none

def member (read : Reader Data) (key : String) (members : List (String × Value)) : Option Data :=
  members.lookup key >>= read

def optionalMember (read : Reader Data) (key : String) (members : List (String × Value)) :
    Option (Option Data) :=
  match members.lookup key with
  | none => some none
  | some value => (read value).map some

end Contract
