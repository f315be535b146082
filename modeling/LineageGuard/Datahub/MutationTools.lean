import LineageGuard.Datahub.Writeback
import LineageGuard.Library.JsonValues
import Mathlib.Tactic

/-
This file translates the connection to the mutation tools and the pinned schemas of their input.
-/

namespace LineageGuard.Datahub

open Json Dialogue

section Sessions

variable {Number : Type}

/-- The error names the tool and the invocation that it is about. -/
structure ToolError where
  code : DataHubAdapterErrorCode
  message : String
  retryable : Bool
  invocationId : Option String
  tool : Option String
  deriving DecidableEq

/-- A session rejects with an error of the adapter or with any other value. -/
inductive ToolFailure
  | adapter (error : ToolError)
  | other
  deriving DecidableEq

structure ToolAnnotations where
  destructiveHint : Option Bool
  readOnlyHint : Option Bool

structure DiscoveredTool (Number : Type) where
  annotations : Option ToolAnnotations
  inputSchema : Option (JsonValue Number)
  name : String

/-- These are the calls of a session. -/
inductive SessionCall (Number : Type)
  | listTools
  | callTool (name : String) (arguments : List (String × JsonValue Number))
  | close

@[reducible] def SessionReply (Number : Type) : SessionCall Number → Type
  | .listTools => Except ToolFailure (List (DiscoveredTool Number))
  | .callTool _ _ => Except ToolFailure (JsonValue Number)
  | .close => Except ToolFailure Unit

abbrev Sessions (Number Value : Type) : Type :=
  Program (SessionCall Number) (SessionReply Number) ToolError Value

abbrev SessionTrace (Number : Type) : Type :=
  List (Exchange (SessionCall Number) (SessionReply Number))

end Sessions

section Schemas

variable {Number : Type}

def MutationToolName.text : MutationToolName → String
  | .saveDocument => "save_document"
  | .addTags => "add_tags"

def mutationToolNames : List MutationToolName := [.saveDocument, .addTags]

def typed (name : String) : JsonValue Number := .object [("type", .string name)]

def nullableString : JsonValue Number :=
  .object [("anyOf", .array [typed "string", typed "null"]), ("default", .null)]

def stringArray : JsonValue Number :=
  .object [("items", typed "string"), ("type", .string "array")]

def nullableStringArray : JsonValue Number :=
  .object [("anyOf", .array [stringArray, typed "null"]), ("default", .null)]

def addTagsParameters : List (String × JsonValue Number) :=
  [("column_paths", .object [("anyOf", .array
      [.object [("items", .object [("anyOf", .array [typed "string", typed "null"])]),
        ("type", .string "array")], typed "null"]), ("default", .null)]),
    ("entity_urns", stringArray), ("tag_urns", stringArray)]

def documentTypes : List (JsonValue Number) :=
  [.string "Insight", .string "Decision", .string "FAQ", .string "Analysis", .string "Summary",
    .string "Recommendation", .string "Note", .string "Context"]

def saveDocumentParameters : List (String × JsonValue Number) :=
  [("content", typed "string"),
    ("document_type", .object [("enum", .array documentTypes), ("type", .string "string")]),
    ("related_assets", nullableStringArray), ("related_documents", nullableStringArray),
    ("topics", nullableStringArray), ("title", typed "string"), ("urn", nullableString)]

def officialParameters : MutationToolName → List (String × JsonValue Number)
  | .addTags => addTagsParameters
  | .saveDocument => saveDocumentParameters

def officialRequired : MutationToolName → List (JsonValue Number)
  | .addTags => [.string "tag_urns", .string "entity_urns"]
  | .saveDocument => [.string "document_type", .string "title", .string "content"]

def officialMembers (name : MutationToolName) : List (String × JsonValue Number) :=
  [("additionalProperties", .bool false), ("properties", .object (officialParameters name)),
    ("required", .array (officialRequired name)), ("type", .string "object")]

def officialMutationInputSchema (name : MutationToolName) : JsonValue Number :=
  .object (officialMembers name)

def expectedInputSchemaFingerprint : MutationToolName → String
  | .addTags => "40f2f12ffad78a89567fac55077ea3888360d528dd186419b7ea813a34301515"
  | .saveDocument => "0c8f42c118274f923340ef0b569f595b6f4be890b7f2bf9df921b02cf3fc96f3"

/-- The normal form leaves out the members with these keys wherever they stand. -/
def isAnnotation (key : String) : Bool := key == "description" || key == "title"

mutual

def normalizeInputSchema : JsonValue Number → JsonValue Number
  | .array items => .array (normalizedItems items)
  | .object members => .object (normalizedMembers members)
  | value => value

def normalizedItems : List (JsonValue Number) → List (JsonValue Number)
  | [] => []
  | item :: rest => normalizeInputSchema item :: normalizedItems rest

def normalizedMembers : List (String × JsonValue Number) → List (String × JsonValue Number)
  | [] => []
  | (key, value) :: rest =>
      if isAnnotation key then normalizedMembers rest
      else (key, normalizeInputSchema value) :: normalizedMembers rest

end

end Schemas

section Connection

variable {Number : Type} (numbers : NumberWriter Number) (collation : Collation String)
variable (digest : List Char → String)

/-- A text is hashed as it is and any other value by its canonical text. -/
def sha256Of : JsonValue Number → String
  | .string content => digest content.toList
  | value => digest (value.stableJson collation numbers)

def policyError (name : MutationToolName) (message : String) : ToolError :=
  ⟨.toolPolicyViolation, "Required DataHub mutation tool " ++ name.text ++ message, false, none,
    some name.text⟩

def declarationFailure (name : MutationToolName) : ToolError :=
  policyError name " did not declare mutation semantics."

/-- A missing schema has no canonical text. -/
def validateDeclaration (name : MutationToolName) (declaration : DiscoveredTool Number) :
    Except ToolError Unit :=
  if declaration.annotations.isSome then .error (declarationFailure name)
  else
    match declaration.inputSchema with
    | none => .error (declarationFailure name)
    | some schema =>
        if sha256Of numbers collation digest (normalizeInputSchema schema) =
            expectedInputSchemaFingerprint name then .ok ()
        else .error (policyError name " input schema drifted.")

def mutationToolName (name : String) : Option MutationToolName :=
  mutationToolNames.find? fun tool => tool.text = name

/-- The declarations are checked in their order. -/
def checkDeclarations : List MutationToolName → List (DiscoveredTool Number) →
    Except ToolError (List MutationToolName)
  | found, [] => .ok found
  | found, declaration :: rest =>
      match mutationToolName declaration.name with
      | none => checkDeclarations found rest
      | some name =>
          if name ∈ found then .error (policyError name " was declared more than once.")
          else
            match validateDeclaration numbers collation digest name declaration with
            | .error error => .error error
            | .ok () => checkDeclarations (found ++ [name]) rest

def checkTools (tools : List (DiscoveredTool Number)) : Except ToolError Unit :=
  match checkDeclarations numbers collation digest [] tools with
  | .error error => .error error
  | .ok found =>
      match mutationToolNames.find? fun name => name ∉ found with
      | none => .ok ()
      | some name => .error ⟨.toolMissing, "Required DataHub mutation tool " ++ name.text ++
          " is unavailable.", false, none, some name.text⟩

/-- The client exists only behind the checks. -/
structure MutationToolClient

/-- The session is closed before the error, whatever becomes of the closing. -/
def closeAndFail (error : ToolError) : Sessions Number MutationToolClient :=
  Program.perform SessionCall.close >>= fun _ => .fail error

def connect : Sessions Number MutationToolClient :=
  Program.perform SessionCall.listTools >>=
      fun (discovered : Except ToolFailure (List (DiscoveredTool Number))) =>
    match discovered with
    | .error (.adapter error) => closeAndFail error
    | .error .other => closeAndFail
        ⟨.unavailable, "DataHub MCP mutation discovery failed.", true, none, none⟩
    | .ok tools =>
        match checkTools numbers collation digest tools with
        | .ok () => pure ⟨⟩
        | .error error => closeAndFail error

end Connection

end LineageGuard.Datahub
