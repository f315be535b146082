import LineageGuard.Library.JsonTokens
import LineageGuard.Scenario.Receipts
import Mathlib.Tactic

/-
This file translates the store that appends signed receipts to a file and reads them back.
-/

namespace LineageGuard.Scenario

open Attempt JsonText

def maxReceiptBytes : ℕ := 4 * 1024 * 1024

def maxReceiptLineBytes : ℕ := 64 * 1024

def maxReceipts : ℕ := 10000

def maxMetrics : ℕ := 32

/-- The runtime writes and reads no whole number with more digits. -/
def maxDigits : ℕ := 4300

abbrev Bytes := List UInt8

/-- These functions belong to the runtime and to the key of the owner. -/
structure Runtime (Real : Type) where
  repr : Real → List Char
  parseReal : List Char → Real
  isfinite : Real → Bool
  decode : Bytes → Option (List Char)
  /-- A timestamp is no date or has no zone or is an instant in microseconds. -/
  fromisoformat : String → Option (Option ℤ)
  hmac : List Char → String
  nonce : String

section Grammar

/-- The whole text consists of so many accepted characters. -/
def fullmatch (accepts : Char → Bool) (least most : ℕ) (text : String) : Bool :=
  decide (least ≤ text.length) && decide (text.length ≤ most) && text.toList.all accepts

def isLowerOrDash (char : Char) : Bool := ('a' ≤ char && char ≤ 'z') || char = '-'

def isDetailChar (char : Char) : Bool := char.isAlphanum || ['_', ':', '-'].contains char

def isHexChar (char : Char) : Bool := ('0' ≤ char && char ≤ '9') || ('a' ≤ char && char ≤ 'f')

def isSha256 (text : String) : Bool := fullmatch isHexChar 64 64 text

end Grammar

variable {Real : Type} (runtime : Runtime Real)

section Fields

def metricAccepted : MetricValue Real → Bool
  | .int _ => true
  | .float value => runtime.isfinite value
  | .str value => decide (value.length ≤ 4096)

def checkFields (receipt : OperationReceipt Real) : Except String Unit := do
  require (receipt.scenarioId = "canonical-customer-id-rename") "RECEIPT_SCENARIO_INVALID"
  require (fullmatch isLowerOrDash 2 32 receipt.operationKind = true) "RECEIPT_OPERATION_INVALID"
  require (fullmatch isDetailChar 2 128 receipt.detailCode = true) "RECEIPT_DETAIL_INVALID"
  require (isSha256 receipt.idempotencyKey = true) "RECEIPT_IDEMPOTENCY_INVALID"
  require (isSha256 receipt.proposalHash = true) "RECEIPT_PROPOSAL_INVALID"
  require (isSha256 receipt.ownershipNonce = true) "RECEIPT_NONCE_INVALID"
  require (receipt.previousHash = "" ∨ isSha256 receipt.previousHash = true)
    "RECEIPT_PREVIOUS_HASH_INVALID"
  require (receipt.recordHash = "" ∨ isSha256 receipt.recordHash = true)
    "RECEIPT_RECORD_HASH_INVALID"
  let timestamp ← present (runtime.fromisoformat receipt.recordedAt) "Invalid isoformat string"
  require (timestamp ≠ none) "RECEIPT_TIMESTAMP_INVALID"
  require (receipt.metrics.entries.length ≤ maxMetrics) "RECEIPT_METRICS_INVALID"
  require (∀ entry ∈ receipt.metrics.entries, entry.1 ≠ "" ∧ entry.1.length ≤ 128 ∧
    metricAccepted runtime entry.2 = true) "RECEIPT_METRICS_INVALID"

end Fields

section Texts

def optionalNode : Option String → Node
  | none => .null
  | some text => .string text

def metricNode : MetricValue Real → Node
  | .int value => .number (wholeText value)
  | .float value => .number (runtime.repr value)
  | .str value => .string value

def metricsNode (metrics : Metrics Real) : Node :=
  .object (metrics.entries.map fun entry => (entry.1, metricNode runtime entry.2))

/-- The members are sorted, and the signed text has no hash of the record. -/
def receiptMembers (receipt : OperationReceipt Real) (hash : List (String × Node)) :
    List (String × Node) :=
  [("aspect_name", optionalNode receipt.aspectName), ("detail_code", .string receipt.detailCode),
    ("entity_urn", optionalNode receipt.entityUrn),
    ("idempotency_key", .string receipt.idempotencyKey),
    ("metrics", metricsNode runtime receipt.metrics),
    ("operation_kind", .string receipt.operationKind),
    ("ownership_nonce", .string receipt.ownershipNonce),
    ("previous_hash", .string receipt.previousHash),
    ("proposal_hash", .string receipt.proposalHash)] ++ hash ++
  [("recorded_at", .string receipt.recordedAt), ("scenario_id", .string receipt.scenarioId),
    ("status", .string receipt.status.value)]

def unsignedNode (receipt : OperationReceipt Real) : Node :=
  .object (receiptMembers runtime receipt [])

def signedNode (receipt : OperationReceipt Real) : Node :=
  .object (receiptMembers runtime receipt [("record_hash", .string receipt.recordHash)])

/-- A whole number must not have too many digits. -/
def metricWritable : MetricValue Real → Bool
  | .int value => decide (value.natAbs.repr.length ≤ maxDigits)
  | _ => true

def sign (receipt : OperationReceipt Real) : Except String String := do
  require (receipt.metrics.entries.all fun entry => metricWritable entry.2)
    "Exceeds the limit for integer string conversion"
  return runtime.hmac (write (unsignedNode runtime receipt))

def encode (text : List Char) : Bytes := text.map fun char => char.toNat.toUInt8

/-- Every record ends with a line break. -/
def recordBytes (receipt : OperationReceipt Real) : Bytes :=
  encode (write (signedNode runtime receipt) ++ ['\n'])

end Texts

section Parsing

/-- A later member of a key replaces the earlier one. -/
def memberOf (members : List (String × Node)) (key : String) : Option Node :=
  members.reverse.lookup key

def receiptKeys : List String :=
  ["scenario_id", "operation_kind", "entity_urn", "aspect_name", "idempotency_key", "status",
    "detail_code", "recorded_at", "proposal_hash", "ownership_nonce", "metrics", "previous_hash",
    "record_hash"]

def boundedString : Option Node → Option String
  | some (.string text) => if text.length ≤ 4096 then some text else none
  | _ => none

def optionalString : Option Node → Option (Option String)
  | some .null => some none
  | some (.string text) => some (some text)
  | _ => none

/-- A number with a fraction or an exponent is one of the runtime. -/
def metricValue : Node → Option (MetricValue Real)
  | .number text =>
      if isRealText text then
        if runtime.isfinite (runtime.parseReal text) then some (.float (runtime.parseReal text))
        else none
      else if digitCount text ≤ maxDigits then some (.int (wholeNumber text))
      else none
  | .string text => some (.str text)
  | _ => none

def metricEntries : List (String × Node) → Option (Entries Real)
  | [] => some []
  | (key, node) :: rest => do
      let value ← metricValue runtime node
      let entries ← metricEntries rest
      if key ≠ "" then some ((key, value) :: entries) else none

def metricsOf : Option Node → Option (Metrics Real)
  | some (.object members) => do
      let entries ← metricEntries runtime members
      let metrics := Metrics.ofList entries
      if metrics.entries.length ≤ maxMetrics then some metrics else none
  | _ => none

def statusOf : Option Node → Option ReceiptStatus
  | some (.string text) => statuses.find? fun status => status.value = text
  | _ => none

/-- The record has exactly the known keys. -/
def exactKeys (members : List (String × Node)) : Option Unit :=
  if members.all (fun member => receiptKeys.contains member.1) &&
      receiptKeys.all fun key => (memberOf members key).isSome then some () else none

def parseRecord : Node → Option (OperationReceipt Real)
  | .object members => do
      exactKeys members
      let scenarioId ← boundedString (memberOf members "scenario_id")
      let operationKind ← boundedString (memberOf members "operation_kind")
      let idempotencyKey ← boundedString (memberOf members "idempotency_key")
      let detailCode ← boundedString (memberOf members "detail_code")
      let recordedAt ← boundedString (memberOf members "recorded_at")
      let proposalHash ← boundedString (memberOf members "proposal_hash")
      let ownershipNonce ← boundedString (memberOf members "ownership_nonce")
      let previousHash ← boundedString (memberOf members "previous_hash")
      let recordHash ← boundedString (memberOf members "record_hash")
      let entityUrn ← optionalString (memberOf members "entity_urn")
      let aspectName ← optionalString (memberOf members "aspect_name")
      let metrics ← metricsOf runtime (memberOf members "metrics")
      let status ← statusOf (memberOf members "status")
      return ⟨scenarioId, operationKind, entityUrn, aspectName, idempotencyKey, status, detailCode,
        recordedAt, proposalHash, ownershipNonce, metrics, previousHash, recordHash⟩
  | _ => none

def loadRecord (line : Bytes) : Option (OperationReceipt Real) := do
  let text ← runtime.decode line
  let node ← loads text
  parseRecord runtime node

end Parsing

section Store

/-- Every line keeps its line break. -/
def splitLines : Bytes → List Bytes
  | [] => []
  | byte :: rest =>
      if byte = 10 then [byte] :: splitLines rest
      else match splitLines rest with
        | [] => [[byte]]
        | line :: lines => (byte :: line) :: lines

/-- The reader remembers these facts about the earlier lines. -/
structure ReaderState where
  previousHash : String
  previousTime : Option ℤ
  seen : List (OperationKey × String)

def ReaderState.start : ReaderState := ⟨"", none, []⟩

def inOrder (previous : Option ℤ) (time : ℤ) : Prop := ∀ earlier ∈ previous, earlier ≤ time

instance (previous : Option ℤ) (time : ℤ) : Decidable (inOrder previous time) :=
  inferInstanceAs (Decidable (∀ earlier ∈ previous, earlier ≤ time))

def lineError (code : String) (number : ℕ) : String := code ++ ":" ++ number.repr

/-- A line is accepted after the earlier ones. -/
def readLine (number : ℕ) (state : ReaderState) (line : Bytes) :
    Except String (OperationReceipt Real × ReaderState) := do
  require (number ≤ maxReceipts) "RECEIPT_COUNT_LIMIT"
  require (line.length ≤ maxReceiptLineBytes) (lineError "RECEIPT_LINE_TOO_LARGE" number)
  let receipt ← present (loadRecord runtime line) (lineError "RECEIPT_INVALID_LINE" number)
  let recorded ← present (runtime.fromisoformat receipt.recordedAt)
    (lineError "RECEIPT_INVALID_LINE" number)
  let time ← present recorded (lineError "RECEIPT_TIMESTAMP_OUT_OF_ORDER" number)
  require (inOrder state.previousTime time) (lineError "RECEIPT_TIMESTAMP_OUT_OF_ORDER" number)
  require (receipt.previousHash = state.previousHash) (lineError "RECEIPT_CHAIN_BROKEN" number)
  require (receipt.ownershipNonce = runtime.nonce) (lineError "RECEIPT_NONCE_INVALID" number)
  checkFields runtime receipt
  let expectedHash ← sign runtime { receipt with recordHash := "" }
  require (receipt.recordHash = expectedHash) (lineError "RECEIPT_HASH_INVALID" number)
  require (∀ other ∈ state.seen.lookup receipt.key, other = receipt.proposalHash)
    (lineError "RECEIPT_DUPLICATE_CONFLICT" number)
  return (receipt, ⟨receipt.recordHash, some time, (receipt.key, receipt.proposalHash) :: state.seen⟩)

def readLines : ℕ → ReaderState → List Bytes → Except String (List (OperationReceipt Real))
  | _, _, [] => .ok []
  | number, state, line :: rest => do
      let (receipt, state) ← readLine runtime number state line
      let receipts ← readLines (number + 1) state rest
      return receipt :: receipts

/-- A missing file has no receipt. -/
def readAll : Option Bytes → Except String (List (OperationReceipt Real))
  | none => .ok []
  | some content => do
      require (content.length ≤ maxReceiptBytes) "PROTECTED_FILE_TOO_LARGE"
      readLines runtime 1 ReaderState.start (splitLines content)

/-- The write is complete or it stops after so many bytes. -/
inductive Disk
  | complete
  | stopped (count : ℕ)

def bind (existing : List (OperationReceipt Real)) (receipt : OperationReceipt Real) :
    OperationReceipt Real :=
  { receipt with
    ownershipNonce := if receipt.ownershipNonce = "" then runtime.nonce else receipt.ownershipNonce
    previousHash := ((existing.getLast?).map (·.recordHash)).getD ""
    recordHash := "" }

/-- The signed receipt is ready to be written. -/
def prepare (file : Option Bytes) (receipt : OperationReceipt Real) :
    Except String (OperationReceipt Real) := do
  let existing ← readAll runtime file
  require (existing.length < maxReceipts) "RECEIPT_COUNT_LIMIT"
  require (receipt.ownershipNonce = "" ∨ receipt.ownershipNonce = runtime.nonce)
    "RECEIPT_OWNERSHIP_NONCE_MISMATCH"
  let recorded ← present (runtime.fromisoformat receipt.recordedAt) "Invalid isoformat string"
  let time ← present recorded "RECEIPT_TIMESTAMP_OUT_OF_ORDER"
  let previous := existing.getLast?.bind fun last => (runtime.fromisoformat last.recordedAt).join
  require (inOrder previous time) "RECEIPT_TIMESTAMP_OUT_OF_ORDER"
  require (∀ item ∈ existing, item.key = receipt.key → item.proposalHash = receipt.proposalHash)
    "RECEIPT_DUPLICATE_CONFLICT"
  let bound := bind runtime existing receipt
  checkFields runtime bound
  let recordHash ← sign runtime bound
  let signed := { bound with recordHash := recordHash }
  require ((recordBytes runtime signed).length ≤ maxReceiptLineBytes) "RECEIPT_LINE_TOO_LARGE"
  require ((file.getD []).length + (recordBytes runtime signed).length ≤ maxReceiptBytes)
    "RECEIPT_FILE_TOO_LARGE"
  return signed

/-- The record is written after every check, and only a write that stops raises after a change. -/
def append (disk : Disk) (file : Option Bytes) (receipt : OperationReceipt Real) :
    Except String (OperationReceipt Real) × Option Bytes :=
  match prepare runtime file receipt with
  | .error error => (.error error, file)
  | .ok signed =>
      match disk with
      | .complete => (.ok signed, some (file.getD [] ++ recordBytes runtime signed))
      | .stopped count =>
          (.error "OSError", some (file.getD [] ++ (recordBytes runtime signed).take count))

end Store

end LineageGuard.Scenario
