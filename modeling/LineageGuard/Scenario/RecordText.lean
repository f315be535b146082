import LineageGuard.Scenario.ReceiptLog
import Mathlib.Tactic

/-
This file proves that a written record is read back.
-/

namespace LineageGuard.Scenario

open Attempt JsonText

variable {Real : Type} {runtime : Runtime Real}

/-- The runtime documents these facts of its decoder and its numbers and its digests. -/
structure Documented (runtime : Runtime Real) : Prop where
  decodes : ∀ text : List Char, (∀ char ∈ text, 0 < char.toNat ∧ char.toNat < 128) →
    runtime.decode (encode text) = some text
  reals : ∀ value, runtime.isfinite value = true → isNumber (runtime.repr value) = true ∧
    isRealText (runtime.repr value) = true ∧ runtime.parseReal (runtime.repr value) = value
  digests : ∀ text, isSha256 (runtime.hmac text) = true

section Metrics

theorem insertEntry_last {entries : Entries Real} {key : String} {value : MetricValue Real}
    (last : ∀ entry ∈ entries, entry.1 < key) :
    insertEntry key value entries = entries ++ [(key, value)] := by
  induction entries with
  | nil => rfl
  | cons entry rest ih =>
      have before := last entry List.mem_cons_self
      rw [insertEntry, if_neg (not_lt_of_gt before), if_neg (ne_of_gt before),
        ih fun other present => last other (List.mem_cons_of_mem _ present), List.cons_append]

theorem update_ordered {metrics : Metrics Real} {entries : Entries Real}
    (ordered : Ordered (metrics.entries ++ entries)) :
    (metrics.update entries).entries = metrics.entries ++ entries := by
  induction entries generalizing metrics with
  | nil => exact (List.append_nil _).symm
  | cons entry rest ih =>
      have inserted : (metrics.insert entry.1 entry.2).entries = metrics.entries ++ [entry] := by
        refine insertEntry_last fun other present => ?_
        exact (List.pairwise_append.mp ordered).2.2 other present entry List.mem_cons_self
      have step : metrics.update (entry :: rest) =
          (metrics.insert entry.1 entry.2).update rest := rfl
      rw [step, ih, inserted, List.append_assoc, List.singleton_append]
      rw [inserted, List.append_assoc, List.singleton_append]
      exact ordered

/-- The sorted entries of metrics give the metrics back. -/
theorem ofList_entries (metrics : Metrics Real) : Metrics.ofList metrics.entries = metrics :=
  Metrics.ext (update_ordered metrics.ordered)

theorem metricValue_metricNode (documented : Documented runtime) {value : MetricValue Real}
    (accepted : metricAccepted runtime value = true) (writable : metricWritable value = true) :
    metricValue runtime (metricNode runtime value) = some value := by
  cases value with
  | int value =>
      rw [metricWritable, decide_eq_true_eq] at writable
      rw [metricNode, metricValue, isRealText_wholeText, digitCount_wholeText, if_neg (by decide),
        if_pos writable, wholeNumber_wholeText]
  | float value =>
      obtain ⟨_, isReal, same⟩ := documented.reals value accepted
      rw [metricAccepted] at accepted
      rw [metricNode, metricValue, if_pos isReal, same, if_pos accepted]
  | str value => rfl

theorem metricEntries_map (documented : Documented runtime) {entries : Entries Real}
    (accepted : ∀ entry ∈ entries, entry.1 ≠ "" ∧ metricAccepted runtime entry.2 = true)
    (writable : ∀ entry ∈ entries, metricWritable entry.2 = true) :
    metricEntries runtime (entries.map fun entry => (entry.1, metricNode runtime entry.2)) =
      some entries := by
  induction entries with
  | nil => rfl
  | cons entry rest ih =>
      obtain ⟨filled, fine⟩ := accepted entry List.mem_cons_self
      rw [List.map_cons, metricEntries,
        metricValue_metricNode documented fine (writable entry List.mem_cons_self),
        ih (fun other present => accepted other (List.mem_cons_of_mem _ present))
          fun other present => writable other (List.mem_cons_of_mem _ present)]
      simp only [Option.bind_eq_bind, Option.bind_some, if_pos filled]

end Metrics

section Records

structure FieldsChecked (runtime : Runtime Real) (receipt : OperationReceipt Real) : Prop where
  scenario : receipt.scenarioId = "canonical-customer-id-rename"
  operation : fullmatch isLowerOrDash 2 32 receipt.operationKind = true
  detail : fullmatch isDetailChar 2 128 receipt.detailCode = true
  idempotency : isSha256 receipt.idempotencyKey = true
  proposal : isSha256 receipt.proposalHash = true
  nonce : isSha256 receipt.ownershipNonce = true
  previous : receipt.previousHash = "" ∨ isSha256 receipt.previousHash = true
  record : receipt.recordHash = "" ∨ isSha256 receipt.recordHash = true
  timestamp : ∃ time, runtime.fromisoformat receipt.recordedAt = some (some time)
  count : receipt.metrics.entries.length ≤ maxMetrics
  metrics : ∀ entry ∈ receipt.metrics.entries, entry.1 ≠ "" ∧ entry.1.length ≤ 128 ∧
    metricAccepted runtime entry.2 = true

theorem checkFields_ok {receipt : OperationReceipt Real} :
    checkFields runtime receipt = .ok () ↔ FieldsChecked runtime receipt := by
  simp only [checkFields, bind_ok, require_ok, present_ok, exists_const]
  constructor
  · rintro ⟨scenario, operation, detail, idempotency, proposal, nonce, previous, record, timestamp,
      isTimestamp, zoned, count, metrics⟩
    obtain ⟨time, rfl⟩ := Option.ne_none_iff_exists'.mp zoned
    exact ⟨scenario, operation, detail, idempotency, proposal, nonce, previous, record,
      ⟨time, isTimestamp⟩, count, metrics⟩
  · intro checked
    obtain ⟨time, isTimestamp⟩ := checked.timestamp
    exact ⟨checked.scenario, checked.operation, checked.detail, checked.idempotency,
      checked.proposal, checked.nonce, checked.previous, checked.record, some time, isTimestamp,
      Option.some_ne_none time, checked.count, checked.metrics⟩

theorem metricNode_formed (documented : Documented runtime) {value : MetricValue Real}
    (accepted : metricAccepted runtime value = true) :
    WellFormed (metricNode runtime value) := by
  cases value with
  | int value => exact isNumber_wholeText value
  | float value => exact (documented.reals value accepted).1
  | str value => trivial

theorem metricsNode_formed (documented : Documented runtime) {receipt : OperationReceipt Real}
    (checked : FieldsChecked runtime receipt) :
    WellFormed (metricsNode runtime receipt.metrics) := by
  rw [metricsNode, WellFormed, membersFormed_iff]
  intro member present
  obtain ⟨entry, inside, rfl⟩ := List.mem_map.mp present
  exact metricNode_formed documented (checked.metrics entry inside).2.2

theorem optionalNode_formed (text : Option String) : WellFormed (optionalNode text) := by
  cases text <;> trivial

theorem members_formed (documented : Documented runtime) {receipt : OperationReceipt Real}
    (checked : FieldsChecked runtime receipt) {hash : List (String × Node)}
    (hashFormed : ∀ member ∈ hash, WellFormed member.2) :
    WellFormed (.object (receiptMembers runtime receipt hash)) := by
  rw [WellFormed, membersFormed_iff]
  intro member present
  rw [receiptMembers, List.mem_append, List.mem_append] at present
  rcases present with (first | inner) | last
  · simp only [List.mem_cons, List.not_mem_nil, or_false] at first
    rcases first with rfl | rfl | rfl | rfl | rfl | rfl | rfl | rfl | rfl
    all_goals first
      | exact optionalNode_formed _
      | exact metricsNode_formed documented checked
      | trivial
  · exact hashFormed member inner
  · simp only [List.mem_cons, List.not_mem_nil, or_false] at last
    rcases last with rfl | rfl | rfl <;> trivial

theorem signedNode_formed (documented : Documented runtime) {receipt : OperationReceipt Real}
    (checked : FieldsChecked runtime receipt) : WellFormed (signedNode runtime receipt) := by
  refine members_formed documented checked fun member present => ?_
  rw [List.mem_singleton.mp present]
  trivial

theorem unsignedNode_formed (documented : Documented runtime) {receipt : OperationReceipt Real}
    (checked : FieldsChecked runtime receipt) : WellFormed (unsignedNode runtime receipt) :=
  members_formed documented checked nofun

theorem fullmatch_length {accepts : Char → Bool} {least most : ℕ} {text : String}
    (accepted : fullmatch accepts least most text = true) : text.length ≤ most := by
  simp only [fullmatch, Bool.and_eq_true, decide_eq_true_eq] at accepted
  exact accepted.1.2

theorem boundedString_short {text : String} (short : text.length ≤ 4096) :
    boundedString (some (.string text)) = some text := if_pos short

theorem sha256_short {text : String} (accepted : isSha256 text = true) : text.length ≤ 4096 :=
  (fullmatch_length accepted).trans (by decide)

theorem hash_short {text : String} (accepted : text = "" ∨ isSha256 text = true) :
    text.length ≤ 4096 := by
  rcases accepted with rfl | accepted
  · decide
  · exact sha256_short accepted

theorem optionalString_optionalNode (text : Option String) :
    optionalString (some (optionalNode text)) = some text := by
  cases text <;> rfl

theorem statusOf_value (status : ReceiptStatus) :
    statusOf (some (.string status.value)) = some status := by
  cases status <;> decide

theorem metricsOf_metricsNode (documented : Documented runtime) {receipt : OperationReceipt Real}
    (checked : FieldsChecked runtime receipt)
    (writable : ∀ entry ∈ receipt.metrics.entries, metricWritable entry.2 = true) :
    metricsOf runtime (some (metricsNode runtime receipt.metrics)) = some receipt.metrics := by
  rw [metricsNode, metricsOf, metricEntries_map documented
    (fun entry present => ⟨(checked.metrics entry present).1, (checked.metrics entry present).2.2⟩)
    writable]
  simp only [Option.bind_eq_bind, Option.bind_some, ofList_entries, if_pos checked.count]

/-- Every known key has one member. -/
theorem memberOf_signed (receipt : OperationReceipt Real) {members : List (String × Node)}
    (signed : members = receiptMembers runtime receipt [("record_hash", .string receipt.recordHash)]) :
    memberOf members "scenario_id" = some (.string receipt.scenarioId) ∧
      memberOf members "operation_kind" = some (.string receipt.operationKind) ∧
      memberOf members "entity_urn" = some (optionalNode receipt.entityUrn) ∧
      memberOf members "aspect_name" = some (optionalNode receipt.aspectName) ∧
      memberOf members "idempotency_key" = some (.string receipt.idempotencyKey) ∧
      memberOf members "status" = some (.string receipt.status.value) ∧
      memberOf members "detail_code" = some (.string receipt.detailCode) ∧
      memberOf members "recorded_at" = some (.string receipt.recordedAt) ∧
      memberOf members "proposal_hash" = some (.string receipt.proposalHash) ∧
      memberOf members "ownership_nonce" = some (.string receipt.ownershipNonce) ∧
      memberOf members "metrics" = some (metricsNode runtime receipt.metrics) ∧
      memberOf members "previous_hash" = some (.string receipt.previousHash) ∧
      memberOf members "record_hash" = some (.string receipt.recordHash) := by
  subst signed
  exact ⟨rfl, rfl, rfl, rfl, rfl, rfl, rfl, rfl, rfl, rfl, rfl, rfl, rfl⟩

theorem keys_signed (runtime : Runtime Real) (receipt : OperationReceipt Real) :
    (receiptMembers runtime receipt [("record_hash", .string receipt.recordHash)]).all
      (fun member => receiptKeys.contains member.1) = true := rfl

/-- The members of a signed receipt give the receipt back. -/
theorem parseRecord_signedNode (documented : Documented runtime) {receipt : OperationReceipt Real}
    (checked : FieldsChecked runtime receipt)
    (writable : ∀ entry ∈ receipt.metrics.entries, metricWritable entry.2 = true)
    (short : receipt.recordedAt.length ≤ 4096) :
    parseRecord runtime (signedNode runtime receipt) = some receipt := by
  have known := keys_signed runtime receipt
  rw [signedNode]
  generalize signed : receiptMembers runtime receipt [("record_hash", .string receipt.recordHash)] =
    members at known
  obtain ⟨scenario, operation, entity, aspect, idempotency, status, detail, recorded, proposal,
    nonce, metrics, previous, record⟩ := memberOf_signed receipt signed.symm
  have exact : exactKeys members = some () := by
    rw [exactKeys, known, if_pos]
    simp only [receiptKeys, List.all_cons, List.all_nil, scenario, operation, entity, aspect,
      idempotency, status, detail, recorded, proposal, nonce, metrics, previous, record,
      Option.isSome_some, Bool.and_self]
  have scenarioShort : receipt.scenarioId.length ≤ 4096 := by
    rw [checked.scenario]
    decide
  rw [parseRecord, exact, scenario, operation, entity, aspect, idempotency, status, detail,
    recorded, proposal, nonce, metrics, previous, record, boundedString_short scenarioShort,
    boundedString_short ((fullmatch_length checked.operation).trans (by decide)),
    boundedString_short (sha256_short checked.idempotency),
    boundedString_short ((fullmatch_length checked.detail).trans (by decide)),
    boundedString_short short, boundedString_short (sha256_short checked.proposal),
    boundedString_short (sha256_short checked.nonce),
    boundedString_short (hash_short checked.previous),
    boundedString_short (hash_short checked.record), optionalString_optionalNode,
    optionalString_optionalNode, metricsOf_metricsNode documented checked writable,
    statusOf_value]
  rfl

theorem printed_ascii {text : List Char} (printed : Printed text) :
    ∀ char ∈ text ++ ['\n'], 0 < char.toNat ∧ char.toNat < 128 := by
  intro char present
  rcases List.mem_append.mp present with inner | last
  · have bounds := printed char inner
    simp only [isPrintable, Bool.and_eq_true, decide_eq_true_eq] at bounds
    omega
  · rw [List.mem_singleton.mp last]
    decide

theorem newline_stops : Stops ['\n'] := Stops.cons [] (by decide)

/-- A written record is read back. -/
theorem loadRecord_recordBytes (documented : Documented runtime) {receipt : OperationReceipt Real}
    (checked : FieldsChecked runtime receipt)
    (writable : ∀ entry ∈ receipt.metrics.entries, metricWritable entry.2 = true)
    (short : receipt.recordedAt.length ≤ 4096) :
    loadRecord runtime (recordBytes runtime receipt) = some receipt := by
  have formed := signedNode_formed documented checked
  rw [loadRecord, recordBytes, documented.decodes _ (printed_ascii (write_printed _ formed))]
  simp only [Option.bind_eq_bind, Option.bind_some]
  rw [loads_write formed skip_end newline_stops]
  exact parseRecord_signedNode documented checked writable short

theorem parseRecord_some {node : Node} {receipt : OperationReceipt Real}
    (parsed : parseRecord runtime node = some receipt) : ∃ members, node = .object members ∧
      boundedString (memberOf members "recorded_at") = some receipt.recordedAt ∧
      metricsOf runtime (memberOf members "metrics") = some receipt.metrics := by
  cases node with
  | object members =>
      obtain ⟨_, _, parsed⟩ := Option.bind_eq_some_iff.mp parsed
      obtain ⟨_, _, parsed⟩ := Option.bind_eq_some_iff.mp parsed
      obtain ⟨_, _, parsed⟩ := Option.bind_eq_some_iff.mp parsed
      obtain ⟨_, _, parsed⟩ := Option.bind_eq_some_iff.mp parsed
      obtain ⟨_, _, parsed⟩ := Option.bind_eq_some_iff.mp parsed
      obtain ⟨_, recorded, parsed⟩ := Option.bind_eq_some_iff.mp parsed
      obtain ⟨_, _, parsed⟩ := Option.bind_eq_some_iff.mp parsed
      obtain ⟨_, _, parsed⟩ := Option.bind_eq_some_iff.mp parsed
      obtain ⟨_, _, parsed⟩ := Option.bind_eq_some_iff.mp parsed
      obtain ⟨_, _, parsed⟩ := Option.bind_eq_some_iff.mp parsed
      obtain ⟨_, _, parsed⟩ := Option.bind_eq_some_iff.mp parsed
      obtain ⟨_, _, parsed⟩ := Option.bind_eq_some_iff.mp parsed
      obtain ⟨_, metrics, parsed⟩ := Option.bind_eq_some_iff.mp parsed
      obtain ⟨_, _, parsed⟩ := Option.bind_eq_some_iff.mp parsed
      cases parsed
      exact ⟨members, rfl, recorded, metrics⟩
  | _ => exact nomatch parsed

theorem boundedString_some {node : Option Node} {text : String}
    (bounded : boundedString node = some text) :
    node = some (.string text) ∧ text.length ≤ 4096 := by
  unfold boundedString at bounded
  split at bounded
  · next found =>
      split_ifs at bounded with short
      cases bounded
      exact ⟨rfl, short⟩
  · exact nomatch bounded

/-- The reader refuses every record with a long timestamp. -/
theorem parseRecord_short {node : Node} {receipt : OperationReceipt Real}
    (parsed : parseRecord runtime node = some receipt) : receipt.recordedAt.length ≤ 4096 := by
  obtain ⟨_, _, recorded, _⟩ := parseRecord_some parsed
  exact (boundedString_some recorded).2

theorem parseRecord_long {receipt : OperationReceipt Real}
    (long : 4096 < receipt.recordedAt.length) :
    parseRecord runtime (signedNode runtime receipt) = none := by
  by_contra accepted
  obtain ⟨found, isFound⟩ := Option.ne_none_iff_exists'.mp accepted
  obtain ⟨members, isObject, recorded, _⟩ := parseRecord_some isFound
  obtain ⟨_, _, _, _, _, _, _, written, _⟩ :=
    memberOf_signed receipt (Node.object.inj isObject).symm
  have bounded := boundedString_some recorded
  rw [written, Option.some.injEq, Node.string.injEq] at bounded
  rw [← bounded.1] at bounded
  exact absurd bounded.2 (not_le.mpr long)

theorem loadRecord_long (documented : Documented runtime) {receipt : OperationReceipt Real}
    (checked : FieldsChecked runtime receipt) (long : 4096 < receipt.recordedAt.length) :
    loadRecord runtime (recordBytes runtime receipt) = none := by
  have formed := signedNode_formed documented checked
  rw [loadRecord, recordBytes, documented.decodes _ (printed_ascii (write_printed _ formed))]
  simp only [Option.bind_eq_bind, Option.bind_some]
  rw [loads_write formed skip_end newline_stops]
  exact parseRecord_long long

/-- The reader and the writer share these facts of a record. -/
structure Readable (runtime : Runtime Real) (receipt : OperationReceipt Real) : Prop where
  checked : FieldsChecked runtime receipt
  writable : ∀ entry ∈ receipt.metrics.entries, metricWritable entry.2 = true
  short : receipt.recordedAt.length ≤ 4096

theorem Readable.loads (documented : Documented runtime) {receipt : OperationReceipt Real}
    (readable : Readable runtime receipt) :
    loadRecord runtime (recordBytes runtime receipt) = some receipt :=
  loadRecord_recordBytes documented readable.checked readable.writable readable.short

def payload (runtime : Runtime Real) (receipt : OperationReceipt Real) : List Char :=
  write (unsignedNode runtime receipt)

theorem sign_ok {receipt : OperationReceipt Real} {hash : String} :
    sign runtime receipt = .ok hash ↔
      (∀ entry ∈ receipt.metrics.entries, metricWritable entry.2 = true) ∧
        runtime.hmac (payload runtime receipt) = hash := by
  simp only [sign, bind_ok, require_ok, exists_const, pure_ok, List.all_eq_true, payload]

theorem write_inj {first second : Node} (firstFormed : WellFormed first)
    (secondFormed : WellFormed second) (same : write first = write second) : first = second := by
  have read := loads_text firstFormed
  rw [same, loads_text secondFormed, Option.some.injEq] at read
  exact read.symm

/-- The signed text and the hash determine a record. -/
theorem payload_inj (documented : Documented runtime) {first second : OperationReceipt Real}
    (firstReadable : Readable runtime first) (secondReadable : Readable runtime second)
    (same : payload runtime first = payload runtime second)
    (sameHash : first.recordHash = second.recordHash) : first = second := by
  have nodes := write_inj (unsignedNode_formed documented firstReadable.checked)
    (unsignedNode_formed documented secondReadable.checked) same
  have members := Node.object.inj nodes
  obtain ⟨left, right⟩ := List.append_inj members rfl
  have signed : signedNode runtime first = signedNode runtime second := by
    rw [signedNode, signedNode, sameHash]
    rw [receiptMembers, receiptMembers] at *
    rw [List.append_nil, List.append_nil] at left
    rw [left, right]
  have read := parseRecord_signedNode documented firstReadable.checked firstReadable.writable
    firstReadable.short
  rw [signed, parseRecord_signedNode documented secondReadable.checked secondReadable.writable
    secondReadable.short, Option.some.injEq] at read
  exact read.symm

theorem payload_recordHash (receipt : OperationReceipt Real) (hash : String) :
    payload runtime { receipt with recordHash := hash } = payload runtime receipt := rfl

end Records

end LineageGuard.Scenario
