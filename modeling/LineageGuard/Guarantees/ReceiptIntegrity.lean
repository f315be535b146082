import LineageGuard.Scenario.LogRuns
import Mathlib.Tactic

/-
This file proves that the log of receipts keeps exactly what was appended to it.
-/

namespace LineageGuard.Scenario

open Attempt JsonText

variable {Real : Type} {runtime : Runtime Real}

section Links

theorem Accepted.hashed (documented : Documented runtime) {state : ReaderState}
    {receipt : OperationReceipt Real} (accepted : Accepted runtime state receipt) :
    receipt.recordHash ≠ "" := by
  intro blank
  have digest := documented.digests (payload runtime receipt)
  rw [← accepted.genuine, blank] at digest
  exact absurd digest (by decide)

theorem Chain.member {state : ReaderState} {receipts : List (OperationReceipt Real)}
    (chain : Chain runtime state receipts) {receipt : OperationReceipt Real}
    (present : receipt ∈ receipts) : ∃ earlier, Accepted runtime earlier receipt := by
  induction receipts generalizing state with
  | nil => exact nomatch present
  | cons first rest ih =>
      rcases List.mem_cons.mp present with rfl | later
      · exact ⟨state, chain.1⟩
      · exact ih chain.2 later

/-- A record names the hash of the record before it. -/
def hashBefore (start : String) (receipts : List (OperationReceipt Real)) : ℕ → String
  | 0 => start
  | before + 1 => ((receipts[before]?).map (·.recordHash)).getD ""

theorem Chain.link {state : ReaderState} {receipts : List (OperationReceipt Real)}
    (chain : Chain runtime state receipts) {index : ℕ} {receipt : OperationReceipt Real}
    (found : receipts[index]? = some receipt) :
    receipt.previousHash = hashBefore state.previousHash receipts index := by
  induction receipts generalizing state index with
  | nil => exact nomatch found
  | cons first rest ih =>
      cases index with
      | zero =>
          cases found
          exact chain.1.linked
      | succ index =>
          rw [List.getElem?_cons_succ] at found
          have linked := ih chain.2 found
          cases index with
          | zero => exact linked
          | succ index => exact linked

/-- No two appended records have the same digest of different texts. -/
def Distinct (runtime : Runtime Real) (texts : List (List Char)) : Prop :=
  ∀ first ∈ texts, ∀ second ∈ texts, runtime.hmac first = runtime.hmac second → first = second

/-- Two records of a chain with one digest are one record. -/
theorem same_record (documented : Documented runtime) {first second : OperationReceipt Real}
    {before after : ReaderState} (firstAccepted : Accepted runtime before first)
    (secondAccepted : Accepted runtime after second)
    (same : payload runtime first = payload runtime second) : first = second := by
  refine payload_inj documented firstAccepted.readable secondAccepted.readable same ?_
  rw [firstAccepted.genuine, secondAccepted.genuine, same]

theorem hashBefore_succ {start : String} {receipts : List (OperationReceipt Real)} {before : ℕ}
    {receipt : OperationReceipt Real} (found : receipts[before + 1]? = some receipt) :
    ∃ earlier, receipts[before]? = some earlier ∧
      hashBefore start receipts (before + 1) = earlier.recordHash := by
  have inRange : before < receipts.length :=
    Nat.lt_of_succ_lt (List.getElem?_eq_some_iff.mp found).1
  refine ⟨receipts[before], List.getElem?_eq_getElem inRange, ?_⟩
  rw [hashBefore, List.getElem?_eq_getElem inRange]
  rfl

/-- A record that names no earlier one is the first. -/
theorem first_record (documented : Documented runtime) {receipts : List (OperationReceipt Real)}
    (chain : Chain runtime ReaderState.start receipts) {index : ℕ}
    {receipt : OperationReceipt Real} (found : receipts[index]? = some receipt)
    (blank : receipt.previousHash = "") : index = 0 := by
  cases index with
  | zero => rfl
  | succ index =>
      obtain ⟨earlier, isEarlier, hash⟩ := hashBefore_succ found
      obtain ⟨state, accepted⟩ := chain.member (List.mem_of_getElem? isEarlier)
      rw [chain.link found, hash] at blank
      exact absurd blank (accepted.hashed documented)

theorem equal_records (documented : Documented runtime) {receipts : List (OperationReceipt Real)}
    (chain : Chain runtime ReaderState.start receipts)
    (distinct : Distinct runtime (receipts.map (payload runtime))) {first second : ℕ}
    {receipt other : OperationReceipt Real} (isFirst : receipts[first]? = some receipt)
    (isSecond : receipts[second]? = some other) (same : receipt.recordHash = other.recordHash) :
    receipt = other := by
  have isMember := List.mem_of_getElem? isFirst
  have isOther := List.mem_of_getElem? isSecond
  obtain ⟨_, accepted⟩ := chain.member isMember
  obtain ⟨_, otherAccepted⟩ := chain.member isOther
  refine same_record documented accepted otherAccepted ?_
  refine distinct _ (List.mem_map_of_mem isMember) _ (List.mem_map_of_mem isOther) ?_
  rw [← accepted.genuine, ← otherAccepted.genuine, same]

/-- The digests of a chain tell its places apart. -/
theorem index_inj (documented : Documented runtime) {receipts : List (OperationReceipt Real)}
    (chain : Chain runtime ReaderState.start receipts)
    (distinct : Distinct runtime (receipts.map (payload runtime))) {first second : ℕ}
    {receipt other : OperationReceipt Real} (isFirst : receipts[first]? = some receipt)
    (isSecond : receipts[second]? = some other) (same : receipt.recordHash = other.recordHash) :
    first = second := by
  induction first generalizing second receipt other with
  | zero =>
      have equal := equal_records documented chain distinct isFirst isSecond same
      subst equal
      exact (first_record documented chain isSecond (chain.link isFirst)).symm
  | succ first ih =>
      have equal := equal_records documented chain distinct isFirst isSecond same
      subst equal
      obtain ⟨earlier, isEarlier, hash⟩ := hashBefore_succ isFirst
      cases second with
      | zero => exact first_record documented chain isFirst (chain.link isSecond)
      | succ second =>
          obtain ⟨before, isBefore, hashToo⟩ := hashBefore_succ isSecond
          have linked := (chain.link isFirst).symm.trans (chain.link isSecond)
          rw [hash, hashToo] at linked
          rw [ih isEarlier isBefore linked]

/-- An accepted log of genuine records is a part of the chain from its start. -/
theorem chain_prefix (documented : Documented runtime)
    {written presented : List (OperationReceipt Real)}
    (chain : Chain runtime ReaderState.start written)
    (other : Chain runtime ReaderState.start presented)
    (distinct : Distinct runtime (written.map (payload runtime)))
    (genuine : ∀ receipt ∈ presented, payload runtime receipt ∈ written.map (payload runtime)) :
    presented <+: written := by
  have place : ∀ receipt ∈ presented, ∃ index : ℕ, written[index]? = some receipt := by
    intro receipt present
    obtain ⟨original, isOriginal, same⟩ := List.mem_map.mp (genuine receipt present)
    obtain ⟨_, originalAccepted⟩ := chain.member isOriginal
    obtain ⟨_, accepted⟩ := other.member present
    rw [← same_record documented originalAccepted accepted same]
    exact List.getElem?_of_mem isOriginal
  have agree : ∀ (index : ℕ) receipt, presented[index]? = some receipt →
      written[index]? = some receipt := by
    intro index
    induction index with
    | zero =>
        intro receipt found
        obtain ⟨index, isPlace⟩ := place receipt (List.mem_of_getElem? found)
        have first := first_record documented chain isPlace (other.link found)
        rwa [first] at isPlace
    | succ index ih =>
        intro receipt found
        obtain ⟨earlier, isEarlier, hash⟩ := hashBefore_succ found
        obtain ⟨place, isPlace⟩ := place receipt (List.mem_of_getElem? found)
        have linked := (other.link found).symm.trans (chain.link isPlace)
        rw [hash] at linked
        cases place with
        | zero =>
            obtain ⟨_, accepted⟩ := other.member (List.mem_of_getElem? isEarlier)
            exact absurd linked (accepted.hashed documented)
        | succ place =>
            obtain ⟨before, isBefore, hashToo⟩ := hashBefore_succ isPlace
            rw [hashToo] at linked
            rw [index_inj documented chain distinct (ih earlier isEarlier) isBefore linked]
            exact isPlace
  refine List.prefix_iff_getElem?.mpr fun index inRange => ?_
  exact agree index _ (List.getElem?_eq_getElem inRange)

end Links

section Calls

/-- A call of append has a receipt and what the disk does with the record. -/
structure Call (Real : Type) where
  receipt : OperationReceipt Real
  disk : Disk

def fileAfter (runtime : Runtime Real) : Option Bytes → List (Call Real) → Option Bytes
  | file, [] => file
  | file, call :: rest => fileAfter runtime (append runtime call.disk file call.receipt).2 rest

/-- These receipts were appended, and each comes with its record. -/
def appended (runtime : Runtime Real) :
    Option Bytes → List (Call Real) → List (OperationReceipt Real × OperationReceipt Real)
  | _, [] => []
  | file, call :: rest =>
      match append runtime call.disk file call.receipt with
      | (.ok record, later) => (call.receipt, record) :: appended runtime later rest
      | (.error _, later) => appended runtime later rest

def recordsOf (runtime : Runtime Real) (calls : List (Call Real)) : List (OperationReceipt Real) :=
  (appended runtime none calls).map Prod.snd

def OperationReceipt.unlinked (receipt : OperationReceipt Real) : OperationReceipt Real :=
  { receipt with previousHash := "", recordHash := "" }

def OperationReceipt.filled (nonce : String) (receipt : OperationReceipt Real) :
    OperationReceipt Real :=
  { receipt with ownershipNonce := if receipt.ownershipNonce = "" then nonce
    else receipt.ownershipNonce }

/-- Without the key no text gets a digest that the key did not give to it. -/
structure Unforgeable (runtime : Runtime Real) (texts : List (List Char))
    (receipts : List (OperationReceipt Real)) : Prop where
  distinct : Distinct runtime texts
  genuine : ∀ receipt ∈ receipts, receipt.recordHash = runtime.hmac (payload runtime receipt) →
    payload runtime receipt ∈ texts

/-- The log is read as it was appended and refuses every other content. -/
structure Integral (runtime : Runtime Real) (calls : List (Call Real)) : Prop where
  reads : ∃ receipts, readAll runtime (fileAfter runtime none calls) = .ok receipts ∧
    receipts = recordsOf runtime calls ∧
    receipts.map OperationReceipt.unlinked = (appended runtime none calls).map fun entry =>
      (entry.1.filled runtime.nonce).unlinked
  unchanged : ∀ earlier call later, calls = earlier ++ call :: later →
    ∀ error, (append runtime call.disk (fileAfter runtime none earlier) call.receipt).1 =
      .error error → (append runtime call.disk (fileAfter runtime none earlier) call.receipt).2 =
        fileAfter runtime none earlier
  refuses : ∀ content receipts, readAll runtime (some content) = .ok receipts →
    Unforgeable runtime ((recordsOf runtime calls).map (payload runtime)) receipts →
    receipts <+: recordsOf runtime calls

/-- The disk takes the whole record, and the reader takes the timestamp. -/
def Call.Sound (call : Call Real) : Prop :=
  call.disk = .complete ∧ call.receipt.recordedAt.length ≤ 4096

theorem unlinked_signed (existing : List (OperationReceipt Real)) (receipt : OperationReceipt Real)
    (hash : String) :
    ({ bind runtime existing receipt with recordHash := hash } : OperationReceipt Real).unlinked =
      (receipt.filled runtime.nonce).unlinked := rfl

/-- A call adds its record to a readable log, or it raises and changes nothing. -/
theorem append_step (documented : Documented runtime) {file : Option Bytes}
    {receipts : List (OperationReceipt Real)} (written : Written runtime receipts (file.getD []))
    (receipt : OperationReceipt Real) (short : receipt.recordedAt.length ≤ 4096) :
    (∃ error, append runtime .complete file receipt = (.error error, file)) ∨
      ∃ record later, append runtime .complete file receipt = (.ok record, later) ∧
        Written runtime (receipts ++ [record]) (later.getD []) ∧
        record.unlinked = (receipt.filled runtime.nonce).unlinked := by
  cases prepared : prepare runtime file receipt with
  | error error =>
      refine Or.inl ⟨error, ?_⟩
      rw [append, prepared]
  | ok record =>
      have read := written.readAll documented
      rw [← readAll_getD] at read
      obtain ⟨_, _, _, _, _, _, isSigned, _, _⟩ := prepare_ok read prepared
      refine Or.inr ⟨record, some (file.getD [] ++ recordBytes runtime record), ?_,
        written.append documented prepared short, ?_⟩
      · rw [append, prepared]
      · rw [isSigned]
        exact unlinked_signed _ _ _

/-- Sound calls add their records one after the other. -/
theorem calls_written (documented : Documented runtime) {file : Option Bytes}
    {receipts : List (OperationReceipt Real)} {calls : List (Call Real)}
    (written : Written runtime receipts (file.getD [])) (sound : ∀ call ∈ calls, call.Sound) :
    Written runtime (receipts ++ (appended runtime file calls).map Prod.snd)
        ((fileAfter runtime file calls).getD []) ∧
      ((appended runtime file calls).map Prod.snd).map OperationReceipt.unlinked =
        (appended runtime file calls).map fun entry =>
          (entry.1.filled runtime.nonce).unlinked := by
  induction calls generalizing file receipts with
  | nil =>
      rw [appended, List.map_nil, List.append_nil, fileAfter]
      exact ⟨written, rfl⟩
  | cons call rest ih =>
      obtain ⟨complete, short⟩ := sound call List.mem_cons_self
      have others := fun next present => sound next (List.mem_cons_of_mem call present)
      rw [appended, fileAfter, complete]
      rcases append_step documented written call.receipt short with
        ⟨error, raised⟩ | ⟨record, later, added, grown, same⟩
      · rw [raised]
        exact ih written others
      · obtain ⟨final, contents⟩ := ih grown others
        rw [added]
        simp only [List.map_cons, contents, same]
        rw [List.append_assoc, List.singleton_append] at final
        exact ⟨final, trivial⟩

theorem log_written (documented : Documented runtime) {calls : List (Call Real)}
    (sound : ∀ call ∈ calls, call.Sound) :
    Written runtime (recordsOf runtime calls) ((fileAfter runtime none calls).getD []) ∧
      (recordsOf runtime calls).map OperationReceipt.unlinked =
        (appended runtime none calls).map fun entry =>
          (entry.1.filled runtime.nonce).unlinked := by
  have start : Written runtime [] ((none : Option Bytes).getD []) := Written.empty
  exact calls_written documented start sound

/-- A log keeps its integrity when every write is complete and no timestamp is too long. -/
theorem receipt_log_integral (documented : Documented runtime) (calls : List (Call Real))
    (sound : ∀ call ∈ calls, call.Sound) : Integral runtime calls := by
  obtain ⟨written, contents⟩ := log_written documented sound
  refine ⟨⟨recordsOf runtime calls, ?_, rfl, contents⟩, ?_, ?_⟩
  · rw [readAll_getD]
    exact written.readAll documented
  · intro earlier call later split error raised
    rw [split] at sound
    have before := fun next present => sound next (List.mem_append_left _ present)
    obtain ⟨reached, _⟩ := log_written documented before
    obtain ⟨complete, short⟩ := sound call (List.mem_append_right _ List.mem_cons_self)
    rw [complete] at raised ⊢
    rcases append_step documented reached call.receipt short with
      ⟨_, unchanged⟩ | ⟨record, _, added, _⟩
    · rw [unchanged]
    · rw [added] at raised
      exact nomatch raised
  · intro content receipts read unforgeable
    have chain := readAll_chain read
    refine chain_prefix documented written.chain chain unforgeable.distinct ?_
    intro receipt present
    obtain ⟨_, accepted⟩ := chain.member present
    exact unforgeable.genuine receipt present accepted.genuine

/-- The reader refuses a log with a long timestamp that the writer takes. -/
theorem long_unreadable (documented : Documented runtime) {receipt record : OperationReceipt Real}
    (prepared : prepare runtime none receipt = .ok record) (checked : FieldsChecked runtime record)
    (long : 4096 < record.recordedAt.length) :
    ¬ Integral runtime [⟨receipt, .complete⟩] := by
  intro integral
  obtain ⟨receipts, read, _⟩ := integral.reads
  have file : fileAfter runtime none [⟨receipt, .complete⟩] =
      some (recordBytes runtime record) := by
    rw [fileAfter, append, prepared]
    rfl
  obtain ⟨line, isLine, solid⟩ := recordBytes_line documented checked
  have lines : splitLines (recordBytes runtime record) = [recordBytes runtime record] := by
    rw [isLine, splitLines_line solid]
    rfl
  rw [file] at read
  simp only [readAll, bind_ok, require_ok, exists_const, lines, readLines, pure_ok] at read
  obtain ⟨_, ⟨other, _⟩, isRecord, _⟩ := read
  obtain ⟨_, _, loaded, _⟩ := readLine_ok.mp isRecord
  rw [loadRecord_long documented checked long] at loaded
  cases loaded

end Calls

section Samples

def sampleHmac (text : List Char) : String :=
  String.ofList (List.leftpad 64 '0' (Nat.toDigits 10 (text.length % 10 ^ 64)))

def sampleDecode (bytes : Bytes) : Option (List Char) :=
  if bytes.all fun byte => 0 < byte.toNat && byte.toNat < 128 then
    some (bytes.map fun byte => Char.ofNat byte.toNat)
  else none

def sampleTimestamp (fraction : ℕ) : List Char :=
  ['2', '0', '2', '6', '-', '0', '1', '-', '0', '1', 'T', '0', '0', ':', '0', '0', ':', '0', '0',
    '.'] ++ List.replicate fraction '0' ++ ['+', '0', '0', ':', '0', '0']

/-- The fraction may have any number of digits. -/
def sampleTime (text : String) : Option (Option ℤ) :=
  if text.toList = sampleTimestamp (text.toList.length - 26) then some (some 1767225600000000)
  else none

def sampleRuntime : Runtime Unit where
  repr _ := ['0', '.', '0']
  parseReal _ := ()
  isfinite _ := true
  decode := sampleDecode
  fromisoformat := sampleTime
  hmac := sampleHmac
  nonce := String.ofList (List.replicate 64 'a')

theorem sampleHmac_digest (text : List Char) : isSha256 (sampleHmac text) = true := by
  have short : (Nat.toDigits 10 (text.length % 10 ^ 64)).length ≤ 64 :=
    (Nat.length_toDigits_le_iff (by decide) (by decide)).mpr (Nat.mod_lt _ (by decide))
  have length : (sampleHmac text).length = 64 := by
    rw [sampleHmac, String.length_ofList, List.length_leftpad, max_eq_left short]
  rw [isSha256, fullmatch, length, sampleHmac, String.toList_ofList]
  simp only [le_refl, decide_true, Bool.and_self, Bool.true_and, List.all_eq_true]
  intro char present
  rw [List.leftpad, List.mem_append] at present
  rcases present with pad | digit
  · rw [List.eq_of_mem_replicate pad]
    decide
  · have isDigit := List.all_eq_true.mp (digits_all _) char digit
    simp only [Char.isDigit, Bool.and_eq_true, decide_eq_true_eq] at isDigit
    simp only [isHexChar, Bool.or_eq_true, Bool.and_eq_true, decide_eq_true_eq]
    exact Or.inl isDigit

theorem sampleRuntime_documented : Documented sampleRuntime := by
  refine ⟨fun text ascii => ?_, fun _ _ => ⟨rfl, rfl, rfl⟩, sampleHmac_digest⟩
  have value : ∀ char ∈ text, (char.toNat.toUInt8).toNat = char.toNat := by
    intro char present
    rw [Nat.toUInt8_eq, UInt8.toNat_ofNat', Nat.mod_eq_of_lt (by have := ascii char present; omega)]
  have within : (encode text).all (fun byte => 0 < byte.toNat && byte.toNat < 128) = true := by
    rw [List.all_eq_true]
    intro byte present
    obtain ⟨char, inside, rfl⟩ := List.mem_map.mp present
    rw [value char inside, Bool.and_eq_true, decide_eq_true_eq, decide_eq_true_eq]
    exact ascii char inside
  change sampleDecode _ = _
  rw [sampleDecode, if_pos within, encode, List.map_map, Option.some.injEq]
  refine (List.map_congr_left fun char present => ?_).trans (List.map_id text)
  rw [Function.comp_apply, value char present, Char.ofNat_toNat]
  rfl

def sampleReceipt (status : ReceiptStatus) (fraction : ℕ) : OperationReceipt Unit where
  scenarioId := "canonical-customer-id-rename"
  operationKind := "seed"
  entityUrn := none
  aspectName := none
  idempotencyKey := String.ofList (List.replicate 64 'b')
  status := status
  detailCode := "PROPOSAL_PLANNED"
  recordedAt := String.ofList (sampleTimestamp fraction)
  proposalHash := String.ofList (List.replicate 64 'c')
  ownershipNonce := ""
  metrics := Metrics.empty
  previousHash := ""
  recordHash := ""

def sampleCalls : List (Call Unit) :=
  [⟨sampleReceipt .planned 6, .complete⟩, ⟨sampleReceipt .success 6, .complete⟩]

theorem sampleTimestamp_length (fraction : ℕ) :
    (sampleTimestamp fraction).length = fraction + 26 := by
  rw [sampleTimestamp, List.length_append, List.length_append, List.length_replicate]
  change 20 + fraction + 6 = fraction + 26
  omega

theorem sampleTime_timestamp (fraction : ℕ) :
    sampleTime (String.ofList (sampleTimestamp fraction)) = some (some 1767225600000000) := by
  rw [sampleTime, String.toList_ofList, sampleTimestamp_length, Nat.add_sub_cancel]
  exact if_pos rfl

theorem replicate_digest {char : Char} (hex : isHexChar char = true) :
    isSha256 (String.ofList (List.replicate 64 char)) = true := by
  have all : (List.replicate 64 char).all isHexChar = true :=
    List.all_eq_true.mpr fun other present => by rwa [List.eq_of_mem_replicate present]
  rw [isSha256, fullmatch, String.toList_ofList, String.length_ofList, List.length_replicate, all]
  rfl

theorem sample_checked (status : ReceiptStatus) (fraction : ℕ) :
    FieldsChecked sampleRuntime (bind sampleRuntime [] (sampleReceipt status fraction)) where
  scenario := rfl
  operation := (by decide : fullmatch isLowerOrDash 2 32 "seed" = true)
  detail := (by decide : fullmatch isDetailChar 2 128 "PROPOSAL_PLANNED" = true)
  idempotency := replicate_digest (by decide)
  proposal := replicate_digest (by decide)
  nonce := replicate_digest (by decide)
  previous := Or.inl rfl
  record := Or.inl rfl
  timestamp := ⟨_, sampleTime_timestamp fraction⟩
  count := Nat.zero_le _
  metrics := nofun

theorem integral_sample : Integral sampleRuntime sampleCalls := by
  refine receipt_log_integral sampleRuntime_documented sampleCalls fun call present => ?_
  have short : (String.ofList (sampleTimestamp 6)).length ≤ 4096 := by
    rw [String.length_ofList, sampleTimestamp_length]
    decide
  simp only [sampleCalls, List.mem_cons, List.not_mem_nil, or_false] at present
  rcases present with rfl | rfl <;> exact ⟨rfl, short⟩

theorem memberText_bound {key text : String} {most : ℕ} (keyShort : key.length ≤ 20)
    (textShort : text.length ≤ most) :
    (memberText (key, .string text)).length + 1 ≤ 12 * most + 246 := by
  have keyBound := quote_length key
  have textBound := quote_length text
  have length : (memberText (key, .string text)).length =
      (quote key).length + ((quote text).length + 1) := by
    rw [memberText, List.length_append, List.length_cons, write]
  omega

/-- A record of short texts with a long timestamp fits into a line. -/
theorem recordBytes_bound {receipt : OperationReceipt Unit}
    (scenario : receipt.scenarioId.length ≤ 64) (operation : receipt.operationKind.length ≤ 64)
    (idempotency : receipt.idempotencyKey.length ≤ 64) (detail : receipt.detailCode.length ≤ 64)
    (recorded : receipt.recordedAt.length ≤ 4200) (proposal : receipt.proposalHash.length ≤ 64)
    (nonce : receipt.ownershipNonce.length ≤ 64) (previous : receipt.previousHash.length ≤ 64)
    (record : receipt.recordHash.length ≤ 64) (status : receipt.status.value.length ≤ 64)
    (entity : receipt.entityUrn = none) (aspect : receipt.aspectName = none)
    (metrics : receipt.metrics = Metrics.empty) :
    (recordBytes sampleRuntime receipt).length ≤ maxReceiptLineBytes := by
  have bound := object_length
    (receiptMembers sampleRuntime receipt [("record_hash", .string receipt.recordHash)])
  simp only [receiptMembers, List.cons_append, List.nil_append, List.map_cons, List.map_nil,
    List.sum_cons, List.sum_nil, entity, aspect, metrics] at bound
  have scenarioBound := memberText_bound (by decide : "scenario_id".length ≤ 20) scenario
  have operationBound := memberText_bound (by decide : "operation_kind".length ≤ 20) operation
  have idempotencyBound := memberText_bound (by decide : "idempotency_key".length ≤ 20) idempotency
  have detailBound := memberText_bound (by decide : "detail_code".length ≤ 20) detail
  have recordedBound := memberText_bound (by decide : "recorded_at".length ≤ 20) recorded
  have proposalBound := memberText_bound (by decide : "proposal_hash".length ≤ 20) proposal
  have nonceBound := memberText_bound (by decide : "ownership_nonce".length ≤ 20) nonce
  have previousBound := memberText_bound (by decide : "previous_hash".length ≤ 20) previous
  have recordBound := memberText_bound (by decide : "record_hash".length ≤ 20) record
  have statusBound := memberText_bound (by decide : "status".length ≤ 20) status
  have entityBound : (memberText ("entity_urn", optionalNode none)).length ≤ 100 := by
    decide
  have aspectBound : (memberText ("aspect_name", optionalNode none)).length ≤ 100 := by
    decide
  have metricsBound :
      (memberText ("metrics", metricsNode sampleRuntime Metrics.empty)).length ≤ 100 := by
    decide
  have limit : maxReceiptLineBytes = 65536 := rfl
  have length : (recordBytes sampleRuntime receipt).length =
      (write (.object (receiptMembers sampleRuntime receipt
        [("record_hash", .string receipt.recordHash)]))).length + 1 := by
    rw [recordBytes, encode, List.length_map, List.length_append]
    rfl
  simp only [receiptMembers, List.cons_append, List.nil_append, entity, aspect, metrics] at length
  omega

def sampleRecord (fraction : ℕ) : OperationReceipt Unit :=
  { bind sampleRuntime [] (sampleReceipt .planned fraction) with
    recordHash := sampleHmac (payload sampleRuntime
      (bind sampleRuntime [] (sampleReceipt .planned fraction))) }

theorem digest_length {text : String} (digest : isSha256 text = true) : text.length ≤ 64 :=
  fullmatch_length digest

theorem sampleRecord_checked (fraction : ℕ) :
    FieldsChecked sampleRuntime (sampleRecord fraction) :=
  have checked := sample_checked .planned fraction
  ⟨checked.scenario, checked.operation, checked.detail, checked.idempotency, checked.proposal,
    checked.nonce, checked.previous, Or.inr (sampleHmac_digest _), checked.timestamp,
    checked.count, checked.metrics⟩

theorem sampleRecord_recordedAt (fraction : ℕ) :
    (sampleRecord fraction).recordedAt.length = fraction + 26 := by
  change (String.ofList (sampleTimestamp fraction)).length = fraction + 26
  rw [String.length_ofList, sampleTimestamp_length]

theorem sampleRecord_size {fraction : ℕ} (short : fraction ≤ 4100) :
    (recordBytes sampleRuntime (sampleRecord fraction)).length ≤ maxReceiptLineBytes := by
  have checked := sampleRecord_checked fraction
  refine recordBytes_bound ?_ ?_ (digest_length checked.idempotency) ?_ ?_
    (digest_length checked.proposal) (digest_length checked.nonce) ?_
    (digest_length (sampleHmac_digest _)) ?_ rfl rfl rfl
  · exact (by decide : "canonical-customer-id-rename".length ≤ 64)
  · exact (by decide : "seed".length ≤ 64)
  · exact (by decide : "PROPOSAL_PLANNED".length ≤ 64)
  · rw [sampleRecord_recordedAt]
    omega
  · exact Nat.zero_le _
  · exact (by decide : "PLANNED".length ≤ 64)

theorem sampleRecord_prepared {fraction : ℕ} (short : fraction ≤ 4100) :
    prepare sampleRuntime none (sampleReceipt .planned fraction) = .ok (sampleRecord fraction) :=
  prepare_start rfl (sample_checked .planned fraction) nofun rfl (sampleRecord_size short)

theorem long_timestamp_unreadable :
    ¬ Integral sampleRuntime [⟨sampleReceipt .planned 4100, .complete⟩] := by
  refine long_unreadable sampleRuntime_documented (sampleRecord_prepared le_rfl)
    (sampleRecord_checked 4100) ?_
  rw [sampleRecord_recordedAt]
  decide

end Samples

end LineageGuard.Scenario
