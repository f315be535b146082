import LineageGuard.Scenario.RecordText
import Mathlib.Tactic

/-
This file proves what the reader of the receipts accepts and what an append adds to the file.
-/

namespace LineageGuard.Scenario

open Attempt JsonText

variable {Real : Type} {runtime : Runtime Real}

section Lines

/-- The reader continues in this state after a record. -/
def ReaderState.after (runtime : Runtime Real) (state : ReaderState)
    (receipt : OperationReceipt Real) : ReaderState :=
  ⟨receipt.recordHash, (runtime.fromisoformat receipt.recordedAt).join,
    (receipt.key, receipt.proposalHash) :: state.seen⟩

/-- A record fits after the earlier ones. -/
structure Accepted (runtime : Runtime Real) (state : ReaderState)
    (receipt : OperationReceipt Real) : Prop where
  readable : Readable runtime receipt
  timely : ∀ time, runtime.fromisoformat receipt.recordedAt = some (some time) →
    inOrder state.previousTime time
  linked : receipt.previousHash = state.previousHash
  owned : receipt.ownershipNonce = runtime.nonce
  genuine : receipt.recordHash = runtime.hmac (payload runtime receipt)
  single : ∀ other ∈ state.seen.lookup receipt.key, other = receipt.proposalHash

theorem loadRecord_short {line : Bytes} {receipt : OperationReceipt Real}
    (loaded : loadRecord runtime line = some receipt) : receipt.recordedAt.length ≤ 4096 := by
  obtain ⟨_, _, loaded⟩ := Option.bind_eq_some_iff.mp loaded
  obtain ⟨_, _, parsed⟩ := Option.bind_eq_some_iff.mp loaded
  exact parseRecord_short parsed

theorem readLine_ok {number : ℕ} {state later : ReaderState} {line : Bytes}
    {receipt : OperationReceipt Real} :
    readLine runtime number state line = .ok (receipt, later) ↔
      number ≤ maxReceipts ∧ line.length ≤ maxReceiptLineBytes ∧
        loadRecord runtime line = some receipt ∧ Accepted runtime state receipt ∧
        later = state.after runtime receipt := by
  simp only [readLine, bind_ok, require_ok, present_ok, exists_const, pure_ok, sign_ok,
    Prod.mk.injEq]
  constructor
  · rintro ⟨count, size, found, loaded, recorded, isRecorded, time, rfl, timely, linked, owned, _,
      checked, expected, ⟨writable, signed⟩, genuine, single, rfl, rfl⟩
    refine ⟨count, size, loaded, ⟨⟨checkFields_ok.mp checked, writable, loadRecord_short loaded⟩, ?_,
      linked, owned, genuine.trans signed.symm, single⟩, ?_⟩
    · intro other isTime
      rw [isRecorded, Option.some.injEq, Option.some.injEq] at isTime
      rwa [← isTime]
    · rw [ReaderState.after, isRecorded]
      rfl
  · rintro ⟨count, size, loaded, accepted, rfl⟩
    obtain ⟨time, isTime⟩ := accepted.readable.checked.timestamp
    refine ⟨count, size, receipt, loaded, some time, isTime, time, rfl, accepted.timely time isTime,
      accepted.linked, accepted.owned, (), checkFields_ok.mpr accepted.readable.checked, _,
      ⟨accepted.readable.writable, rfl⟩, accepted.genuine, accepted.single, rfl, ?_⟩
    rw [ReaderState.after, isTime]
    rfl

/-- Every record fits after the records before it. -/
def Chain (runtime : Runtime Real) : ReaderState → List (OperationReceipt Real) → Prop
  | _, [] => True
  | state, receipt :: rest =>
      Accepted runtime state receipt ∧ Chain runtime (state.after runtime receipt) rest

theorem Chain.snoc {state : ReaderState} {receipts : List (OperationReceipt Real)}
    {receipt : OperationReceipt Real} (chain : Chain runtime state receipts)
    (accepted : Accepted runtime (receipts.foldl (ReaderState.after runtime) state) receipt) :
    Chain runtime state (receipts ++ [receipt]) := by
  induction receipts generalizing state with
  | nil => exact ⟨accepted, trivial⟩
  | cons first rest ih => exact ⟨chain.1, ih chain.2 accepted⟩

theorem Chain.readable {state : ReaderState} {receipts : List (OperationReceipt Real)}
    (chain : Chain runtime state receipts) : ∀ receipt ∈ receipts, Readable runtime receipt := by
  induction receipts generalizing state with
  | nil => exact nofun
  | cons first rest ih =>
      intro receipt present
      rcases List.mem_cons.mp present with rfl | later
      · exact chain.1.readable
      · exact ih chain.2 receipt later

/-- Accepted lines hold a chain of records. -/
theorem readLines_chain {number : ℕ} {state : ReaderState} {lines : List Bytes}
    {receipts : List (OperationReceipt Real)}
    (read : readLines runtime number state lines = .ok receipts) :
    Chain runtime state receipts := by
  induction lines generalizing number state receipts with
  | nil =>
      cases read
      trivial
  | cons line rest ih =>
      simp only [readLines, bind_ok, pure_ok] at read
      obtain ⟨⟨receipt, later⟩, isLine, others, isRest, rfl⟩ := read
      obtain ⟨_, _, _, accepted, rfl⟩ := readLine_ok.mp isLine
      exact ⟨accepted, ih isRest⟩

/-- A chain of records is read from its lines. -/
theorem readLines_written (documented : Documented runtime) {number : ℕ} {state : ReaderState}
    {receipts : List (OperationReceipt Real)} (chain : Chain runtime state receipts)
    (count : number + receipts.length ≤ maxReceipts + 1)
    (sizes : ∀ receipt ∈ receipts, (recordBytes runtime receipt).length ≤ maxReceiptLineBytes) :
    readLines runtime number state (receipts.map (recordBytes runtime)) = .ok receipts := by
  induction receipts generalizing number state with
  | nil => rfl
  | cons first rest ih =>
      rw [List.length_cons] at count
      have isLine : readLine runtime number state (recordBytes runtime first) =
          .ok (first, state.after runtime first) :=
        readLine_ok.mpr ⟨by omega, sizes first List.mem_cons_self,
          chain.1.readable.loads documented, chain.1, rfl⟩
      have others := @ih (number + 1) _ chain.2 (by omega)
        fun receipt present => sizes receipt (List.mem_cons_of_mem _ present)
      rw [List.map_cons, readLines, isLine]
      simp only [bind_ok, pure_ok]
      exact ⟨_, rfl, _, others, rfl⟩

/-- The last line is read after the records of the lines before it. -/
theorem readLines_snoc {number : ℕ} {state : ReaderState} {lines : List Bytes} (line : Bytes)
    {receipts : List (OperationReceipt Real)}
    (read : readLines runtime number state lines = .ok receipts) :
    readLines runtime number state (lines ++ [line]) =
      (readLine runtime (number + lines.length)
        (receipts.foldl (ReaderState.after runtime) state) line).map
          fun found => receipts ++ [found.1] := by
  induction lines generalizing number state receipts with
  | nil =>
      cases read
      rw [List.nil_append, readLines, List.length_nil, Nat.add_zero, List.foldl_nil]
      cases readLine runtime number state line <;> rfl
  | cons first rest ih =>
      simp only [readLines, bind_ok, pure_ok] at read
      obtain ⟨⟨receipt, later⟩, isLine, others, isRest, rfl⟩ := read
      obtain ⟨_, _, _, _, rfl⟩ := readLine_ok.mp isLine
      have tail := ih isRest
      rw [List.length_cons, List.foldl_cons, Nat.add_comm rest.length, ← Nat.add_assoc,
        List.cons_append, readLines, isLine]
      simp only [Bind.bind, Except.bind, tail]
      cases readLine runtime (number + 1 + rest.length)
        (others.foldl (ReaderState.after runtime) (state.after runtime receipt)) line <;> rfl

end Lines

section Bytes

theorem encode_append (first second : List Char) :
    encode (first ++ second) = encode first ++ encode second := List.map_append

theorem encode_newline {text : List Char} (printed : Printed text) : (10 : UInt8) ∉ encode text := by
  intro present
  obtain ⟨char, inside, same⟩ := List.mem_map.mp present
  have bounds := printed char inside
  simp only [isPrintable, Bool.and_eq_true, decide_eq_true_eq] at bounds
  have value := congrArg UInt8.toNat same
  have ten : (10 : UInt8).toNat = 10 := rfl
  rw [ten, Nat.toUInt8_eq, UInt8.toNat_ofNat', Nat.mod_eq_of_lt (by omega)] at value
  omega

theorem splitLines_part {line : Bytes} (solid : (10 : UInt8) ∉ line) (filled : line ≠ []) :
    splitLines line = [line] := by
  induction line with
  | nil => exact absurd rfl filled
  | cons byte rest ih =>
      rw [List.mem_cons, not_or] at solid
      rw [splitLines, if_neg (Ne.symm solid.1)]
      cases rest with
      | nil => rfl
      | cons other others => rw [ih solid.2 (List.cons_ne_nil _ _)]

theorem splitLines_line {line : Bytes} (solid : (10 : UInt8) ∉ line) (rest : Bytes) :
    splitLines (line ++ (10 :: rest)) = (line ++ [10]) :: splitLines rest := by
  induction line with
  | nil => rfl
  | cons byte others ih =>
      rw [List.mem_cons, not_or] at solid
      rw [List.cons_append, splitLines, if_neg (Ne.symm solid.1), ih solid.2]
      rfl

theorem recordBytes_line (documented : Documented runtime) {receipt : OperationReceipt Real}
    (checked : FieldsChecked runtime receipt) :
    ∃ line, recordBytes runtime receipt = line ++ [10] ∧ (10 : UInt8) ∉ line :=
  ⟨_, encode_append _ _,
    encode_newline (write_printed _ (signedNode_formed documented checked))⟩

/-- The written records are the lines of the file. -/
theorem splitLines_written (documented : Documented runtime) {receipts : List (OperationReceipt Real)}
    (checked : ∀ receipt ∈ receipts, FieldsChecked runtime receipt) (rest : Bytes) :
    splitLines ((receipts.map (recordBytes runtime)).flatten ++ rest) =
      receipts.map (recordBytes runtime) ++ splitLines rest := by
  induction receipts with
  | nil => rfl
  | cons first others ih =>
      obtain ⟨line, isLine, solid⟩ := recordBytes_line documented (checked first List.mem_cons_self)
      rw [List.map_cons, List.flatten_cons, isLine, List.append_assoc, List.append_assoc,
        List.singleton_append, splitLines_line solid,
        ih fun receipt present => checked receipt (List.mem_cons_of_mem _ present)]
      rfl

end Bytes

section Files

/-- The file holds exactly these records. -/
structure Written (runtime : Runtime Real) (receipts : List (OperationReceipt Real))
    (content : Bytes) : Prop where
  lines : content = (receipts.map (recordBytes runtime)).flatten
  chain : Chain runtime ReaderState.start receipts
  count : receipts.length ≤ maxReceipts
  sizes : ∀ receipt ∈ receipts, (recordBytes runtime receipt).length ≤ maxReceiptLineBytes
  total : content.length ≤ maxReceiptBytes

theorem Written.empty : Written runtime [] [] :=
  ⟨rfl, trivial, Nat.zero_le _, nofun, Nat.zero_le _⟩

theorem readAll_getD (file : Option Bytes) :
    readAll runtime file = readAll runtime (some (file.getD [])) := by
  cases file <;> rfl

theorem Written.split (documented : Documented runtime) {receipts : List (OperationReceipt Real)}
    {content : Bytes} (written : Written runtime receipts content) (rest : Bytes) :
    splitLines (content ++ rest) = receipts.map (recordBytes runtime) ++ splitLines rest := by
  rw [written.lines]
  exact splitLines_written documented (fun receipt present =>
    (written.chain.readable receipt present).checked) rest

theorem Written.reads (documented : Documented runtime) {receipts : List (OperationReceipt Real)}
    {content : Bytes} (written : Written runtime receipts content) :
    readLines runtime 1 ReaderState.start (receipts.map (recordBytes runtime)) = .ok receipts :=
  readLines_written documented written.chain
    (by rw [Nat.add_comm]; exact Nat.succ_le_succ written.count) written.sizes

/-- The records of the file are read. -/
theorem Written.readAll (documented : Documented runtime) {receipts : List (OperationReceipt Real)}
    {content : Bytes} (written : Written runtime receipts content) :
    readAll runtime (some content) = .ok receipts := by
  have lines := written.split documented []
  rw [List.append_nil, splitLines, List.append_nil] at lines
  simp only [Scenario.readAll, bind_ok, require_ok, exists_const, lines]
  exact ⟨written.total, written.reads documented⟩

theorem readAll_chain {content : Bytes} {receipts : List (OperationReceipt Real)}
    (read : Scenario.readAll runtime (some content) = .ok receipts) :
    Chain runtime ReaderState.start receipts := by
  simp only [Scenario.readAll, bind_ok, require_ok, exists_const] at read
  exact readLines_chain read.2

theorem foldl_after (receipts : List (OperationReceipt Real)) (state : ReaderState) :
    receipts.foldl (ReaderState.after runtime) state =
      ⟨(receipts.getLast?.map (·.recordHash)).getD state.previousHash,
        (receipts.getLast?.map fun last => (runtime.fromisoformat last.recordedAt).join).getD
          state.previousTime,
        (receipts.map fun receipt => (receipt.key, receipt.proposalHash)).reverse ++ state.seen⟩ := by
  induction receipts using List.reverseRecOn with
  | nil => rfl
  | append_singleton rest last ih =>
      rw [List.foldl_append, ih]
      simp [ReaderState.after]

/-- The prepared receipt fits after the records of the file. -/
theorem prepare_ok {file : Option Bytes} {receipt signed : OperationReceipt Real}
    {receipts : List (OperationReceipt Real)} (read : Scenario.readAll runtime file = .ok receipts)
    (prepared : prepare runtime file receipt = .ok signed) :
    receipts.length < maxReceipts ∧
      (receipt.ownershipNonce = "" ∨ receipt.ownershipNonce = runtime.nonce) ∧
      (∃ time, runtime.fromisoformat receipt.recordedAt = some (some time) ∧
        inOrder (receipts.getLast?.bind fun last => (runtime.fromisoformat last.recordedAt).join)
          time) ∧
      (∀ item ∈ receipts, item.key = receipt.key → item.proposalHash = receipt.proposalHash) ∧
      FieldsChecked runtime (bind runtime receipts receipt) ∧
      (∀ entry ∈ receipt.metrics.entries, metricWritable entry.2 = true) ∧
      signed = { bind runtime receipts receipt with
        recordHash := runtime.hmac (payload runtime (bind runtime receipts receipt)) } ∧
      (recordBytes runtime signed).length ≤ maxReceiptLineBytes ∧
      (file.getD []).length + (recordBytes runtime signed).length ≤ maxReceiptBytes := by
  simp only [prepare, bind_ok, require_ok, present_ok, exists_const, pure_ok, sign_ok] at prepared
  obtain ⟨found, isFound, count, nonce, recorded, isRecorded, time, rfl, timely, single, _, checked,
    hash, ⟨writable, rfl⟩, size, total, rfl⟩ := prepared
  rw [read, Except.ok.injEq] at isFound
  subst isFound
  exact ⟨count, nonce, ⟨time, isRecorded, timely⟩, single, checkFields_ok.mp checked, writable, rfl,
    size, total⟩

/-- A missing file takes every receipt with valid fields and a short record. -/
theorem prepare_start {receipt record : OperationReceipt Real}
    (nonce : receipt.ownershipNonce = "")
    (checked : FieldsChecked runtime (bind runtime [] receipt))
    (writable : ∀ entry ∈ receipt.metrics.entries, metricWritable entry.2 = true)
    (isRecord : record = { bind runtime [] receipt with
      recordHash := runtime.hmac (payload runtime (bind runtime [] receipt)) })
    (size : (recordBytes runtime record).length ≤ maxReceiptLineBytes) :
    prepare runtime none receipt = .ok record := by
  obtain ⟨time, isTime⟩ := checked.timestamp
  have total : maxReceiptLineBytes ≤ maxReceiptBytes := by decide
  simp only [prepare, bind_ok, require_ok, present_ok, exists_const, pure_ok, sign_ok]
  have timely : inOrder none time := by
    intro earlier isEarlier
    cases isEarlier
  refine ⟨[], rfl, Nat.zero_lt_succ _, Or.inl nonce, some time, isTime, time, rfl, timely,
    List.forall_mem_nil _, (), checkFields_ok.mpr checked, _, ⟨writable, rfl⟩, ?_, ?_,
    isRecord.symm⟩
  · rwa [← isRecord]
  · rw [← isRecord, Option.getD_none, List.length_nil, Nat.zero_add]
    exact size.trans total

theorem lookup_entry {entries : List (OperationKey × String)} {key : OperationKey} {other : String}
    (found : other ∈ entries.lookup key) : (key, other) ∈ entries := lookup_member found

theorem getLast_bind {Value Other : Type} (item : Option Value) (change : Value → Option Other) :
    (item.map change).getD none = item.bind change := by
  cases item <;> rfl

/-- The fields of a prepared record are valid. -/
theorem prepare_checked (documented : Documented runtime) {file : Option Bytes}
    {receipt signed : OperationReceipt Real} {receipts : List (OperationReceipt Real)}
    (read : Scenario.readAll runtime file = .ok receipts)
    (prepared : prepare runtime file receipt = .ok signed) : FieldsChecked runtime signed := by
  obtain ⟨_, _, _, _, checked, _, isSigned, _, _⟩ := prepare_ok read prepared
  rw [isSigned]
  exact ⟨checked.scenario, checked.operation, checked.detail, checked.idempotency,
    checked.proposal, checked.nonce, checked.previous, Or.inr (documented.digests _),
    checked.timestamp, checked.count, checked.metrics⟩

/-- A prepared record with a short timestamp fits after the records of the file. -/
theorem prepare_accepted (documented : Documented runtime) {file : Option Bytes}
    {receipt signed : OperationReceipt Real} {receipts : List (OperationReceipt Real)}
    (read : Scenario.readAll runtime file = .ok receipts)
    (prepared : prepare runtime file receipt = .ok signed)
    (short : receipt.recordedAt.length ≤ 4096) :
    Accepted runtime (receipts.foldl (ReaderState.after runtime) ReaderState.start) signed := by
  have signedChecked := prepare_checked documented read prepared
  obtain ⟨count, nonce, ⟨time, isTime, timely⟩, single, _, writable, isSigned, _⟩ :=
    prepare_ok read prepared
  rw [foldl_after]
  refine ⟨⟨signedChecked, ?_, ?_⟩, ?_, ?_, ?_, ?_, ?_⟩
  · rw [isSigned]
    exact writable
  · rw [isSigned]
    exact short
  · intro other isOther
    rw [isSigned] at isOther
    have same := isTime.symm.trans isOther
    rw [Option.some.injEq, Option.some.injEq] at same
    rw [← same]
    change inOrder (Option.getD _ none) time
    rw [getLast_bind]
    exact timely
  · rw [isSigned]
    rfl
  · rw [isSigned]
    change (if receipt.ownershipNonce = "" then runtime.nonce else receipt.ownershipNonce) = _
    split
    · rfl
    · next filled => exact nonce.resolve_left filled
  · rw [isSigned]
    rfl
  · intro other found
    have entry := lookup_entry found
    change (signed.key, other) ∈ List.reverse _ ++ [] at entry
    rw [List.append_nil, List.mem_reverse] at entry
    obtain ⟨item, present, same⟩ := List.mem_map.mp entry
    rw [Prod.mk.injEq] at same
    rw [← same.2, isSigned]
    rw [isSigned] at same
    exact single item present same.1

/-- A complete append adds one record to the file. -/
theorem Written.append {file : Option Bytes} {receipt signed : OperationReceipt Real}
    {receipts : List (OperationReceipt Real)} (documented : Documented runtime)
    (written : Written runtime receipts (file.getD []))
    (prepared : prepare runtime file receipt = .ok signed)
    (short : receipt.recordedAt.length ≤ 4096) :
    Written runtime (receipts ++ [signed]) (file.getD [] ++ recordBytes runtime signed) := by
  have read := written.readAll documented
  rw [← readAll_getD] at read
  obtain ⟨count, _, _, _, _, _, _, size, total⟩ := prepare_ok read prepared
  have accepted := prepare_accepted documented read prepared short
  refine ⟨?_, written.chain.snoc accepted, ?_, ?_, ?_⟩
  · rw [List.map_append, List.flatten_append, ← written.lines]
    simp only [List.map_cons, List.map_nil, List.flatten_cons, List.flatten_nil, List.append_nil]
  · rw [List.length_append, List.length_singleton]
    exact count
  · intro item present
    rcases List.mem_append.mp present with earlier | last
    · exact written.sizes item earlier
    · rw [List.mem_singleton.mp last]
      exact size
  · rw [List.length_append]
    exact total

end Files

end LineageGuard.Scenario
