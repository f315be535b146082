import LineageGuard.Guarantees.ReceiptIntegrity
import Mathlib.Tactic

/-
This file proves when the log of receipts survives an append that stops in the middle.
-/

namespace LineageGuard.Scenario

open Attempt JsonText

variable {Real : Type} {runtime : Runtime Real}

section Cuts

/-- The file after an append that stops holds the log before it or after it, and later appends keep
the log readable. -/
def Survives (runtime : Runtime Real) (file : Option Bytes)
    (before : List (OperationReceipt Real)) (record : OperationReceipt Real) : Prop :=
  ∃ receipts, (receipts = before ∨ receipts = before ++ [record]) ∧
    readAll runtime file = .ok receipts ∧
    ∀ calls : List (Call Real), (∀ call ∈ calls, call.Sound) →
      ∃ more, readAll runtime (fileAfter runtime file calls) = .ok (receipts ++ more)

/-- So many bytes of the record reach the file. -/
def tornFile (runtime : Runtime Real) (file : Option Bytes) (receipt : OperationReceipt Real)
    (count : ℕ) : Option Bytes := (append runtime (.stopped count) file receipt).2

/-- The log takes no further receipt. -/
def Full (runtime : Runtime Real) (file : Option Bytes) : Prop :=
  ∀ receipt : OperationReceipt Real, receipt.recordedAt.length ≤ 4096 →
    ∃ error, prepare runtime file receipt = .error error

theorem tornFile_eq {file : Option Bytes} {receipt record : OperationReceipt Real}
    (prepared : prepare runtime file receipt = .ok record) (count : ℕ) :
    tornFile runtime file receipt count =
      some (file.getD [] ++ (recordBytes runtime record).take count) := by
  rw [tornFile, append, prepared]

/-- Sound calls keep a written log readable. -/
theorem written_survives (documented : Documented runtime) {file : Option Bytes}
    {receipts before : List (OperationReceipt Real)} {record : OperationReceipt Real}
    (written : Written runtime receipts (file.getD []))
    (log : receipts = before ∨ receipts = before ++ [record]) :
    Survives runtime file before record := by
  refine ⟨receipts, log, ?_, fun calls sound => ?_⟩
  · rw [readAll_getD]
    exact written.readAll documented
  · obtain ⟨grown, _⟩ := calls_written documented written sound
    rw [readAll_getD]
    exact ⟨_, grown.readAll documented⟩

/-- The last line of a file decides whether the file is read. -/
theorem readAll_line (documented : Documented runtime) {content part line : Bytes}
    {receipts : List (OperationReceipt Real)} (written : Written runtime receipts content)
    (lines : splitLines part = [line]) {found : List (OperationReceipt Real)} :
    readAll runtime (some (content ++ part)) = .ok found ↔
      (content ++ part).length ≤ maxReceiptBytes ∧
        ∃ receipt later, readLine runtime (1 + receipts.length)
            (receipts.foldl (ReaderState.after runtime) ReaderState.start) line =
              .ok (receipt, later) ∧ found = receipts ++ [receipt] := by
  have last := readLines_snoc line (written.reads documented)
  rw [List.length_map] at last
  simp only [readAll, bind_ok, require_ok, exists_const, written.split documented, lines, last]
  cases readLine runtime (1 + receipts.length)
      (receipts.foldl (ReaderState.after runtime) ReaderState.start) line with
  | error error => simp only [Except.map, reduceCtorEq, false_and, exists_false, and_false]
  | ok result =>
      obtain ⟨receipt, later⟩ := result
      simp only [Except.map, Except.ok.injEq, Prod.mk.injEq]
      constructor
      · rintro ⟨total, rfl⟩
        exact ⟨total, receipt, later, ⟨rfl, rfl⟩, rfl⟩
      · rintro ⟨total, _, _, ⟨rfl, rfl⟩, rfl⟩
        exact ⟨total, rfl⟩

theorem readAll_refused (documented : Documented runtime) {content part line : Bytes}
    {receipts : List (OperationReceipt Real)} (written : Written runtime receipts content)
    (lines : splitLines part = [line]) (refused : loadRecord runtime line = none) :
    ∀ found, readAll runtime (some (content ++ part)) ≠ .ok found := by
  intro found accepted
  obtain ⟨_, receipt, later, read, _⟩ := (readAll_line documented written lines).mp accepted
  obtain ⟨_, _, loaded, _⟩ := readLine_ok.mp read
  rw [refused] at loaded
  exact nomatch loaded

theorem unreadable_lost {file : Option Bytes} {before : List (OperationReceipt Real)}
    {record : OperationReceipt Real} (refused : ∀ found, readAll runtime file ≠ .ok found) :
    ¬ Survives runtime file before record := by
  rintro ⟨receipts, _, read, _⟩
  exact refused receipts read

end Cuts

section Parts

variable {receipt record : OperationReceipt Real}

def recordText (runtime : Runtime Real) (record : OperationReceipt Real) : List Char :=
  write (signedNode runtime record)

theorem recordText_printed (documented : Documented runtime)
    (checked : FieldsChecked runtime record) : Printed (recordText runtime record) :=
  write_printed _ (signedNode_formed documented checked)

theorem recordText_filled (runtime : Runtime Real) (record : OperationReceipt Real) :
    ∃ rest, recordText runtime record = '\x7b' :: rest := by
  rw [recordText, signedNode, write]
  exact ⟨_, rfl⟩

theorem recordBytes_text (record : OperationReceipt Real) :
    recordBytes runtime record = encode (recordText runtime record) ++ [10] :=
  encode_append _ _

theorem text_ascii {text : List Char} (printed : Printed text) :
    ∀ char ∈ text, 0 < char.toNat ∧ char.toNat < 128 := by
  intro char present
  have bounds := printed char present
  simp only [isPrintable, Bool.and_eq_true, decide_eq_true_eq] at bounds
  omega

theorem encode_line {text : List Char} (printed : Printed text) (filled : text ≠ []) :
    splitLines (encode text) = [encode text] :=
  splitLines_part (encode_newline printed) fun blank => filled (List.map_eq_nil_iff.mp blank)

/-- A line with a part of a record is refused. -/
theorem part_refused (documented : Documented runtime) (checked : FieldsChecked runtime record)
    {part rest : List Char} (split : recordText runtime record = part ++ rest) (cut : rest ≠ []) :
    loadRecord runtime (encode part) = none := by
  have printed := recordText_printed documented checked
  rw [split] at printed
  have partPrinted : Printed part := fun char present =>
    printed char (List.mem_append_left _ present)
  rw [loadRecord, documented.decodes part (text_ascii partPrinted)]
  simp only [Option.bind_eq_bind, Option.bind_some]
  rw [loads_part (signedNode_formed documented checked) split cut]
  rfl

/-- A line without its line break gives its record. -/
theorem text_loaded (documented : Documented runtime) (readable : Readable runtime record) :
    loadRecord runtime (encode (recordText runtime record)) = some record := by
  have printed := recordText_printed documented readable.checked
  rw [loadRecord, documented.decodes _ (text_ascii printed)]
  simp only [Option.bind_eq_bind, Option.bind_some]
  rw [recordText, loads_text (signedNode_formed documented readable.checked)]
  exact parseRecord_signedNode documented readable.checked readable.writable readable.short

theorem text_long (documented : Documented runtime) (checked : FieldsChecked runtime record)
    (long : 4096 < record.recordedAt.length) :
    loadRecord runtime (encode (recordText runtime record)) = none := by
  have printed := recordText_printed documented checked
  rw [loadRecord, documented.decodes _ (text_ascii printed)]
  simp only [Option.bind_eq_bind, Option.bind_some]
  rw [recordText, loads_text (signedNode_formed documented checked)]
  exact parseRecord_long long

/-- A line with two records is refused. -/
theorem pair_refused (documented : Documented runtime) {next : OperationReceipt Real}
    (checked : FieldsChecked runtime record) (nextChecked : FieldsChecked runtime next) :
    loadRecord runtime (encode (recordText runtime record) ++ recordBytes runtime next) = none := by
  have printed := recordText_printed documented checked
  have nextPrinted := recordText_printed documented nextChecked
  have glued : encode (recordText runtime record) ++ recordBytes runtime next =
      encode (recordText runtime record ++ (recordText runtime next ++ ['\n'])) := by
    rw [encode_append]
    rfl
  have ascii : ∀ char ∈ recordText runtime record ++ (recordText runtime next ++ ['\n']),
      0 < char.toNat ∧ char.toNat < 128 := by
    intro char present
    rcases List.mem_append.mp present with first | second
    · exact text_ascii printed char first
    · exact printed_ascii nextPrinted char second
  have stops : Stops (write (signedNode runtime next)) := by
    obtain ⟨rest, isObject⟩ := recordText_filled runtime next
    rw [recordText] at isObject
    rw [isObject]
    exact Stops.cons rest (by decide)
  rw [glued, loadRecord, documented.decodes _ ascii]
  simp only [Option.bind_eq_bind, Option.bind_some]
  rw [recordText, recordText, loads_pair (signedNode_formed documented checked)
    (signedNode_formed documented nextChecked) stops]
  rfl

end Parts

section Tolerance

/-- All of the record reaches the file, or all but its line break when the log takes no more. -/
def Whole (runtime : Runtime Real) (file : Option Bytes) (receipt record : OperationReceipt Real)
    (count : ℕ) : Prop :=
  receipt.recordedAt.length ≤ 4096 ∧
    ((recordBytes runtime record).length ≤ count ∨
      (count + 1 = (recordBytes runtime record).length ∧
        Full runtime (tornFile runtime file receipt count)))

theorem take_part {first : Bytes} {count : ℕ} (short : count < first.length + 1) :
    (first ++ [10]).take count = first.take count := by
  rw [List.take_append, Nat.sub_eq_zero_of_le (Nat.le_of_lt_succ short), List.take_zero,
    List.append_nil]

theorem encode_take (text : List Char) (count : ℕ) :
    (encode text).take count = encode (text.take count) := List.map_take.symm

theorem encode_length (text : List Char) : (encode text).length = text.length :=
  List.length_map _

theorem recordBytes_length (record : OperationReceipt Real) :
    (recordBytes runtime record).length = (recordText runtime record).length + 1 := by
  rw [recordBytes_text, List.length_append, encode_length]
  rfl

variable {file : Option Bytes} {receipts : List (OperationReceipt Real)}
  {receipt record : OperationReceipt Real} {count : ℕ}

/-- A strict part of the text of a record makes the log unreadable. -/
theorem part_lost (documented : Documented runtime)
    (written : Written runtime receipts (file.getD []))
    (prepared : prepare runtime file receipt = .ok record) (started : 0 < count)
    (cut : count < (recordText runtime record).length) :
    ¬ Survives runtime (tornFile runtime file receipt count) receipts record := by
  have read := written.readAll documented
  rw [← readAll_getD] at read
  have checked := prepare_checked documented read prepared
  have printed := recordText_printed documented checked
  have split := (List.take_append_drop count (recordText runtime record)).symm
  have partPrinted : Printed ((recordText runtime record).take count) := fun char present =>
    printed char (List.mem_of_mem_take present)
  have filled : (recordText runtime record).take count ≠ [] := by
    intro blank
    have length := congrArg List.length blank
    rw [List.length_take, List.length_nil] at length
    omega
  have rest : (recordText runtime record).drop count ≠ [] := by
    intro blank
    have length := congrArg List.length blank
    rw [List.length_drop, List.length_nil] at length
    omega
  rw [tornFile_eq prepared, recordBytes_text, take_part (by rw [encode_length]; omega), encode_take]
  exact unreadable_lost (readAll_refused documented written (encode_line partPrinted filled)
    (part_refused documented checked split rest))

theorem long_lost (documented : Documented runtime)
    (written : Written runtime receipts (file.getD []))
    (prepared : prepare runtime file receipt = .ok record)
    (long : 4096 < receipt.recordedAt.length)
    (most : (recordText runtime record).length ≤ count) :
    ¬ Survives runtime (tornFile runtime file receipt count) receipts record := by
  have read := written.readAll documented
  rw [← readAll_getD] at read
  have checked := prepare_checked documented read prepared
  have printed := recordText_printed documented checked
  have same : record.recordedAt = receipt.recordedAt := by
    obtain ⟨_, _, _, _, _, _, isSigned, _⟩ := prepare_ok read prepared
    rw [isSigned]
    rfl
  rw [← same] at long
  obtain ⟨rest, isObject⟩ := recordText_filled runtime record
  have filled : recordText runtime record ≠ [] := by
    rw [isObject]
    exact List.cons_ne_nil _ _
  rw [tornFile_eq prepared]
  rcases Nat.eq_or_lt_of_le most with exact | beyond
  · rw [recordBytes_text, take_part (by rw [encode_length]; omega), encode_take, ← exact,
      List.take_length]
    exact unreadable_lost (readAll_refused documented written (encode_line printed filled)
      (text_long documented checked long))
  · rw [List.take_of_length_le (by rw [recordBytes_length]; omega)]
    have lines : splitLines (recordBytes runtime record) = [recordBytes runtime record] := by
      rw [recordBytes_text, splitLines_line (encode_newline printed)]
      rfl
    exact unreadable_lost (readAll_refused documented written lines
      (loadRecord_long documented checked long))

/-- The record without its line break is read, and a further record is glued to it. -/
theorem text_survives (documented : Documented runtime)
    (written : Written runtime receipts (file.getD []))
    (prepared : prepare runtime file receipt = .ok record)
    (short : receipt.recordedAt.length ≤ 4096)
    (exact : count = (recordText runtime record).length) :
    Survives runtime (tornFile runtime file receipt count) receipts record ↔
      Full runtime (tornFile runtime file receipt count) := by
  have read := written.readAll documented
  rw [← readAll_getD] at read
  have checked := prepare_checked documented read prepared
  have accepted := prepare_accepted documented read prepared short
  have printed := recordText_printed documented checked
  obtain ⟨room, _, _, _, _, _, _, size, total⟩ := prepare_ok read prepared
  obtain ⟨rest, isObject⟩ := recordText_filled runtime record
  have filled : recordText runtime record ≠ [] := by
    rw [isObject]
    exact List.cons_ne_nil _ _
  have torn : tornFile runtime file receipt count =
      some (file.getD [] ++ encode (recordText runtime record)) := by
    rw [tornFile_eq prepared, recordBytes_text, take_part (by rw [encode_length]; omega),
      encode_take, exact, List.take_length]
  rw [recordBytes_length] at size total
  have tornRead : readAll runtime (tornFile runtime file receipt count) =
      .ok (receipts ++ [record]) := by
    rw [torn, readAll_line documented written (encode_line printed filled)]
    refine ⟨?_, record, _, readLine_ok.mpr ⟨?_, ?_, text_loaded documented accepted.readable,
      accepted, rfl⟩, rfl⟩
    · rw [List.length_append, encode_length]
      omega
    · omega
    · rw [encode_length]
      omega
  constructor
  · rintro ⟨found, _, _, later⟩ next nextShort
    cases nextPrepared : prepare runtime (tornFile runtime file receipt count) next with
    | error error => exact ⟨error, rfl⟩
    | ok nextRecord =>
        exfalso
        obtain ⟨more, grown⟩ := later [⟨next, .complete⟩] fun call present => by
          rw [List.mem_singleton.mp present]
          exact ⟨rfl, nextShort⟩
        have nextChecked := prepare_checked documented tornRead nextPrepared
        have glued : fileAfter runtime (tornFile runtime file receipt count)
            [⟨next, .complete⟩] = some (file.getD [] ++
              (encode (recordText runtime record) ++ recordBytes runtime nextRecord)) := by
          rw [fileAfter, append, nextPrepared, torn, ← List.append_assoc]
          rfl
        have solid : (10 : UInt8) ∉
            encode (recordText runtime record ++ recordText runtime nextRecord) :=
          encode_newline (printed.append (recordText_printed documented nextChecked))
        have lines : splitLines (encode (recordText runtime record) ++
            recordBytes runtime nextRecord) =
              [encode (recordText runtime record) ++ recordBytes runtime nextRecord] := by
          rw [recordBytes_text, ← List.append_assoc, ← encode_append, splitLines_line solid]
          rfl
        rw [glued] at grown
        exact readAll_refused documented written lines
          (pair_refused documented checked nextChecked) _ grown
  · intro full
    refine ⟨receipts ++ [record], Or.inr rfl, tornRead, fun calls sound => ⟨[], ?_⟩⟩
    have unchanged : ∀ calls : List (Call Real), (∀ call ∈ calls, call.Sound) →
        fileAfter runtime (tornFile runtime file receipt count) calls =
          tornFile runtime file receipt count := by
      intro calls
      induction calls with
      | nil => exact fun _ => rfl
      | cons call rest ih =>
          intro sound
          obtain ⟨error, refused⟩ := full call.receipt (sound call List.mem_cons_self).2
          rw [fileAfter, append, refused]
          exact ih fun other present => sound other (List.mem_cons_of_mem _ present)
    rw [unchanged calls sound, List.append_nil]
    exact tornRead

/-- The log survives a cut exactly when no byte or the whole record reaches the file. -/
theorem torn_log_survives (documented : Documented runtime) (calls : List (Call Real))
    (sound : ∀ call ∈ calls, call.Sound) (receipt record : OperationReceipt Real)
    (prepared : prepare runtime (fileAfter runtime none calls) receipt = .ok record) (count : ℕ) :
    Survives runtime (tornFile runtime (fileAfter runtime none calls) receipt count)
        (recordsOf runtime calls) record ↔
      count = 0 ∨ Whole runtime (fileAfter runtime none calls) receipt record count := by
  obtain ⟨written, _⟩ := log_written documented sound
  rw [Whole, recordBytes_length]
  rcases Nat.eq_zero_or_pos count with rfl | started
  · refine iff_of_true (written_survives documented ?_ (Or.inl rfl)) (Or.inl rfl)
    rw [tornFile_eq prepared, List.take_zero, List.append_nil]
    exact written
  rcases Nat.lt_or_ge count (recordText runtime record).length with cut | most
  · refine iff_of_false (part_lost documented written prepared started cut) ?_
    rintro (rfl | ⟨_, whole | ⟨almost, _⟩⟩) <;> omega
  by_cases short : receipt.recordedAt.length ≤ 4096
  · rcases Nat.eq_or_lt_of_le most with exact | beyond
    · rw [text_survives documented written prepared short exact.symm]
      constructor
      · intro full
        exact Or.inr ⟨short, Or.inr ⟨by omega, full⟩⟩
      · rintro (rfl | ⟨_, whole | ⟨_, full⟩⟩)
        · omega
        · omega
        · exact full
    · refine iff_of_true ?_ (Or.inr ⟨short, Or.inl beyond⟩)
      rw [tornFile_eq prepared, List.take_of_length_le (by rw [recordBytes_length]; omega)]
      exact written_survives documented (written.append documented prepared short) (Or.inr rfl)
  · refine iff_of_false (long_lost documented written prepared (not_le.mp short) most) ?_
    rintro (rfl | ⟨fits, _⟩)
    · omega
    · exact short fits

/-- A first record of which no byte reaches the file leaves the log empty. -/
theorem torn_log_survives_sample :
    Survives sampleRuntime (tornFile sampleRuntime none (sampleReceipt .planned 6) 0) []
      (sampleRecord 6) :=
  (torn_log_survives sampleRuntime_documented [] nofun (sampleReceipt .planned 6) (sampleRecord 6)
    (sampleRecord_prepared (by decide)) 0).mpr (Or.inl rfl)

/-- One byte of the first record makes the log unreadable. -/
theorem first_byte_lost :
    ¬ Survives sampleRuntime (tornFile sampleRuntime none (sampleReceipt .planned 6) 1) []
      (sampleRecord 6) := by
  have start : Written sampleRuntime [] ((none : Option Bytes).getD []) := Written.empty
  refine part_lost sampleRuntime_documented start (sampleRecord_prepared (by decide))
    Nat.one_pos ?_
  obtain ⟨rest, isObject⟩ := recordText_filled sampleRuntime (sampleRecord 6)
  have members : rest ≠ [] := by
    rintro rfl
    have last := congrArg List.getLast? isObject
    rw [recordText, signedNode, write, List.getLast?_append] at last
    exact absurd last (by decide)
  rw [isObject, List.length_cons]
  exact Nat.succ_lt_succ (List.length_pos_iff.mpr members)

end Tolerance

end LineageGuard.Scenario
