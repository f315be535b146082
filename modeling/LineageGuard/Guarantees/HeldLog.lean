import LineageGuard.Guarantees.CrashTolerance
import Mathlib.Tactic

/-
This file proves what a reader can see of a log after appends that may stop at any byte.
-/

namespace LineageGuard.Scenario

open Attempt JsonText

variable {Real : Type} {runtime : Runtime Real}

/-- The log is in the file, or its last record lacks the line break, or nobody reads the file. -/
inductive Held (runtime : Runtime Real) (file : Option Bytes) :
    List (OperationReceipt Real) → Prop
  | written {log : List (OperationReceipt Real)} (written : Written runtime log (file.getD [])) :
      Held runtime file log
  | unended {log : List (OperationReceipt Real)} {content : Bytes}
      {record : OperationReceipt Real} (written : Written runtime log content)
      (checked : FieldsChecked runtime record)
      (ended : file.getD [] = content ++ encode (recordText runtime record))
      (reads : readAll runtime file = .ok (log ++ [record])) : Held runtime file (log ++ [record])
  | lost {log : List (OperationReceipt Real)}
      (refused : ∀ found, readAll runtime file ≠ .ok found) : Held runtime file log

theorem Held.empty : Held runtime none [] := .written Written.empty

section Reading

variable {file : Option Bytes} {log found : List (OperationReceipt Real)}

/-- A reader sees the whole log or nothing. -/
theorem Held.reads (documented : Documented runtime) (held : Held runtime file log)
    (read : readAll runtime file = .ok found) : found = log := by
  cases held with
  | written written =>
      rw [readAll_getD, written.readAll documented, Except.ok.injEq] at read
      exact read.symm
  | unended written checked ended reads =>
      rw [reads, Except.ok.injEq] at read
      exact read.symm
  | lost refused => exact absurd read (refused found)

end Reading

section Appending

variable {file : Option Bytes} {log : List (OperationReceipt Real)}
variable {receipt record : OperationReceipt Real} {count : ℕ}

/-- The prepared record has the contents of the receipt. -/
theorem prepare_contents (prepared : prepare runtime file receipt = .ok record) :
    record.unlinked = (receipt.filled runtime.nonce).unlinked := by
  simp only [prepare, bind_ok, require_ok, present_ok, exists_const, pure_ok] at prepared
  obtain ⟨existing, _, _, _, _, _, _, _, _, _, _, _, hash, _, _, _, rfl⟩ := prepared
  exact unlinked_signed existing receipt hash

/-- The beginning of a record starts with a brace and lies on one line. -/
theorem take_text (documented : Documented runtime) (checked : FieldsChecked runtime record)
    (started : 0 < count) (cut : count ≤ (recordText runtime record).length) :
    ∃ rest, (recordBytes runtime record).take count = encode ('\x7b' :: rest) ∧
      Printed ('\x7b' :: rest) := by
  obtain ⟨rest, isObject⟩ := recordText_filled runtime record
  obtain ⟨fewer, rfl⟩ := Nat.exists_eq_add_of_lt started
  have printed := recordText_printed documented checked
  have taken : (recordText runtime record).take (0 + fewer + 1) =
      '\x7b' :: rest.take (0 + fewer) := by
    rw [isObject]
    rfl
  refine ⟨rest.take (0 + fewer), ?_, ?_⟩
  · rw [recordBytes_text, take_part (by rw [encode_length]; omega), encode_take, taken]
  · rw [← taken]
    exact fun char present => printed char (List.mem_of_mem_take present)

/-- A record that follows an unended one makes the file unreadable. -/
theorem unended_lost (documented : Documented runtime) {content line : Bytes}
    {next : OperationReceipt Real} (written : Written runtime log content)
    (checked : FieldsChecked runtime record) (nextChecked : FieldsChecked runtime next)
    (isLine : (∃ rest, line = encode ('\x7b' :: rest) ∧ Printed ('\x7b' :: rest)) ∨
      line = recordBytes runtime next) :
    ∀ found, readAll runtime (some (content ++ (encode (recordText runtime record) ++ line))) ≠
      .ok found := by
  have printed := recordText_printed documented checked
  rcases isLine with ⟨rest, rfl, more⟩ | rfl
  · have text : encode (recordText runtime record) ++ encode ('\x7b' :: rest) =
        encode (recordText runtime record ++ '\x7b' :: rest) := (encode_append _ _).symm
    have glued : Printed (recordText runtime record ++ '\x7b' :: rest) := printed.append more
    rw [text]
    refine readAll_refused documented written (encode_line glued (by simp)) ?_
    rw [loadRecord, documented.decodes _ (text_ascii glued)]
    simp only [Option.bind_eq_bind, Option.bind_some]
    rw [recordText, loads_open (signedNode_formed documented checked)]
    rfl
  · have nextPrinted := recordText_printed documented nextChecked
    have solid : (10 : UInt8) ∉ encode (recordText runtime record ++ recordText runtime next) :=
      encode_newline (printed.append nextPrinted)
    refine readAll_refused documented written ?_ (pair_refused documented checked nextChecked)
    rw [recordBytes_text, ← List.append_assoc, ← encode_append, splitLines_line solid]
    rfl

theorem Held.append_written (documented : Documented runtime)
    (written : Written runtime log (file.getD []))
    (prepared : prepare runtime file receipt = .ok record)
    (short : receipt.recordedAt.length ≤ 4096) (count : ℕ) :
    Held runtime (tornFile runtime file receipt count) (log ++ [record]) ∨
      Held runtime (tornFile runtime file receipt count) log := by
  have read := written.readAll documented
  rw [← readAll_getD] at read
  have checked := prepare_checked documented read prepared
  have accepted := prepare_accepted documented read prepared short
  obtain ⟨room, _, _, _, _, _, _, size, total⟩ := prepare_ok read prepared
  rw [recordBytes_length] at size total
  rcases Nat.lt_or_ge (recordText runtime record).length count with whole | within
  · have complete : (recordBytes runtime record).take count = recordBytes runtime record :=
      List.take_of_length_le (by rw [recordBytes_length]; omega)
    refine Or.inl (.written ?_)
    rw [tornFile_eq prepared, complete]
    exact written.append documented prepared short
  rcases Nat.eq_zero_or_pos count with rfl | started
  · refine Or.inr (.written ?_)
    rw [tornFile_eq prepared, List.take_zero, List.append_nil]
    exact written
  rcases Nat.eq_or_lt_of_le within with exact | cut
  · have torn : tornFile runtime file receipt count =
        some (file.getD [] ++ encode (recordText runtime record)) := by
      rw [tornFile_eq prepared, recordBytes_text, take_part (by rw [encode_length]; omega),
        encode_take, exact, List.take_length]
    obtain ⟨rest, isObject⟩ := recordText_filled runtime record
    have filled : recordText runtime record ≠ [] := by
      rw [isObject]
      exact List.cons_ne_nil _ _
    refine Or.inl (.unended written checked (by rw [torn]; rfl) ?_)
    rw [torn, readAll_line documented written
      (encode_line (recordText_printed documented checked) filled)]
    refine ⟨?_, record, _, readLine_ok.mpr ⟨?_, ?_, text_loaded documented accepted.readable,
      accepted, rfl⟩, rfl⟩
    · rw [List.length_append, encode_length]
      omega
    · omega
    · rw [encode_length]
      omega
  · have checkedPart := part_refused documented checked
      (List.take_append_drop count (recordText runtime record)).symm fun blank => by
        have length := congrArg List.length blank
        rw [List.length_drop, List.length_nil] at length
        omega
    obtain ⟨rest, isPart, printed⟩ := take_text documented checked started within
    have torn : tornFile runtime file receipt count =
        some (file.getD [] ++ encode ('\x7b' :: rest)) := by
      rw [tornFile_eq prepared, isPart]
    rw [recordBytes_text, take_part (by rw [encode_length]; omega), encode_take] at isPart
    rw [isPart] at checkedPart
    refine Or.inr (.lost ?_)
    rw [torn]
    exact readAll_refused documented written (encode_line printed (List.cons_ne_nil _ _)) checkedPart

/-- An append adds its record to the held log or leaves the log. -/
theorem Held.append (documented : Documented runtime) (held : Held runtime file log) (disk : Disk)
    (short : receipt.recordedAt.length ≤ 4096) :
    (∃ record : OperationReceipt Real,
      record.unlinked = (receipt.filled runtime.nonce).unlinked ∧
        Held runtime (Scenario.append runtime disk file receipt).2 (log ++ [record])) ∨
      ((∃ error, (Scenario.append runtime disk file receipt).1 = .error error) ∧
        Held runtime (Scenario.append runtime disk file receipt).2 log) := by
  cases prepared : prepare runtime file receipt with
  | error error =>
      rw [Scenario.append, prepared]
      exact Or.inr ⟨⟨error, rfl⟩, held⟩
  | ok record =>
      have contents := prepare_contents prepared
      cases held with
      | lost refused =>
          simp only [prepare, bind_ok] at prepared
          obtain ⟨found, isFound, _⟩ := prepared
          exact absurd isFound (refused found)
      | written written =>
          cases disk with
          | complete =>
              refine Or.inl ⟨record, contents, ?_⟩
              rw [Scenario.append, prepared]
              exact .written (written.append documented prepared short)
          | stopped count =>
              have torn : (Scenario.append runtime (.stopped count) file receipt).2 =
                tornFile runtime file receipt count := rfl
              rw [torn]
              refine (Held.append_written documented written prepared short count).imp
                (fun added => ⟨record, contents, added⟩) fun same => ⟨?_, same⟩
              rw [Scenario.append, prepared]
              exact ⟨_, rfl⟩
      | @unended earlier content last written checked ended reads =>
          have recordChecked := prepare_checked documented reads prepared
          cases disk with
          | complete =>
              refine Or.inl ⟨record, contents, .lost ?_⟩
              rw [Scenario.append, prepared]
              show ∀ found, readAll runtime (some (file.getD [] ++ recordBytes runtime record)) ≠ _
              rw [ended, List.append_assoc]
              exact unended_lost documented written checked recordChecked (Or.inr rfl)
          | stopped count =>
              refine Or.inr ⟨?_, ?_⟩
              · rw [Scenario.append, prepared]
                exact ⟨_, rfl⟩
              rw [Scenario.append, prepared]
              show Held runtime (some (file.getD [] ++ (recordBytes runtime record).take count)) _
              rcases Nat.eq_zero_or_pos count with rfl | started
              · rw [List.take_zero, List.append_nil]
                exact .unended written checked (by rw [← ended]; rfl) (by rw [← readAll_getD]; exact reads)
              · refine .lost ?_
                rw [ended, List.append_assoc]
                refine unended_lost documented written checked recordChecked ?_
                rcases Nat.lt_or_ge (recordText runtime record).length count with whole | within
                · exact Or.inr (List.take_of_length_le (by rw [recordBytes_length]; omega))
                · obtain ⟨rest, isPart, printed⟩ :=
                    take_text documented recordChecked started within
                  exact Or.inl ⟨rest, isPart, printed⟩

end Appending

end LineageGuard.Scenario
