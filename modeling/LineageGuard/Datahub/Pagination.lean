import LineageGuard.Datahub.Request
import LineageGuard.Library.Contract
import LineageGuard.Library.Dialogue
import Mathlib.Tactic

/-
This file translates the collection of bounded pages and proves which pages it collects.
-/

namespace LineageGuard.Datahub

open Dialogue Attempt

section Errors

/-- An error of a read also names its invocation and its tool. -/
structure ReadError extends DataHubAdapterError where
  invocationId : Option String
  tool : Option Domain.Tool

inductive Thrown
  | adapter (error : ReadError)
  | other

def readError (code : DataHubAdapterErrorCode) (message : String) : Thrown :=
  .adapter ⟨⟨code, message, false⟩, none, none⟩

end Errors

section Pages

def pageSize : ℕ := 50

def maxPages : ℕ := 4

def maxItems : ℕ := 200

/-- A number is an integer or something else (a fraction, an infinity or no number). -/
inductive JsNumber
  | integer (value : ℤ)
  | other
  deriving DecidableEq

/-- The items are missing when they are no array. -/
structure DataHubPage (Item : Type) where
  items : Option (List Item)
  nextOffset : Option JsNumber

variable {Call : Type} {Reply : Call → Type} {State Item : Type}

/-- A fetcher changes the state that it captures, also where it raises an error. -/
abbrev Stateful (Call : Type) (Reply : Call → Type) (State Result : Type) : Type :=
  State → Program Call Reply (Thrown × State) (Result × State)

abbrev Fetcher (Call : Type) (Reply : Call → Type) (State Item : Type) : Type :=
  ℕ → ℕ → Stateful Call Reply State (DataHubPage Item)

def invalidItems : Thrown :=
  readError .malformedResponse "DataHub pagination returned an invalid item collection."

def largePage : Thrown :=
  readError .paginationLimit "DataHub pagination exceeded the requested page size."

def manyItems : Thrown :=
  readError .paginationLimit "DataHub pagination exceeded the fixed item limit."

def manyPages : Thrown :=
  readError .paginationLimit "DataHub pagination exceeded the fixed page limit."

def noProgress : Thrown :=
  readError .cursorCycle "DataHub pagination did not make forward progress."

/-- The items of one page are checked against those that came before. -/
def acceptItems (collected : ℕ) (page : DataHubPage Item) : Except Thrown (List Item) := do
  let items ← present page.items invalidItems
  reject (items.length > pageSize) largePage
  reject (collected + items.length > maxItems) manyItems
  return items

/-- The next offset is a safe integer that follows every offset before it. -/
def acceptOffset (items : List Item) (visitedOffsets : List ℕ) (offset : ℕ) (next : JsNumber) :
    Except Thrown ℕ :=
  match next with
  | .other => .error noProgress
  | .integer value => do
      reject (items.length = 0 ∨ ¬ value.natAbs ≤ Contract.maxSafeInteger ∨ value < 0 ∨
        value ≤ offset ∨ value.toNat ∈ visitedOffsets) noProgress
      return value.toNat

/-- A page either is the last one or names the next offset. -/
def acceptPage (remaining : ℕ) (collected : List Item) (visitedOffsets : List ℕ) (offset : ℕ)
    (page : DataHubPage Item) : Except Thrown (List Item × Option ℕ) := do
  let items ← acceptItems collected.length page
  match page.nextOffset with
  | none => return (collected ++ items, none)
  | some next =>
      let following ← acceptOffset items visitedOffsets offset next
      reject (remaining = 0) manyPages
      return (collected ++ items, some following)

/-- An error ends the loop, the last page returns its items and any other page continues. -/
def continueWith (next : List Item → ℕ → Stateful Call Reply State (List Item)) :
    Except Thrown (List Item × Option ℕ) → Stateful Call Reply State (List Item)
  | .error error, state => .fail (error, state)
  | .ok (items, none), state => pure (items, state)
  | .ok (items, some following), state => next items following state

/-- The loop has this many pages left. -/
def collectFrom (fetchPage : Fetcher Call Reply State Item) :
    ℕ → List Item → List ℕ → ℕ → Stateful Call Reply State (List Item)
  | 0, _, _, _, state => .fail (manyPages, state)
  | remaining + 1, collected, visitedOffsets, offset, state => do
      let (page, state) ← fetchPage offset pageSize state
      continueWith (fun items following =>
          collectFrom fetchPage remaining items (following :: visitedOffsets) following)
        (acceptPage remaining collected visitedOffsets offset page) state

def collectBoundedPages (fetchPage : Fetcher Call Reply State Item) :
    Stateful Call Reply State (List Item) :=
  collectFrom fetchPage maxPages [] [0] 0

end Pages

section Steps

variable {Item : Type} {remaining offset : ℕ} {collected all : List Item} {visitedOffsets : List ℕ}
variable {page : DataHubPage Item}

theorem acceptItems_ok {count : ℕ} {items : List Item} :
    acceptItems count page = .ok items ↔
      page.items = some items ∧ items.length ≤ pageSize ∧ count + items.length ≤ maxItems := by
  simp only [acceptItems, bind_ok, present_ok, reject_ok, pure_ok, exists_const, not_lt, gt_iff_lt]
  constructor
  · rintro ⟨found, isFound, few, room, rfl⟩
    exact ⟨isFound, few, room⟩
  · rintro ⟨isFound, few, room⟩
    exact ⟨items, isFound, few, room, rfl⟩

theorem acceptOffset_ok {items : List Item} {next : JsNumber} {following : ℕ}
    (visited : ∀ earlier ∈ visitedOffsets, earlier ≤ offset) :
    acceptOffset items visitedOffsets offset next = .ok following ↔
      next = .integer following ∧ items ≠ [] ∧ offset < following ∧
        following ≤ Contract.maxSafeInteger := by
  cases next with
  | other =>
      constructor
      · intro accepted
        cases accepted
      · rintro ⟨same, _⟩
        cases same
  | integer value =>
      simp only [acceptOffset, bind_ok, reject_ok, pure_ok, exists_const, not_or, not_lt, not_le,
        JsNumber.integer.injEq, List.length_eq_zero_iff]
      constructor
      · rintro ⟨⟨filled, safe, positive, later, fresh⟩, rfl⟩
        exact ⟨(Int.toNat_of_nonneg positive).symm, filled, by omega, by omega⟩
      · rintro ⟨rfl, filled, later, safe⟩
        refine ⟨⟨filled, safe, by omega, by omega, fun present => ?_⟩, rfl⟩
        have earlier := visited _ present
        rw [Int.toNat_natCast] at earlier
        omega

theorem acceptPage_last :
    acceptPage remaining collected visitedOffsets offset page = .ok (all, none) ↔
      ∃ items, page = ⟨some items, none⟩ ∧ items.length ≤ pageSize ∧
        collected.length + items.length ≤ maxItems ∧ all = collected ++ items := by
  obtain ⟨pageItems, nextOffset⟩ := page
  simp only [acceptPage, bind_ok, acceptItems_ok, DataHubPage.mk.injEq]
  cases nextOffset with
  | none =>
      simp only [pure_ok, Prod.mk.injEq, and_true]
      constructor
      · rintro ⟨items, ⟨found, few, room⟩, rfl⟩
        exact ⟨items, found, few, room, rfl⟩
      · rintro ⟨items, found, few, room, rfl⟩
        exact ⟨items, ⟨found, few, room⟩, rfl⟩
  | some next =>
      simp only [bind_ok, pure_ok, Prod.mk.injEq, reduceCtorEq, and_false, false_and, exists_false]

theorem acceptPage_more {following : ℕ} (visited : ∀ earlier ∈ visitedOffsets, earlier ≤ offset) :
    acceptPage remaining collected visitedOffsets offset page = .ok (all, some following) ↔
      ∃ items, page = ⟨some items, some (.integer following)⟩ ∧ items.length ≤ pageSize ∧
        collected.length + items.length ≤ maxItems ∧ items ≠ [] ∧ offset < following ∧
        following ≤ Contract.maxSafeInteger ∧ remaining ≠ 0 ∧ all = collected ++ items := by
  obtain ⟨pageItems, nextOffset⟩ := page
  simp only [acceptPage, bind_ok, acceptItems_ok, DataHubPage.mk.injEq]
  cases nextOffset with
  | none =>
      simp only [pure_ok, Prod.mk.injEq, reduceCtorEq, and_false, false_and, exists_false]
  | some next =>
      simp only [bind_ok, reject_ok, exists_const, pure_ok, Prod.mk.injEq, Option.some.injEq,
        acceptOffset_ok visited]
      constructor
      · rintro ⟨items, ⟨found, few, room⟩, _, ⟨rfl, filled, later, safe⟩, more, rfl, rfl⟩
        exact ⟨items, ⟨found, rfl⟩, few, room, filled, later, safe, more, rfl⟩
      · rintro ⟨items, ⟨found, rfl⟩, few, room, filled, later, safe, more, rfl⟩
        exact ⟨items, ⟨found, few, room⟩, _, ⟨rfl, filled, later, safe⟩, more, rfl, rfl⟩

end Steps

section Runs

variable {Call : Type} {Reply : Call → Type} {State Item : Type}

/-- Each page after the first is fetched at the offset that the page before it names, which is a
later one, and the last page names none. -/
inductive Fetches (fetchPage : Fetcher Call Reply State Item) :
    ℕ → State → List (ℕ × List Item) → List (Exchange Call Reply) → State → Prop
  | last {offset : ℕ} {state final : State} {items : List Item} {trace : List (Exchange Call Reply)}
      (fetched : Runs (fetchPage offset pageSize state) trace (.ok (⟨some items, none⟩, final))) :
      Fetches fetchPage offset state [(offset, items)] trace final
  | more {offset following : ℕ} {state middle final : State} {items : List Item}
      {pages : List (ℕ × List Item)} {first trace : List (Exchange Call Reply)}
      (fetched : Runs (fetchPage offset pageSize state) first
        (.ok (⟨some items, some (.integer following)⟩, middle)))
      (filled : items ≠ []) (later : offset < following)
      (safe : following ≤ Contract.maxSafeInteger)
      (rest : Fetches fetchPage following middle pages trace final) :
      Fetches fetchPage offset state ((offset, items) :: pages) (first ++ trace) final

variable {fetchPage : Fetcher Call Reply State Item} {remaining offset : ℕ}
variable {collected items : List Item} {visitedOffsets : List ℕ} {state final : State}
variable {trace : List (Exchange Call Reply)}

theorem collectFrom_fetches (visited : ∀ earlier ∈ visitedOffsets, earlier ≤ offset)
    (runs : Runs (collectFrom fetchPage remaining collected visitedOffsets offset state) trace
      (.ok (items, final))) :
    ∃ pages, Fetches fetchPage offset state pages trace final ∧ pages.length ≤ remaining ∧
      (∀ page ∈ pages, page.2.length ≤ pageSize) ∧ items = collected ++ pages.flatMap Prod.snd := by
  induction remaining generalizing collected visitedOffsets offset state trace with
  | zero =>
      have ended := runs.done_cases.2
      cases ended
  | succ remaining ih =>
      rcases runs.bind_cases with ⟨error, _, ended⟩ | ⟨before, after, value, rfl, fetched, rest⟩
      · cases ended
      · obtain ⟨page, middle⟩ := value
        simp only at rest
        cases accepted : acceptPage remaining collected visitedOffsets offset page with
        | error error =>
            rw [accepted] at rest
            cases rest.done_cases.2
        | ok found =>
            obtain ⟨all, following⟩ := found
            rw [accepted] at rest
            cases following with
            | none =>
                obtain ⟨items, rfl, few, _, rfl⟩ := acceptPage_last.mp accepted
                obtain ⟨rfl, ended⟩ := rest.done_cases
                cases ended
                rw [List.append_nil]
                exact ⟨_, .last fetched, by simp, by simpa using few, by simp⟩
            | some following =>
                obtain ⟨found, rfl, few, _, filled, later, safe, _, rfl⟩ :=
                  (acceptPage_more visited).mp accepted
                have earlier : ∀ earlier ∈ following :: visitedOffsets, earlier ≤ following := by
                  intro earlier present
                  rcases List.mem_cons.mp present with rfl | old
                  · exact le_refl _
                  · exact (visited earlier old).trans later.le
                obtain ⟨pages, fetches, count, each, rfl⟩ := ih earlier rest
                refine ⟨(offset, found) :: pages, .more fetched filled later safe fetches,
                  Nat.succ_le_succ count, ?_, by simp⟩
                exact List.forall_mem_cons.mpr ⟨few, each⟩

theorem fetches_collectFrom {pages : List (ℕ × List Item)}
    (fetches : Fetches fetchPage offset state pages trace final)
    (visited : ∀ earlier ∈ visitedOffsets, earlier ≤ offset) (count : pages.length ≤ remaining)
    (each : ∀ page ∈ pages, page.2.length ≤ pageSize)
    (room : collected.length + remaining * pageSize ≤ maxItems) :
    Runs (collectFrom fetchPage remaining collected visitedOffsets offset state) trace
      (.ok (collected ++ pages.flatMap Prod.snd, final)) := by
  induction fetches generalizing remaining collected visitedOffsets with
  | @last offset state final items trace fetched =>
      cases remaining with
      | zero => cases count
      | succ less =>
          have few : items.length ≤ pageSize := by simpa using each
          rw [Nat.succ_mul] at room
          have accepted : acceptPage less collected visitedOffsets offset ⟨some items, none⟩ =
              .ok (collected ++ items, none) :=
            acceptPage_last.mpr ⟨items, rfl, few, by omega, rfl⟩
          have whole : Runs (collectFrom fetchPage (less + 1) collected visitedOffsets offset state)
              (trace ++ []) (.ok (collected ++ items, final)) := by
            apply fetched.bind_ok
            simp only [accepted]
            exact .done _
          rw [List.append_nil] at whole
          simpa using whole
  | @more offset following state middle final items pages first trace fetched filled later safe rest
      ih =>
      obtain ⟨few, others⟩ := List.forall_mem_cons.mp each
      have few : items.length ≤ pageSize := few
      cases remaining with
      | zero => cases count
      | succ less =>
          have fewer : pages.length ≤ less := Nat.le_of_succ_le_succ count
          have more : less ≠ 0 := by
            rintro rfl
            cases rest <;> cases fewer
          rw [Nat.succ_mul] at room
          have accepted : acceptPage less collected visitedOffsets offset
              ⟨some items, some (.integer following)⟩ = .ok (collected ++ items, some following) :=
            (acceptPage_more visited).mpr
              ⟨items, rfl, few, by omega, filled, later, safe, more, rfl⟩
          have earlier : ∀ earlier ∈ following :: visitedOffsets, earlier ≤ following := by
            intro earlier present
            rcases List.mem_cons.mp present with rfl | old
            · exact le_refl _
            · exact (visited earlier old).trans later.le
          have fits : (collected ++ items).length + less * pageSize ≤ maxItems := by
            rw [List.length_append]
            omega
          have continues := ih earlier fewer others fits
          rw [List.flatMap_cons, ← List.append_assoc]
          apply fetched.bind_ok
          simp only [accepted]
          exact continues

/-- The pages collected are those fetched one after another, at most four of them. -/
theorem collectBoundedPages_ok : Runs (collectBoundedPages fetchPage state) trace
      (.ok (items, final)) ↔
    ∃ pages, Fetches fetchPage 0 state pages trace final ∧ pages.length ≤ maxPages ∧
      (∀ page ∈ pages, page.2.length ≤ pageSize) ∧ items = pages.flatMap Prod.snd := by
  have visited : ∀ earlier ∈ [0], earlier ≤ 0 := by
    intro earlier present
    exact (List.mem_singleton.mp present).le
  constructor
  · exact fun runs => collectFrom_fetches visited runs
  · rintro ⟨pages, fetches, count, each, rfl⟩
    exact fetches_collectFrom fetches visited count each (le_refl _)

/-- The loop asks no more often than its fetcher does on four pages. -/
theorem collectFrom_bounded {most : ℕ} {result : Except (Thrown × State) (List Item × State)}
    (once : ∀ offset state trace result, Runs (fetchPage offset pageSize state) trace result →
      trace.length ≤ most)
    (runs : Runs (collectFrom fetchPage remaining collected visitedOffsets offset state) trace
      result) : trace.length ≤ remaining * most := by
  induction remaining generalizing collected visitedOffsets offset state trace with
  | zero =>
      rw [runs.done_cases.1]
      exact Nat.zero_le _
  | succ remaining ih =>
      rw [Nat.succ_mul]
      rcases runs.bind_cases with ⟨error, fetched, _⟩ | ⟨before, after, value, rfl, fetched, rest⟩
      · have few := once _ _ _ _ fetched
        omega
      · have few := once _ _ _ _ fetched
        have others : after.length ≤ remaining * most := by
          obtain ⟨page, middle⟩ := value
          simp only at rest
          generalize acceptPage remaining collected visitedOffsets offset page = accepted at rest
          rcases accepted with error | ⟨all, _ | following⟩
          · rw [rest.done_cases.1]
            exact Nat.zero_le _
          · rw [rest.done_cases.1]
            exact Nat.zero_le _
          · exact ih rest
        rw [List.length_append]
        omega

end Runs

end LineageGuard.Datahub
