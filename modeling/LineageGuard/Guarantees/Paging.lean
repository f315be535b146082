import LineageGuard.Datahub.PagedReader
import Mathlib.Tactic

/-
This file proves which pages a collection returns whatever the server answers.
-/

namespace LineageGuard.Datahub

open Json Dialogue Attempt Contract

section Coverage

variable {Item : Type}

/-- The pages follow one another without a gap from the offset up to the total. -/
def Contiguous : ℕ → List (OfficialPage Item) → ℕ → Prop
  | offset, [], total => offset = total
  | offset, page :: rest, total => page.start = offset ∧
      Contiguous (offset + page.items.length) rest total

theorem Contiguous.count {pages : List (OfficialPage Item)} {offset total : ℕ}
    (contiguous : Contiguous offset pages total) :
    offset + (pages.flatMap (·.items)).length = total := by
  induction pages generalizing offset with
  | nil => exact contiguous
  | cons page rest ih =>
      rw [List.flatMap_cons, List.length_append, ← Nat.add_assoc]
      exact ih contiguous.2

/-- Pages of one list that leave no gap are the whole list. -/
theorem Contiguous.served {pages : List (OfficialPage Item)} {offset : ℕ} {served : List Item}
    (contiguous : Contiguous offset pages served.length)
    (each : ∀ page ∈ pages, page.items = (served.drop page.start).take page.items.length) :
    pages.flatMap (·.items) = served.drop offset := by
  induction pages generalizing offset with
  | nil =>
      have ended : offset = served.length := contiguous
      rw [ended, List.drop_length]
      rfl
  | cons page rest ih =>
      obtain ⟨starts, others⟩ := contiguous
      obtain ⟨here, later⟩ := List.forall_mem_cons.mp each
      rw [List.flatMap_cons, ih others later, ← List.drop_drop, ← starts]
      nth_rewrite 1 [here]
      exact List.take_append_drop _ _

end Coverage

section Reads

variable {Item : Type} {search : PagedSearch Item}

/-- An answer was accepted as this page of the search. -/
structure PageAnswered (search : PagedSearch Item)
    (observation : OfficialObservation (OfficialPage Item)) : Prop where
  tool : observation.invocation.tool = search.tool
  parsed : search.parse observation.invocation.payload = some observation.data

theorem observe_ok {Data : Type} {tool : Domain.Tool} {parse : Reader Data}
    {reply : Except Thrown RawToolInvocation} {observation : OfficialObservation Data} :
    observe tool parse reply = .ok observation ↔ reply = .ok observation.invocation ∧
      observation.invocation.tool = tool ∧
      parse observation.invocation.payload = some observation.data := by
  simp only [observe, bind_ok, require_ok, present_ok, pure_ok, exists_const]
  constructor
  · rintro ⟨invocation, given, isTool, data, parsed, rfl⟩
    exact ⟨given, isTool, parsed⟩
  · rintro ⟨given, isTool, parsed⟩
    exact ⟨_, given, isTool, _, parsed, rfl⟩

/-- This is the exchange in which the page was asked for. -/
def asked (search : PagedSearch Item) (observation : OfficialObservation (OfficialPage Item)) :
    Exchange ToolCall ToolReply :=
  ⟨⟨search.tool, search.arguments observation.data.start pageSize⟩, .ok observation.invocation⟩

/-- The page of an observation goes on unless its count reaches the total. -/
def pageOf (observation : OfficialObservation (OfficialPage Item)) :
    DataHubPage (PagedItem Item) :=
  ⟨some (observation.data.items.map fun item => ⟨item, observation⟩),
    if observation.data.start + observation.data.count ≥ observation.data.total then none
    else some (.integer ↑(observation.data.start + observation.data.count))⟩

theorem stablePageTotal_ok {expected : Option ℕ} {actual total : ℕ}
    {invocation : RawToolInvocation} {subject : String} :
    stablePageTotal expected actual invocation subject = .ok total ↔
      (∀ known ∈ expected, actual = known) ∧ total = actual := by
  simp only [stablePageTotal, bind_ok, reject_ok, pure_ok, exists_const, not_exists, not_and,
    not_not]
  refine and_congr_right fun agree => ?_
  cases expected with
  | none => exact eq_comm
  | some known =>
      rw [agree known rfl]
      exact eq_comm

theorem judgePage_ok {offset : ℕ} {state next : PagingState Item}
    {reply : Except Thrown RawToolInvocation} {page : DataHubPage (PagedItem Item)} :
    judgePage search offset state reply = .ok (page, next) ↔
      ∃ observation : OfficialObservation (OfficialPage Item),
        reply = .ok observation.invocation ∧ PageAnswered search observation ∧
        observation.data.start = offset ∧
        (∀ total ∈ state.resultTotal, observation.data.total = total) ∧
        page = pageOf observation ∧
        next = ⟨some observation.data.total, state.pages ++ [observation],
          some observation.invocation⟩ := by
  simp only [judgePage, bind_ok, observe_ok, require_ok, stablePageTotal_ok, pure_ok, exists_const,
    Prod.mk.injEq, pageOf]
  constructor
  · rintro ⟨observation, ⟨given, isTool, parsed⟩, starts, _, ⟨agree, rfl⟩, rfl, rfl⟩
    exact ⟨observation, given, ⟨isTool, parsed⟩, starts, agree, rfl, rfl⟩
  · rintro ⟨observation, given, ⟨isTool, parsed⟩, starts, agree, rfl, rfl⟩
    exact ⟨observation, ⟨given, isTool, parsed⟩, starts, _, ⟨agree, rfl⟩, rfl, rfl⟩

theorem fetchPage_cases {offset : ℕ} {state next : PagingState Item}
    {page : DataHubPage (PagedItem Item)} {trace : List (Exchange ToolCall ToolReply)}
    (runs : Runs (fetchPage search offset pageSize state) trace (.ok (page, next))) :
    ∃ observation : OfficialObservation (OfficialPage Item),
      trace = [asked search observation] ∧ PageAnswered search observation ∧
      observation.data.start = offset ∧
      (∀ total ∈ state.resultTotal, observation.data.total = total) ∧
      page = pageOf observation ∧
      next = ⟨some observation.data.total, state.pages ++ [observation],
        some observation.invocation⟩ := by
  cases runs with
  | ask reply rest =>
      obtain ⟨rfl, ended⟩ := rest.done_cases
      obtain ⟨observation, rfl, answered, rfl, agree, isPage, isNext⟩ :=
        judgePage_ok.mp (mapError_ok.mp ended.symm)
      exact ⟨observation, rfl, answered, rfl, agree, isPage, isNext⟩

theorem fetchPage_once {offset size : ℕ} {state : PagingState Item}
    {trace : List (Exchange ToolCall ToolReply)}
    {result : Except (Thrown × PagingState Item) (DataHubPage (PagedItem Item) × PagingState Item)}
    (runs : Runs (fetchPage search offset size state) trace result) : trace.length ≤ 1 := by
  cases runs with
  | ask reply rest =>
      rw [rest.done_cases.1]
      exact le_refl _

/-- These observations are the answers to the calls of the trace and cover the total. -/
structure Covers (search : PagedSearch Item) (offset total : ℕ)
    (observations : List (OfficialObservation (OfficialPage Item)))
    (trace : List (Exchange ToolCall ToolReply)) : Prop where
  trace : trace = observations.map (asked search)
  answered : ∀ observation ∈ observations, PageAnswered search observation
  agree : ∀ observation ∈ observations, observation.data.total = total
  contiguous : Contiguous offset (observations.map (·.data)) total

theorem fetches_covers {offset : ℕ} {state final : PagingState Item}
    {pages : List (ℕ × List (PagedItem Item))} {trace : List (Exchange ToolCall ToolReply)}
    (fetches : Fetches (fetchPage search) offset state pages trace final)
    (before : ∀ total ∈ state.resultTotal, offset ≤ total)
    (first : state.resultTotal = none → offset = 0) :
    ∃ observations total, Covers search offset total observations trace ∧
      (∀ known ∈ state.resultTotal, total = known) ∧
      final.pages = state.pages ++ observations ∧ observations.length = pages.length ∧
      pages.flatMap Prod.snd = observations.flatMap fun observation =>
        observation.data.items.map fun item => ⟨item, observation⟩ := by
  induction fetches with
  | @last offset state final items trace fetched =>
      obtain ⟨observation, rfl, answered, starts, agree, isPage, rfl⟩ := fetchPage_cases fetched
      simp only [pageOf, DataHubPage.mk.injEq, Option.some.injEq] at isPage
      obtain ⟨rfl, ended⟩ := isPage
      have reaches : observation.data.total ≤ observation.data.start + observation.data.count := by
        by_contra short
        rw [if_neg short] at ended
        cases ended
      have within : offset ≤ observation.data.total := by
        cases known : state.resultTotal with
        | none =>
            rw [first known]
            exact Nat.zero_le _
        | some total =>
            rw [agree total known]
            exact before total known
      have fits := observation.data.fits
      refine ⟨[observation], observation.data.total, ⟨rfl, ?_, ?_, starts, ?_⟩, agree, rfl, rfl, ?_⟩
      · exact List.forall_mem_singleton.mpr answered
      · exact List.forall_mem_singleton.mpr rfl
      · show offset + observation.data.items.length = observation.data.total
        omega
      · simp
  | @more offset following state middle final items pages one trace fetched filled later safe rest
      ih =>
      obtain ⟨observation, rfl, answered, starts, agree, isPage, rfl⟩ := fetchPage_cases fetched
      simp only [pageOf, DataHubPage.mk.injEq, Option.some.injEq] at isPage
      obtain ⟨rfl, continues⟩ := isPage
      have short : ¬ observation.data.total ≤ observation.data.start + observation.data.count := by
        intro reaches
        rw [if_pos reaches] at continues
        cases continues
      rw [if_neg short] at continues
      have next : following = observation.data.start + observation.data.count :=
        Int.natCast_inj.mp (JsNumber.integer.inj (Option.some.inj continues))
      have fits := observation.data.fits
      have known : ∀ total ∈ some observation.data.total, following ≤ total := by
        intro total isTotal
        cases isTotal
        omega
      obtain ⟨observations, total, covers, same, isFinal, count, all⟩ :=
        ih known fun absent => by cases absent
      have total_eq : total = observation.data.total := same _ rfl
      refine ⟨observation :: observations, total, ⟨?_, ?_, ?_, starts, ?_⟩, ?_, ?_, ?_, ?_⟩
      · rw [covers.trace]
        rfl
      · exact List.forall_mem_cons.mpr ⟨answered, covers.answered⟩
      · exact List.forall_mem_cons.mpr ⟨total_eq.symm, covers.agree⟩
      · have length : observation.data.items.length = observation.data.count := by omega
        rw [length, ← starts, ← next]
        exact covers.contiguous
      · rw [total_eq]
        exact agree
      · rw [isFinal, List.append_assoc]
        rfl
      · rw [List.length_cons, List.length_cons, count]
      · rw [List.flatMap_cons, List.flatMap_cons, all]

end Reads

section Results

variable {Item : Type} {search : PagedSearch Item}

/-- The result covers all items of the total, and one of them alone is the target. -/
structure CompleteRead (search : PagedSearch Item) (result : PagedProof Item)
    (trace : List (Exchange ToolCall ToolReply)) : Prop where
  covers : ∃ total, Covers search 0 total result.pages trace
  few : result.pages.length ≤ maxPages
  single : ((result.pages.flatMap (·.data.items)).filter fun item =>
    search.urnOf item = search.targetUrn).length = 1
  counted : ∀ observation ∈ result.pages,
    observation.data.total = (result.pages.flatMap (·.data.items)).length
  served : ∀ served : List Item, (∀ observation ∈ result.pages,
      observation.data.total = served.length ∧ observation.data.items =
        (served.drop observation.data.start).take observation.data.items.length) →
    result.pages.flatMap (·.data.items) = served
  proof : result.proof ∈ result.pages ∧
    ∃ item ∈ result.proof.data.items, search.urnOf item = search.targetUrn

theorem collectObservedPages_ok {paged : ObservedPages Item}
    {trace : List (Exchange ToolCall ToolReply)}
    (runs : Runs (collectObservedPages search) trace (.ok paged)) :
    (∃ total, Covers search 0 total paged.pages trace) ∧ paged.pages.length ≤ maxPages ∧
      paged.items = paged.pages.flatMap fun observation =>
        observation.data.items.map fun item => ⟨item, observation⟩ := by
  obtain ⟨outcome, collected, isResult⟩ := Runs.conclude_iff.mp runs
  cases outcome with
  | error failed => cases isResult
  | ok found =>
      obtain ⟨items, final⟩ := found
      cases isResult
      obtain ⟨pages, fetches, few, _, rfl⟩ := collectBoundedPages_ok.mp collected
      have start : ∀ total ∈ (none : Option ℕ), 0 ≤ total := by
        intro total isTotal
        cases isTotal
      obtain ⟨observations, total, covers, _, isFinal, count, all⟩ :=
        fetches_covers fetches start fun _ => rfl
      rw [List.nil_append] at isFinal
      refine ⟨⟨total, ?_⟩, ?_, ?_⟩
      · show Covers search 0 total final.pages trace
        rw [isFinal]
        exact covers
      · show final.pages.length ≤ maxPages
        rw [isFinal, count]
        exact few
      · show pages.flatMap Prod.snd = final.pages.flatMap _
        rw [isFinal, all]

theorem collectUnique_ok {result : PagedProof Item} {trace : List (Exchange ToolCall ToolReply)}
    (runs : Runs (collectUnique search) trace (.ok result)) : CompleteRead search result trace := by
  obtain ⟨outcome, collected, isResult⟩ := Runs.conclude_iff.mp runs
  obtain ⟨paged, rfl, resolved⟩ := bind_ok.mp isResult.symm
  obtain ⟨covers, few, items⟩ := collectObservedPages_ok collected
  simp only [resolve, requireUniqueResolution, bind_ok, present_ok, require_ok, reject_ok, pure_ok,
    exists_const] at resolved
  obtain ⟨_, _, ⟨_, single⟩, proof, isProof, rfl⟩ := resolved
  obtain ⟨found, isFound, rfl⟩ := Option.map_eq_some_iff.mp isProof
  have present := List.mem_of_head? isFound
  obtain ⟨present, named⟩ := List.mem_filter.mp present
  rw [items] at present
  obtain ⟨observation, isPage, isItem⟩ := List.mem_flatMap.mp present
  obtain ⟨item, within, rfl⟩ := List.mem_map.mp isItem
  have bare : paged.pages.flatMap (·.data.items) = paged.items.map (·.item) := by
    rw [items, List.map_flatMap]
    simp only [List.map_map, Function.comp_def, List.map_id']
  refine ⟨covers, few, ?_, ?_, ?_, isPage, item, within, of_decide_eq_true named⟩
  · rw [bare, List.filter_map, List.length_map]
    exact single
  · intro observation listed
    obtain ⟨total, covered⟩ := covers
    have counted := covered.contiguous.count
    rw [Nat.zero_add, List.flatMap_map] at counted
    rw [covered.agree observation listed, ← counted]
  · intro served each
    obtain ⟨total, covered⟩ := covers
    obtain rfl : served.length = total :=
      (each observation isPage).1.symm.trans (covered.agree observation isPage)
    have whole := covered.contiguous.served (by
      intro page listed
      obtain ⟨other, isOther, rfl⟩ := List.mem_map.mp listed
      exact (each other isOther).2)
    rw [List.flatMap_map, List.drop_zero] at whole
    exact whole

theorem collectUnique_bounded {result : Except Thrown (PagedProof Item)}
    {trace : List (Exchange ToolCall ToolReply)} (runs : Runs (collectUnique search) trace result) :
    trace.length ≤ maxPages := by
  obtain ⟨_, collected, _⟩ := Runs.conclude_iff.mp runs
  obtain ⟨_, fetched, _⟩ := Runs.conclude_iff.mp collected
  exact collectFrom_bounded (fun _ _ _ _ => fetchPage_once) fetched

end Results

section Paging

variable {Item : Type}

/-- A server answers a request for a page with a page or an error. -/
structure PageCall where
  offset : ℕ
  size : ℕ

abbrev PageReply (Item : Type) (_ : PageCall) : Type := Except Thrown (DataHubPage Item)

def askPage (Item : Type) : Fetcher PageCall (PageReply Item) Unit Item :=
  fun offset size state => .ask ⟨offset, size⟩ fun reply =>
    .done ((reply.map fun page => (page, state)).mapError fun error => (error, state))

/-- These pages were answered one after another, at later and later offsets. -/
inductive Answers : ℕ → List (ℕ × List Item) → List (Exchange PageCall (PageReply Item)) → Prop
  | last (offset : ℕ) (items : List Item) :
      Answers offset [(offset, items)] [⟨⟨offset, pageSize⟩, .ok ⟨some items, none⟩⟩]
  | more {offset following : ℕ} {items : List Item} {pages : List (ℕ × List Item)}
      {trace : List (Exchange PageCall (PageReply Item))} (filled : items ≠ [])
      (later : offset < following) (safe : following ≤ maxSafeInteger)
      (rest : Answers following pages trace) :
      Answers offset ((offset, items) :: pages)
        (⟨⟨offset, pageSize⟩, .ok ⟨some items, some (.integer following)⟩⟩ :: trace)

theorem askPage_cases {offset size : ℕ} {state next : Unit} {page : DataHubPage Item}
    {trace : List (Exchange PageCall (PageReply Item))}
    (runs : Runs (askPage Item offset size state) trace (.ok (page, next))) :
    trace = [⟨⟨offset, size⟩, .ok page⟩] := by
  cases runs with
  | ask reply rest =>
      obtain ⟨rfl, ended⟩ := rest.done_cases
      cases reply with
      | error error => cases ended
      | ok found =>
          cases ended
          rfl

theorem askPage_runs (offset size : ℕ) (page : DataHubPage Item) :
    Runs (askPage Item offset size ()) [⟨⟨offset, size⟩, .ok page⟩] (.ok (page, ())) :=
  .ask _ (.done _)

theorem fetches_answers {offset : ℕ} {pages : List (ℕ × List Item)} {state final : Unit}
    {trace : List (Exchange PageCall (PageReply Item))} :
    Fetches (askPage Item) offset state pages trace final ↔ Answers offset pages trace := by
  constructor
  · intro fetches
    induction fetches with
    | last fetched =>
        rw [askPage_cases fetched]
        exact .last _ _
    | more fetched filled later safe _ ih =>
        rw [askPage_cases fetched]
        exact .more filled later safe ih
  · intro answers
    induction answers with
    | last offset items => exact .last (askPage_runs offset pageSize _)
    | more filled later safe _ ih => exact .more (askPage_runs _ pageSize _) filled later safe ih

/-- The pages of a collection are the ones answered, and the two searches return nothing unless
their pages cover the total. -/
theorem bounded_paging (Item : Type) (targets : CanonicalCollectionTargets) :
    (∀ trace result, Runs (collectBoundedPages (askPage Item) ()) trace result →
      trace.length ≤ maxPages) ∧
    (∀ trace items, Runs (collectBoundedPages (askPage Item) ()) trace (.ok (items, ())) ↔
      ∃ pages, Answers 0 pages trace ∧ pages.length ≤ maxPages ∧
        (∀ page ∈ pages, page.2.length ≤ pageSize) ∧ items = pages.flatMap Prod.snd) ∧
    (∀ trace result, Runs (collectResolutionSearch targets) trace result →
      trace.length ≤ maxPages ∧
        ∀ found, result = .ok found → CompleteRead (resolutionSearch targets) found trace) ∧
    (∀ trace result, Runs (collectQueryDiscovery targets) trace result →
      trace.length ≤ maxPages ∧
        ∀ found, result = .ok found → CompleteRead (queryDiscovery targets) found trace) := by
  refine ⟨fun trace result runs => ?_, fun trace items => ?_, fun trace result runs => ?_,
    fun trace result runs => ?_⟩
  · have once : ∀ offset state trace result,
        Runs (askPage Item offset pageSize state) trace result → trace.length ≤ 1 := by
      intro offset state trace result asks
      cases asks with
      | ask reply rest =>
          rw [rest.done_cases.1]
          exact le_refl _
    exact collectFrom_bounded once runs
  · rw [collectBoundedPages_ok]
    exact exists_congr fun pages => and_congr_left fun _ => fetches_answers
  · refine ⟨collectUnique_bounded runs, fun found same => ?_⟩
    rw [same] at runs
    exact collectUnique_ok runs
  · refine ⟨collectUnique_bounded runs, fun found same => ?_⟩
    rw [same] at runs
    exact collectUnique_ok runs

/-- Each page starts where the page before it ends. -/
def NoGap : ℕ → List (ℕ × List Item) → Prop
  | _, [] => True
  | offset, page :: rest => page.1 = offset ∧ NoGap (offset + page.2.length) rest

/-- A server that goes from the first item to the sixth one is believed. -/
theorem skipped_offsets : ∃ trace,
    Runs (collectBoundedPages (askPage ℕ) ()) trace (.ok ([0, 5], ())) ∧
      ∃ pages, Answers 0 pages trace ∧ ¬ NoGap 0 pages := by
  have answers : Answers 0 [(0, [0]), (5, [5])]
      [⟨⟨0, pageSize⟩, .ok ⟨some [0], some (.integer (5 : ℕ))⟩⟩,
        ⟨⟨5, pageSize⟩, .ok ⟨some [5], none⟩⟩] :=
    .more (List.cons_ne_nil _ _) (by decide) (by decide) (.last 5 [5])
  refine ⟨_, collectBoundedPages_ok.mpr ⟨_, fetches_answers.mpr answers, by decide, ?_, rfl⟩, _,
    answers, ?_⟩
  · intro page listed
    rcases List.mem_pair.mp listed with rfl | rfl <;> decide
  · rintro ⟨_, gap, _⟩
    cases gap

end Paging

end LineageGuard.Datahub
