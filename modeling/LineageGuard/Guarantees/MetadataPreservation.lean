import LineageGuard.Guarantees.DecisionWriteback
import Mathlib.Tactic

/-
This file proves when a write-back keeps the tags and the elements of others.
-/

namespace LineageGuard.Agent.WritebackPort

open Json Dialogue Domain Attempt

section Observations

variable {Number : Type} [Zero Number] [DecidableEq Number]
variable (parse : String → Option (JsonValue Number))

def arrayOf : JsonValue Number → Option (List (JsonValue Number))
  | .array items => some items
  | _ => none

/-- An envelope shows the list of its aspect, and one without a value shows that it is missing. -/
def aspectList (key : String) (body : JsonValue Number) : Option (List (JsonValue Number)) :=
  match extractAspectValue body with
  | .error _ => none
  | .ok .null => some []
  | .ok value => do
      let data ← (existingData parse value).toOption
      (partOf key data).bind arrayOf

/-- Only an answer of the service and the status of a missing aspect show its items. -/
def observed (key : String) : Fetched Number → Option (List (JsonValue Number))
  | .answered body => aspectList parse key body
  | .refused status => if status = 404 then some [] else none
  | _ => none

/-- The service may hold these items when it gives this answer. -/
def MayHold (key : String) (fetched : Fetched Number) (items : List (JsonValue Number)) : Prop :=
  ∀ shown, observed parse key fetched = some shown → items = shown

/-- The latest read of an aspect stands at the end of what came before. -/
def latestRead (aspect : AspectName) (before : History Number) : Option (Fetched Number) :=
  (before.filterMap (readOf aspect)).getLast?

/-- A proposal keeps every item of others that the service may hold at the latest read. -/
def Keeps (before : History Number) : Exchange (Request Number) (Response Number) → Prop
  | ⟨.ingestProposal _ _ .globalTags value, _⟩ =>
      ∀ fetched items, latestRead .globalTags before = some fetched →
        MayHold parse "tags" fetched items →
        ∀ entry ∈ items, unrelated entry = .ok true → entry ∈ proposedItems "tags" value
  | ⟨.ingestProposal _ _ .institutionalMemory value, _⟩ =>
      ∀ fetched items, latestRead .institutionalMemory before = some fetched →
        MayHold parse "elements" fetched items →
        ∀ element ∈ items, otherElement element = .ok true →
          element ∈ proposedItems "elements" value
  | _ => True

/-- The latest read of an aspect has not failed. -/
def ReadWell (aspect : AspectName) (key : String) (before : History Number) : Prop :=
  ∃ fetched, latestRead aspect before = some fetched ∧ (observed parse key fetched).isSome = true

/-- A proposal follows two reads that have not failed, and it keeps the items of others. -/
def Preserves (history : History Number) : Prop :=
  ∀ before exchange after, history = before ++ exchange :: after → isProposal exchange = true →
    ReadWell parse .globalTags "tags" before ∧
      ReadWell parse .institutionalMemory "elements" before ∧ Keeps parse before exchange

end Observations

section States

variable {Number : Type} [Zero Number] [DecidableEq Number]
variable (parse : String → Option (JsonValue Number)) (script : Script)

def readItems (key : String) (fetched : Fetched Number) :
    Except Failure (List (JsonValue Number)) := do
  let body ← present fetched.body .script
  existingItems parse key body

/-- These are the tags and the elements that the port takes from two answers. -/
def existingState (tags memory : Fetched Number) : Except Failure (ExistingState Number) := do
  let tagItems ← readItems parse "tags" tags
  let kept ← filterItems unrelated tagItems
  let elements ← readItems parse "elements" memory
  return ⟨tagItems, kept ++ lgTags.map tagEntry, elements⟩

/-- The port goes on to its proposals after these answers. -/
def Proceeds (input : WritebackInput) (tags memory : Fetched Number) : Prop :=
  ∃ document marker existing, documentContent script input = .ok document ∧
    decisionMarkerOf script input = .ok marker ∧
    existingState parse tags memory = .ok existing ∧
    isCurrent marker document existing = .ok false

/-- The port only goes on after two answers that tell the aspects. -/
def Guarded (input : WritebackInput) (history : History Number) : Prop :=
  ∀ tags memory, firstRead .globalTags history = some tags →
    firstRead .institutionalMemory history = some memory →
    Proceeds parse script input tags memory →
      (observed parse "tags" tags).isSome = true ∧
        (observed parse "elements" memory).isSome = true

end States

section Runs

variable {Number : Type} [Zero Number] [DecidableEq Number]
variable {parse : String → Option (JsonValue Number)} {script : Script} {gms : Gms}
variable {input : WritebackInput} {history : History Number}

/-- A settled outcome asks nothing. -/
theorem settle_cases {Value Result : Type} {outcome : Except Failure Value}
    {next : Value → Requests Number Result} {result : Except Failure Result}
    (runs : Runs (settle outcome >>= next) history result) :
    (∃ failure, outcome = .error failure ∧ history = [] ∧ result = .error failure) ∨
      ∃ value, outcome = .ok value ∧ Runs (next value) history result := by
  cases outcome with
  | ok value => exact .inr ⟨value, rfl, runs⟩
  | error failure =>
      have ended : Runs (.done (.error failure) : Requests Number Result) history result := runs
      obtain ⟨empty, same⟩ := ended.done_cases
      exact .inl ⟨failure, rfl, empty, same⟩

theorem gmsRead_cases {aspect : AspectName} {result : Except Failure (JsonValue Number)}
    (runs : Runs (gmsRead gms aspect) history result) :
    ∃ fetched, history = [readExchange gms aspect fetched] ∧
      result.toOption = fetched.body := by
  obtain ⟨fetched, rest, rfl, ended⟩ := Runs.perform_cases runs
  refine ⟨fetched, ?_⟩
  cases fetched with
  | _ =>
      obtain ⟨rfl, rfl⟩ := ended.done_cases
      exact ⟨rfl, rfl⟩

/-- The reads end with the state that both answers give. -/
theorem readExisting_cases {result : Except Failure (ExistingState Number)}
    (runs : Runs (readExisting gms parse) history result) :
    (∃ tags failure, history = [readExchange gms .globalTags tags] ∧ result = .error failure) ∨
      ∃ tags memory, history = idleHistory gms tags memory ∧
        result.toOption = (existingState parse tags memory).toOption := by
  rcases runs.bind_cases with ⟨failure, read, rfl⟩ | ⟨before, after, tagsBody, rfl, read, rest⟩
  · obtain ⟨tags, rfl, _⟩ := gmsRead_cases read
    exact .inl ⟨tags, failure, rfl, rfl⟩
  obtain ⟨tags, rfl, tagsRead⟩ := gmsRead_cases read
  have tagsBody_eq : tags.body = some tagsBody := tagsRead.symm
  refine .inr ⟨tags, ?_⟩
  rcases rest.bind_cases with ⟨failure, read, rfl⟩ | ⟨before, after, body, rfl, read, settles⟩
  · obtain ⟨memory, rfl, memoryRead⟩ := gmsRead_cases read
    have unread : memory.body = none := memoryRead.symm
    refine ⟨memory, rfl, ?_⟩
    rw [existingState, readItems, readItems, tagsBody_eq, unread]
    change none = (existingItems parse "tags" tagsBody >>= _).toOption
    cases existingItems parse "tags" tagsBody with
    | error failure => rfl
    | ok items =>
        change none = (filterItems unrelated items >>= _).toOption
        cases filterItems unrelated items <;> rfl
  · obtain ⟨memory, rfl, memoryRead⟩ := gmsRead_cases read
    have body_eq : memory.body = some body := memoryRead.symm
    refine ⟨memory, ?_⟩
    rw [existingState, readItems, readItems, tagsBody_eq, body_eq]
    change _ ∧ _ = (existingItems parse "tags" tagsBody >>= _).toOption
    rcases settle_cases settles with ⟨failure, refused, rfl, rfl⟩ | ⟨items, found, filters⟩
    · rw [refused]
      exact ⟨rfl, rfl⟩
    rw [found]
    change _ ∧ _ = (filterItems unrelated items >>= _).toOption
    rcases settle_cases filters with ⟨failure, refused, rfl, rfl⟩ | ⟨kept, filtered, takes⟩
    · rw [refused]
      exact ⟨rfl, rfl⟩
    rw [filtered]
    change _ ∧ _ = (existingItems parse "elements" body >>= _).toOption
    rcases settle_cases takes with ⟨failure, refused, rfl, rfl⟩ | ⟨elements, found, ends⟩
    · rw [refused]
      exact ⟨rfl, rfl⟩
    rw [found]
    obtain ⟨rfl, rfl⟩ := ends.done_cases
    exact ⟨rfl, rfl⟩

/-- These calls propose what the state gives. -/
def Offers (gms : Gms) (input : WritebackInput) (document : String)
    (existing : ExistingState Number) (call : Request Number) : Prop :=
  call = .ingestProposal gms.gmsUrl gms.mutationToken .globalTags
      (.object [("tags", .array existing.mergedTags)]) ∨
    ∃ preserved time, filterItems otherElement existing.elements = .ok preserved ∧
      call = .ingestProposal gms.gmsUrl gms.mutationToken .institutionalMemory
        (.object [("elements", .array (preserved ++ [newElement input document time]))])

/-- A call that stands between the reads is the clock or a proposal from the state. -/
def Writes (gms : Gms) (input : WritebackInput) (document : String)
    (existing : ExistingState Number) (call : Request Number) : Prop :=
  call = .now ∨ Offers gms input document existing call

variable {document : String} {existing : ExistingState Number}

theorem ingest_cases {aspect : AspectName} {value : JsonValue Number} {failed : String}
    {result : Except Failure Unit} (runs : Runs (ingest gms aspect value failed) history result) :
    ∃ fetched, history = [proposal gms aspect value fetched] := by
  obtain ⟨fetched, rest, rfl, ended⟩ := Runs.perform_cases runs
  refine ⟨fetched, ?_⟩
  cases fetched with
  | _ =>
      rw [ended.done_cases.1]
      rfl

theorem writeDocument_writes :
    Avoids (fun exchange => ¬ Writes gms input document existing exchange.call)
      (writeDocument gms input document existing) := by
  refine Avoids.perform (fun reply stray => stray (.inl rfl)) fun time => ?_
  cases filtered : filterItems otherElement existing.elements with
  | error failure => exact Avoids.done _
  | ok preserved =>
      have offered : Offers gms input document existing (.ingestProposal gms.gmsUrl
          gms.mutationToken .institutionalMemory
          (.object [("elements", .array (preserved ++ [newElement input document time]))])) :=
        .inr ⟨preserved, time, filtered, rfl⟩
      refine Avoids.perform (fun reply stray => stray (.inr offered)) fun reply => ?_
      cases reply <;> exact Avoids.done _

theorem gmsRead_proposes (aspect : AspectName) :
    Avoids (fun exchange => isProposal exchange = true)
      (gmsRead gms aspect : Requests Number (JsonValue Number)) := by
  refine Avoids.perform (fun reply proposes => absurd proposes Bool.false_ne_true) fun reply => ?_
  cases reply <;> exact Avoids.done _

theorem verifyReadBack_proposes (marker : String) :
    Avoids (fun exchange => isProposal exchange = true)
      (verifyReadBack gms parse marker existing) := by
  refine Avoids.bind (gmsRead_proposes _) fun _ => ?_
  refine Avoids.bind (Avoids.done _) fun _ => ?_
  refine Avoids.bind (Avoids.done _) fun _ => ?_
  refine Avoids.bind (Avoids.done _) fun _ => ?_
  refine Avoids.bind (gmsRead_proposes _) fun _ => ?_
  refine Avoids.bind (Avoids.done _) fun _ => ?_
  refine Avoids.bind (Avoids.done _) fun _ => ?_
  refine Avoids.bind (Avoids.done _) fun _ => ?_
  refine Avoids.bind (Avoids.done _) fun _ => ?_
  exact Avoids.bind (Avoids.done _) fun _ => Avoids.done _

/-- The tags are proposed first, and nothing is proposed behind the checks. -/
structure Proposes (gms : Gms) (input : WritebackInput) (document : String)
    (existing : ExistingState Number) (writes checks : History Number) : Prop where
  first : ∃ fetched rest, writes = proposal gms .globalTags
    (.object [("tags", .array existing.mergedTags)]) fetched :: rest
  offered : ∀ exchange ∈ writes, Writes gms input document existing exchange.call
  checked : ∀ exchange ∈ checks, isProposal exchange = false

theorem proposes_cases {marker : String} {output : WritebackOutput}
    {result : Except Failure WritebackOutput}
    (runs : Runs (writeTags gms existing >>= fun _ => writeDocument gms input document existing >>=
      fun _ => verifyReadBack gms parse marker existing >>= fun _ => pure output) history result) :
    ∃ writes checks, history = writes ++ checks ∧
      Proposes gms input document existing writes checks := by
  have tagged : ∀ fetched, Writes gms input document existing (proposal gms .globalTags
      (.object [("tags", .array existing.mergedTags)]) fetched).call :=
    fun _ => .inr (.inl rfl)
  rcases runs.bind_cases with ⟨failure, writes, _⟩ | ⟨before, after, done, rfl, writes, rest⟩
  · obtain ⟨fetched, rfl⟩ := ingest_cases writes
    refine ⟨_, [], (List.append_nil _).symm, ⟨fetched, [], rfl⟩, ?_, ?_⟩
    · intro exchange present
      rw [List.mem_singleton.mp present]
      exact tagged fetched
    · exact fun exchange present => absurd present List.not_mem_nil
  obtain ⟨fetched, rfl⟩ := ingest_cases writes
  rcases rest.bind_cases with ⟨failure, writes, _⟩ | ⟨before, checks, done, rfl, writes, verifies⟩
  · refine ⟨_, [], (List.append_nil _).symm, ⟨fetched, after, rfl⟩, ?_, ?_⟩
    · intro exchange present
      rcases List.mem_cons.mp present with rfl | later
      · exact tagged fetched
      · exact not_not.mp (writeDocument_writes _ _ writes exchange later)
    · exact fun exchange present => absurd present List.not_mem_nil
  · refine ⟨_, checks, (List.append_assoc _ before checks).symm, ⟨fetched, before, rfl⟩, ?_, ?_⟩
    · intro exchange present
      rcases List.mem_cons.mp present with rfl | later
      · exact tagged fetched
      · exact not_not.mp (writeDocument_writes _ _ writes exchange later)
    · intro exchange present
      have avoided := ((verifyReadBack_proposes marker).bind fun _ => Avoids.done _) _ _ verifies
        exchange present
      exact Bool.not_eq_true _ ▸ avoided

/-- The state lets the port go on to its proposals. -/
def GoesOn (parse : String → Option (JsonValue Number)) (script : Script) (input : WritebackInput)
    (document : String) (tags memory : Fetched Number) (existing : ExistingState Number) : Prop :=
  existingState parse tags memory = .ok existing ∧
    ∃ marker, decisionMarkerOf script input = .ok marker ∧
      isCurrent marker document existing = .ok false

/-- An attempt stops after its reads, or it goes on to proposals that are made from the state. -/
theorem attempt_cases {result : Except Failure WritebackOutput}
    (runs : Runs (attempt gms parse script input document) history result) :
    (∃ tags, history = [readExchange gms .globalTags tags]) ∨
      (∃ tags memory, history = idleHistory gms tags memory ∧
        ∀ existing, ¬ GoesOn parse script input document tags memory existing) ∨
      ∃ tags memory existing writes checks,
        GoesOn parse script input document tags memory existing ∧
        history = idleHistory gms tags memory ++ (writes ++ checks) ∧
        Proposes gms input document existing writes checks := by
  rcases runs.bind_cases with ⟨failure, reads, rfl⟩ | ⟨before, after, existing, rfl, reads, goes⟩
  · rcases readExisting_cases reads with ⟨tags, _, rfl, _⟩ | ⟨tags, memory, rfl, outcome⟩
    · exact .inl ⟨tags, rfl⟩
    · refine .inr (.inl ⟨tags, memory, rfl, fun existing goesOn => ?_⟩)
      rw [goesOn.1] at outcome
      cases outcome
  rcases readExisting_cases reads with ⟨tags, _, rfl, raised⟩ | ⟨tags, memory, rfl, outcome⟩
  · cases raised
  have found : existingState parse tags memory = .ok existing := by
    cases known : existingState parse tags memory with
    | error failure =>
        rw [known] at outcome
        cases outcome
    | ok other =>
        rw [known] at outcome
        cases outcome
        rfl
  have only : ∀ other, GoesOn parse script input document tags memory other →
      other = existing := by
    intro other goesOn
    exact Except.ok.inj (goesOn.1.symm.trans found)
  rcases settle_cases goes with ⟨failure, refused, rfl, rfl⟩ | ⟨marker, named, compares⟩
  · refine .inr (.inl ⟨tags, memory, List.append_nil _, fun other goesOn => ?_⟩)
    obtain ⟨marker, isMarker, _⟩ := goesOn.2
    rw [isMarker] at refused
    cases refused
  have isMarker := mapError_ok.mp named
  rcases settle_cases compares with ⟨failure, refused, rfl, rfl⟩ | ⟨current, compared, decides⟩
  · refine .inr (.inl ⟨tags, memory, List.append_nil _, fun other goesOn => ?_⟩)
    obtain ⟨_, again, stale⟩ := goesOn.2
    rw [only other goesOn, ← Except.ok.inj (isMarker.symm.trans again), refused] at stale
    cases stale
  cases current with
  | true =>
      have ended : Runs (.done (.ok _) : Requests Number WritebackOutput) after result := decides
      rw [ended.done_cases.1]
      refine .inr (.inl ⟨tags, memory, List.append_nil _, fun other goesOn => ?_⟩)
      obtain ⟨_, again, stale⟩ := goesOn.2
      rw [only other goesOn, ← Except.ok.inj (isMarker.symm.trans again), compared] at stale
      cases stale
  | false =>
      obtain ⟨writes, checks, rfl, proposes⟩ := proposes_cases decides
      exact .inr (.inr ⟨tags, memory, existing, writes, checks, ⟨found, marker, isMarker, compared⟩,
        rfl, proposes⟩)

theorem arrayOf_items {key : String} {data : JsonValue Number} {shown : List (JsonValue Number)}
    (found : (partOf key data).bind arrayOf = some shown) :
    (property key data >>= itemsOf) = .ok shown := by
  rw [partOf] at found
  cases read : property key data with
  | error failure =>
      rw [read] at found
      cases found
  | ok part =>
      rw [read] at found
      cases part with
      | none => cases found
      | some value =>
          cases value with
          | array items =>
              obtain rfl := Option.some.inj found
              rfl
          | _ => cases found

theorem listed_items {key : String} {value : JsonValue Number} {shown : List (JsonValue Number)}
    (listed : ((existingData parse value).toOption.bind fun data =>
      (partOf key data).bind arrayOf) = some shown) :
    (existingData parse value >>= fun data => property key data >>= itemsOf) = .ok shown := by
  cases parsed : existingData parse value with
  | error failure =>
      rw [parsed] at listed
      cases listed
  | ok data =>
      rw [parsed] at listed
      exact arrayOf_items listed

/-- The items that an answer shows are those that the port takes from it. -/
theorem observed_taken {key : String} {fetched : Fetched Number}
    {shown : List (JsonValue Number)} (found : observed parse key fetched = some shown) :
    readItems parse key fetched = .ok shown := by
  cases fetched with
  | rejected message => cases found
  | unreadable message => cases found
  | refused status =>
      rw [observed, Option.ite_none_right_eq_some] at found
      obtain rfl := Option.some.inj found.2
      rfl
  | answered body =>
      have listed : aspectList parse key body = some shown := found
      change existingItems parse key body = .ok shown
      rw [existingItems]
      rw [aspectList] at listed
      cases extracted : extractAspectValue body with
      | error failure =>
          rw [extracted] at listed
          cases listed
      | ok value =>
          rw [extracted] at listed
          cases value with
          | null =>
              obtain rfl := Option.some.inj listed
              rfl
          | _ => exact listed_items listed

/-- The state of two answers has the items that they show. -/
theorem existingState_shown {tags memory : Fetched Number} {existing : ExistingState Number}
    (found : existingState parse tags memory = .ok existing)
    {shownTags shownElements : List (JsonValue Number)}
    (tagsShown : observed parse "tags" tags = some shownTags)
    (elementsShown : observed parse "elements" memory = some shownElements) :
    existing.elements = shownElements ∧ ∃ kept, filterItems unrelated shownTags = .ok kept ∧
      existing.mergedTags = kept ++ lgTags.map tagEntry := by
  rw [existingState, observed_taken tagsShown, observed_taken elementsShown] at found
  obtain ⟨tagItems, sameTags, filters⟩ := bind_ok.mp found
  obtain rfl := Except.ok.inj sameTags
  obtain ⟨kept, filtered, takes⟩ := bind_ok.mp filters
  obtain ⟨elements, sameElements, same⟩ := bind_ok.mp takes
  obtain rfl := Except.ok.inj sameElements
  obtain rfl := pure_ok.mp same
  exact ⟨rfl, kept, filtered, rfl⟩

/-- What stands in the middle alone splits the middle. -/
theorem split_middle {Item : Type} {special : Item → Bool}
    {start middle last before after : List Item} {item : Item}
    (split : start ++ (middle ++ last) = before ++ item :: after)
    (isSpecial : special item = true) (plainStart : ∀ other ∈ start, special other = false)
    (plainLast : ∀ other ∈ last, special other = false) :
    ∃ earlier, before = start ++ earlier ∧ earlier <+: middle ∧ item ∈ middle := by
  have outside : ∀ others : List Item, (∀ other ∈ others, special other = false) →
      item ∉ others := by
    intro others plain present
    rw [plain item present] at isSpecial
    cases isSpecial
  rcases List.append_eq_append_iff.mp split with ⟨earlier, rfl, rest⟩ | ⟨left, starts, rest⟩
  · rcases List.append_eq_append_iff.mp rest with ⟨left, rfl, lasts⟩ | ⟨left, rfl, others⟩
    · exact absurd (lasts ▸ List.mem_append_right left List.mem_cons_self)
        (outside last plainLast)
    · cases left with
      | nil =>
          have same : item :: after = last := others
          exact absurd (same ▸ List.mem_cons_self) (outside last plainLast)
      | cons first left =>
          obtain ⟨rfl, _⟩ := List.cons.inj others
          exact ⟨earlier, rfl, List.prefix_append _ _, List.mem_append_right _ List.mem_cons_self⟩
  · cases left with
    | nil =>
        rw [List.append_nil] at starts
        subst starts
        cases middle with
        | nil =>
            have same : item :: after = last := rest
            exact absurd (same ▸ List.mem_cons_self) (outside last plainLast)
        | cons first middle =>
            obtain ⟨rfl, _⟩ := List.cons.inj rest
            exact ⟨[], (List.append_nil _).symm, List.nil_prefix, List.mem_cons_self⟩
    | cons first left =>
        obtain ⟨rfl, _⟩ := List.cons.inj rest
        exact absurd (starts ▸ List.mem_append_right before List.mem_cons_self)
          (outside start plainStart)

theorem latestRead_idle {tags memory : Fetched Number} {earlier : History Number}
    (writes : ∀ exchange ∈ earlier, Writes gms input document existing exchange.call) :
    latestRead .globalTags (idleHistory gms tags memory ++ earlier) = some tags ∧
      latestRead .institutionalMemory (idleHistory gms tags memory ++ earlier) = some memory := by
  have unread : ∀ aspect, earlier.filterMap (readOf aspect) = [] := by
    intro aspect
    rw [List.filterMap_eq_nil_iff]
    intro exchange present
    obtain ⟨call, reply⟩ := exchange
    rcases writes _ present with same | same | ⟨preserved, time, _, same⟩
    · change call = _ at same
      subst same
      rfl
    · change call = _ at same
      subst same
      rfl
    · change call = _ at same
      subst same
      rfl
  constructor
  · rw [latestRead, List.filterMap_append, unread, List.append_nil]
    rfl
  · rw [latestRead, List.filterMap_append, unread, List.append_nil]
    rfl

theorem idle_plain {tags memory : Fetched Number} :
    ∀ exchange ∈ idleHistory gms tags memory, isProposal exchange = false := by
  intro exchange present
  rw [idleHistory, List.mem_pair] at present
  rcases present with rfl | rfl
  · rfl
  · rfl

/-- An offered proposal keeps the items that two answers show. -/
theorem offers_keeps {tags memory : Fetched Number} {before : History Number}
    {exchange : Exchange (Request Number) (Response Number)}
    (found : existingState parse tags memory = .ok existing)
    (tagsRead : latestRead .globalTags before = some tags)
    (memoryRead : latestRead .institutionalMemory before = some memory)
    {shownTags shownElements : List (JsonValue Number)}
    (tagsShown : observed parse "tags" tags = some shownTags)
    (elementsShown : observed parse "elements" memory = some shownElements)
    (offers : Offers gms input document existing exchange.call) : Keeps parse before exchange := by
  obtain ⟨sameElements, kept, filtered, merged⟩ :=
    existingState_shown found tagsShown elementsShown
  obtain ⟨call, reply⟩ := exchange
  rcases offers with same | ⟨preserved, time, preserves, same⟩
  · change call = _ at same
    subst same
    intro fetched items isLatest holds entry present other
    obtain rfl := Option.some.inj (tagsRead.symm.trans isLatest)
    rw [holds shownTags tagsShown] at present
    rw [proposedItems_array, merged]
    rcases (filterItems_ok filtered).1 entry present with refused | ⟨isKept, _⟩
    · rw [refused] at other
      cases other
    · exact List.mem_append_left _ isKept
  · change call = _ at same
    subst same
    intro fetched items isLatest holds element present other
    obtain rfl := Option.some.inj (memoryRead.symm.trans isLatest)
    rw [holds shownElements elementsShown, ← sameElements] at present
    rw [proposedItems_array]
    rcases (filterItems_ok preserves).1 element present with refused | ⟨isKept, _⟩
    · rw [refused] at other
      cases other
    · exact List.mem_append_left _ isKept

/-- Proposals from two answers that show their items keep the items of others. -/
theorem proposes_preserves {tags memory : Fetched Number} {writes checks : History Number}
    (found : existingState parse tags memory = .ok existing)
    (tagsShown : (observed parse "tags" tags).isSome = true)
    (elementsShown : (observed parse "elements" memory).isSome = true)
    (proposes : Proposes gms input document existing writes checks) :
    Preserves parse (idleHistory gms tags memory ++ (writes ++ checks)) := by
  intro before exchange after split isOne
  obtain ⟨earlier, rfl, early, among⟩ :=
    split_middle split isOne idle_plain proposes.checked
  obtain ⟨tagsRead, memoryRead⟩ := @latestRead_idle _ _ _ gms input document existing tags memory
    earlier fun other present => proposes.offered other (early.subset present)
  refine ⟨⟨tags, tagsRead, tagsShown⟩, ⟨memory, memoryRead, elementsShown⟩, ?_⟩
  obtain ⟨shownTags, tagsShown⟩ := Option.isSome_iff_exists.mp tagsShown
  obtain ⟨shownElements, elementsShown⟩ := Option.isSome_iff_exists.mp elementsShown
  rcases proposes.offered exchange among with clock | offers
  · obtain ⟨call, reply⟩ := exchange
    change call = _ at clock
    subst clock
    cases isOne
  · exact offers_keeps found tagsRead memoryRead tagsShown elementsShown offers

theorem preserves_plain (plain : ∀ exchange ∈ history, isProposal exchange = false) :
    Preserves parse history := by
  intro before exchange after split isOne
  rw [plain exchange (split ▸ List.mem_append_right _ List.mem_cons_self)] at isOne
  cases isOne

theorem goesOn_proceeds {tags memory : Fetched Number}
    (content : documentContent script input = .ok document) :
    Proceeds parse script input tags memory ↔
      ∃ existing, GoesOn parse script input document tags memory existing := by
  constructor
  · rintro ⟨other, marker, existing, again, isMarker, found, stale⟩
    obtain rfl : document = other := Except.ok.inj (content.symm.trans again)
    exact ⟨existing, found, marker, isMarker, stale⟩
  · rintro ⟨existing, found, marker, isMarker, stale⟩
    exact ⟨document, marker, existing, content, isMarker, found, stale⟩

/-- An attempt keeps the items of others exactly when it is guarded. -/
theorem attempt_preserves_iff {result : Except Failure WritebackOutput}
    (content : documentContent script input = .ok document)
    (runs : Runs (attempt gms parse script input document) history result) :
    Preserves parse history ↔ Guarded parse script input history := by
  rcases attempt_cases runs with ⟨tags, rfl⟩ | ⟨tags, memory, rfl, stops⟩ |
    ⟨tags, memory, existing, writes, checks, goesOn, rfl, proposes⟩
  · have plain : ∀ exchange ∈ [readExchange gms .globalTags tags],
        isProposal exchange = false := by
      intro exchange present
      rw [List.mem_singleton.mp present]
      rfl
    refine iff_of_true (preserves_plain plain) ?_
    intro _ memory _ unread
    cases unread
  · refine iff_of_true (preserves_plain idle_plain) ?_
    intro tagsFound memoryFound isTags isMemory proceeds
    obtain rfl := Option.some.inj isTags
    obtain rfl := Option.some.inj isMemory
    obtain ⟨existing, goesOn⟩ := (goesOn_proceeds content).mp proceeds
    exact absurd goesOn (stops existing)
  · constructor
    · intro preserves tagsFound memoryFound isTags isMemory _
      obtain rfl := Option.some.inj isTags
      obtain rfl := Option.some.inj isMemory
      obtain ⟨fetched, rest, rfl⟩ := proposes.first
      obtain ⟨⟨tagsAgain, tagsLatest, tagsShown⟩, ⟨memoryAgain, memoryLatest, memoryShown⟩, _⟩ :=
        preserves (idleHistory gms tags memory) _ (rest ++ checks) rfl rfl
      obtain rfl := Option.some.inj tagsLatest
      obtain rfl := Option.some.inj memoryLatest
      exact ⟨tagsShown, memoryShown⟩
    · intro guarded
      obtain ⟨tagsShown, memoryShown⟩ := guarded tags memory rfl rfl
        ((goesOn_proceeds content).mpr ⟨existing, goesOn⟩)
      exact proposes_preserves goesOn.1 tagsShown memoryShown proposes

variable {environment : Environment} {port : WritebackInput → Requests Number WritebackOutput}

theorem guarded_nil : Guarded parse script input [] := by
  intro tags memory unread
  cases unread

/-- The port keeps the tags and the elements of others exactly when it only goes on to its
proposals after two reads that have not failed. -/
theorem metadata_preserved_iff
    (configured : createWritebackPort parse script environment = some port)
    {result : Except Failure WritebackOutput} (runs : Runs (port input) history result) :
    Preserves parse history ↔ Guarded parse script input history := by
  unfold createWritebackPort at configured
  dsimp only at configured
  split_ifs at configured
  obtain rfl := Option.some_inj.mp configured
  have untouched : Preserves parse ([] : History Number) ↔ Guarded parse script input [] :=
    iff_of_true (preserves_plain fun exchange present => absurd present List.not_mem_nil)
      guarded_nil
  rcases settle_cases runs with ⟨_, _, rfl, _⟩ | ⟨gms, _, writes⟩
  · exact untouched
  rcases settle_cases writes with ⟨_, _, rfl, _⟩ | ⟨document, content, concludes⟩
  · exact untouched
  obtain ⟨outcome, attempts, _⟩ := Runs.conclude_iff.mp concludes
  exact attempt_preserves_iff (mapError_ok.mp content) attempts

end Runs

section Samples

/-- The read of the tags fails and the proposal of the tags does not arrive. -/
def failedHistory : History ℤ :=
  idleHistory sampleGms (.refused 500) (.refused 404) ++
    [proposal sampleGms .globalTags (.object [("tags", .array (lgTags.map tagEntry))])
      (.rejected "lost")]

theorem gmsRead_refused (aspect : AspectName) (status : ℕ) :
    Runs (gmsRead sampleGms aspect : Requests ℤ (JsonValue ℤ))
      [readExchange sampleGms aspect (.refused status)] (.ok .null) :=
  .ask _ (.done _)

theorem refused_existing : Runs (readExisting sampleGms sampleParse)
    (idleHistory sampleGms (.refused 500) (.refused 404))
    (.ok ⟨[], lgTags.map tagEntry, []⟩) := by
  refine (gmsRead_refused .globalTags 500).bind_ok ?_
  refine (gmsRead_refused .institutionalMemory 404).bind_ok ?_
  have missing : ∀ key, existingItems sampleParse key (.null : JsonValue ℤ) = .ok [] :=
    fun key => rfl
  refine settle_continues (missing "tags") ?_
  have nothing : filterItems unrelated ([] : List (JsonValue ℤ)) = .ok [] := rfl
  refine settle_continues nothing ?_
  exact settle_continues (missing "elements") (.done _)

theorem failed_runs : Runs (samplePort sampleInput) failedHistory
    (.error (.thrown "DataHub writeback failed: lost")) := by
  have stale : isCurrent sampleMarker sampleDocument
      (⟨[], lgTags.map tagEntry, []⟩ : ExistingState ℤ) = .ok false := rfl
  have lost : Runs (writeTags sampleGms (⟨[], lgTags.map tagEntry, []⟩ : ExistingState ℤ))
      [proposal sampleGms .globalTags (.object [("tags", .array (lgTags.map tagEntry))])
        (.rejected "lost")] (.error (.thrown "lost")) := .ask _ (.done _)
  have attempted : Runs (attempt sampleGms sampleParse sampleScript sampleInput sampleDocument)
      failedHistory (.error (.thrown "lost")) := by
    refine refused_existing.bind_ok (settle_continues (mapError_ok.mpr sampleMarker_named) ?_)
    exact settle_continues stale lost.bind_error
  have named : writebackFailed (.thrown "lost") =
      .thrown "DataHub writeback failed: lost" := by
    simp [writebackFailed]
  refine settle_continues sampleGms_credentials ?_
  refine settle_continues (mapError_ok.mpr sampleDocument_content) ?_
  exact Runs.conclude_iff.mpr ⟨_, attempted, congrArg Except.error named.symm⟩

theorem metadata_preserved_iff_failed :
    Preserves sampleParse failedHistory ↔
      Guarded sampleParse sampleScript sampleInput failedHistory :=
  metadata_preserved_iff samplePort_configured failed_runs

theorem otherTag_unrelated :
    unrelated (tagEntry "urn:li:tag:other" : JsonValue ℤ) = .ok true := by
  simp [unrelated, tagIn, tagEntry, property, lgTags, isText, reviewedTag, criticalTag,
    productionTag, bind, Except.bind, pure, Except.pure]

/-- The port proposes tags after a failed read, and a tag of others that the service may hold is
not among them. -/
theorem failed_read_overwrites :
    createWritebackPort sampleParse sampleScript sampleEnvironment = some samplePort ∧
      Runs (samplePort sampleInput) failedHistory
        (.error (.thrown "DataHub writeback failed: lost")) ∧
      ¬ Preserves sampleParse failedHistory ∧
      ¬ Keeps sampleParse (idleHistory sampleGms (.refused 500) (.refused 404))
        (proposal sampleGms .globalTags (.object [("tags", .array (lgTags.map tagEntry))])
          (.rejected "lost")) := by
  refine ⟨samplePort_configured, failed_runs, fun preserves => ?_, fun keeps => ?_⟩
  · obtain ⟨⟨tags, tagsLatest, shown⟩, _⟩ :=
      preserves (idleHistory sampleGms (.refused 500) (.refused 404)) _ [] rfl rfl
    obtain rfl := Option.some.inj tagsLatest
    cases shown
  · have unknown : MayHold sampleParse "tags" (.refused 500) [tagEntry "urn:li:tag:other"] := by
      intro shown found
      cases found
    have kept := keeps (.refused 500) [tagEntry "urn:li:tag:other"] rfl unknown
      (tagEntry "urn:li:tag:other") List.mem_cons_self otherTag_unrelated
    rw [proposedItems_array] at kept
    simp [lgTags, tagEntry, reviewedTag, criticalTag, productionTag] at kept

end Samples

end LineageGuard.Agent.WritebackPort
