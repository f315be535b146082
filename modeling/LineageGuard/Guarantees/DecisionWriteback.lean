import LineageGuard.Agent.WritebackPort
import Mathlib.Data.List.DropRight
import Mathlib.Tactic

/-
This file proves when a successful write-back leaves the decision and the tags as intended.
-/

namespace LineageGuard.Agent.WritebackPort

open Json Dialogue Domain Attempt

section Readings

variable {Number : Type}

/-- A refused read counts as a missing aspect. -/
def Fetched.body : Fetched Number → Option (JsonValue Number)
  | .refused _ => some .null
  | .answered body => some body
  | _ => none

def readOf (aspect : AspectName) :
    Exchange (Request Number) (Response Number) → Option (Fetched Number)
  | ⟨.read _ _ found, reply⟩ => if found = aspect then some reply else none
  | _ => none

def isProposal : Exchange (Request Number) (Response Number) → Bool
  | ⟨.ingestProposal _ _ _ _, _⟩ => true
  | _ => false

def firstRead (aspect : AspectName) (history : History Number) : Option (Fetched Number) :=
  (history.filterMap (readOf aspect)).head?

/-- The last read stands behind all proposals. -/
def lastRead (aspect : AspectName) (history : History Number) : Option (Fetched Number) :=
  ((history.rtakeWhile fun exchange => !isProposal exchange).filterMap (readOf aspect)).getLast?

/-- A missing part of a value counts as no value. -/
def partOf (key : String) (value : JsonValue Number) : Option (JsonValue Number) :=
  (property key value).toOption.join

def HasTag (tags : List (JsonValue Number)) (tag : Option (JsonValue Number)) : Prop :=
  ∃ entry ∈ tags, partOf "tag" entry = tag

def isDecision (element : JsonValue Number) : Bool :=
  (mentions decisionNamespace element).toOption.getD false

def decisions (elements : List (JsonValue Number)) : List (JsonValue Number) :=
  elements.filter isDecision

/-- These are the items of a value that is written. -/
def proposedItems (key : String) (value : JsonValue Number) : List (JsonValue Number) :=
  ((property key value).toOption.bind fun items => (itemsOf items).toOption).getD []

variable [Zero Number] [DecidableEq Number] (parse : String → Option (JsonValue Number))

/-- These are the items of a value that is read. -/
def shownItems (key : String) (fetched : Option (Fetched Number)) : List (JsonValue Number) :=
  ((fetched.bind Fetched.body).bind fun body => (afterItems parse key body).toOption).getD []

def tagsBefore (history : History Number) : List (JsonValue Number) :=
  shownItems parse "tags" (firstRead .globalTags history)

def tagsAfter (history : History Number) : List (JsonValue Number) :=
  shownItems parse "tags" (lastRead .globalTags history)

def elementsAfter (history : History Number) : List (JsonValue Number) :=
  shownItems parse "elements" (lastRead .institutionalMemory history)

/-- The last reads show the document as the one decision and all tags. -/
structure Intended (document : String) (history : History Number) : Prop where
  written : ∃ element ∈ elementsAfter parse history,
    partOf "description" element = some (.string document)
  single : (decisions (elementsAfter parse history)).length = 1
  preserved : ∀ entry ∈ tagsBefore parse history,
    HasTag (tagsAfter parse history) (partOf "tag" entry)
  tagged : ∀ tag ∈ lgTags, HasTag (tagsAfter parse history) (some (.string tag))

/-- The last read shows the tags or the decisions of a proposal. -/
def ShownAgain (history : History Number) :
    Exchange (Request Number) (Response Number) → Prop
  | ⟨.ingestProposal _ _ .globalTags value, _⟩ =>
      ∀ entry ∈ proposedItems "tags" value, HasTag (tagsAfter parse history) (partOf "tag" entry)
  | ⟨.ingestProposal _ _ .institutionalMemory value, _⟩ =>
      (decisions (elementsAfter parse history)).map (partOf "description") =
        (decisions (proposedItems "elements" value)).map (partOf "description")
  | _ => True

/-- The last reads show every proposal, and without proposals the state has the two tags that are
not looked for and no second decision. -/
structure Settled (history : History Number) : Prop where
  shown : ∀ exchange ∈ history, ShownAgain parse history exchange
  complete : (∀ exchange ∈ history, isProposal exchange = false) →
    HasTag (tagsAfter parse history) (some (.string criticalTag)) ∧
      HasTag (tagsAfter parse history) (some (.string productionTag)) ∧
      (decisions (elementsAfter parse history)).length ≤ 1

end Readings

section Items

variable {Number : Type}

theorem findItem_ok {accepts : JsonValue Number → Except Failure Bool}
    {items : List (JsonValue Number)} {item : JsonValue Number}
    (found : findItem accepts items = .ok (some item)) :
    item ∈ items ∧ accepts item = .ok true := by
  induction items with
  | nil => cases found
  | cons first rest ih =>
      rw [findItem, bind_ok] at found
      obtain ⟨accepted, checked, continued⟩ := found
      cases accepted with
      | true =>
          simp only [if_true, pure_ok, Option.some.injEq] at continued
          subst continued
          exact ⟨List.mem_cons_self, checked⟩
      | false =>
          obtain ⟨present, accepted⟩ := ih (by simpa using continued)
          exact ⟨List.mem_cons_of_mem _ present, accepted⟩

/-- The kept items are the accepted ones, and no item is left unchecked. -/
theorem filterItems_ok {accepts : JsonValue Number → Except Failure Bool}
    {items kept : List (JsonValue Number)} (filtered : filterItems accepts items = .ok kept) :
    (∀ item ∈ items, accepts item = .ok false ∨ (item ∈ kept ∧ accepts item = .ok true)) ∧
      ∀ item ∈ kept, item ∈ items ∧ accepts item = .ok true := by
  induction items generalizing kept with
  | nil =>
      cases filtered
      exact ⟨fun item present => absurd present List.not_mem_nil,
        fun item present => absurd present List.not_mem_nil⟩
  | cons first rest ih =>
      rw [filterItems, bind_ok] at filtered
      obtain ⟨accepted, checked, continued⟩ := filtered
      obtain ⟨others, filteredRest, same⟩ := bind_ok.mp continued
      obtain ⟨each, back⟩ := ih filteredRest
      cases accepted with
      | true =>
          simp only [if_true, pure_ok] at same
          subst same
          constructor
          · intro item present
            rcases List.mem_cons.mp present with rfl | later
            · exact Or.inr ⟨List.mem_cons_self, checked⟩
            · rcases each item later with refused | ⟨kept, accepted⟩
              · exact Or.inl refused
              · exact Or.inr ⟨List.mem_cons_of_mem _ kept, accepted⟩
          · intro item present
            rcases List.mem_cons.mp present with rfl | later
            · exact ⟨List.mem_cons_self, checked⟩
            · exact ⟨List.mem_cons_of_mem _ (back item later).1, (back item later).2⟩
      | false =>
          simp only [Bool.false_eq_true, if_false, pure_ok] at same
          subst same
          constructor
          · intro item present
            rcases List.mem_cons.mp present with rfl | later
            · exact Or.inl checked
            · exact each item later
          · intro item present
            exact ⟨List.mem_cons_of_mem _ (back item present).1, (back item present).2⟩

/-- The filter ends when each item is checked. -/
theorem filterItems_total {accepts : JsonValue Number → Except Failure Bool}
    {items : List (JsonValue Number)} (checked : ∀ item ∈ items, ∃ accepted,
      accepts item = .ok accepted) : ∃ kept, filterItems accepts items = .ok kept := by
  induction items with
  | nil => exact ⟨[], rfl⟩
  | cons first rest ih =>
      obtain ⟨accepted, known⟩ := checked first List.mem_cons_self
      obtain ⟨kept, filtered⟩ := ih fun item later => checked item (List.mem_cons_of_mem _ later)
      exact ⟨if accepted then first :: kept else kept, by rw [filterItems, known, filtered]; rfl⟩

theorem findItem_first {accepts : JsonValue Number → Except Failure Bool}
    {first : JsonValue Number} (rest : List (JsonValue Number))
    (accepted : accepts first = .ok true) :
    findItem accepts (first :: rest) = .ok (some first) := by
  rw [findItem, accepted]
  rfl

theorem isText_iff {text : String} {value : JsonValue Number} :
    isText text value = true ↔ value = .string text := by
  cases value <;> simp [isText]

theorem tagIn_ok {tags : List String} {entry : JsonValue Number} :
    tagIn tags entry = .ok true ↔ ∃ tag ∈ tags, partOf "tag" entry = some (.string tag) := by
  rw [tagIn, partOf]
  cases property "tag" entry with
  | error failure => simp [bind, Except.bind, Except.toOption]
  | ok found =>
      cases found with
      | none => simp [bind, Except.bind, Except.toOption, pure, Except.pure]
      | some value =>
          simp [bind, Except.bind, Except.toOption, pure, Except.pure, isText_iff]

theorem tagIn_of_unrelated {entry : JsonValue Number} (refused : unrelated entry = .ok false) :
    tagIn lgTags entry = .ok true := by
  obtain ⟨known, checked, same⟩ := bind_ok.mp refused
  rw [pure_ok, Bool.not_eq_false'] at same
  rw [checked, same]

theorem otherElement_ok {element : JsonValue Number} (other : otherElement element = .ok true) :
    isDecision element = false := by
  obtain ⟨found, checked, same⟩ := bind_ok.mp other
  rw [pure_ok, Bool.not_eq_true'] at same
  rw [isDecision, checked, same]
  rfl

theorem criticalTag_known : criticalTag ∈ lgTags := List.mem_cons_of_mem _ List.mem_cons_self

theorem productionTag_known : productionTag ∈ lgTags :=
  List.mem_cons_of_mem _ (List.mem_cons_of_mem _ List.mem_cons_self)

theorem tagEntry_tag (tag : String) :
    partOf "tag" (tagEntry tag : JsonValue Number) = some (.string tag) := by
  simp [partOf, property, tagEntry, Except.toOption]

theorem tagEntry_reviewed : tagIn [reviewedTag] (tagEntry reviewedTag : JsonValue Number) =
    .ok true :=
  tagIn_ok.mpr ⟨reviewedTag, List.mem_singleton_self _, tagEntry_tag reviewedTag⟩

/-- The tags of a proposal are those that were there and those of this repository. -/
theorem merged_hasTag {tags kept : List (JsonValue Number)}
    (filtered : filterItems unrelated tags = .ok kept) (tag : Option (JsonValue Number)) :
    HasTag (kept ++ lgTags.map tagEntry) tag ↔
      HasTag tags tag ∨ ∃ name ∈ lgTags, tag = some (.string name) := by
  obtain ⟨each, back⟩ := filterItems_ok filtered
  constructor
  · rintro ⟨entry, present, rfl⟩
    rcases List.mem_append.mp present with old | added
    · exact Or.inl ⟨entry, (back entry old).1, rfl⟩
    · obtain ⟨name, known, rfl⟩ := List.mem_map.mp added
      exact Or.inr ⟨name, known, tagEntry_tag name⟩
  · rintro (⟨entry, present, rfl⟩ | ⟨name, known, rfl⟩)
    · rcases each entry present with refused | ⟨old, _⟩
      · obtain ⟨name, known, same⟩ := tagIn_ok.mp (tagIn_of_unrelated refused)
        exact ⟨tagEntry name, List.mem_append_right _ (List.mem_map_of_mem known),
          (tagEntry_tag name).trans same.symm⟩
      · exact ⟨entry, List.mem_append_left _ old, rfl⟩
    · exact ⟨tagEntry name, List.mem_append_right _ (List.mem_map_of_mem known),
        tagEntry_tag name⟩

/-- The tags of a proposal are shown when the tags before it and the known tags are. -/
theorem merged_shown {tags kept after : List (JsonValue Number)}
    (filtered : filterItems unrelated tags = .ok kept) :
    (∀ entry ∈ kept ++ lgTags.map tagEntry, HasTag after (partOf "tag" entry)) ↔
      (∀ entry ∈ tags, HasTag after (partOf "tag" entry)) ∧
        ∀ tag ∈ lgTags, HasTag after (some (.string tag)) := by
  constructor
  · intro shown
    constructor
    · intro entry present
      obtain ⟨merged, isMerged, same⟩ :=
        (merged_hasTag filtered _).mpr (Or.inl ⟨entry, present, rfl⟩)
      exact same ▸ shown merged isMerged
    · intro tag known
      obtain ⟨merged, isMerged, same⟩ :=
        (merged_hasTag filtered _).mpr (Or.inr ⟨tag, known, rfl⟩)
      exact same ▸ shown merged isMerged
  · rintro ⟨preserved, tagged⟩ entry present
    rcases (merged_hasTag filtered _).mp ⟨entry, present, rfl⟩ with
      ⟨old, isOld, same⟩ | ⟨tag, known, same⟩
    · exact same ▸ preserved old isOld
    · exact same ▸ tagged tag known

end Items

section Documents

theorem decisionMarkerOf_ok (script : Script) (input : WritebackInput) :
    decisionMarkerOf script input = .ok ("lineageguard:decision:v1:candidate-" ++
      fingerprintPrefix (canonicalCandidateFingerprint script input.candidate) 16) := by
  rw [decisionMarkerOf, decisionMarker, require, if_pos]
  · rfl
  · exact isFingerprint_of (script.digest_length _) (script.digest_chars _)

variable {Number : Type} {script : Script} {input : WritebackInput} {document marker : String}

theorem documentContent_ok (named : decisionMarkerOf script input = .ok marker) :
    documentContent script input = .ok ("\n".intercalate (documentLines input marker)) := by
  rw [documentContent, named]
  rfl

/-- The marker of the decision stands in its document. -/
theorem marker_in_document (named : decisionMarkerOf script input = .ok marker)
    (content : documentContent script input = .ok document) :
    marker.toList <:+: document.toList := by
  rw [documentContent_ok named, Except.ok.injEq, documentLines,
    String.intercalate_cons_of_ne_nil (List.cons_ne_nil _ _)] at content
  rw [← content, String.toList_append, String.toList_append, String.toList_append,
    List.append_assoc]
  exact List.infix_append _ _ _

theorem namespace_in_marker (named : decisionMarkerOf script input = .ok marker) :
    decisionNamespace.toList <:+: marker.toList := by
  obtain ⟨_, _, same⟩ := bind_ok.mp named
  rw [pure_ok] at same
  rw [← same, String.toList_append]
  have begins : decisionNamespace.toList <+: "lineageguard:decision:v1:candidate-".toList :=
    ⟨"candidate-".toList, by decide⟩
  exact (begins.trans (List.prefix_append _ _)).isInfix

theorem namespace_in_document (content : documentContent script input = .ok document) :
    decisionNamespace.toList <:+: document.toList := by
  obtain ⟨marker, named, _⟩ := bind_ok.mp content
  exact (namespace_in_marker named).trans (marker_in_document named content)

theorem isDecision_of {element : JsonValue Number}
    (content : documentContent script input = .ok document)
    (described : partOf "description" element = some (.string document)) :
    isDecision element = true := by
  rw [isDecision, mentions]
  rw [partOf] at described
  cases found : property "description" element with
  | error failure =>
      rw [found] at described
      cases described
  | ok description =>
      rw [found] at described
      obtain rfl : description = some (.string document) := described
      show (includes decisionNamespace
        (some (.string document) : Option (JsonValue Number))).toOption.getD false = true
      rw [includes, decide_eq_true (namespace_in_document content)]
      rfl

/-- A state has the document as its one decision when the descriptions of its decisions say so. -/
theorem decisions_document {elements : List (JsonValue Number)}
    (content : documentContent script input = .ok document) :
    (decisions elements).map (partOf "description") = [some (.string document)] ↔
      (∃ element ∈ elements, partOf "description" element = some (.string document)) ∧
        (decisions elements).length = 1 := by
  constructor
  · intro same
    obtain ⟨element, alone, described⟩ := List.map_eq_singleton_iff.mp same
    have present : element ∈ decisions elements := by
      rw [alone]
      exact List.mem_singleton_self element
    exact ⟨⟨element, (List.mem_filter.mp present).1, described⟩, by rw [alone]; rfl⟩
  · rintro ⟨⟨element, present, described⟩, single⟩
    obtain ⟨only, alone⟩ := List.length_eq_one_iff.mp single
    have kept : element ∈ decisions elements :=
      List.mem_filter.mpr ⟨present, isDecision_of content described⟩
    rw [alone, List.mem_singleton] at kept
    rw [alone, ← kept, List.map_singleton, described]

theorem newElement_described (time : Number) :
    partOf "description" (newElement input document time) = some (.string document) := by
  simp [partOf, property, newElement, Except.toOption]

/-- The written elements have one decision, which is the document. -/
theorem written_decisions {elements preserved : List (JsonValue Number)}
    (content : documentContent script input = .ok document)
    (filtered : filterItems otherElement elements = .ok preserved) (time : Number) :
    (decisions (preserved ++ [newElement input document time])).map (partOf "description") =
      [some (.string document)] := by
  have none : decisions preserved = [] := by
    rw [decisions, List.filter_eq_nil_iff]
    intro element present
    rw [otherElement_ok ((filterItems_ok filtered).2 element present).2]
    exact Bool.false_ne_true
  rw [decisions, List.filter_append, ← decisions, none, List.nil_append,
    List.filter_singleton, isDecision_of content (newElement_described time), cond_true,
    List.map_singleton, newElement_described]

end Documents

section Runs

variable {Number Value Result : Type}

theorem settle_runs {outcome : Except Failure Value} {next : Value → Requests Number Result}
    {history : History Number} {result : Result}
    (runs : Runs (settle outcome >>= next) history (.ok result)) :
    ∃ value, outcome = .ok value ∧ Runs (next value) history (.ok result) := by
  obtain ⟨before, after, value, rfl, settled, continues⟩ := runs.bind_value
  obtain ⟨rfl, same⟩ := settled.done_cases
  exact ⟨value, same.symm, continues⟩

theorem settle_continues {outcome : Except Failure Value} {value : Value}
    {next : Value → Requests Number Result} {history : History Number}
    {result : Except Failure Result} (settled : outcome = .ok value)
    (continues : Runs (next value) history result) :
    Runs (settle outcome >>= next) history result := by
  subst settled
  exact continues

theorem verified_runs {condition : Bool} {message : String} {next : Unit → Requests Number Result}
    {history : History Number} {result : Result}
    (runs : Runs (verified condition message >>= next) history (.ok result)) :
    Runs (next ()) history (.ok result) := by
  obtain ⟨_, _, continues⟩ := settle_runs runs
  exact continues

variable (gms : Gms)

def readExchange (aspect : AspectName) (fetched : Fetched Number) :
    Exchange (Request Number) (Response Number) :=
  ⟨.read gms.gmsUrl gms.readToken aspect, fetched⟩

def proposal (aspect : AspectName) (value : JsonValue Number) (fetched : Fetched Number) :
    Exchange (Request Number) (Response Number) :=
  ⟨.ingestProposal gms.gmsUrl gms.mutationToken aspect value, fetched⟩

variable {gms}

theorem gmsRead_runs {aspect : AspectName} {next : JsonValue Number → Requests Number Result}
    {history : History Number} {result : Result}
    (runs : Runs (gmsRead gms aspect >>= next) history (.ok result)) :
    ∃ fetched body rest, history = readExchange gms aspect fetched :: rest ∧
      fetched.body = some body ∧ Runs (next body) rest (.ok result) := by
  obtain ⟨before, after, body, rfl, reads, continues⟩ := runs.bind_value
  obtain ⟨fetched, rest, rfl, ended⟩ := reads.perform_cases
  cases fetched with
  | rejected message =>
      obtain ⟨_, raised⟩ := ended.done_cases
      cases raised
  | refused status =>
      obtain ⟨rfl, same⟩ := ended.done_cases
      cases same
      exact ⟨.refused status, .null, after, rfl, rfl, continues⟩
  | unreadable message =>
      obtain ⟨_, raised⟩ := ended.done_cases
      cases raised
  | answered found =>
      obtain ⟨rfl, same⟩ := ended.done_cases
      cases same
      exact ⟨.answered body, body, after, rfl, rfl, continues⟩

theorem ingest_runs {aspect : AspectName} {value : JsonValue Number} {failed : String}
    {next : Unit → Requests Number Result} {history : History Number} {result : Result}
    (runs : Runs (ingest gms aspect value failed >>= next) history (.ok result)) :
    ∃ fetched rest, history = proposal gms aspect value fetched :: rest ∧
      Runs (next ()) rest (.ok result) := by
  obtain ⟨before, after, _, rfl, writes, continues⟩ := runs.bind_value
  obtain ⟨fetched, rest, rfl, ended⟩ := writes.perform_cases
  cases fetched with
  | rejected message =>
      obtain ⟨_, raised⟩ := ended.done_cases
      cases raised
  | refused status =>
      obtain ⟨_, raised⟩ := ended.done_cases
      cases raised
  | unreadable message =>
      obtain ⟨rfl, _⟩ := ended.done_cases
      exact ⟨.unreadable message, after, rfl, continues⟩
  | answered found =>
      obtain ⟨rfl, _⟩ := ended.done_cases
      exact ⟨.answered found, after, rfl, continues⟩

end Runs

section Histories

variable {Number : Type} [Zero Number] [DecidableEq Number]
variable {parse : String → Option (JsonValue Number)} {script : Script} {gms : Gms}
variable {input : WritebackInput} {output : WritebackOutput} {document : String}
variable {history : History Number}

/-- The items before the writing are read in the same way as those behind it. -/
theorem existingItems_eq (key : String) (response : JsonValue Number) :
    existingItems parse key response = afterItems parse key response := by
  rw [existingItems, afterItems]
  cases extractAspectValue response with
  | error failure => rfl
  | ok value => cases value <;> rfl

/-- The state is the one that the two reads show. -/
structure Existing (parse : String → Option (JsonValue Number)) (tags memory : Fetched Number)
    (existing : ExistingState Number) : Prop where
  tags : shownItems parse "tags" (some tags) = existing.tags
  merged : ∃ kept, filterItems unrelated existing.tags = .ok kept ∧
    existing.mergedTags = kept ++ lgTags.map tagEntry
  elements : shownItems parse "elements" (some memory) = existing.elements

theorem shownItems_ok {key : String} {fetched : Fetched Number} {body : JsonValue Number}
    {items : List (JsonValue Number)} (read : fetched.body = some body)
    (found : existingItems parse key body = .ok items) :
    shownItems parse key (some fetched) = items := by
  rw [existingItems_eq] at found
  rw [shownItems, Option.bind_some, read, Option.bind_some, found]
  rfl

theorem readExisting_runs {Result : Type} {next : ExistingState Number → Requests Number Result}
    {result : Result} (runs : Runs (readExisting gms parse >>= next) history (.ok result)) :
    ∃ tags memory existing rest, Existing parse tags memory existing ∧
      history = readExchange gms .globalTags tags ::
        readExchange gms .institutionalMemory memory :: rest ∧
      Runs (next existing) rest (.ok result) := by
  obtain ⟨before, after, existing, rfl, reads, continues⟩ := runs.bind_value
  obtain ⟨tags, tagsBody, rest, rfl, readTags, reads⟩ := gmsRead_runs reads
  obtain ⟨memory, memoryBody, rest, rfl, readMemory, reads⟩ := gmsRead_runs reads
  obtain ⟨tagItems, foundTags, reads⟩ := settle_runs reads
  obtain ⟨kept, filtered, reads⟩ := settle_runs reads
  obtain ⟨elements, foundElements, reads⟩ := settle_runs reads
  obtain ⟨rfl, same⟩ := reads.done_cases
  cases same
  exact ⟨tags, memory, _, after, ⟨shownItems_ok readTags foundTags, ⟨kept, filtered, rfl⟩,
    shownItems_ok readMemory foundElements⟩, rfl, continues⟩

theorem writeDocument_runs {Result : Type} {next : Unit → Requests Number Result}
    {result : Result} {existing : ExistingState Number}
    (runs : Runs (writeDocument gms input document existing >>= next) history (.ok result)) :
    ∃ time preserved fetched rest, filterItems otherElement existing.elements = .ok preserved ∧
      history = ⟨.now, time⟩ :: proposal gms .institutionalMemory
        (.object [("elements", .array (preserved ++ [newElement input document time]))]) fetched ::
          rest ∧ Runs (next ()) rest (.ok result) := by
  obtain ⟨before, after, _, rfl, writes, continues⟩ := runs.bind_value
  obtain ⟨time, rest, rfl, timed⟩ := writes.perform_cases
  obtain ⟨preserved, filtered, ingests⟩ := settle_runs timed
  have whole : Runs (ingest gms .institutionalMemory
      (.object [("elements", .array (preserved ++ [newElement input document time]))])
      "DataHub document writeback failed" >>= next) (rest ++ after) (.ok result) :=
    ingests.bind_ok continues
  obtain ⟨fetched, others, same, continues⟩ := ingest_runs whole
  exact ⟨time, preserved, fetched, others, filtered,
    by rw [List.cons_append, same], continues⟩

theorem verifyReadBack_runs {marker : String} {existing : ExistingState Number}
    (runs : Runs (verifyReadBack gms parse marker existing) history (.ok ())) :
    ∃ tags memory, history = [readExchange gms .globalTags tags,
      readExchange gms .institutionalMemory memory] := by
  obtain ⟨tags, _, rest, rfl, _, reads⟩ := gmsRead_runs runs
  obtain ⟨_, _, reads⟩ := settle_runs reads
  obtain ⟨_, _, reads⟩ := settle_runs reads
  obtain ⟨memory, _, rest, rfl, _, reads⟩ := gmsRead_runs (verified_runs reads)
  obtain ⟨_, _, reads⟩ := settle_runs reads
  obtain ⟨_, _, reads⟩ := settle_runs reads
  obtain ⟨_, _, reads⟩ := settle_runs (verified_runs reads)
  obtain ⟨_, _, reads⟩ := settle_runs reads
  obtain ⟨rfl, _⟩ := reads.done_cases
  exact ⟨tags, memory, rfl⟩

/-- A current state is left as it is. -/
def idleHistory (gms : Gms) (tags memory : Fetched Number) : History Number :=
  [readExchange gms .globalTags tags, readExchange gms .institutionalMemory memory]

/-- The proposals stand between the two pairs of reads. -/
def writtenHistory (gms : Gms)
    (tags memory tagsAgain memoryAgain ingested recorded : Fetched Number)
    (mergedTags elements : List (JsonValue Number)) (time : Number) : History Number :=
  [readExchange gms .globalTags tags, readExchange gms .institutionalMemory memory,
    proposal gms .globalTags (.object [("tags", .array mergedTags)]) ingested, ⟨.now, time⟩,
    proposal gms .institutionalMemory (.object [("elements", .array elements)]) recorded,
    readExchange gms .globalTags tagsAgain, readExchange gms .institutionalMemory memoryAgain]

/-- A successful write finds the document or writes it. -/
theorem write_runs (runs : Runs (write gms parse script input) history (.ok output)) :
    ∃ document marker tags memory existing, documentContent script input = .ok document ∧
      decisionMarkerOf script input = .ok marker ∧ Existing parse tags memory existing ∧
      ((history = idleHistory gms tags memory ∧
          isCurrent marker document existing = .ok true) ∨
        ∃ preserved time tagsAgain memoryAgain ingested recorded,
          filterItems otherElement existing.elements = .ok preserved ∧
            history = writtenHistory gms tags memory tagsAgain memoryAgain ingested recorded
              existing.mergedTags (preserved ++ [newElement input document time]) time) := by
  obtain ⟨document, content, attempts⟩ := settle_runs runs
  obtain ⟨outcome, attempted, same⟩ := Runs.conclude_iff.mp attempts
  obtain rfl : outcome = .ok output := mapError_ok.mp same.symm
  obtain ⟨tags, memory, existing, rest, found, rfl, names⟩ := readExisting_runs attempted
  obtain ⟨marker, named, checks⟩ := settle_runs names
  obtain ⟨current, checked, continues⟩ := settle_runs checks
  refine ⟨document, marker, tags, memory, existing, mapError_ok.mp content, mapError_ok.mp named,
    found, ?_⟩
  cases current with
  | true =>
      obtain ⟨rfl, _⟩ := continues.done_cases
      exact Or.inl ⟨rfl, checked⟩
  | false =>
      obtain ⟨ingested, rest, rfl, writes⟩ := ingest_runs continues
      obtain ⟨time, preserved, recorded, rest, filtered, rfl, verifies⟩ :=
        writeDocument_runs writes
      obtain ⟨before, after, _, rfl, reads, ended⟩ := verifies.bind_value
      obtain ⟨tagsAgain, memoryAgain, rfl⟩ := verifyReadBack_runs reads
      obtain ⟨rfl, _⟩ := ended.done_cases
      exact Or.inr ⟨preserved, time, tagsAgain, memoryAgain, ingested, recorded, filtered, rfl⟩

/-- The document is the description of an element of a current state, which is reviewed. -/
theorem isCurrent_found {marker : String} {existing : ExistingState Number}
    (current : isCurrent marker document existing = .ok true) :
    (∃ element ∈ existing.elements, partOf "description" element = some (.string document)) ∧
      HasTag existing.tags (some (.string reviewedTag)) := by
  obtain ⟨decision, found, checks⟩ := bind_ok.mp current
  obtain ⟨reviewed, tagged, checks⟩ := bind_ok.mp checks
  cases decision with
  | none => cases checks
  | some element =>
      obtain ⟨description, described, same⟩ := bind_ok.mp checks
      rw [pure_ok, Bool.and_eq_true] at same
      constructor
      · refine ⟨element, (findItem_ok found).1, ?_⟩
        obtain ⟨value, isValue, isDocument⟩ := (Option.any_eq_true _ _).mp same.1
        rw [partOf, described, isValue, isText_iff.mp isDocument]
        rfl
      · obtain ⟨entry, rfl⟩ := Option.isSome_iff_exists.mp same.2
        obtain ⟨present, isReviewed⟩ := findItem_ok tagged
        obtain ⟨tag, known, same⟩ := tagIn_ok.mp isReviewed
        exact ⟨entry, present, List.mem_singleton.mp known ▸ same⟩

/-- A state is current when its first element and its first tag are the wanted ones. -/
theorem isCurrent_first {marker : String} {element tag : JsonValue Number}
    {mergedTags : List (JsonValue Number)} (elements tags : List (JsonValue Number))
    (described : property "description" element = .ok (some (.string document)))
    (marked : marker.toList <:+: document.toList)
    (reviewed : tagIn [reviewedTag] tag = .ok true) :
    isCurrent marker document ⟨tag :: tags, mergedTags, element :: elements⟩ = .ok true := by
  have mentioned : mentions marker element = .ok true := by
    rw [mentions, described]
    show includes marker (some (.string document) : Option (JsonValue Number)) = .ok true
    rw [includes, decide_eq_true marked]
  rw [isCurrent, findItem_first elements mentioned, findItem_first tags reviewed]
  show (property "description" element >>= fun description =>
    pure (description.any (isText document) && true)) = .ok true
  rw [described]
  show Except.ok (isText document (.string document : JsonValue Number) && true) = .ok true
  rw [isText_iff.mpr rfl]
  rfl

theorem idle_intended {marker : String} {tags memory : Fetched Number}
    {existing : ExistingState Number} (content : documentContent script input = .ok document)
    (found : Existing parse tags memory existing)
    (current : isCurrent marker document existing = .ok true) :
    Intended parse document (idleHistory gms tags memory) ↔
      Settled parse (idleHistory gms tags memory) := by
  have before : tagsBefore parse (idleHistory gms tags memory) = existing.tags := found.tags
  have after : tagsAfter parse (idleHistory gms tags memory) = existing.tags := found.tags
  have elements : elementsAfter parse (idleHistory gms tags memory) = existing.elements :=
    found.elements
  obtain ⟨written, reviewed⟩ := isCurrent_found current
  constructor
  · intro intended
    refine ⟨?_, fun _ => ⟨intended.tagged _ criticalTag_known,
      intended.tagged _ productionTag_known, intended.single.le⟩⟩
    intro exchange present
    rcases List.mem_cons.mp present with rfl | present
    · trivial
    · obtain rfl := List.mem_singleton.mp present
      trivial
  · intro settled
    have untouched : ∀ exchange ∈ idleHistory gms tags memory, isProposal exchange = false := by
      intro exchange present
      rcases List.mem_cons.mp present with rfl | present
      · rfl
      · obtain rfl := List.mem_singleton.mp present
        rfl
    obtain ⟨critical, production, atMost⟩ := settled.complete untouched
    rw [← elements] at written
    rw [← after] at reviewed
    refine ⟨written, ?_, ?_, ?_⟩
    · obtain ⟨element, present, described⟩ := written
      have kept : element ∈ decisions (elementsAfter parse (idleHistory gms tags memory)) :=
        List.mem_filter.mpr ⟨present, isDecision_of content described⟩
      exact le_antisymm atMost (List.length_pos_of_mem kept)
    · intro entry present
      rw [after, ← before]
      exact ⟨entry, present, rfl⟩
    · intro tag known
      simp only [lgTags, List.mem_cons, List.not_mem_nil, or_false] at known
      rcases known with rfl | rfl | rfl
      · exact reviewed
      · exact critical
      · exact production

theorem proposedItems_array (key : String) (items : List (JsonValue Number)) :
    proposedItems key (.object [(key, .array items)]) = items := by
  simp [proposedItems, property, itemsOf, Except.toOption]

/-- Behind the two proposals only what they wrote is compared. -/
theorem written_settled {tags memory tagsAgain memoryAgain ingested recorded : Fetched Number}
    {mergedTags elements : List (JsonValue Number)} {time : Number}
    (same : history = writtenHistory gms tags memory tagsAgain memoryAgain ingested recorded
      mergedTags elements time) :
    Settled parse history ↔
      (∀ entry ∈ mergedTags, HasTag (tagsAfter parse history) (partOf "tag" entry)) ∧
        (decisions (elementsAfter parse history)).map (partOf "description") =
          (decisions elements).map (partOf "description") := by
  have tagsProposed : proposal gms .globalTags (.object [("tags", .array mergedTags)]) ingested ∈
      history := by
    rw [same]
    exact List.mem_cons_of_mem _ (List.mem_cons_of_mem _ List.mem_cons_self)
  have elementsProposed : proposal gms .institutionalMemory
      (.object [("elements", .array elements)]) recorded ∈ history := by
    rw [same]
    exact List.mem_cons_of_mem _ (List.mem_cons_of_mem _ (List.mem_cons_of_mem _
      (List.mem_cons_of_mem _ List.mem_cons_self)))
  constructor
  · intro settled
    have tagsShown := settled.shown _ tagsProposed
    have elementsShown := settled.shown _ elementsProposed
    simp only [proposal, ShownAgain, proposedItems_array] at tagsShown elementsShown
    exact ⟨tagsShown, elementsShown⟩
  · rintro ⟨tagsShown, elementsShown⟩
    refine ⟨?_, fun untouched => absurd (untouched _ tagsProposed) Bool.true_eq_false.mp⟩
    intro exchange present
    rw [same] at present
    simp only [writtenHistory, List.mem_cons, List.not_mem_nil, or_false] at present
    rcases present with rfl | rfl | rfl | rfl | rfl | rfl | rfl
    · trivial
    · trivial
    · simp only [proposal, ShownAgain, proposedItems_array]
      exact tagsShown
    · trivial
    · simp only [proposal, ShownAgain, proposedItems_array]
      exact elementsShown
    · trivial
    · trivial

theorem written_intended {tags memory tagsAgain memoryAgain ingested recorded : Fetched Number}
    {existing : ExistingState Number} {preserved : List (JsonValue Number)} {time : Number}
    (content : documentContent script input = .ok document)
    (found : Existing parse tags memory existing)
    (filtered : filterItems otherElement existing.elements = .ok preserved)
    (same : history = writtenHistory gms tags memory tagsAgain memoryAgain ingested recorded
      existing.mergedTags (preserved ++ [newElement input document time]) time) :
    Intended parse document history ↔ Settled parse history := by
  obtain ⟨kept, filteredTags, merged⟩ := found.merged
  have before : tagsBefore parse history = existing.tags := by
    rw [same]
    exact found.tags
  rw [written_settled same, merged, merged_shown filteredTags,
    written_decisions content filtered, decisions_document content, ← before]
  constructor
  · intro intended
    exact ⟨⟨intended.preserved, intended.tagged⟩, intended.written, intended.single⟩
  · rintro ⟨⟨preserved, tagged⟩, written, single⟩
    exact ⟨written, single, preserved, tagged⟩

variable {environment : Environment} {port : WritebackInput → Requests Number WritebackOutput}

theorem port_runs (configured : createWritebackPort parse script environment = some port)
    (runs : Runs (port input) history (.ok output)) :
    ∃ gms, Runs (write gms parse script input) history (.ok output) := by
  unfold createWritebackPort at configured
  dsimp only at configured
  split_ifs at configured
  obtain rfl := Option.some_inj.mp configured
  obtain ⟨gms, _, writes⟩ := settle_runs runs
  exact ⟨gms, writes⟩

end Histories

section Samples

/-- No text is parsed for the sample. -/
def sampleParse : String → Option (JsonValue ℤ) := fun _ => none

def sampleScript : Script := Script.probe 0 []

def sampleInput : WritebackInput where
  runId := "run"
  comparison :=
    { changeId := "change"
      baseline := ⟨"change", none, .repositoryOnly, .review, .high, [], ⟨0, 0⟩⟩
      grounded := ⟨"change", none, .datahubGrounded, .block, .critical, [], ⟨0, 0⟩⟩
      decisionChanged := true
      transition := "REVIEW_TO_BLOCK"
      triggeredRuleIds := []
      changedBecauseEvidenceIds := [] }
  context := ⟨⟨"change", .live, [], ⟨0, 0⟩, .complete, [], []⟩, "", ""⟩
  candidate := ⟨"", "", "", [], "", [], [], [], 30, ""⟩
  githubPrUrl := "pull"
  githubReceiptFingerprint := "receipt"
  validationReceiptFingerprint := "validation"

def sampleMarker : String :=
  "lineageguard:decision:v1:candidate-" ++
    fingerprintPrefix (canonicalCandidateFingerprint sampleScript sampleInput.candidate) 16

def sampleDocument : String := "\n".intercalate (documentLines sampleInput sampleMarker)

theorem sampleMarker_named : decisionMarkerOf sampleScript sampleInput = .ok sampleMarker :=
  decisionMarkerOf_ok _ _

theorem sampleDocument_content : documentContent sampleScript sampleInput = .ok sampleDocument :=
  documentContent_ok sampleMarker_named

def sampleEnvironment : Environment := ⟨some "mutation", none, none, some "read", none⟩

def sampleGms : Gms := ⟨"http://127.0.0.1:8080", "read", "mutation"⟩

def samplePort (input : WritebackInput) : Requests ℤ WritebackOutput := do
  let gms ← settle (credentials sampleEnvironment "mutation")
  write gms sampleParse sampleScript input

theorem samplePort_configured :
    createWritebackPort sampleParse sampleScript sampleEnvironment = some samplePort := by
  rw [createWritebackPort, if_neg]
  · rfl
  · simp [sampleEnvironment]

theorem sampleGms_credentials : credentials sampleEnvironment "mutation" = .ok sampleGms := by
  simp [credentials, sampleEnvironment, sampleGms]

/-- The service wraps an aspect in the name of its class. -/
def sampleAspect (className key : String) (items : List (JsonValue ℤ)) : JsonValue ℤ :=
  .object [("aspect", .object [("com." ++ className, .object [(key, .array items)])])]

def sampleTags (others : List String) : Fetched ℤ :=
  .answered (sampleAspect "linkedin.common.GlobalTags" "tags"
    (tagEntry reviewedTag :: others.map tagEntry))

def sampleElement : JsonValue ℤ := .object [("description", .string sampleDocument)]

def sampleMemory : Fetched ℤ :=
  .answered (sampleAspect "linkedin.common.InstitutionalMemory" "elements" [sampleElement])

theorem isClassName_qualified (name : String) : isClassName ("com." ++ name) = true := by
  have begins : "com.".toList.isPrefixOf ("com." ++ name).toList = true := by
    rw [String.toList_append, List.isPrefixOf_iff_prefix]
    exact List.prefix_append _ _
  have unversioned : "com." ++ name ≠ "version" := by
    intro same
    have first := congrArg (fun text => text.toList.head?) same
    simp at first
  rw [isClassName, begins, Bool.and_true, decide_eq_true_eq]
  exact unversioned

theorem sampleAspect_items (className key : String) (items : List (JsonValue ℤ)) :
    existingItems sampleParse key (sampleAspect className key items) = .ok items := by
  have value : extractAspectValue (sampleAspect className key items) =
      .ok (.object [(key, .array items)]) := by
    simp [extractAspectValue, sampleAspect, isTruthy, isClassName_qualified]
  rw [existingItems, value]
  simp [bind, Except.bind, existingData, property, itemsOf]

/-- The state of the service is left alone. -/
def sampleHistory (others : List String) : History ℤ :=
  idleHistory sampleGms (sampleTags others) sampleMemory

def sampleOutput : WritebackOutput :=
  ⟨.succeeded, receiptFingerprint sampleScript sampleInput sampleDocument "idempotent"⟩

theorem gmsRead_answered (gms : Gms) (aspect : AspectName) (body : JsonValue ℤ) :
    Runs (gmsRead gms aspect) [readExchange gms aspect (.answered body)] (.ok body) :=
  .ask _ (.done _)

theorem sampleExisting_runs (others : List String) : ∃ mergedTags,
    Runs (readExisting sampleGms sampleParse) (sampleHistory others)
      (.ok ⟨tagEntry reviewedTag :: others.map tagEntry, mergedTags, [sampleElement]⟩) := by
  obtain ⟨kept, filtered⟩ : ∃ kept,
      filterItems unrelated ((tagEntry reviewedTag : JsonValue ℤ) :: others.map tagEntry) =
        .ok kept := by
    refine filterItems_total fun item present => ?_
    rw [← List.map_cons] at present
    obtain ⟨tag, _, rfl⟩ := List.mem_map.mp present
    exact ⟨_, rfl⟩
  refine ⟨kept ++ lgTags.map tagEntry, ?_⟩
  refine (gmsRead_answered _ _ _).bind_ok ((gmsRead_answered _ _ _).bind_ok ?_)
  exact settle_continues (sampleAspect_items _ _ _) (settle_continues filtered
    (settle_continues (sampleAspect_items _ _ _) (.done _)))

theorem sampleElement_current (others : List String) (mergedTags : List (JsonValue ℤ)) :
    isCurrent sampleMarker sampleDocument
      ⟨tagEntry reviewedTag :: others.map tagEntry, mergedTags, [sampleElement]⟩ = .ok true :=
  isCurrent_first [] (others.map tagEntry)
    (by rw [sampleElement, property, List.find?_singleton, decide_eq_true rfl]; rfl)
    (marker_in_document sampleMarker_named sampleDocument_content) (tagEntry_reviewed)

theorem sample_runs (others : List String) :
    Runs (samplePort sampleInput) (sampleHistory others) (.ok sampleOutput) := by
  obtain ⟨mergedTags, reads⟩ := sampleExisting_runs others
  have attempted : Runs (attempt sampleGms sampleParse sampleScript sampleInput sampleDocument)
      (sampleHistory others ++ []) (.ok sampleOutput) := by
    refine reads.bind_ok (settle_continues (mapError_ok.mpr sampleMarker_named) ?_)
    exact settle_continues (sampleElement_current others mergedTags) (.done _)
  rw [List.append_nil] at attempted
  refine settle_continues sampleGms_credentials ?_
  exact settle_continues (mapError_ok.mpr sampleDocument_content)
    (Runs.conclude_iff.mpr ⟨_, attempted, rfl⟩)

end Samples

end LineageGuard.Agent.WritebackPort
