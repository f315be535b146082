import LineageGuard.Acceptance.SourceReadings
import Mathlib.Tactic

/-
This file proves when the readers of the acceptance harness are honest about what they were shown.
-/

namespace LineageGuard.Acceptance.Inspect

open Json Attempt Domain Inspection Agent.WritebackPort

section Elements

variable {Number : Type}

/-- A filter whose checks all end is the filter of their results. -/
theorem filterItems_eq {accepts : JsonValue Number → Except Failure Bool}
    {kept : JsonValue Number → Bool} {items : List (JsonValue Number)}
    (checked : ∀ item ∈ items, accepts item = .ok (kept item)) :
    filterItems accepts items = .ok (items.filter kept) := by
  induction items with
  | nil => rfl
  | cons item rest ih =>
      obtain ⟨first, others⟩ := List.forall_mem_cons.mp checked
      rw [filterItems, first, ih others, List.filter_cons]
      rfl

theorem memberText_object {text : String} {item : JsonValue Number} (object : isObject item = true)
    (texts : optionalText text item = true) :
    property text item = .ok ((memberText text item).map .string) := by
  cases item with
  | object members =>
      rw [optionalText] at texts
      have shape : member text (.object members) =
          (members.find? fun member => member.1 = text).map (·.2) := rfl
      rw [memberText, property, shape]
      rw [shape] at texts
      cases found : (members.find? fun member => member.1 = text).map (·.2) with
      | none => rfl
      | some value =>
          rw [found] at texts
          cases value with
          | string content => rfl
          | _ => exact absurd texts Bool.false_ne_true
  | _ => exact absurd object Bool.false_ne_true

theorem mentions_typed {element : JsonValue Number} (object : isObject element = true)
    (texts : optionalText "description" element = true) :
    mentions decisionNamespace element =
      .ok ((memberText "description" element).any namesDecision) := by
  rw [mentions, memberText_object object texts]
  cases memberText "description" element <;> rfl

theorem elementMarkers_typed {element : JsonValue Number} {description : String}
    (described : memberText "description" element = some description) :
    elementMarkers element = .ok (decisionMarkers description) := by
  rw [memberText, Option.bind_eq_some_iff] at described
  obtain ⟨value, found, isText⟩ := described
  cases value with
  | string text =>
      cases isText
      rw [elementMarkers, memberOrEmpty, found]
  | _ => cases isText

/-- The descriptions of the decision elements are the descriptions that name a decision. -/
theorem decisions_texts (elements : List (JsonValue Number)) :
    (elements.filter fun element =>
        (memberText "description" element).any namesDecision).map (memberText "description") =
      ((elements.map (memberText "description")).reduceOption.filter namesDecision).map some := by
  induction elements with
  | nil => rfl
  | cons element rest ih =>
      cases described : memberText "description" element with
      | none =>
          rw [List.filter_cons_of_neg (by rw [described]; simp), ih, List.map_cons, described,
            List.reduceOption_cons_of_none]
      | some description =>
          rw [List.map_cons, described, List.reduceOption_cons_of_some, List.filter_cons,
            List.filter_cons, described, Option.any_some]
          split
          · rw [List.map_cons, List.map_cons, ih, described]
          · exact ih

theorem mapM_elementMarkers {elements : List (JsonValue Number)} {descriptions : List String}
    (described : elements.map (memberText "description") = descriptions.map some) :
    elements.mapM elementMarkers = .ok (descriptions.map decisionMarkers) := by
  induction elements generalizing descriptions with
  | nil =>
      cases descriptions with
      | nil => rfl
      | cons _ _ => cases described
  | cons element rest ih =>
      cases descriptions with
      | nil => cases described
      | cons description others =>
          rw [List.map_cons, List.map_cons, List.cons.injEq] at described
          rw [List.mapM_cons, elementMarkers_typed described.1, ih described.2]
          rfl

theorem decisionFields_eq {elements : List (JsonValue Number)} {descriptions : List String}
    (described : elements.map (memberText "description") = descriptions.map some) :
    decisionFields elements = fieldsOf descriptions := by
  cases elements with
  | nil =>
      cases descriptions with
      | nil => rfl
      | cons _ _ => cases described
  | cons element rest =>
      cases descriptions with
      | nil => cases described
      | cons description others =>
          rw [List.map_cons, List.map_cons, List.cons.injEq] at described
          have lengths := congrArg List.length described.2
          rw [List.length_map, List.length_map] at lengths
          cases rest with
          | nil =>
              rw [List.length_eq_zero_iff.mp lengths.symm, decisionFields, described.1]
              rfl
          | cons second later =>
              cases others with
              | nil => cases lengths
              | cons _ _ => rfl

end Elements

section Answers

variable {Number : Type}

/-- The service did not answer for an aspect. -/
def Lost : Fetched Number → Prop
  | .answered _ => False
  | .refused status => status ≠ 404
  | _ => True

theorem lost_unanswered {fetched : Fetched Number} (lost : Lost fetched)
    (body : JsonValue Number) : fetched ≠ .answered body := by
  rintro rfl
  exact lost

theorem gmsGet_answered {token : String} {server : Server Number} {path : String}
    {body : JsonValue Number} (long : 8 ≤ utf16Length token)
    (answered : server path = .answered body) : gmsGet token server path = .ok body := by
  have honest := get_honest token "no DataHub read token available" "GMS " server path
  rw [shown, if_neg (Nat.not_lt.mpr long), answered] at honest
  exact honest

theorem gmsGet_unanswered (token : String) {server : Server Number} {path : String}
    (unanswered : ∀ body, server path ≠ .answered body) :
    ∃ reason, gmsGet token server path = .error (.uninspectable reason) := by
  have honest := get_honest token "no DataHub read token available" "GMS " server path
  have unseen : shown token server path = none := by
    rw [shown]
    split
    · rfl
    · split
      · next body answered => exact absurd answered (unanswered body)
      · rfl
  rw [unseen] at honest
  exact honest

end Answers

section DataHubReader

variable {Number : Type} [Zero Number] [DecidableEq Number]

/-- The list of a well-formed aspect is the one that the reader runs through. -/
theorem aspectTexts_listed {key text : String} {body : JsonValue Number}
    {texts : List (Option String)} (known : aspectTexts key text body = some texts) :
    ∃ value, aspectValue body = .ok value ∧ texts = (listed key value).map (memberText text) ∧
      ∀ item ∈ listed key value, isObject item = true ∧ optionalText text item = true := by
  rw [aspectTexts, Option.bind_eq_bind, Option.bind_eq_some_iff] at known
  obtain ⟨items, isList, typed⟩ := known
  rw [aspectItems, Option.bind_eq_bind, Option.bind_eq_some_iff] at isList
  obtain ⟨aspect, _, rest⟩ := isList
  obtain ⟨value, unwrapped, items_eq⟩ := Option.bind_eq_some_iff.mp rest
  have isValue : extractAspectValue body = .ok value := by
    cases found : extractAspectValue body with
    | error failure =>
        rw [found] at unwrapped
        cases unwrapped
    | ok other =>
        rw [found] at unwrapped
        cases unwrapped
        rfl
  split at items_eq
  · split at typed
    · next all =>
        rw [Option.some.injEq] at typed
        rw [← listed_eq items_eq] at typed all
        refine ⟨value, ?_, typed.symm, all⟩
        rw [aspectValue, isValue]
        rfl
    · cases typed
  · cases items_eq

/-- Two well-formed aspects determine the state that is shown. -/
theorem decisionState_known {memory tags : JsonValue Number}
    {descriptions named : List (Option String)}
    (elements : aspectTexts "elements" "description" memory = some descriptions)
    (entries : aspectTexts "tags" "tag" tags = some named) :
    decisionState memory tags = .ok (stateOf descriptions named) := by
  obtain ⟨memoryValue, isMemory, described, typed⟩ := aspectTexts_listed elements
  obtain ⟨tagsValue, isTags, tagged, typedTags⟩ := aspectTexts_listed entries
  have filtered := filterItems_eq fun element present =>
    mentions_typed (typed element present).1 (typed element present).2
  have texts := decisions_texts (listed "elements" memoryValue)
  rw [← described] at texts
  have marked := mapM_elementMarkers texts
  have quiet : (listed "tags" tagsValue).any isNull = false := by
    rw [List.any_eq_false]
    intro entry present
    have object := (typedTags entry present).1
    cases entry with
    | object members => exact Bool.false_ne_true
    | _ => exact absurd object Bool.false_ne_true
  rw [decisionState, isMemory]
  change (filterItems (mentions decisionNamespace) (listed "elements" memoryValue)).mapError _ >>=
    _ = _
  rw [filtered]
  change List.mapM elementMarkers _ >>= _ = _
  rw [marked]
  change aspectValue tags >>= _ = _
  rw [isTags]
  change (listed "tags" tagsValue).forM someObject >>= _ = _
  rw [forM_someObject, quiet]
  have counted := congrArg List.length texts
  rw [List.length_map, List.length_map] at counted
  have shownTags : (listed "tags" tagsValue).filterMap (memberText "tag") = named.reduceOption := by
    rw [tagged, List.reduceOption, List.filterMap_map]
    rfl
  have total : (listed "elements" memoryValue).length = descriptions.length := by
    rw [described, List.length_map]
  change Except.ok (DataHubDecisionState.mk _ _ _ _ _ _) =
    Except.ok (DataHubDecisionState.mk _ _ _ _ _ _)
  rw [shownTags, counted, total, ← List.flatMap_def, decisionFields_eq texts]

theorem aspectValue_decided (body : JsonValue Number) : Decided (aspectValue body) := by
  rw [aspectValue]
  cases extractAspectValue body with
  | ok value => exact decided_ok value
  | error failure => exact decided_thrown

theorem decisionState_decided (memory tags : JsonValue Number) :
    Decided (decisionState memory tags) := by
  rw [decisionState]
  apply decided_bind (aspectValue_decided memory)
  intro memoryValue
  apply decided_bind
  · cases filterItems (mentions decisionNamespace) (listed "elements" memoryValue) with
    | ok elements => exact decided_ok elements
    | error failure => exact decided_thrown
  intro decisionElements
  apply decided_bind
  · refine decided_mapM (fun element => ?_) decisionElements
    rw [elementMarkers]
    split
    · exact decided_ok _
    · exact decided_thrown
  intro markers
  apply decided_bind (aspectValue_decided tags)
  intro tagsValue
  apply decided_bind
  · rw [forM_someObject]
    split
    · exact decided_thrown
    · exact decided_ok ()
  intro _
  exact decided_ok _

def WellFormed (key text : String) (fetched : Fetched Number) : Prop :=
  ∃ body, fetched = .answered body ∧ (aspectTexts key text body).isSome = true

def Malformed (key text : String) (fetched : Fetched Number) : Prop :=
  ∃ body, fetched = .answered body ∧ aspectTexts key text body = none

/-- A state is misread when an aspect is missing or malformed, unless the other one tells that the
state is unknown. -/
def StateSound (memory tags : Fetched Number) : Prop :=
  ¬ Lost memory → ¬ Lost tags →
    WellFormed "elements" "description" memory ∧ WellFormed "tags" "tag" tags ∨
    memory = .refused 404 ∧ Malformed "tags" "tag" tags ∨
    Malformed "elements" "description" memory ∧ tags = .refused 404

/-- Every answer is lost, missing, well-formed or malformed. -/
theorem knownTexts_cases (key text : String) (fetched : Fetched Number) :
    (Lost fetched ∧ knownTexts key text fetched = none) ∨
      (fetched = .refused 404 ∧ knownTexts key text fetched = some []) ∨
      ∃ body, fetched = .answered body ∧
        knownTexts key text fetched = aspectTexts key text body := by
  cases fetched with
  | answered body => exact .inr (.inr ⟨body, rfl, rfl⟩)
  | refused status =>
      by_cases missing : status = 404
      · exact .inr (.inl ⟨by rw [missing], if_pos missing⟩)
      · exact .inl ⟨missing, if_neg missing⟩
  | _ => exact .inl ⟨trivial, rfl⟩

theorem readState_unanswered {token : String} {server : Server Number} {datasetUrn : String}
    (unanswered : (∀ body, server (aspectPath datasetUrn "institutionalMemory") ≠ .answered body) ∨
      ∀ body, server (aspectPath datasetUrn "globalTags") ≠ .answered body) :
    ∃ reason, readDataHubDecisionState token server datasetUrn =
      .error (.uninspectable reason) := by
  rw [readDataHubDecisionState]
  have memoryHonest := get_honest token "no DataHub read token available" "GMS " server
    (aspectPath datasetUrn "institutionalMemory")
  rcases unanswered with memory | tags
  · obtain ⟨reason, stopped⟩ := gmsGet_unanswered token memory
    exact ⟨reason, by rw [stopped]; rfl⟩
  · cases seen : shown token server (aspectPath datasetUrn "institutionalMemory") with
    | none =>
        rw [seen] at memoryHonest
        obtain ⟨reason, stopped⟩ := memoryHonest
        exact ⟨reason, by rw [gmsGet, stopped]; rfl⟩
    | some body =>
        rw [seen, Honest] at memoryHonest
        obtain ⟨reason, stopped⟩ := gmsGet_unanswered token tags
        refine ⟨reason, ?_⟩
        rw [stopped, gmsGet, memoryHonest]
        rfl

theorem readState_honest_iff (token : String) (server : Server Number) (datasetUrn : String) :
    Honest (knownState token server datasetUrn)
        (readDataHubDecisionState token server datasetUrn) ↔
      (8 ≤ utf16Length token →
        StateSound (server (aspectPath datasetUrn "institutionalMemory"))
          (server (aspectPath datasetUrn "globalTags"))) := by
  by_cases short : utf16Length token < 8
  · have unknown : knownState token server datasetUrn = none := by
      rw [knownState, if_pos short]
      rfl
    have unseen := get_honest token "no DataHub read token available" "GMS " server
      (aspectPath datasetUrn "institutionalMemory")
    rw [shown, if_pos short] at unseen
    obtain ⟨reason, stopped⟩ := unseen
    rw [unknown, readDataHubDecisionState, gmsGet, stopped]
    exact iff_of_true ⟨reason, rfl⟩ fun long => absurd short (Nat.not_lt.mpr long)
  · have long := Nat.not_lt.mp short
    have known : knownState token server datasetUrn =
        (knownTexts "elements" "description"
          (server (aspectPath datasetUrn "institutionalMemory"))).bind fun descriptions =>
        (knownTexts "tags" "tag" (server (aspectPath datasetUrn "globalTags"))).map
          (stateOf descriptions) := by
      rw [knownState, if_neg short]
      cases knownTexts "elements" "description"
          (server (aspectPath datasetUrn "institutionalMemory")) with
      | none => rfl
      | some descriptions =>
          cases knownTexts "tags" "tag" (server (aspectPath datasetUrn "globalTags")) <;> rfl
    rw [known, forall_prop_of_true long]
    rcases knownTexts_cases "elements" "description"
      (server (aspectPath datasetUrn "institutionalMemory")) with
      ⟨lost, unknown⟩ | ⟨missing, empty⟩ | ⟨memory, answered, same⟩
    · obtain ⟨reason, stopped⟩ := @readState_unanswered _ _ _ token server datasetUrn
        (.inl (lost_unanswered lost))
      rw [unknown, stopped]
      exact iff_of_true ⟨reason, rfl⟩ fun notLost => absurd lost notLost
    · obtain ⟨reason, stopped⟩ := @readState_unanswered _ _ _ token server datasetUrn
        (.inl fun body answered => by rw [missing] at answered; cases answered)
      rw [empty, missing, stopped, honest_uninspectable, Option.bind_some, Option.map_eq_none_iff]
      rcases knownTexts_cases "tags" "tag" (server (aspectPath datasetUrn "globalTags")) with
        ⟨lost, unknown⟩ | ⟨missing, empty⟩ | ⟨tags, answered, same⟩
      · exact iff_of_true unknown fun _ notLost => absurd lost notLost
      · rw [empty, missing]
        simp [StateSound, Lost, WellFormed, Malformed]
      · rw [same, answered]
        simp [StateSound, Lost, WellFormed, Malformed]
    · rcases knownTexts_cases "tags" "tag" (server (aspectPath datasetUrn "globalTags")) with
        ⟨lost, unknown⟩ | ⟨missing, empty⟩ | ⟨tags, answeredTags, sameTags⟩
      · obtain ⟨reason, stopped⟩ := @readState_unanswered _ _ _ token server datasetUrn
          (.inr (lost_unanswered lost))
        rw [unknown, stopped, honest_uninspectable]
        refine iff_of_true ?_ fun _ notLost => absurd lost notLost
        cases knownTexts "elements" "description"
          (server (aspectPath datasetUrn "institutionalMemory")) <;> rfl
      · obtain ⟨reason, stopped⟩ := @readState_unanswered _ _ _ token server datasetUrn
          (.inr fun body answered => by rw [missing] at answered; cases answered)
        rw [empty, missing, stopped, honest_uninspectable, same, answered]
        cases found : aspectTexts "elements" "description" memory with
        | none => simp [StateSound, Lost, WellFormed, Malformed, found]
        | some descriptions => simp [StateSound, Lost, WellFormed, Malformed, found]
      · have reading : readDataHubDecisionState token server datasetUrn =
            decisionState memory tags := by
          rw [readDataHubDecisionState, gmsGet_answered long answered,
            gmsGet_answered long answeredTags]
          rfl
        rw [reading, same, sameTags, answered, answeredTags]
        cases found : aspectTexts "elements" "description" memory with
        | none =>
            refine iff_of_false (not_honest_decided (decisionState_decided memory tags)) ?_
            simp [StateSound, Lost, WellFormed, Malformed, found]
        | some descriptions =>
            cases named : aspectTexts "tags" "tag" tags with
            | none =>
                refine iff_of_false (not_honest_decided (decisionState_decided memory tags)) ?_
                simp [StateSound, Lost, WellFormed, Malformed, named]
            | some texts =>
                refine iff_of_true (decisionState_known found named) ?_
                simp [StateSound, Lost, WellFormed, Malformed, found, named]

end DataHubReader

section Samples

def sampleToken : String := "12345678"

def absentServer : Server ℤ := fun _ => .refused 404

/-- The list of this aspect is a text. -/
def listlessAspect : JsonValue ℤ :=
  .object [("aspect", .object [("elements", .string "none"), ("tags", .string "none")])]

def nullTree : JsonValue ℤ := .object [("truncated", .bool false), ("tree", .array [.null])]

theorem sampleToken_long : ¬ utf16Length sampleToken < 8 := by decide

theorem listless_state : decisionState listlessAspect listlessAspect = .ok (stateOf [] []) := rfl

theorem listless_unknown : aspectTexts "elements" "description" listlessAspect = none := rfl

/-- The readers report a missing aspect as uninspectable, an aspect without a list as empty, and
they raise an error at a null. -/
theorem acceptance_readings_dishonest :
    (knownState sampleToken absentServer datasetUrn = some (stateOf [] []) ∧
      ¬ Honest (knownState sampleToken absentServer datasetUrn)
        (readDataHubDecisionState sampleToken absentServer datasetUrn)) ∧
    (knownState sampleToken (fun _ => .answered listlessAspect) datasetUrn = none ∧
      readDataHubDecisionState sampleToken (fun _ => .answered listlessAspect) datasetUrn =
        .ok (stateOf [] [])) ∧
    readTreeBlobs sampleToken (fun _ => .answered nullTree) "base" = .error .thrown := by
  refine ⟨⟨?_, ?_⟩, ⟨?_, ?_⟩, ?_⟩
  · rw [knownState, if_neg sampleToken_long]
    rfl
  · rw [readState_honest_iff]
    intro sound
    have known := sound (Nat.not_lt.mp sampleToken_long)
    simp [StateSound, Lost, WellFormed, Malformed, absentServer] at known
  · rw [knownState, if_neg sampleToken_long]
    change (aspectTexts "elements" "description" listlessAspect).bind _ = none
    rw [listless_unknown]
    rfl
  · rw [readDataHubDecisionState, gmsGet_answered (Nat.not_lt.mp sampleToken_long) rfl,
      gmsGet_answered (Nat.not_lt.mp sampleToken_long) rfl]
    exact listless_state
  · rw [readTreeBlobs, githubGet, get, reject, if_neg sampleToken_long]
    rfl

end Samples

section Theorem

variable {Number : Type} [Zero Number] [DecidableEq Number]

/-- Each reader is honest about the answers of a server exactly when none of them holds a null or an
unchecked member of another type that it reads, and no aspect of a known state is missing. -/
theorem acceptance_readings_honest (script : Script) (collation : Collation String)
    (isUrl : String → Bool) (numerals : Numerals Number) (token readToken : String)
    (github gms : Server Number) :
    (∀ prNumber, Honest ((shown token github (pullPath prNumber)).bind knownPullRequest)
        (readPullRequest token github prNumber) ↔
      ∀ pr, shown token github (pullPath prNumber) = some pr → Sound PullChecked PullTyped pr) ∧
    (∀ sha, Honest ((shown token github (commitPath sha)).bind knownCommit)
        (readCommit token github sha) ↔
      ∀ commit, shown token github (commitPath sha) = some commit →
        Sound CommitChecked CommitTyped commit) ∧
    (∀ treeSha, Honest ((shown token github (treePath treeSha)).bind fun listing =>
        (knownBlobs listing).map blobsJson) (readTreeBlobs token github treeSha) ↔
      ∀ listing, shown token github (treePath treeSha) = some listing →
        Sound TreeChecked TreeTyped listing) ∧
    (∀ prNumber repository,
      Honest (knownSource token github script collation isUrl numerals prNumber repository)
        (readPullRequestSourceIdentity token github script collation isUrl numerals prNumber
          repository) ↔
      ∀ pr, shown token github (pullPath prNumber) = some pr →
        SourceSound script collation isUrl numerals repository token github prNumber pr) ∧
    ∀ datasetUrn, Honest (knownState readToken gms datasetUrn)
        (readDataHubDecisionState readToken gms datasetUrn) ↔
      (8 ≤ utf16Length readToken → StateSound (gms (aspectPath datasetUrn "institutionalMemory"))
        (gms (aspectPath datasetUrn "globalTags"))) := by
  refine ⟨?_, ?_, ?_, ?_, ?_⟩
  · exact readPullRequest_honest_iff token github
  · exact readCommit_honest_iff token github
  · exact readTreeBlobs_honest_iff token github
  · intro prNumber repository
    exact readSource_honest_iff script collation isUrl numerals repository token github prNumber
  · exact readState_honest_iff readToken gms

end Theorem

end LineageGuard.Acceptance.Inspect
