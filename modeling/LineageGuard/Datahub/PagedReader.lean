import LineageGuard.Datahub.Pagination
import LineageGuard.Domain.Evidence
import Mathlib.Tactic

/-
This file translates the page contracts and the reads that go through all pages of a search.
-/

namespace LineageGuard.Datahub

open Json Dialogue Attempt Contract

section Contracts

def maxPageItems : ℕ := 200

def boundedText : Reader String := checkedText fun text => utf16Length text ≤ 65536

def urn : Reader String :=
  checkedText fun text => "urn:li:".toList.isPrefixOf text.toList && utf16Length text ≤ 4096

/-- A page has as many items as its count and its total leave from its start. -/
structure OfficialPage (Item : Type) where
  count : ℕ
  start : ℕ
  total : ℕ
  items : List Item
  fits : items.length = min count (total - start)

/-- The items stand under this key, and a missing list is empty. -/
def pageReader {Item : Type} (keys : List String) (key : String) (item : Reader Item) :
    Reader (OfficialPage Item) := fun value => do
  let members ← strictObject keys value
  let count ← member nonnegativeInteger "count" members
  let items := (← optionalMember (listOf maxPageItems item) key members).getD []
  let start ← member nonnegativeInteger "start" members
  let total ← member nonnegativeInteger "total" members
  if fits : items.length = min count (total - start) then some ⟨count, start, total, items, fits⟩
  else none

structure SearchEntity where
  urn : String

structure SearchResult where
  entity : SearchEntity
  matchedFields : Option (List String)

def searchEntity : Reader SearchEntity := fun value => do
  let members ← passingObject value
  return ⟨← member urn "urn" members⟩

def searchResult : Reader SearchResult := fun value => do
  let members ← strictObject ["entity", "matchedFields"] value
  let entity ← member searchEntity "entity" members
  return ⟨entity, ← optionalMember (listOf 100 boundedText) "matchedFields" members⟩

def parseSearchPage : Reader (OfficialPage SearchResult) :=
  pageReader ["count", "facets", "searchResults", "start", "total"] "searchResults" searchResult

structure QueryStatement where
  language : Option String
  value : String

structure QueryModification where
  actor : Option String
  time : Option ℕ

structure QueryProperties where
  description : Option (Option String)
  lastModified : Option QueryModification
  name : Option (Option String)
  source : String
  statement : QueryStatement

structure QueryPlatform where
  name : Option String
  urn : String

structure DatasetQuery where
  platform : QueryPlatform
  properties : QueryProperties
  subjects : List String
  urn : String

def queryStatement : Reader QueryStatement := fun value => do
  let members ← strictObject ["language", "value"] value
  return ⟨← optionalMember boundedText "language" members, ← member boundedText "value" members⟩

def queryModification : Reader QueryModification := fun value => do
  let members ← strictObject ["actor", "time"] value
  return ⟨← optionalMember urn "actor" members,
    ← optionalMember nonnegativeInteger "time" members⟩

def queryProperties : Reader QueryProperties := fun value => do
  let members ← strictObject ["description", "lastModified", "name", "source", "statement"] value
  return {
    description := ← optionalMember (nullable boundedText) "description" members
    lastModified := ← optionalMember queryModification "lastModified" members
    name := ← optionalMember (nullable boundedText) "name" members
    source := ← member (checkedText ["MANUAL", "SYSTEM"].contains) "source" members
    statement := ← member queryStatement "statement" members }

def queryPlatform : Reader QueryPlatform := fun value => do
  let members ← strictObject ["name", "urn"] value
  return ⟨← optionalMember boundedText "name" members, ← member urn "urn" members⟩

def datasetQuery : Reader DatasetQuery := fun value => do
  let members ← strictObject ["platform", "properties", "subjects", "urn"] value
  return {
    platform := ← member queryPlatform "platform" members
    properties := ← member queryProperties "properties" members
    subjects := ← member (listOf 200 urn) "subjects" members
    urn := ← member urn "urn" members }

def parseQueryPage : Reader (OfficialPage DatasetQuery) :=
  pageReader ["count", "queries", "start", "total"] "queries" datasetQuery

end Contracts

section Observations

structure RawToolInvocation where
  invocationId : String
  payload : Value
  responseFingerprint : String
  retrievedAt : String
  tool : Domain.Tool

structure OfficialObservation (Data : Type) where
  data : Data
  invocation : RawToolInvocation

structure ToolCall where
  tool : Domain.Tool
  arguments : Value

/-- An invocation is given or it raises an error. -/
abbrev ToolReply (_ : ToolCall) : Type := Except Thrown RawToolInvocation

/-- The error names the invocation and the tool. -/
def invocationError (code : DataHubAdapterErrorCode) (message : String)
    (invocation : RawToolInvocation) (tool : Domain.Tool) : Thrown :=
  .adapter ⟨⟨code, message, false⟩, some invocation.invocationId, some tool⟩

/-- This is what `observe` makes of the answer to its invocation. -/
def observe {Data : Type} (tool : Domain.Tool) (parse : Reader Data)
    (reply : Except Thrown RawToolInvocation) : Except Thrown (OfficialObservation Data) := do
  let invocation ← reply
  require (invocation.tool = tool) (invocationError .malformedResponse
    "DataHub MCP invocation identity did not match the requested tool." invocation tool)
  let data ← present (parse invocation.payload) (invocationError .malformedResponse
    "Official DataHub MCP response schema changed or is malformed." invocation tool)
  return ⟨data, invocation⟩

end Observations

section Collections

variable {Item : Type}

structure PagedItem (Item : Type) where
  item : Item
  page : OfficialObservation (OfficialPage Item)

/-- These variables are captured by the fetcher of a collection. -/
structure PagingState (Item : Type) where
  resultTotal : Option ℕ
  pages : List (OfficialObservation (OfficialPage Item))
  lastInvocation : Option RawToolInvocation

/-- A search reads all pages of one tool and looks for one item. -/
structure PagedSearch (Item : Type) where
  tool : Domain.Tool
  arguments : ℕ → ℕ → Value
  parse : Reader (OfficialPage Item)
  totalSubject : String
  urnOf : Item → String
  targetUrn : String
  subject : String
  missing : String

variable (search : PagedSearch Item)

def stablePageTotal (expected : Option ℕ) (actual : ℕ) (invocation : RawToolInvocation)
    (subject : String) : Except Thrown ℕ := do
  reject (∃ total ∈ expected, actual ≠ total) (invocationError .schemaDrift
    ("DataHub " ++ subject ++ " changed during pagination.") invocation invocation.tool)
  return expected.getD actual

/-- The page must start at the requested offset and agree on the total. -/
def judgePage (offset : ℕ) (state : PagingState Item) (reply : Except Thrown RawToolInvocation) :
    Except Thrown (DataHubPage (PagedItem Item) × PagingState Item) := do
  let observation ← observe search.tool search.parse reply
  require (observation.data.start = offset) (invocationError .cursorCycle
    "DataHub pagination did not return the requested offset." observation.invocation
    observation.invocation.tool)
  let resultTotal ← stablePageTotal state.resultTotal observation.data.total
    observation.invocation search.totalSubject
  let nextOffset := observation.data.start + observation.data.count
  return (⟨some (observation.data.items.map fun item => ⟨item, observation⟩),
      if nextOffset ≥ resultTotal then none else some (.integer nextOffset)⟩,
    ⟨some resultTotal, state.pages ++ [observation], some observation.invocation⟩)

/-- An error leaves the captured variables as they are. -/
def fetchPage : Fetcher ToolCall ToolReply (PagingState Item) (PagedItem Item) :=
  fun offset pageSize state =>
    .ask ⟨search.tool, search.arguments offset pageSize⟩ fun reply =>
      .done ((judgePage search offset state reply).mapError fun error => (error, state))

/-- An error without an invocation takes the last one. -/
def attributed (tool : Domain.Tool) (lastInvocation : Option RawToolInvocation) : Thrown → Thrown
  | .adapter error =>
      match error.invocationId, lastInvocation with
      | none, some invocation =>
          .adapter ⟨error.toDataHubAdapterError, some invocation.invocationId, some tool⟩
      | _, _ => .adapter error
  | .other => .other

structure ObservedPages (Item : Type) where
  items : List (PagedItem Item)
  pages : List (OfficialObservation (OfficialPage Item))

def collectObservedPages : Program ToolCall ToolReply Thrown (ObservedPages Item) :=
  (collectBoundedPages (fetchPage search) ⟨none, [], none⟩).conclude fun
    | .ok (items, state) => .ok ⟨items, state.pages⟩
    | .error (error, state) => .error (attributed search.tool state.lastInvocation error)

def pageInvocation (found : List (PagedItem Item))
    (pages : List (OfficialObservation (OfficialPage Item))) : Except Thrown RawToolInvocation :=
  present ((found.getLast?.map (·.page.invocation)).or (pages.getLast?.map (·.invocation)))
    (readError .malformedResponse "DataHub pagination produced no observable page.")

def requireUniqueResolution (count : ℕ) (invocation : RawToolInvocation) (subject : String) :
    Except Thrown Unit := do
  reject (count = 0) (invocationError .notFound
    ("Canonical DataHub " ++ subject ++ " was not found.") invocation invocation.tool)
  require (count = 1) (invocationError .ambiguous
    ("Canonical DataHub " ++ subject ++ " resolution was ambiguous.") invocation invocation.tool)

structure PagedProof (Item : Type) where
  pages : List (OfficialObservation (OfficialPage Item))
  proof : OfficialObservation (OfficialPage Item)

/-- The target must be the only item of its name on all pages. -/
def resolve (paged : ObservedPages Item) : Except Thrown (PagedProof Item) := do
  let found := paged.items.filter fun result => search.urnOf result.item = search.targetUrn
  let invocation ← pageInvocation found paged.pages
  requireUniqueResolution found.length invocation search.subject
  let proof ← present (found.head?.map (·.page)) (readError .notFound search.missing)
  return ⟨paged.pages, proof⟩

def collectUnique : Program ToolCall ToolReply Thrown (PagedProof Item) :=
  (collectObservedPages search).conclude fun paged => paged >>= resolve search

end Collections

section Reads

structure CanonicalCollectionTargets where
  database : String
  dataset : String
  environment : String
  field : String
  platform : String
  platformInstance : String
  queryUrn : String
  revenueUrn : String
  schema : String
  sourceUrn : String

variable (targets : CanonicalCollectionTargets)

def resolutionSearch : PagedSearch SearchResult where
  tool := .search
  arguments offset pageSize := .object [
    ("filter", .string ("entity_type = dataset AND platform = " ++ targets.platform ++
      " AND env = " ++ targets.environment)),
    ("num_results", .number pageSize),
    ("offset", .number offset),
    ("query", .string ("/q " ++ targets.platformInstance ++ "+" ++ targets.database ++ "+" ++
      targets.schema ++ "+" ++ targets.dataset))]
  parse := parseSearchPage
  totalSubject := "search result total"
  urnOf result := result.entity.urn
  targetUrn := targets.sourceUrn
  subject := "dataset"
  missing := "Canonical DataHub dataset was not found."

def collectResolutionSearch : Program ToolCall ToolReply Thrown (PagedProof SearchResult) :=
  collectUnique (resolutionSearch targets)

def queryDiscovery : PagedSearch DatasetQuery where
  tool := .getDatasetQueries
  arguments offset pageSize := .object [
    ("column", .string targets.field),
    ("count", .number pageSize),
    ("source", .string "SYSTEM"),
    ("start", .number offset),
    ("urn", .string targets.revenueUrn)]
  parse := parseQueryPage
  totalSubject := "query result total"
  urnOf query := query.urn
  targetUrn := targets.queryUrn
  subject := "query"
  missing := "Canonical DataHub query was not found."

def collectQueryDiscovery : Program ToolCall ToolReply Thrown (PagedProof DatasetQuery) :=
  collectUnique (queryDiscovery targets)

end Reads

end LineageGuard.Datahub
