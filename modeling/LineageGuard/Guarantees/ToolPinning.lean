import LineageGuard.Datahub.MutationTools
import LineageGuard.Domain.SourceAllowlist
import Mathlib.Tactic

/-
This file proves which declarations of the mutation tools the connection accepts and that only the
parameters with the names of annotations escape the pinned schemas.
-/

namespace LineageGuard.Datahub

open Json JsonValue Dialogue

section Annotations

variable {Number : Type}

/-- A value is a schema, a map or a list of schemas, or any other value of a keyword. -/
inductive Position
  | schema
  | parameters
  | schemas
  | plain
  deriving DecidableEq

/-- The keyword of a schema tells what its value is. -/
def positionOf (keyword : String) : Position :=
  if ["properties", "patternProperties", "$defs", "definitions", "dependentSchemas"].contains
      keyword then .parameters
  else if ["anyOf", "allOf", "oneOf", "prefixItems"].contains keyword then .schemas
  else if ["items", "additionalProperties", "contains", "propertyNames", "not", "if", "then",
      "else"].contains keyword then .schema
  else .plain

mutual

/-- The descriptions and titles of schemas are left out, and the names of parameters stay. -/
def withoutAnnotations : Position → JsonValue Number → JsonValue Number
  | .schema, .object members => .object (plainKeywords members)
  | .parameters, .object members => .object (plainParameters members)
  | .schemas, .array items => .array (plainSchemas items)
  | _, value => value

def plainKeywords : List (String × JsonValue Number) → List (String × JsonValue Number)
  | [] => []
  | (key, value) :: rest =>
      if isAnnotation key then plainKeywords rest
      else (key, withoutAnnotations (positionOf key) value) :: plainKeywords rest

def plainParameters : List (String × JsonValue Number) → List (String × JsonValue Number)
  | [] => []
  | (key, value) :: rest => (key, withoutAnnotations .schema value) :: plainParameters rest

def plainSchemas : List (JsonValue Number) → List (JsonValue Number)
  | [] => []
  | item :: rest => withoutAnnotations .schema item :: plainSchemas rest

end

/-- These are the parameters that have the name of an annotation. -/
def namedLikeAnnotations (parameters : List (String × JsonValue Number)) :
    List (String × JsonValue Number) :=
  (plainParameters parameters).filter fun member => isAnnotation member.1

def OfficialSchema (name : MutationToolName) (schema : JsonValue Number) : Prop :=
  SameAs (withoutAnnotations .schema schema) (officialMutationInputSchema name)

/-- The schema has a parameter with the name of an annotation only where the official one does. -/
def OfficialNames (name : MutationToolName) (schema : JsonValue Number) : Prop :=
  (∀ content, schema ≠ .string content) ∧ ∀ members parameters, schema = .object members →
    ("properties", .object parameters) ∈ members →
    namedLikeAnnotations parameters = namedLikeAnnotations (officialParameters name)

end Annotations

section Statements

variable {Number : Type} (numbers : NumberWriter Number) (collation : Collation String)
variable (digest : List Char → String)

/-- This is the text behind the pinned fingerprint. -/
def pinnedText (name : MutationToolName) : List Char :=
  (normalizeInputSchema (officialMutationInputSchema name)).stableJson collation numbers

/-- No other text has a pinned fingerprint. -/
def CollisionFree : Prop :=
  ∀ name text, digest text = expectedInputSchemaFingerprint name →
    text = pinnedText numbers collation name

/-- The tool is declared once, without annotations and with a schema for which this holds. -/
def DeclaredOnce (tools : List (DiscoveredTool Number)) (name : MutationToolName)
    (accepts : JsonValue Number → Prop) : Prop :=
  ∃ declaration schema, (tools.filter fun tool => tool.name = name.text) = [declaration] ∧
    declaration.annotations = none ∧ declaration.inputSchema = some schema ∧ accepts schema

/-- The connection accepts only the official schemas, and otherwise it closes the session and
invokes no tool. -/
def Pins (tools : List (DiscoveredTool Number)) : Prop :=
  ∀ rest result, Runs (connect numbers collation digest) (⟨.listTools, .ok tools⟩ :: rest) result →
    (∀ client, result = .ok client → rest = [] ∧
      ∀ name, DeclaredOnce tools name (OfficialSchema name)) ∧
    ∀ error, result = .error error → ∃ closed, rest = [⟨.close, closed⟩]

/-- The normal form of the schema has the pinned fingerprint. -/
def HasFingerprint (name : MutationToolName) (schema : JsonValue Number) : Prop :=
  sha256Of numbers collation digest (normalizeInputSchema schema) =
    expectedInputSchemaFingerprint name

/-- Tools whose declarations have the pinned fingerprints use the official names. -/
def OnlyOfficialNames (tools : List (DiscoveredTool Number)) : Prop :=
  (∀ name, DeclaredOnce tools name (HasFingerprint numbers collation digest name)) →
    ∀ name, DeclaredOnce tools name (OfficialNames name)

end Statements

section Shapes

variable {Number : Type}

theorem normalizedMembers_eq (members : List (String × JsonValue Number)) :
    normalizedMembers members = (members.filter fun member => ! isAnnotation member.1).map
      fun member => (member.1, normalizeInputSchema member.2) := by
  induction members with
  | nil => rfl
  | cons member rest ih =>
      obtain ⟨key, value⟩ := member
      rw [normalizedMembers, ih]
      cases named : isAnnotation key with
      | true => rw [if_pos rfl, List.filter_cons_of_neg (by simp [named])]
      | false => rw [if_neg Bool.false_ne_true, List.filter_cons_of_pos (by simp [named]),
          List.map_cons]

theorem normalizedItems_eq (items : List (JsonValue Number)) :
    normalizedItems items = items.map normalizeInputSchema := by
  induction items with
  | nil => rfl
  | cons item rest ih => rw [normalizedItems, ih, List.map_cons]

theorem plainKeywords_eq (members : List (String × JsonValue Number)) :
    plainKeywords members = (members.filter fun member => ! isAnnotation member.1).map
      fun member => (member.1, withoutAnnotations (positionOf member.1) member.2) := by
  induction members with
  | nil => rfl
  | cons member rest ih =>
      obtain ⟨key, value⟩ := member
      rw [plainKeywords, ih]
      cases named : isAnnotation key with
      | true => rw [if_pos rfl, List.filter_cons_of_neg (by simp [named])]
      | false => rw [if_neg Bool.false_ne_true, List.filter_cons_of_pos (by simp [named]),
          List.map_cons]

theorem plainParameters_eq (members : List (String × JsonValue Number)) :
    plainParameters members =
      members.map fun member => (member.1, withoutAnnotations .schema member.2) := by
  induction members with
  | nil => rfl
  | cons member rest ih => rw [plainParameters, ih, List.map_cons]

theorem plainSchemas_eq (items : List (JsonValue Number)) :
    plainSchemas items = items.map (withoutAnnotations .schema) := by
  induction items with
  | nil => rfl
  | cons item rest ih => rw [plainSchemas, ih, List.map_cons]

mutual

/-- Every object of the value is a schema without annotations. -/
def schemasOnly : Position → JsonValue Number → Bool
  | .schema, .object members => keywordsOnly members
  | _, .object _ => false
  | .schemas, .array items => itemsOnly .schema items
  | _, .array items => itemsOnly .plain items
  | _, _ => true

def itemsOnly : Position → List (JsonValue Number) → Bool
  | _, [] => true
  | position, item :: rest => schemasOnly position item && itemsOnly position rest

def keywordsOnly : List (String × JsonValue Number) → Bool
  | [] => true
  | (key, value) :: rest =>
      ! isAnnotation key && schemasOnly (positionOf key) value && keywordsOnly rest

end

/-- A value that is no list and no object equals its normal form. -/
theorem normalized_leaf {value other : JsonValue Number} (leaf : ∀ items, other ≠ .array items)
    (alone : ∀ members, other ≠ .object members) (same : normalizeInputSchema value = other) :
    value = other := by
  cases value with
  | array items => exact absurd same.symm (leaf _)
  | object members => exact absurd same.symm (alone _)
  | _ => exact same

theorem plain_leaf {value other : JsonValue Number} (leaf : ∀ items, other ≠ .array items)
    (alone : ∀ members, other ≠ .object members) (position : Position)
    (same : normalizeInputSchema value = other) :
    withoutAnnotations position value = normalizeInputSchema value := by
  obtain rfl := normalized_leaf leaf alone same
  cases value with
  | array items => exact absurd rfl (leaf items)
  | object members => exact absurd rfl (alone members)
  | _ => cases position <;> rfl

mutual

/-- Where every expected object is a schema, nothing but annotations is left out. -/
theorem normalized_plain : ∀ (other : JsonValue Number) (position : Position)
    (value : JsonValue Number), schemasOnly position other = true →
    SameAs (normalizeInputSchema value) other →
    withoutAnnotations position value = normalizeInputSchema value
  | .null, position, value, _, same => plain_leaf (by simp) (by simp) position same
  | .bool _, position, value, _, same => plain_leaf (by simp) (by simp) position same
  | .number _, position, value, _, same => plain_leaf (by simp) (by simp) position same
  | .string _, position, value, _, same => plain_leaf (by simp) (by simp) position same
  | .array others, position, value, only, same => by
      obtain ⟨found, isFound, each⟩ := same
      cases value with
      | array items =>
          rw [normalizeInputSchema, JsonValue.array.injEq, normalizedItems_eq] at isFound
          subst isFound
          have items_eq := fun position only => normalized_items others position items only
            (sameItems_iff.mp each)
          cases position with
          | schemas =>
              rw [withoutAnnotations, normalizeInputSchema, plainSchemas_eq, normalizedItems_eq]
              exact congrArg JsonValue.array (List.map_congr_left (items_eq .schema only))
          | _ =>
              have kept := List.map_congr_left (items_eq .plain only)
              have plain : (withoutAnnotations .plain : JsonValue Number → JsonValue Number) =
                  id := by
                funext value
                cases value <;> rfl
              rw [plain, List.map_id] at kept
              rw [normalizeInputSchema, normalizedItems_eq, ← kept]
              rfl
      | object members => simp [normalizeInputSchema] at isFound
      | _ => simp [normalizeInputSchema] at isFound
  | .object others, position, value, only, same => by
      obtain ⟨found, ordered, isFound, perm, each⟩ := same
      cases value with
      | object members =>
          rw [normalizeInputSchema, JsonValue.object.injEq, normalizedMembers_eq] at isFound
          subst isFound
          cases position with
          | schema =>
              rw [withoutAnnotations, normalizeInputSchema, plainKeywords_eq,
                normalizedMembers_eq]
              refine congrArg JsonValue.object (List.map_congr_left fun member present => ?_)
              have among : (member.1, normalizeInputSchema member.2) ∈ ordered :=
                perm.mem_iff.mp (List.mem_map_of_mem present)
              rw [normalized_members others ordered only (sameMembers_iff.mp each) member.1
                member.2 among]
          | _ => simp [schemasOnly] at only
      | array items => simp [normalizeInputSchema] at isFound
      | _ => simp [normalizeInputSchema] at isFound

theorem normalized_items : ∀ (others : List (JsonValue Number)) (position : Position)
    (items : List (JsonValue Number)), itemsOnly position others = true →
    List.Forall₂ SameAs (items.map normalizeInputSchema) others →
    ∀ item ∈ items, withoutAnnotations position item = normalizeInputSchema item
  | [], position, items, _, each => by
      rw [List.forall₂_nil_right_iff, List.map_eq_nil_iff] at each
      rw [each]
      exact fun item present => absurd present List.not_mem_nil
  | other :: rest, position, items, only, each => by
      rw [itemsOnly, Bool.and_eq_true] at only
      cases items with
      | nil => exact fun item present => absurd present List.not_mem_nil
      | cons item remaining =>
          rw [List.map_cons, List.forall₂_cons] at each
          rw [List.forall_mem_cons]
          exact ⟨normalized_plain other position item only.1 each.1,
            normalized_items rest position remaining only.2 each.2⟩

theorem normalized_members : ∀ (others ordered : List (String × JsonValue Number)),
    keywordsOnly others = true → List.Forall₂ SameMember ordered others →
    ∀ key value, (key, normalizeInputSchema value) ∈ ordered →
    withoutAnnotations (positionOf key) value = normalizeInputSchema value
  | [], ordered, _, each => by
      rw [List.forall₂_nil_right_iff] at each
      rw [each]
      exact fun key value present => absurd present List.not_mem_nil
  | (key, other) :: rest, ordered, only, each => by
      rw [keywordsOnly, Bool.and_eq_true, Bool.and_eq_true] at only
      cases ordered with
      | nil => exact fun key value present => absurd present List.not_mem_nil
      | cons member remaining =>
          rw [List.forall₂_cons] at each
          intro found value present
          rcases List.mem_cons.mp present with first | later
          · obtain rfl : found = key := (congrArg Prod.fst first).trans each.1.1
            have values : normalizeInputSchema value = member.2 := congrArg Prod.snd first
            exact normalized_plain other (positionOf found) value only.1.2 (values ▸ each.1.2)
          · exact normalized_members rest remaining only.2 each.2 found value later

end

mutual

theorem normalized_self : ∀ (value : JsonValue Number) (position : Position),
    schemasOnly position value = true → normalizeInputSchema value = value
  | .null, _, _ => rfl
  | .bool _, _, _ => rfl
  | .number _, _, _ => rfl
  | .string _, _, _ => rfl
  | .array items, position, only => by
      rw [normalizeInputSchema, normalizedItems_eq]
      have kept : ∀ item ∈ items, normalizeInputSchema item = item := by
        cases position with
        | schemas => exact normalized_items_self items .schema only
        | _ => exact normalized_items_self items .plain only
      rw [List.map_congr_left kept, List.map_id']
  | .object members, position, only => by
      cases position with
      | schema =>
          rw [normalizeInputSchema, normalized_members_self members only]
      | _ => simp [schemasOnly] at only

theorem normalized_items_self : ∀ (items : List (JsonValue Number)) (position : Position),
    itemsOnly position items = true → ∀ item ∈ items, normalizeInputSchema item = item
  | [], _, _ => fun item present => absurd present List.not_mem_nil
  | first :: rest, position, only => by
      rw [itemsOnly, Bool.and_eq_true] at only
      rw [List.forall_mem_cons]
      exact ⟨normalized_self first position only.1, normalized_items_self rest position only.2⟩

theorem normalized_members_self : ∀ members : List (String × JsonValue Number),
    keywordsOnly members = true → normalizedMembers members = members
  | [], _ => rfl
  | (key, value) :: rest, only => by
      rw [keywordsOnly, Bool.and_eq_true, Bool.and_eq_true, Bool.not_eq_true'] at only
      rw [normalizedMembers, only.1.1, if_neg Bool.false_ne_true,
        normalized_self value (positionOf key) only.1.2, normalized_members_self rest only.2]

end

theorem plain_self {value : JsonValue Number} {position : Position}
    (only : schemasOnly position value = true) : withoutAnnotations position value = value := by
  have normal := normalized_self value position only
  have same : SameAs (normalizeInputSchema value) value := by
    rw [normal]
    exact sameAs_refl value
  rw [normalized_plain value position value only same, normal]

end Shapes

section Parameters

variable {Number : Type}

/-- Related lists relate their items. -/
theorem forall₂_members {Left Right : Type} {related : Left → Right → Prop} {items : List Left}
    {others : List Right} (each : List.Forall₂ related items others) :
    List.Forall₂ (fun item other => item ∈ items ∧ other ∈ others ∧ related item other) items
      others := by
  induction each with
  | nil => exact .nil
  | @cons item other items others first later ih =>
      refine .cons ⟨List.mem_cons_self, List.mem_cons_self, first⟩ (ih.imp ?_)
      rintro left right ⟨isLeft, isRight, same⟩
      exact ⟨List.mem_cons_of_mem _ isLeft, List.mem_cons_of_mem _ isRight, same⟩

/-- Related members keep their order when the members of some keys are taken. -/
theorem sameMember_filter {members others : List (String × JsonValue Number)}
    (each : List.Forall₂ SameMember members others) (wanted : String → Bool) :
    List.Forall₂ SameMember (members.filter fun member => wanted member.1)
      (others.filter fun member => wanted member.1) := by
  induction each with
  | nil => exact .nil
  | @cons member other members others first later ih =>
      cases taken : wanted other.1 with
      | true =>
          rw [List.filter_cons_of_pos (by rw [first.1, taken]),
            List.filter_cons_of_pos (by rw [taken])]
          exact .cons first ih
      | false =>
          rw [List.filter_cons_of_neg (by rw [first.1, taken]; exact Bool.false_ne_true),
            List.filter_cons_of_neg (by rw [taken]; exact Bool.false_ne_true)]
          exact ih

theorem plainParameters_self {others : List (String × JsonValue Number)}
    (only : ∀ member ∈ others, schemasOnly .schema member.2 = true) :
    plainParameters others = others := by
  rw [plainParameters_eq]
  have kept : ∀ member ∈ others,
      (member.1, withoutAnnotations .schema member.2) = member := fun member present => by
    rw [plain_self (only member present)]
  rw [List.map_congr_left kept, List.map_id']

theorem plainParameters_filter (wanted : String → Bool)
    (parameters : List (String × JsonValue Number)) :
    (plainParameters parameters).filter (fun member => wanted member.1) =
      plainParameters (parameters.filter fun member => wanted member.1) := by
  rw [plainParameters_eq, plainParameters_eq, List.filter_map]
  rfl

/-- Parameters with the normal form and the named ones of others are the same. -/
theorem parameters_same {parameters others : List (String × JsonValue Number)}
    (only : ∀ member ∈ others, schemasOnly .schema member.2 = true)
    (same : SameAs (normalizeInputSchema (.object parameters))
      (normalizeInputSchema (.object others)))
    (names : namedLikeAnnotations parameters = namedLikeAnnotations others) :
    SameAs (.object (plainParameters parameters)) (.object others) := by
  rw [normalizeInputSchema, normalizeInputSchema, sameAs_object, normalizedMembers_eq,
    normalizedMembers_eq] at same
  obtain ⟨ordered, perm, each⟩ := same
  obtain ⟨kept, reordered, rfl⟩ := perm_of_map perm
  have others_kept : (others.filter fun member => ! isAnnotation member.1).map
      (fun member => (member.1, normalizeInputSchema member.2)) =
      others.filter fun member => ! isAnnotation member.1 := by
    have self : ∀ member ∈ others.filter fun member => ! isAnnotation member.1,
        (member.1, normalizeInputSchema member.2) = member := fun member present => by
      rw [normalized_self member.2 .schema (only member (List.mem_filter.mp present).1)]
    rw [List.map_congr_left self, List.map_id']
  rw [others_kept, List.forall₂_map_left_iff] at each
  have plain : List.Forall₂ SameMember (plainParameters kept)
      (others.filter fun member => ! isAnnotation member.1) := by
    rw [plainParameters_eq, List.forall₂_map_left_iff]
    refine (forall₂_members each).imp ?_
    rintro member other ⟨_, isOther, keys, values⟩
    refine ⟨keys, ?_⟩
    show SameAs (withoutAnnotations .schema member.2) other.2
    rw [normalized_plain other.2 .schema member.2 (only other (List.mem_filter.mp isOther).1)
      values]
    exact values
  have named : namedLikeAnnotations parameters =
      others.filter fun member => isAnnotation member.1 := by
    rw [names, namedLikeAnnotations, plainParameters_self only]
  have whole := List.rel_append plain (sameMembers_refl (namedLikeAnnotations parameters))
  rw [named] at whole
  obtain ⟨final, swapped, related⟩ := sameMember_perm whole
    (List.perm_append_comm.trans (List.filter_append_perm (fun member => isAnnotation member.1)
      others))
  refine sameAs_object.mpr ⟨final, ?_, related⟩
  have parts : (plainParameters parameters).Perm (plainParameters kept ++
      namedLikeAnnotations parameters) := by
    have split := (List.filter_append_perm (fun member => isAnnotation member.1)
      (plainParameters parameters)).symm.trans List.perm_append_comm
    rw [plainParameters_filter (fun key => ! isAnnotation key)] at split
    refine split.trans (List.Perm.append_right _ ?_)
    rw [plainParameters_eq, plainParameters_eq]
    exact reordered.map _
  rw [named] at parts
  exact parts.trans swapped

end Parameters

section Official

variable {Number : Type} {name : MutationToolName} {schema : JsonValue Number}

theorem officialParameters_only :
    ∀ member ∈ (officialParameters name : List (String × JsonValue Number)),
      schemasOnly .schema member.2 = true := by
  have all : (officialParameters name : List (String × JsonValue Number)).all
      (fun member => schemasOnly .schema member.2) = true := by
    cases name <;> rfl
  exact fun member present => List.all_eq_true.mp all member present

/-- Every member of an official schema but its parameters holds schemas only. -/
theorem officialMembers_cases {member : String × JsonValue Number}
    (present : member ∈ officialMembers name) :
    member = ("properties", .object (officialParameters name)) ∨
      (member.1 ≠ "properties" ∧ schemasOnly (positionOf member.1) member.2 = true) := by
  simp only [officialMembers, List.mem_cons, List.not_mem_nil, or_false] at present
  rcases present with rfl | rfl | rfl | rfl
  · exact Or.inr ⟨by simp, rfl⟩
  · exact Or.inl rfl
  · exact Or.inr ⟨by simp, by cases name <;> rfl⟩
  · exact Or.inr ⟨by simp, rfl⟩

theorem officialMembers_kept : (officialMembers name : List (String × JsonValue Number)).filter
    (fun member => ! isAnnotation member.1) = officialMembers name := by
  rw [List.filter_eq_self]
  intro member present
  simp only [officialMembers, List.mem_cons, List.not_mem_nil, or_false] at present
  rcases present with rfl | rfl | rfl | rfl <;> rfl

/-- A schema with the normal form and the parameter names of the official one is official. -/
theorem official_of_names (same : SameAs (normalizeInputSchema schema)
      (normalizeInputSchema (officialMutationInputSchema name)))
    (names : OfficialNames name schema) : OfficialSchema name schema := by
  have shape := same
  rw [officialMutationInputSchema, normalizeInputSchema] at shape
  obtain ⟨_, _, isObject, _, _⟩ := shape
  cases schema with
  | object members =>
      rw [officialMutationInputSchema, normalizeInputSchema, normalizeInputSchema, sameAs_object,
        normalizedMembers_eq, normalizedMembers_eq, officialMembers_kept] at same
      obtain ⟨ordered, perm, each⟩ := same
      obtain ⟨kept, reordered, rfl⟩ := perm_of_map perm
      rw [List.forall₂_map_left_iff, List.forall₂_map_right_iff] at each
      rw [OfficialSchema, officialMutationInputSchema, withoutAnnotations, sameAs_object,
        plainKeywords_eq]
      refine ⟨_, reordered.map _, ?_⟩
      rw [List.forall₂_map_left_iff]
      refine (forall₂_members each).imp ?_
      rintro ⟨key, value⟩ other ⟨isKept, isOther, keys, values⟩
      refine ⟨keys, ?_⟩
      show SameAs (withoutAnnotations (positionOf key) value) other.2
      obtain rfl : key = other.1 := keys
      rcases officialMembers_cases isOther with rfl | ⟨_, only⟩
      · have position : positionOf "properties" = .parameters := rfl
        have listed := (List.mem_filter.mp (reordered.mem_iff.mpr isKept)).1
        have found := values
        rw [normalizeInputSchema] at found
        obtain ⟨_, _, parametersObject, _, _⟩ := found
        cases value with
        | object parameters =>
            rw [position]
            exact parameters_same officialParameters_only values
              (names.2 members parameters rfl listed)
        | array items => simp [normalizeInputSchema] at parametersObject
        | _ => simp [normalizeInputSchema] at parametersObject
      · rw [normalized_self other.2 _ only] at values
        rw [normalized_plain other.2 _ value only values]
        exact values
  | array items => simp [normalizeInputSchema] at isObject
  | _ => simp [normalizeInputSchema] at isObject

theorem same_typed {value : JsonValue Number} {content : String}
    (same : SameAs value (typed content)) : value = typed content := by
  rw [typed] at same
  obtain ⟨members, ordered, rfl, perm, each⟩ := same
  obtain ⟨found, remaining, rfl, rfl, none⟩ := each
  obtain rfl : remaining = [] := none
  rw [List.perm_singleton.mp perm]
  rfl

/-- The official schemas have one parameter with the name of an annotation at most. -/
theorem official_named : (officialParameters name : List (String × JsonValue Number)).filter
    (fun member => isAnnotation member.1) = [] ∨
      (officialParameters name : List (String × JsonValue Number)).filter
          (fun member => isAnnotation member.1) =
        [("title", typed "string")] := by
  cases name with
  | addTags => exact Or.inl rfl
  | saveDocument => exact Or.inr rfl

/-- An official schema has the parameter names of the official one. -/
theorem names_of_official (official : OfficialSchema name schema) : OfficialNames name schema := by
  constructor
  · rintro content rfl
    obtain ⟨_, _, isObject, _, _⟩ := official
    cases isObject
  · rintro members parameters rfl listed
    rw [OfficialSchema, officialMutationInputSchema, withoutAnnotations, sameAs_object] at official
    obtain ⟨ordered, perm, each⟩ := official
    have position : positionOf "properties" = .parameters := rfl
    have keyword : isAnnotation "properties" = false := rfl
    have present : ("properties", JsonValue.object (plainParameters parameters)) ∈ ordered := by
      rw [← perm.mem_iff, plainKeywords_eq]
      refine List.mem_map.mpr ⟨_, List.mem_filter.mpr ⟨listed, by rw [keyword]; rfl⟩, ?_⟩
      rw [position]
      rfl
    obtain ⟨index, within, isIndex⟩ := List.getElem_of_mem present
    have related := (List.forall₂_iff_get.mp each).2 index within
      (by rw [← each.length_eq]; exact within)
    rw [List.get_eq_getElem, isIndex] at related
    have alsoWithin :
        index < (officialMembers name : List (String × JsonValue Number)).length := by
      rw [← each.length_eq]
      exact within
    rcases officialMembers_cases (List.getElem_mem alsoWithin) with same | ⟨differs, _⟩
    · rw [List.get_eq_getElem, same] at related
      obtain ⟨params, reordered, each⟩ := sameAs_object.mp related.2
      have named := sameMember_filter each isAnnotation
      have perm := reordered.filter fun member => isAnnotation member.1
      rw [namedLikeAnnotations, namedLikeAnnotations, plainParameters_self officialParameters_only]
      rcases @official_named Number name with none | single
      · rw [none, List.forall₂_nil_right_iff] at named
        rw [named] at perm
        rw [none, perm.eq_nil]
      · rw [single, List.forall₂_cons_right_iff] at named
        obtain ⟨member, rest, ⟨keys, values⟩, nothing, shape⟩ := named
        rw [List.forall₂_nil_right_iff] at nothing
        rw [shape, nothing, List.perm_singleton] at perm
        rw [perm, single]
        exact congrArg (fun member => [member]) (Prod.ext keys (same_typed values))
    · exact absurd related.1.symm differs

end Official

section Checks

variable {Number : Type} {numbers : NumberWriter Number} {collation : Collation String}
variable {digest : List Char → String} {tools : List (DiscoveredTool Number)}

theorem mutationToolName_some {text : String} {name : MutationToolName} :
    mutationToolName text = some name ↔ text = name.text := by
  have apart : MutationToolName.saveDocument.text ≠ MutationToolName.addTags.text := by decide
  rw [mutationToolName, mutationToolNames, List.find?_cons, List.find?_singleton]
  by_cases save : text = MutationToolName.saveDocument.text
  · subst save
    cases name <;> simp [apart]
  · by_cases add : text = MutationToolName.addTags.text
    · subst add
      cases name <;> simp [apart, apart.symm]
    · cases name <;> simp [save, add, Ne.symm save, Ne.symm add]

theorem validateDeclaration_ok {name : MutationToolName} {declaration : DiscoveredTool Number} :
    validateDeclaration numbers collation digest name declaration = .ok () ↔
      declaration.annotations = none ∧ ∃ schema, declaration.inputSchema = some schema ∧
        HasFingerprint numbers collation digest name schema := by
  rw [validateDeclaration]
  cases declaration.annotations with
  | some annotations => simp
  | none =>
      cases declaration.inputSchema with
      | none => simp
      | some schema => simp [HasFingerprint]

/-- These are the mutation tools among the declarations. -/
def namesOf (tools : List (DiscoveredTool Number)) : List MutationToolName :=
  tools.filterMap fun tool => mutationToolName tool.name

theorem namesOf_none {declaration : DiscoveredTool Number}
    (foreign : mutationToolName declaration.name = none) :
    namesOf (declaration :: tools) = namesOf tools := List.filterMap_cons_none foreign

theorem namesOf_some {declaration : DiscoveredTool Number} {name : MutationToolName}
    (named : mutationToolName declaration.name = some name) :
    namesOf (declaration :: tools) = name :: namesOf tools := List.filterMap_cons_some named

/-- Every declaration of a mutation tool is valid. -/
def AllValid (numbers : NumberWriter Number) (collation : Collation String)
    (digest : List Char → String) (tools : List (DiscoveredTool Number)) : Prop :=
  ∀ tool ∈ tools, ∀ name : MutationToolName, tool.name = name.text →
    validateDeclaration numbers collation digest name tool = .ok ()

/-- The declarations pass when they are valid and none is repeated. -/
theorem checkDeclarations_ok {found result : List MutationToolName} (single : found.Nodup) :
    checkDeclarations numbers collation digest found tools = .ok result ↔
      result = found ++ namesOf tools ∧ (found ++ namesOf tools).Nodup ∧
        AllValid numbers collation digest tools := by
  induction tools generalizing found with
  | nil =>
      rw [checkDeclarations, namesOf, List.filterMap_nil, List.append_nil, Except.ok.injEq]
      constructor
      · rintro rfl
        exact ⟨rfl, single, fun tool present => absurd present List.not_mem_nil⟩
      · exact fun passed => passed.1.symm
  | cons declaration rest ih =>
      rw [checkDeclarations, AllValid, List.forall_mem_cons]
      cases named : mutationToolName declaration.name with
      | none =>
          have foreign : ∀ name : MutationToolName, declaration.name ≠ name.text :=
            fun name same => by
              rw [mutationToolName_some.mpr same] at named
              cases named
          rw [namesOf_none named]
          dsimp only
          rw [ih single]
          constructor
          · rintro ⟨shape, distinct, valid⟩
            exact ⟨shape, distinct, fun name same => absurd same (foreign name), valid⟩
          · rintro ⟨shape, distinct, _, valid⟩
            exact ⟨shape, distinct, valid⟩
      | some name =>
          rw [namesOf_some named]
          dsimp only
          have same := mutationToolName_some.mp named
          have only : ∀ other : MutationToolName, declaration.name = other.text → other = name :=
            fun other alsoSame =>
              Option.some_inj.mp ((mutationToolName_some.mpr alsoSame).symm.trans named)
          split_ifs with repeated
          · constructor
            · intro passed
              cases passed
            · rintro ⟨_, distinct, _⟩
              exact absurd List.mem_cons_self (List.disjoint_of_nodup_append distinct repeated)
          · have longer : (found ++ [name]).Nodup := by
              rw [List.nodup_append]
              refine ⟨single, List.nodup_singleton _, fun first isFirst last isLast equal => ?_⟩
              rw [List.mem_singleton.mp isLast] at equal
              exact repeated (equal ▸ isFirst)
            cases valid : validateDeclaration numbers collation digest name declaration with
            | error error =>
                constructor
                · intro passed
                  cases passed
                · rintro ⟨_, _, first, _⟩
                  rw [first name same] at valid
                  cases valid
            | ok nothing =>
                dsimp only
                rw [ih longer, List.append_assoc, List.singleton_append]
                constructor
                · rintro ⟨shape, distinct, others⟩
                  refine ⟨shape, distinct, fun other alsoSame => ?_, others⟩
                  rw [only other alsoSame]
                  exact valid
                · rintro ⟨shape, distinct, _, others⟩
                  exact ⟨shape, distinct, others⟩

theorem checkTools_ok : checkTools numbers collation digest tools = .ok () ↔
    (namesOf tools).Nodup ∧ (∀ name, name ∈ namesOf tools) ∧
      AllValid numbers collation digest tools := by
  have every : ∀ name : MutationToolName, name ∈ mutationToolNames := by
    intro name
    cases name <;> decide
  rw [checkTools]
  cases checked : checkDeclarations numbers collation digest [] tools with
  | error error =>
      constructor
      · intro passed
        cases passed
      · rintro ⟨distinct, _, valid⟩
        rw [(checkDeclarations_ok List.nodup_nil).mpr ⟨rfl, distinct, valid⟩] at checked
        cases checked
  | ok found =>
      obtain ⟨rfl, distinct, valid⟩ := (checkDeclarations_ok List.nodup_nil).mp checked
      rw [List.nil_append] at distinct ⊢
      dsimp only
      cases missing : mutationToolNames.find? fun name => name ∉ namesOf tools with
      | none =>
          have complete := List.find?_eq_none.mp missing
          simp only [decide_eq_true_eq, not_not] at complete
          exact ⟨fun _ => ⟨distinct, fun name => complete name (every name), valid⟩, fun _ => rfl⟩
      | some name =>
          have absent := List.find?_some missing
          rw [decide_eq_true_eq] at absent
          constructor
          · intro passed
            cases passed
          · exact fun passed => absurd (passed.2.1 name) absent

theorem count_namesOf (name : MutationToolName) :
    (namesOf tools).count name = (tools.filter fun tool => tool.name = name.text).length := by
  induction tools with
  | nil => rfl
  | cons declaration rest ih =>
      by_cases same : declaration.name = name.text
      · rw [namesOf_some (mutationToolName_some.mpr same), List.count_cons_self, ih]
        simp only [List.filter_cons, same, decide_true, if_true, List.length_cons]
      · rw [List.filter_cons_of_neg (by simpa using same), ← ih]
        cases named : mutationToolName declaration.name with
        | none => rw [namesOf_none named]
        | some other =>
            rw [namesOf_some named, List.count_cons_of_ne]
            rintro rfl
            exact same (mutationToolName_some.mp named)

/-- The checks accept exactly one valid declaration of each tool. -/
theorem checkTools_declared : checkTools numbers collation digest tools = .ok () ↔
    ∀ name, DeclaredOnce tools name (HasFingerprint numbers collation digest name) := by
  rw [checkTools_ok]
  constructor
  · rintro ⟨distinct, complete, valid⟩ name
    have once := List.count_eq_one_of_mem distinct (complete name)
    rw [count_namesOf] at once
    obtain ⟨declaration, alone⟩ := List.length_eq_one_iff.mp once
    have present : declaration ∈ tools.filter fun tool => tool.name = name.text := by
      rw [alone]
      exact List.mem_singleton_self _
    obtain ⟨isTool, same⟩ := List.mem_filter.mp present
    obtain ⟨annotations, schema, given, accepted⟩ :=
      validateDeclaration_ok.mp (valid declaration isTool name (of_decide_eq_true same))
    exact ⟨declaration, schema, alone, annotations, given, accepted⟩
  · intro declared
    have once : ∀ name, (namesOf tools).count name = 1 := by
      intro name
      obtain ⟨declaration, schema, alone, _⟩ := declared name
      rw [count_namesOf, alone]
      rfl
    refine ⟨List.nodup_iff_count_le_one.mpr fun name => (once name).le, fun name => ?_, ?_⟩
    · exact List.count_pos_iff.mp (by rw [once name]; exact Nat.one_pos)
    · intro tool isTool name same
      obtain ⟨declaration, schema, alone, annotations, given, accepted⟩ := declared name
      have present : tool ∈ tools.filter fun tool => tool.name = name.text :=
        List.mem_filter.mpr ⟨isTool, decide_eq_true same⟩
      rw [alone] at present
      rw [List.mem_singleton.mp present]
      exact validateDeclaration_ok.mpr ⟨annotations, schema, given, accepted⟩

end Checks

section Pinning

variable {Number : Type} {numbers : NumberWriter Number} {collation : Collation String}
variable {digest : List Char → String} {tools : List (DiscoveredTool Number)}
variable {name : MutationToolName} {schema : JsonValue Number}

theorem connect_runs {rest : SessionTrace Number} {result : Except ToolError MutationToolClient} :
    Runs (connect numbers collation digest) (⟨.listTools, .ok tools⟩ :: rest) result ↔
      (checkTools numbers collation digest tools = .ok () ∧ rest = [] ∧ result = .ok ⟨⟩) ∨
      ∃ error closed, checkTools numbers collation digest tools = .error error ∧
        rest = [⟨.close, closed⟩] ∧ result = .error error := by
  constructor
  · intro runs
    obtain ⟨reply, others, same, continues⟩ := runs.perform_cases
    obtain ⟨first, rfl⟩ := List.cons.inj same
    cases first
    dsimp only at continues
    cases checked : checkTools numbers collation digest tools with
    | ok nothing =>
        rw [checked] at continues
        obtain ⟨rfl, rfl⟩ := continues.done_cases
        exact Or.inl ⟨rfl, rfl, rfl⟩
    | error error =>
        rw [checked] at continues
        obtain ⟨closed, others, rfl, ended⟩ := continues.perform_cases
        obtain ⟨rfl, rfl⟩ := ended.done_cases
        exact Or.inr ⟨error, closed, rfl, rfl, rfl⟩
  · have performed : Runs (Program.perform SessionCall.listTools)
        ([⟨.listTools, .ok tools⟩] : SessionTrace Number)
        (.ok (.ok tools) : Except ToolError _) := .ask _ (.done _)
    rintro (⟨checked, rfl, rfl⟩ | ⟨error, closed, checked, rfl, rfl⟩)
    · refine performed.bind_ok ?_
      dsimp only
      rw [checked]
      exact .done _
    · refine performed.bind_ok ?_
      dsimp only
      rw [checked]
      exact .ask closed (.done _)

/-- A schema with the pinned fingerprint has the normal form of the official one. -/
theorem fingerprint_same (free : CollisionFree numbers collation digest)
    (noText : ∀ content, schema ≠ .string content)
    (accepted : HasFingerprint numbers collation digest name schema) :
    SameAs (normalizeInputSchema schema)
      (normalizeInputSchema (officialMutationInputSchema name)) := by
  have hashed : sha256Of numbers collation digest (normalizeInputSchema schema) =
      digest ((normalizeInputSchema schema).stableJson collation numbers) := by
    cases schema with
    | string content => exact absurd rfl (noText content)
    | _ => rfl
  rw [HasFingerprint, hashed] at accepted
  exact canonicalize_same collation _ _
    (text_injective numbers (free name _ accepted))

theorem declaredOnce_unique {first second : JsonValue Number → Prop}
    (declared : DeclaredOnce tools name first) (again : DeclaredOnce tools name second)
    {third : JsonValue Number → Prop}
    (both : ∀ schema, first schema → second schema → third schema) :
    DeclaredOnce tools name third := by
  obtain ⟨declaration, schema, alone, annotations, given, accepted⟩ := declared
  obtain ⟨other, otherSchema, otherAlone, _, otherGiven, otherAccepted⟩ := again
  obtain rfl := (List.cons.inj (alone.symm.trans otherAlone)).1
  obtain rfl := Option.some_inj.mp (given.symm.trans otherGiven)
  exact ⟨declaration, schema, alone, annotations, given, both schema accepted otherAccepted⟩

/-- The connection pins the official schemas exactly for the tools whose parameters have the names
of annotations only where the official ones do. -/
theorem pins_iff (free : CollisionFree numbers collation digest) :
    Pins numbers collation digest tools ↔ OnlyOfficialNames numbers collation digest tools := by
  constructor
  · intro pins declared name
    have runs := connect_runs.mpr
      (Or.inl ⟨checkTools_declared.mpr declared, rfl, rfl⟩)
    have official := ((pins [] _ runs).1 _ rfl).2 name
    exact declaredOnce_unique official official fun schema accepted _ =>
      names_of_official accepted
  · intro onlyNames rest result runs
    rcases connect_runs.mp runs with ⟨checked, rfl, rfl⟩ | ⟨error, closed, checked, rfl, rfl⟩
    · refine ⟨fun client _ => ⟨rfl, fun name => ?_⟩, fun error raised => by cases raised⟩
      have declared := checkTools_declared.mp checked
      refine declaredOnce_unique (declared name) (onlyNames declared name) ?_
      exact fun schema accepted names =>
        official_of_names (fingerprint_same free names.1 accepted) names
    · exact ⟨fun client accepted => (by cases accepted), fun _ _ => ⟨closed, rfl⟩⟩

end Pinning

section Samples

def decimalNumbers : NumberWriter ℤ where
  write value := value.repr.toList
  filled := number_nonempty
  leads value char first := number_chars value (List.mem_of_mem_head? first)
  undelimited value _ present := number_undelimited value present
  injective _ _ same := Int.repr_injective (String.toList_inj.mp same)

/-- This digest tells the pinned texts from all others. -/
def pinningDigest (text : List Char) : String :=
  if text = pinnedText decimalNumbers Domain.localeCollation .addTags then
    expectedInputSchemaFingerprint .addTags
  else if text = pinnedText decimalNumbers Domain.localeCollation .saveDocument then
    expectedInputSchemaFingerprint .saveDocument
  else ""

theorem pinningDigest_free : CollisionFree decimalNumbers Domain.localeCollation pinningDigest := by
  have apart : expectedInputSchemaFingerprint .addTags ≠
      expectedInputSchemaFingerprint .saveDocument := by decide
  have filled : ∀ name, "" ≠ expectedInputSchemaFingerprint name := by
    intro name
    cases name <;> decide
  intro name text same
  rw [pinningDigest] at same
  split_ifs at same with isAdd isSave
  · cases name with
    | addTags => exact isAdd
    | saveDocument => exact absurd same apart
  · cases name with
    | addTags => exact absurd same.symm apart
    | saveDocument => exact isSave
  · exact absurd same (filled name)

def declared (name : MutationToolName) (schema : JsonValue ℤ) : DiscoveredTool ℤ :=
  ⟨none, some schema, name.text⟩

theorem official_official (name : MutationToolName) :
    OfficialSchema name (officialMutationInputSchema name : JsonValue ℤ) := by
  have plain : withoutAnnotations .schema (officialMutationInputSchema name : JsonValue ℤ) =
      officialMutationInputSchema name := by
    cases name <;> rfl
  rw [OfficialSchema, plain]
  exact sameAs_refl _

def officialTools : List (DiscoveredTool ℤ) :=
  [declared .saveDocument (officialMutationInputSchema .saveDocument),
    declared .addTags (officialMutationInputSchema .addTags)]

theorem officialTools_pinned :
    Pins decimalNumbers Domain.localeCollation pinningDigest officialTools := by
  refine (pins_iff pinningDigest_free).mpr fun _ name => ?_
  refine ⟨declared name (officialMutationInputSchema name), officialMutationInputSchema name, ?_,
    rfl, rfl, names_of_official (official_official name)⟩
  cases name <;> rfl

/-- The title of a document is a number here. -/
def retypedSchema : JsonValue ℤ :=
  .object [("additionalProperties", .bool false),
    ("properties", .object (saveDocumentParameters.map fun member =>
      if member.1 = "title" then (member.1, typed "number") else member)),
    ("required", .array (officialRequired .saveDocument)), ("type", .string "object")]

def retypedTools : List (DiscoveredTool ℤ) :=
  [declared .saveDocument retypedSchema, declared .addTags (officialMutationInputSchema .addTags)]

theorem pinnedTexts_apart : pinnedText decimalNumbers Domain.localeCollation .saveDocument ≠
    pinnedText decimalNumbers Domain.localeCollation .addTags := by
  intro same
  have values := canonicalize_same Domain.localeCollation _ _ (text_injective decimalNumbers same)
  rw [officialMutationInputSchema, officialMutationInputSchema, normalizeInputSchema,
    normalizeInputSchema, sameAs_object, normalizedMembers_eq, normalizedMembers_eq,
    officialMembers_kept, officialMembers_kept] at values
  obtain ⟨ordered, perm, each⟩ := values
  have required := sameMember_filter each fun key => key == "required"
  have reordered := perm.filter fun member => member.1 == "required"
  have left : ((officialMembers .saveDocument).map fun member =>
      (member.1, normalizeInputSchema member.2)).filter (fun member => member.1 == "required") =
      [("required", (.array (officialRequired .saveDocument) : JsonValue ℤ))] := rfl
  have right : ((officialMembers .addTags).map fun member =>
      (member.1, normalizeInputSchema member.2)).filter (fun member => member.1 == "required") =
      [("required", (.array (officialRequired .addTags) : JsonValue ℤ))] := rfl
  rw [left, List.singleton_perm] at reordered
  rw [right, ← reordered, List.forall₂_cons] at required
  have sizes := (sameAs_array.mp required.1.2).length_eq
  cases sizes

/-- The connection accepts a document tool whose title is a number. -/
theorem retyped_title_accepted :
    ¬ Pins decimalNumbers Domain.localeCollation pinningDigest retypedTools := by
  intro pins
  have fingerprints : ∀ name, DeclaredOnce retypedTools name
      (HasFingerprint decimalNumbers Domain.localeCollation pinningDigest name) := by
    intro name
    cases name with
    | saveDocument =>
        refine ⟨_, retypedSchema, rfl, rfl, rfl, ?_⟩
        show pinningDigest (pinnedText decimalNumbers Domain.localeCollation .saveDocument) = _
        rw [pinningDigest, if_neg pinnedTexts_apart, if_pos rfl]
    | addTags =>
        refine ⟨_, officialMutationInputSchema .addTags, rfl, rfl, rfl, ?_⟩
        show pinningDigest (pinnedText decimalNumbers Domain.localeCollation .addTags) = _
        rw [pinningDigest, if_pos rfl]
  have runs := connect_runs.mpr (Or.inl ⟨checkTools_declared.mpr fingerprints, rfl, rfl⟩)
  obtain ⟨declaration, schema, alone, _, given, official⟩ :=
    ((pins [] _ runs).1 _ rfl).2 .saveDocument
  obtain rfl : declared .saveDocument retypedSchema = declaration := (List.cons.inj alone).1
  obtain rfl := Option.some_inj.mp given
  have names := (names_of_official official).2 _ _ rfl
    (List.mem_cons_of_mem _ List.mem_cons_self)
  have titles := congrArg (List.map fun member => member.2) names
  have differ : [(typed "number" : JsonValue ℤ)] = [typed "string"] := titles
  simp [typed] at differ

end Samples

end LineageGuard.Datahub
