import JsonSchema.Proofs.Verdict

/-!
Which keywords a node applies, and what stands under them.

The type that a node declares says which of its keywords are read at all. The role of a keyword
says what it holds: a number, a pattern, names, or schemas in one of several arrangements.
-/

namespace JsonSchema

/-! ### Roles -/

/-- What a keyword holds. -/
inductive Role where
  /-- Anything; it is taken as it is. -/
  | free
  | number
  | pattern
  /-- A list of literals. -/
  | literals
  /-- A list of names. -/
  | names
  | schema
  /-- One schema, or a list of schemas. -/
  | items
  /-- Schemas under names. -/
  | properties
  /-- Schemas under patterns. -/
  | patterns
  /-- A schema of keys, of which only the checks of strings are read. -/
  | keySchema
  deriving DecidableEq

namespace Role

/-- The keywords whose values are not taken as they are. -/
def table : List (String × Role) :=
  [("minLength", number), ("maxLength", number), ("pattern", pattern), ("minimum", number),
    ("maximum", number), ("exclusiveMinimum", number), ("exclusiveMaximum", number),
    ("multipleOf", number), ("minProperties", number), ("maxProperties", number),
    ("enum", literals), ("required", names), ("items", items), ("properties", properties),
    ("patternProperties", patterns), ("additionalProperties", schema),
    ("propertyNames", keySchema)]

def ofName (name : String) : Role := (table.lookup name).getD free

def holdsSchemas : Role → Bool
  | schema | items | properties | patterns | keySchema => true
  | _ => false

def ofKey : Value → Role
  | .string ⟨name, []⟩ => ofName name
  | _ => free

@[simp] lemma ofKey_ofString (name : String) : ofKey (.string (Text.ofString name)) = ofName name :=
  rfl

end Role

/-! ### Applied keywords -/

def textKeywords : List String := ["const", "enum", "minLength", "maxLength", "pattern"]

/-- The keywords that the checks of a type read. -/
def JsonType.keywords : JsonType → List String
  | string => textKeywords
  | number | integer => ["const", "enum", "minimum", "maximum", "exclusiveMinimum",
      "exclusiveMaximum", "multipleOf"]
  | boolean | null => []
  | array => ["const", "enum", "items"]
  | object => ["const", "enum", "required", "properties", "patternProperties",
      "additionalProperties", "propertyNames", "minProperties", "maxProperties"]

lemma holdsSchemas_of_text :
    ∀ name ∈ textKeywords, (Role.ofName name).holdsSchemas = false := by
  decide +kernel

lemma holdsSchemas_of_number :
    ∀ name ∈ JsonType.number.keywords, (Role.ofName name).holdsSchemas = false := by
  decide +kernel

/-- What a node says about the type of values. -/
inductive DeclaredType where
  | one (type : JsonType)
  /-- A list of types. -/
  | union (types : List Value)
  /-- No type, or none that is known. -/
  | unknown

namespace Entries

def declaredType (keywords : Entries) : DeclaredType :=
  match keywords.named? "type" with
  | some (.array _ types) => .union types
  | declared =>
    match declared.bind JsonType.ofValue? with
    | some type => .one type
    | none => .unknown

/-- A node that declares one type names it. -/
lemma named?_of_declaredType {keywords : Entries} {type : JsonType}
    (h : keywords.declaredType = .one type) :
    keywords.named? "type" = some (.string type.name) := by
  unfold declaredType at h
  split at h
  · cases h
  · split at h
    · rename_i named hn
      cases h
      obtain ⟨v, hv, ht⟩ := Option.bind_eq_some_iff.1 hn
      cases v with
      | string name => rw [hv, JsonType.name_of_ofName? ht]
      | _ => cases ht
    · cases h

lemma declaredType_of_named? {keywords : Entries} {type : JsonType}
    (h : keywords.named? "type" = some (.string type.name)) :
    keywords.declaredType = .one type := by
  unfold declaredType
  rw [h]
  simp [JsonType.ofValue?, JsonType.ofName?_name]

/-- A list of types is what a node with a list of types declares. -/
lemma declaredType_of_isUnion {keywords : Entries} (h : (Value.object keywords).isUnion = true) :
    ∃ types, keywords.declaredType = .union types := by
  obtain ⟨_, kind, types, hobject, ht⟩ := Value.named?_of_isUnion h
  cases hobject
  exact ⟨types, by rw [declaredType, ht]⟩

lemma isUnion_of_declaredType {keywords : Entries} {type : JsonType}
    (h : keywords.declaredType = .one type) : (Value.object keywords).isUnion = false := by
  rw [← Bool.not_eq_true]
  intro hu
  obtain ⟨types, ht⟩ := declaredType_of_isUnion hu
  cases h.symm.trans ht

/-- The keywords of a node that validation reads. -/
def appliedNames (keywords : Entries) : List String :=
  match keywords.declaredType with
  | .one type => "type" :: "default" :: type.keywords
  | .union _ => ["type", "default"]
  | .unknown => ["default"]

end Entries

namespace Validation

/-- What a node asks, by the type that it declares. -/
lemma validateKeywords_eq (validate : Validator) (keywords : Entries) (value : Value)
    (place : Place) :
    validateKeywords validate keywords value place =
      if value.isUndefined then pure (absentVerdict keywords place)
      else match keywords.declaredType with
        | .union types => do
          Outcome.notify (.unionType types place.schema place.value)
          return .invalid []
        | .one type => validateTyped validate type keywords value place
        | .unknown => pure (.valid value) := by
  unfold validateKeywords Entries.declaredType
  cases keywords.named? "type" with
  | none => rfl
  | some declared =>
    cases declared with
    | string name =>
      simp only [Option.bind_some, JsonType.ofValue?]
      cases JsonType.ofName? name <;> rfl
    | _ => rfl

lemma validate_array {keywords : Entries} (ht : keywords.declaredType = .one .array) {value : Value}
    (hv : value.isUndefined = false) (place : Place) :
    validate (.object keywords) value place = validateArray validate keywords value place := by
  rw [validate_keywords, validateKeywords_eq, if_neg (by simp [hv]), ht]
  rfl

end Validation

end JsonSchema
