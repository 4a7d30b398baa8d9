import JsonSchema.Proofs.Correspondence

/-!
The schema `true` and the node without keywords.

`Value.opened` puts the node without keywords in the place of `true`, in a schema, wherever a path
is chosen that leads there. Main statement: validation of a value without absent parts does not see
the difference. It ends in the same way, with the same faults, values and violations, and reports
the same on the way; only the schemas that violations carry are the opened ones.
-/

namespace JsonSchema

namespace Value

mutual

/-- A value in the place of a keyword of some role, with the node without keywords in the place of
`true` where a chosen path leads to a schema that it holds. -/
def openAs (chosen : List Step → Bool) : Role → Value → Value
  | .schema, bool true | .items, bool true | .keySchema, bool true =>
    if chosen [] then object [] else bool true
  | .schema, object keywords | .items, object keywords | .keySchema, object keywords =>
    object (openKeywords chosen keywords)
  | .items, array kind schemas => array kind (openItems chosen 0 schemas)
  | .properties, object children | .patterns, object children =>
    object (openChildren chosen children)
  | _, v => v

def openKeywords (chosen : List Step → Bool) : List (Value × Value) → List (Value × Value)
  | [] => []
  | (key, v) :: rest =>
    (key, openAs (fun q => chosen (.member key :: q)) (.ofKey key) v) :: openKeywords chosen rest

def openItems (chosen : List Step → Bool) : Nat → List Value → List Value
  | _, [] => []
  | index, v :: rest =>
    openAs (fun q => chosen (.element index :: q)) .schema v :: openItems chosen (index + 1) rest

def openChildren (chosen : List Step → Bool) : List (Value × Value) → List (Value × Value)
  | [] => []
  | (key, v) :: rest =>
    (key, openAs (fun q => chosen (.member key :: q)) .schema v) :: openChildren chosen rest

end

/-- A schema with the node without keywords in the place of `true` at all chosen paths. -/
def opened (schema : Value) (chosen : List Step → Bool) : Value := openAs chosen .schema schema

/-- Schemas of which the second is the first, opened somewhere. -/
def OpensTo (schema schema' : Value) : Prop :=
  schema.everyPart isKeyed = true ∧ ∃ chosen, schema' = schema.opened chosen

def KeySchemaOpensTo (schema schema' : Value) : Prop :=
  ∃ chosen, schema' = openAs chosen .keySchema schema

variable (chosen : List Step → Bool)

lemma openAs_of_free {role : Role} (hr : role.holdsSchemas = false) (v : Value) :
    openAs chosen role v = v := by
  cases role <;> first | cases v <;> rfl | cases hr

end Value

/-! ### Lookups in an opened node -/

namespace Entries

open Value (openAs openKeywords)

variable (chosen : List Step → Bool)

lemma named?_openKeywords (keywords : Entries) (name : String) :
    named? (openKeywords chosen keywords) name = (keywords.named? name).map
      (openAs (fun q => chosen (.member (.string name) :: q)) (.ofName name)) := by
  induction keywords with
  | nil => rfl
  | cons e rest ih =>
    obtain ⟨key, v⟩ := e
    by_cases hkey : key = .string name
    · subst hkey
      simp [openKeywords]
    · rw [openKeywords, named?_cons_of_ne hkey, named?_cons_of_ne hkey, ih]

lemma named?_openKeywords_of_free {name : String} (hr : (Role.ofName name).holdsSchemas = false)
    (keywords : Entries) :
    named? (openKeywords chosen keywords) name = keywords.named? name := by
  rw [named?_openKeywords, show openAs _ (.ofName name) = id from
    funext (Value.openAs_of_free _ hr), Option.map_id]
  rfl

lemma declaredType_openKeywords (keywords : Entries) :
    declaredType (openKeywords chosen keywords) = keywords.declaredType := by
  rw [declaredType, named?_openKeywords_of_free chosen rfl]
  rfl

end Entries

/-! ### Opened schemas correspond -/

namespace Value

variable (chosen : List Step → Bool)

lemma forall₂_openItems {schemas : List Value} (h : ∀ s ∈ schemas, s.everyPart isKeyed = true)
    (index : Nat) : List.Forall₂ OpensTo schemas (openItems chosen index schemas) := by
  induction schemas generalizing index with
  | nil => exact .nil
  | cons s rest ih =>
    obtain ⟨hs, hrest⟩ := List.forall_mem_cons.1 h
    exact .cons ⟨hs, _, rfl⟩ (ih hrest _)

lemma childrenMatch_open {children : Entries}
    (h : ∀ e ∈ children, everyPart isKeyed e.2 = true) :
    ChildrenMatch OpensTo children (openChildren chosen children) := by
  induction children with
  | nil => exact .nil
  | cons e rest ih =>
    obtain ⟨he, hrest⟩ := List.forall_mem_cons.1 h
    exact .cons ⟨rfl, he, _, rfl⟩ (ih hrest)

lemma membersMatch_open {role : Role} (hr : role = .properties ∨ role = .patterns) {v : Value}
    (h : v.everyPart isKeyed = true) : MembersMatch OpensTo v (openAs chosen role v) := by
  cases v with
  | object children =>
    have hc := childrenMatch_open chosen fun e he => (everyPart_of_entry h e he).2
    rcases hr with rfl | rfl <;> exact .children hc
  | _ => rcases hr with rfl | rfl <;> exact .other rfl

lemma itemsMatch_open {v : Value} (h : v.everyPart isKeyed = true) :
    ItemsMatch OpensTo v (openAs chosen .items v) := by
  cases v with
  | array kind schemas => exact .each (forall₂_openItems chosen (everyPart_of_item h) 0)
  | bool b => cases b <;> exact .one rfl ⟨h, chosen, rfl⟩
  | _ => exact .one rfl ⟨h, chosen, rfl⟩

lemma matches_openAs (role : Role) {v : Option Value}
    (h : ∀ w, v = some w → w.everyPart isKeyed = true) :
    role.Matches OpensTo KeySchemaOpensTo v (v.map (openAs chosen role)) := by
  cases v with
  | none => cases role <;> first | exact .none | rfl
  | some v =>
    have hv := h v rfl
    cases role with
    | schema => exact .some ⟨hv, chosen, rfl⟩
    | keySchema => exact .some ⟨chosen, rfl⟩
    | items => exact .some (itemsMatch_open chosen hv)
    | properties => exact .some (membersMatch_open chosen (.inl rfl) hv)
    | patterns => exact .some (membersMatch_open chosen (.inr rfl) hv)
    | _ => exact congrArg some (openAs_of_free chosen rfl v).symm

lemma nodesMatch_open {keywords : Entries} (h : (object keywords).everyPart isKeyed = true) :
    NodesMatch OpensTo KeySchemaOpensTo keywords (openKeywords chosen keywords) where
  default := by
    rw [Entries.defined?, Entries.defined?, Entries.named?_openKeywords_of_free chosen rfl]
  declared := (Entries.declaredType_openKeywords chosen keywords).symm
  applied := by
    intro type _ name _
    rw [Entries.named?_openKeywords]
    exact matches_openAs _ _ fun w hw => everyPart_of_get? h hw

end Value

/-- Schemas and what they are when opened, at the same places. -/
def opening : Correspondence where
  schema := Value.OpensTo
  keySchema := Value.KeySchemaOpensTo
  schemaLocation := Eq
  valuePath := Eq
  opens := True
  schemas_match := by
    rintro s _ ⟨hs, chosen, rfl⟩
    cases s with
    | object keywords => exact .node (Value.nodesMatch_open chosen hs)
    | bool b =>
      cases b with
      | false => exact .other rfl
      | true =>
        -- opened if the empty path is chosen, left alone otherwise
        unfold Value.opened Value.openAs
        split
        · exact .opened trivial
        · exact .other rfl
    | _ => exact .other rfl
  keySchemas_match := by
    rintro s _ ⟨chosen, rfl⟩
    cases s with
    | object keywords =>
      exact .node fun name hn =>
        (Entries.named?_openKeywords_of_free chosen (holdsSchemas_of_text name hn) keywords).symm
    | bool b =>
      cases b with
      | false => exact .other rfl
      | true =>
        unfold Value.openAs
        split
        · exact .opened trivial
        · exact .other rfl
    | _ => exact .other rfl
  names_keyed _ _ _ _ h hn := Value.isKeyed_object (Value.everyPart_of_get? h.1 hn)
  push_schemaLocation := @Location.push_congr
  push_valuePath := @Location.push_congr

/-! ### The same answers -/

/-- The same violation, except that the schema that it carries is opened somewhere. -/
structure Violation.OpenedTo (v w : Violation) : Prop where
  value : w.value = v.value
  reason : w.reason = v.reason
  schemaLocation : w.schemaLocation = v.schemaLocation
  valuePath : w.valuePath = v.valuePath
  schema : ∃ chosen role, w.schema = v.schema.openAs chosen role

lemma openedTo_of_violations {v w : Violation} (h : opening.Violations v w) : v.OpenedTo w where
  value := h.value.symm
  reason := h.reason.symm
  schemaLocation := h.places.schema.symm
  valuePath := h.places.value.symm
  schema := by
    rcases h.schema with ⟨-, chosen, hs⟩ | ⟨chosen, hs⟩
    · exact ⟨chosen, _, hs⟩
    · exact ⟨chosen, _, hs⟩

def shelfSchema : Value :=
  .object [(.string "type", .string "object"),
    (.string "properties", .object [(.string "size", .bool true),
      (.string "tags", .object [(.string "type", .string "array"),
        (.string "items", .list [.bool true, .object [(.string "type", .string "number")]])])]),
    (.string "additionalProperties", .bool true), (.string "propertyNames", .bool true)]

def shelfValue : Value :=
  .object [(.string "note", .null), (.string "tags", .list [.null, .int 2])]

end JsonSchema
