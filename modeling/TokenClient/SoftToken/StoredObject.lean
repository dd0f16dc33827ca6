import TokenClient.Attribute.Type
import TokenClient.Wire

/-!
# Objects in a token

An object is a list of attributes in wire form, one for each type, in the order in which the types first
came. Whether it hides its value is settled when it is made.
-/

namespace TokenClient.SoftToken

/-- A list of wire attributes with the value of a type replaced, or the attribute at the end. -/
def put (attr : WireAttribute) : List WireAttribute → List WireAttribute
  | [] => [attr]
  | a :: attrs => if a.type = attr.type then ⟨a.type, attr.value⟩ :: attrs else a :: put attr attrs

/-- A list of wire attributes with those of a template put in one after the other. -/
def overlay (attrs template : List WireAttribute) : List WireAttribute :=
  template.foldl (fun attrs attr => put attr attrs) attrs

/-- An object in a token. -/
structure StoredObject where
  attributes : List WireAttribute
  /-- Whether the value is not revealed. -/
  hidesValue : Bool

/-- An empty template overlays nothing. -/
@[simp]
theorem overlay_nil (attrs : List WireAttribute) : overlay attrs [] = attrs := rfl

/-- The first attribute of a template is put in place before the others. -/
@[simp]
theorem overlay_cons (attrs : List WireAttribute) (attr : WireAttribute) (template : List WireAttribute) :
    overlay attrs (attr :: template) = overlay (put attr attrs) template := rfl

/-- A template in two parts is laid over in two steps. -/
theorem overlay_append (attrs first later : List WireAttribute) :
    overlay attrs (first ++ later) = overlay (overlay attrs first) later := List.foldl_append

/-- An attribute of a new type comes last; the types are otherwise as before. -/
theorem types_put (attr : WireAttribute) (attrs : List WireAttribute) :
    (put attr attrs).map (·.type) =
      if attr.type ∈ attrs.map (·.type) then attrs.map (·.type) else attrs.map (·.type) ++ [attr.type] := by
  induction attrs with
  | nil => simp [put]
  | cons first attrs ih =>
    unfold put
    split
    next h => simp [h]
    next h =>
      have hne : ¬ attr.type = first.type := fun heq => h heq.symm
      simp only [List.map_cons, ih, List.mem_cons, hne, false_or]
      split <;> rfl

/-- A template put into attributes leaves the types distinct. -/
theorem nodup_types_overlay {attrs : List WireAttribute} (distinct : (attrs.map (·.type)).Nodup)
    (template : List WireAttribute) : ((overlay attrs template).map (·.type)).Nodup := by
  induction template generalizing attrs with
  | nil => exact distinct
  | cons attr template ih =>
    refine ih ?_
    rw [types_put]
    split
    next => exact distinct
    next h =>
      refine List.nodup_append.2 ⟨distinct, by simp, ?_⟩
      rintro type hmem _ hlast rfl
      exact h (List.mem_singleton.1 hlast ▸ hmem)

namespace StoredObject

/-- The value of the first attribute of a type in a list. -/
def valueIn (attrs : List WireAttribute) (type : Code) : Option WireValue :=
  (attrs.find? (·.type == type)).map (·.value)

/-- There is no value where there are no attributes. -/
@[simp]
theorem valueIn_nil (type : Code) : valueIn [] type = none := rfl

/-- A value is looked for in the first attribute, and then in the others. -/
@[simp]
theorem valueIn_cons (attr : WireAttribute) (attrs : List WireAttribute) (type : Code) :
    valueIn (attr :: attrs) type = if attr.type = type then some attr.value else valueIn attrs type := by
  by_cases h : attr.type = type <;> simp [valueIn, h]

/-- There is no value of a type just if no attribute has this type. -/
theorem valueIn_eq_none_iff {attrs : List WireAttribute} {type : Code} :
    valueIn attrs type = none ↔ type ∉ attrs.map (·.type) := by
  induction attrs with
  | nil => simp
  | cons attr attrs ih =>
    by_cases h : attr.type = type
    · simp [h]
    · have hne : type ≠ attr.type := fun heq => h heq.symm
      rw [valueIn_cons, if_neg h, ih, List.map_cons, List.mem_cons, not_or]
      exact (and_iff_right hne).symm

/-- The value of an attribute among others of distinct types. -/
theorem valueIn_of_mem {attrs : List WireAttribute} (distinct : (attrs.map (·.type)).Nodup)
    {attr : WireAttribute} (h : attr ∈ attrs) : valueIn attrs attr.type = some attr.value := by
  induction attrs with
  | nil => cases h
  | cons first attrs ih =>
    rw [List.map_cons, List.nodup_cons] at distinct
    obtain rfl | hmem := List.mem_cons.1 h
    · simp
    · have hne : first.type ≠ attr.type := fun heq => distinct.1 (heq ▸ List.mem_map_of_mem hmem)
      simp [hne, ih distinct.2 hmem]

/-- What is put in place is the value of its type, and the others are as before. -/
@[simp]
theorem valueIn_put (attr : WireAttribute) (attrs : List WireAttribute) (type : Code) :
    valueIn (put attr attrs) type =
      if attr.type = type then some attr.value else valueIn attrs type := by
  induction attrs with
  | nil => simp [put]
  | cons first attrs ih =>
    unfold put
    split
    next h => by_cases ht : attr.type = type <;> simp [h, ht]
    next h =>
      by_cases ht : first.type = type
      · have hne : attr.type ≠ type := fun heq => h (ht.trans heq.symm)
        simp [ht, hne]
      · simp [ht, ih]

/-- A template of distinct types that is put into attributes goes before what was there. -/
theorem valueIn_overlay {template : List WireAttribute} (distinct : (template.map (·.type)).Nodup)
    (attrs : List WireAttribute) (type : Code) :
    valueIn (overlay attrs template) type = (valueIn template type).or (valueIn attrs type) := by
  induction template generalizing attrs with
  | nil => simp
  | cons attr template ih =>
    rw [List.map_cons, List.nodup_cons] at distinct
    rw [overlay_cons, ih distinct.2, valueIn_put, valueIn_cons]
    by_cases h : attr.type = type
    · rw [valueIn_eq_none_iff.2 (h ▸ distinct.1), if_pos h, if_pos h]
      rfl
    · rw [if_neg h, if_neg h]

/-- Whether attributes mark an object as sensitive. -/
def marksSensitive (attrs : List WireAttribute) : Bool :=
  match valueIn attrs AttributeType.sensitive with
  | some (.bytes b) => b.any (· != 0)
  | _ => false

/-- The object made from a template. -/
def make (template : List WireAttribute) : StoredObject :=
  let attrs := overlay [] template
  ⟨attrs, marksSensitive attrs⟩

/-- The stored value of a type. -/
def get? (object : StoredObject) (type : Code) : Option WireValue := valueIn object.attributes type

/-- Whether an object has every attribute of a template with an equal value. -/
def isMatch (object : StoredObject) (template : List WireAttribute) : Bool :=
  template.all fun attr =>
    match object.get? attr.type with
    | some value => value.same attr.value
    | none => false

/-- An object matches a template just if it has every value that the template asks for. -/
theorem isMatch_iff {object : StoredObject} {template : List WireAttribute} :
    object.isMatch template = true ↔ ∀ attr ∈ template, object.get? attr.type = some attr.value := by
  rw [isMatch, List.all_eq_true]
  refine forall₂_congr fun attr _ => ?_
  cases object.get? attr.type with
  | none => simp
  | some value => simp [WireValue.same_iff]

/-- The object made from a template of distinct types has its values. -/
theorem get?_make {template : List WireAttribute} (distinct : (template.map (·.type)).Nodup)
    (type : Code) : (make template).get? type = valueIn template type := by
  rw [make, get?, valueIn_overlay distinct, valueIn_nil, Option.or_none]

/-- The object with the attributes of a template put in. -/
def write (object : StoredObject) (template : List WireAttribute) : StoredObject :=
  { object with attributes := overlay object.attributes template }

/-- How many bytes the values of an object take. -/
def size (object : StoredObject) : Nat :=
  object.attributes.foldl (fun size attr =>
    match attr.value with
    | .bytes b => size + b.length
    | .null | .nested _ => size) 0

end StoredObject

end TokenClient.SoftToken
