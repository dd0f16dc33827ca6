import TokenClient.Attribute.Basic

/-!
# When attributes are equal

Two attributes are equal if they have the same type and the same reading, values compared by content.
Templates are compared as collections: the order of their attributes does not matter, so a member is
looked for by its type on the other side.
-/

namespace TokenClient

mutual

/-- Whether two values are equal. -/
def Value.same : Value → Value → Bool
  | .bool a, .bool b => a == b
  | .number a, .number b => a == b
  | .bytes a, .bytes b => a == b
  | .text a, .text b => a == b
  | .date a, .date b => a == b
  | .mechanism a, .mechanism b => a == b
  | .mechanisms a, .mechanisms b => a == b
  | .template ⟨as⟩, .template ⟨bs⟩ => as.length == bs.length && Attribute.allIn bs as
  | _, _ => false

/-- Whether two readings are equal. -/
def Reading.same : Reading → Reading → Bool
  | .unknown, .unknown => true
  | .absent, .absent => true
  | .sensitive, .sensitive => true
  | .empty, .empty => true
  | .held v, .held w => v.same w
  | _, _ => false

/-- Whether two attributes are equal. -/
def Attribute.same : Attribute → Attribute → Bool
  | ⟨t, _, r⟩, ⟨u, _, s⟩ => t == u && r.same s

/-- Whether each attribute equals the first one of its type in `bs`. -/
def Attribute.allIn (bs : List Attribute) : List Attribute → Bool
  | [] => true
  | a :: as =>
    (match bs.find? (·.type == a.type) with
      | some b => a.same b
      | none => false) && Attribute.allIn bs as

end

/-- Whether two templates hold the same attributes. -/
def Template.same (t u : Template) : Bool :=
  t.attributes.length == u.attributes.length && Attribute.allIn u.attributes t.attributes

end TokenClient
