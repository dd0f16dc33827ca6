import Mathlib.Data.Option.Basic
import TokenClient.Proofs.Session.WireTemplate
import TokenClient.Proofs.SoftToken.Store
import TokenClient.SoftToken.StoredObject

/-!
# What a client sees of a stored object

An object in the token is a list of wire attributes, each type once. A client sees it as a map from types to
values (`SoftToken.StoredObject.Shows`): under each type nothing is stored, or wire bytes in which the client
reads a value (`Client.Decodes`). A template that loses nothing on the way shows the client's own values
(`Session.Portable.decodes`), and it still does when it is put into other attributes
(`SoftToken.decodes_overlay`).
-/

namespace TokenClient

/-- Of two options each, the first ones go before the second ones on both sides. -/
theorem rel_or {α β : Type} {r : α → β → Prop} {a₁ a₂ : Option α} {b₁ b₂ : Option β}
    (first : Option.Rel r a₁ b₁) (second : Option.Rel r a₂ b₂) :
    Option.Rel r (a₁.or a₂) (b₁.or b₂) := by
  cases first with
  | some h => exact .some h
  | none => exact second

open SoftToken

/-- What a client reads in a wire value under a type is this value. -/
def Client.Decodes (client : Client) (type : Code) (wire : WireValue) (value : Value) : Prop :=
  (Attribute.ofWire client.encoding ⟨type, wire⟩).map (·.mapKeyTypes client.codes.keyTypeToGeneric) =
    .ok ⟨type, value.kind, .held value⟩

/-- The mark of sensitivity is read as a truth value. -/
theorem Client.Decodes.sensitive {client : Client} {wire : WireValue} {value : Value}
    (decodes : client.Decodes AttributeType.sensitive wire value) :
    ∃ b, wire = .bytes b ∧ value = .bool (b.any (· != 0)) := by
  have hkind : Attribute.wireKind AttributeType.sensitive = .bool := by decide
  have hother : AttributeType.sensitive ≠ AttributeType.keyType := by decide
  rw [Decodes, Attribute.ofWire, hkind] at decodes
  cases wire with
  | null =>
    simp [Reading.ofWire, Except.map, Attribute.mapKeyTypes, hother, Reading.mapKeyTypes] at decodes
  | nested entries => simp [Reading.ofWire, Except.map] at decodes
  | bytes b =>
    refine ⟨b, rfl, ?_⟩
    simp [Reading.ofWire, Reading.ofBytes, Except.map, Attribute.mapKeyTypes, hother,
      Reading.mapKeyTypes, Value.mapKeyTypes] at decodes
    exact decodes.2.symm

/-- A template that loses nothing on the way shows its values. -/
theorem Session.Portable.decodes {session : Session} {t : Template} (portable : session.Portable t)
    (type : Code) :
    Option.Rel (session.token.client.Decodes type) (StoredObject.valueIn (session.wireTemplate t) type)
      (t.value? type) := by
  cases hget : t.get? type with
  | none =>
    have habsent : StoredObject.valueIn (session.wireTemplate t) type = none := by
      rw [StoredObject.valueIn_eq_none_iff, types_wireTemplate, Template.types]
      intro hmem
      obtain ⟨a, ha, rfl⟩ := List.mem_map.1 hmem
      simpa using List.find?_eq_none.1 hget a ha
    rw [habsent, Template.value?, hget]
    exact .none
  | some a =>
    have ha : a ∈ t.attributes := List.mem_of_find?_eq_some hget
    obtain rfl : a.type = type := by simpa using List.find?_some hget
    have hread := portable.readEntry ha
    obtain ⟨distinct, holds, -⟩ := portable.regular
    obtain ⟨value, hvalue, -⟩ := holds a ha
    have hstored : StoredObject.valueIn (session.wireTemplate t) a.type =
        some (session.wireAttribute a).value := by
      have hmem : session.wireAttribute a ∈ session.wireTemplate t := by
        rw [wireTemplate_eq_map]
        exact List.mem_map_of_mem ha
      rw [← type_wireAttribute session a]
      refine StoredObject.valueIn_of_mem ?_ hmem
      rwa [types_wireTemplate]
    have hgiven : t.value? a.type = some value := by
      rw [Template.value?, hget, hvalue]
      rfl
    rw [hstored, hgiven]
    refine .some ?_
    -- Wire attributes are defined together with lists of them, so they have no eta rule.
    have heta : ∀ entry : WireAttribute, entry.type = a.type → ⟨a.type, entry.value⟩ = entry := by
      rintro ⟨type, value⟩ rfl
      rfl
    rw [Client.Decodes, heta _ (type_wireAttribute session a), ← hvalue]
    exact hread

namespace SoftToken

variable {client : Client} {session : Session} {t : Template} {attrs : List WireAttribute}
  {values : Code → Option Value}

/-- A template put into attributes shows its values, and else what was there. -/
theorem decodes_overlay (portable : session.Portable t)
    (shown : ∀ type, Option.Rel (session.token.client.Decodes type) (StoredObject.valueIn attrs type)
      (values type)) (type : Code) :
    Option.Rel (session.token.client.Decodes type)
      (StoredObject.valueIn (overlay attrs (session.wireTemplate t)) type)
      (Store.Object.overlay values t type) := by
  have distinct : ((session.wireTemplate t).map (·.type)).Nodup := by
    obtain ⟨distinct, -, -⟩ := portable.regular
    rwa [Session.types_wireTemplate]
  rw [StoredObject.valueIn_overlay distinct]
  exact rel_or (portable.decodes type) (shown type)

/-- A stored object as a client sees it. -/
structure StoredObject.Shows (client : Client) (stored : StoredObject) (object : Store.Object) : Prop where
  distinct : (stored.attributes.map (·.type)).Nodup
  values : ∀ type, Option.Rel (client.Decodes type) (stored.get? type) (object.values type)
  hidden : stored.hidesValue = object.hidden

/-- The mark of sensitivity means the same on both sides. -/
theorem marksSensitive_eq
    (shown : ∀ type, Option.Rel (client.Decodes type) (StoredObject.valueIn attrs type) (values type)) :
    StoredObject.marksSensitive attrs = (Store.Object.make values).hidden := by
  have hmark := shown AttributeType.sensitive
  rw [StoredObject.marksSensitive, Store.Object.make]
  generalize StoredObject.valueIn attrs AttributeType.sensitive = wire at hmark ⊢
  generalize values AttributeType.sensitive = value at hmark ⊢
  cases hmark with
  | none => rfl
  | some decodes =>
    obtain ⟨b, rfl, rfl⟩ := decodes.sensitive
    rfl

/-- A new object shows the values its template decodes to. -/
private theorem StoredObject.shows_make {entries : List WireAttribute}
    (shown : ∀ type, Option.Rel (client.Decodes type) (StoredObject.valueIn (overlay [] entries) type)
      (values type)) : (StoredObject.make entries).Shows client (.make values) where
  distinct := @nodup_types_overlay [] List.nodup_nil entries
  values := shown
  hidden := marksSensitive_eq shown

/-- What is created shows the template. -/
theorem StoredObject.shows_create (portable : session.Portable t) :
    (StoredObject.make (session.wireTemplate t)).Shows session.token.client
      (.make (Store.Object.overlay (fun _ => none) t)) :=
  shows_make (decodes_overlay portable fun _ => .none)

/-- What is copied shows the template over what was copied. -/
theorem StoredObject.Shows.copy {stored : StoredObject} {object : Store.Object}
    (shows : stored.Shows session.token.client object) (portable : session.Portable t) :
    (StoredObject.make (stored.attributes ++ session.wireTemplate t)).Shows session.token.client
      (.make (Store.Object.overlay object.values t)) := by
  refine shows_make ?_
  rw [overlay_append]
  refine decodes_overlay portable fun type => ?_
  rw [StoredObject.valueIn_overlay shows.distinct, StoredObject.valueIn_nil, Option.or_none]
  exact shows.values type

/-- What is written shows the template over what was there. Whether the value is hidden stays as it is. -/
theorem StoredObject.Shows.write {stored : StoredObject} {object : Store.Object}
    (shows : stored.Shows session.token.client object) (portable : session.Portable t) :
    (stored.write (session.wireTemplate t)).Shows session.token.client
      { object with values := Store.Object.overlay object.values t } where
  distinct := nodup_types_overlay shows.distinct _
  values := decodes_overlay portable shows.values
  hidden := shows.hidden

end SoftToken

end TokenClient
