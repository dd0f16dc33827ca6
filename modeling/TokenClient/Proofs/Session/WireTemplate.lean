import TokenClient.Proofs.Attribute.KeyTypes
import TokenClient.Proofs.Vendor.CodePairs
import TokenClient.Session.Reading

/-!
# Templates as a session passes them on

A template goes out attribute by attribute (`Session.wireTemplate_eq_map`), with its key types in the
module's own numbering, and a filled entry comes back with key types in generic codes. An attribute comes
back as it was (`Session.Portable.readEntry`) where nothing is lost on the way: the template is regular, its
texts fit the encoding, and the code map gives its key types back (`Session.Portable`).
-/

namespace TokenClient

/-- A template of some of the attributes of a regular one. -/
theorem Template.Regular.of_sublist {t : Template} {as : List Attribute} (regular : t.Regular)
    (sublist : as.Sublist t.attributes) : Regular ⟨as⟩ := by
  obtain ⟨distinct, holds, nested⟩ := regular
  exact .mk (distinct.sublist (sublist.map _)) (fun a h => holds a (sublist.mem h))
    fun a h => nested a (sublist.mem h)

/-- An attribute of a regular template is read back. -/
theorem Template.Regular.attribute_ofWire_toWire {t : Template} {encoding : Encoding} {a : Attribute}
    (regular : t.Regular) (ha : a ∈ t.attributes) (fits : ∀ text ∈ a.texts, encoding.Fits text) :
    Attribute.ofWire encoding (a.toWire encoding) = .ok a := by
  have hfits : ∀ text ∈ (Template.mk [a]).texts, encoding.Fits text := by
    simpa [Template.texts, Attribute.textsAll] using fits
  have h := (regular.of_sublist (List.singleton_sublist.2 ha)).ofWire_toWire hfits
  rw [toWire, ofWire, Attribute.allToWire, Attribute.allToWire, ofWireOnto] at h
  cases hread : Attribute.ofWire encoding (a.toWire encoding) with
  | error e =>
    rw [hread] at h
    cases h
  | ok b =>
    rw [hread] at h
    simp only [ofWireOnto, insert, empty, Attribute.insertInto] at h
    cases h
    rfl

namespace Session

variable {session : Session} {t : Template} {a : Attribute}

/-- An attribute as the module wants it. -/
def wireAttribute (session : Session) (a : Attribute) : WireAttribute :=
  (a.mapKeyTypes session.codes.keyTypeToVendor).toWire session.encoding

/-- A code map that translates nothing leaves every key type as it is. -/
theorem keyTypeToVendor_of_isEmpty (empty : session.codes.isEmpty = true) (k : Code) :
    session.codes.keyTypeToVendor k = k := by
  rw [CodeMap.isEmpty, Bool.and_eq_true] at empty
  rw [CodeMap.keyTypeToVendor, List.isEmpty_iff.1 empty.1]
  exact CodePairs.toVendor_of_not_mem fun _ hpair => nomatch hpair

/-- A template goes out renumbered, whether or not the code map translates anything. -/
theorem wireTemplate_eq (session : Session) (t : Template) :
    session.wireTemplate t =
      (t.mapKeyTypes session.codes.keyTypeToVendor).toWire session.encoding := by
  unfold wireTemplate
  split
  next empty => rw [Template.mapKeyTypes_eq_self fun k _ => keyTypeToVendor_of_isEmpty empty k]
  next => rfl

/-- The attributes of a template are sent one by one. -/
theorem wireTemplate_eq_map (session : Session) (t : Template) :
    session.wireTemplate t = t.attributes.map session.wireAttribute := by
  rw [wireTemplate_eq, Template.toWire, Template.attributes_mapKeyTypes, Attribute.allToWire_eq_map,
    List.map_map]
  rfl

/-- An attribute is sent under its own type. -/
theorem type_wireAttribute (session : Session) (a : Attribute) :
    (session.wireAttribute a).type = a.type := by
  rw [wireAttribute, Attribute.type_toWire, Attribute.type_mapKeyTypes]

/-- A template is sent with its types in their order. -/
theorem types_wireTemplate (session : Session) (t : Template) :
    (session.wireTemplate t).map (·.type) = t.types := by
  rw [wireTemplate_eq, Template.types_toWire, Template.types_mapKeyTypes]

/-- A template that loses nothing on the way to the module and back. -/
structure Portable (session : Session) (t : Template) : Prop where
  regular : t.Regular
  fits : ∀ text ∈ t.texts, session.encoding.Fits text
  translates : ∀ k ∈ t.keyTypes,
    session.codes.keyTypeToGeneric (session.codes.keyTypeToVendor k) = k

/-- An attribute of such a template is read back as it was. -/
theorem Portable.readEntry (portable : session.Portable t) (ha : a ∈ t.attributes) :
    session.readEntry (session.wireAttribute a) = .ok a := by
  have hmember : a.mapKeyTypes session.codes.keyTypeToVendor ∈
      (t.mapKeyTypes session.codes.keyTypeToVendor).attributes := by
    rw [Template.attributes_mapKeyTypes]
    exact List.mem_map_of_mem ha
  have hfits : ∀ text ∈ (a.mapKeyTypes session.codes.keyTypeToVendor).texts,
      session.encoding.Fits text := by
    intro text h
    rw [Attribute.texts_mapKeyTypes] at h
    exact portable.fits text (Attribute.mem_textsAll ha h)
  have hback : (a.mapKeyTypes session.codes.keyTypeToVendor).mapKeyTypes
      session.codes.keyTypeToGeneric = a :=
    Attribute.mapKeyTypes_inverse a fun k h => portable.translates k (Attribute.mem_keyTypesAll ha h)
  rw [Session.readEntry, wireAttribute,
    (portable.regular.mapKeyTypes _).attribute_ofWire_toWire hmember hfits]
  exact congrArg Except.ok hback

end Session

end TokenClient
