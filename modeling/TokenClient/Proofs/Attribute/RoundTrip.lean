import TokenClient.Attribute.Codec
import TokenClient.Proofs.Attribute.Equality
import TokenClient.Proofs.Attribute.Failure
import TokenClient.Proofs.Attribute.Payload
import TokenClient.Proofs.Text.Encoding

/-!
# Templates to the wire and back

A template that a client builds from known types comes back from the wire as it was, in both encodings if
its texts fit, and with it the order of the types at every level (`Template.ofWire_toWire_of_built`).

Reading goes by the kind that the table has for a type and knows nothing of the value that was written. It
gives the value back because a built template is regular (`Template.Regular`): every attribute holds a
value, of the kind that the table has for its type, and no type comes twice.

What comes back is what was stored. A big number is given as bytes, and a type that stores text takes bytes
for the text that they spell in UTF-8, so under such a type there is a text and no number, on the way out
and on the way back (`Attribute.bigNat?_of_withValue`).
-/

namespace TokenClient

/-- Templates to which values were given one after the other under known types, and whose nested
templates were made in the same way. -/
inductive Template.Built : Template → Prop
  | empty : Built .empty
  | set {t u : Template} {type : Code} {value : Value} (built : Built t)
      (known : (AttributeType.kind? type).isSome) (nested : ∀ inner, value = .template inner → Built inner)
      (given : t.set type value = .ok u) : Built u

/-- Templates of distinct types in which every attribute holds a value of the kind that the table has for
its type, at every level. -/
inductive Template.Regular : Template → Prop
  | mk {t : Template} (distinct : t.types.Nodup)
      (holds : ∀ a ∈ t.attributes, ∃ value, a = ⟨a.type, value.kind, .held value⟩ ∧
        AttributeType.kind? a.type = some value.kind)
      (nested : ∀ a ∈ t.attributes, ∀ inner, a.reading = .held (.template inner) → Regular inner) :
      Regular t

/-- A template has an attribute, itself or in a template in it at any level. -/
inductive Template.Carries (a : Attribute) : Template → Prop
  | here {t : Template} (member : a ∈ t.attributes) : Carries a t
  | inside {t inner : Template} {b : Attribute} (member : b ∈ t.attributes)
      (holds : b.reading = .held (.template inner)) (carried : Carries a inner) : Carries a t

mutual

/-- The texts in a value, at every level. -/
def Value.texts : Value → List String
  | .text s => [s]
  | .template ⟨as⟩ => Attribute.textsAll as
  | .bool _ | .number _ | .bytes _ | .date _ | .mechanism _ | .mechanisms _ => []

/-- The texts in a reading, at every level. -/
def Reading.texts : Reading → List String
  | .held v => v.texts
  | .unknown | .absent | .sensitive | .empty => []

/-- The texts in an attribute, at every level. -/
def Attribute.texts : Attribute → List String
  | ⟨_, _, reading⟩ => reading.texts

/-- The texts in a list of attributes, at every level. -/
def Attribute.textsAll : List Attribute → List String
  | [] => []
  | a :: as => a.texts ++ Attribute.textsAll as

end

/-- The texts in a template, at every level. -/
def Template.texts (t : Template) : List String := Attribute.textsAll t.attributes

private theorem Value.texts_template (t : Template) : (Value.template t).texts = t.texts := by
  obtain ⟨as⟩ := t
  rw [texts, Template.texts]

/-- The texts of an attribute are among those of its list. -/
theorem Attribute.mem_textsAll {a : Attribute} {as : List Attribute} {text : String} (ha : a ∈ as)
    (htext : text ∈ a.texts) : text ∈ Attribute.textsAll as := by
  induction as with
  | nil => cases ha
  | cons b as ih =>
    rw [textsAll, List.mem_append]
    rcases List.mem_cons.1 ha with rfl | hmem
    · exact .inl htext
    · exact .inr (ih hmem)

/-! ## What is built is regular -/

/-- A value that fits a kind is stored as a value of it. -/
theorem Value.kind_of_coerce {kind : Kind} {value stored : Value} (h : value.coerce kind = .ok stored) :
    stored.kind = kind := by
  unfold coerce at h
  split at h
  · cases h
    rfl
  · cases h
    rfl
  · split at h
    · cases h
      rfl
    · cases h
  · split at h
    next heq =>
      cases h
      exact heq
    next => cases h

/-- A template that is stored is one that was given. -/
theorem Value.eq_of_coerce_template {kind : Kind} {value : Value} {inner : Template}
    (h : value.coerce kind = .ok (.template inner)) : value = .template inner := by
  unfold coerce at h
  split at h
  · cases h
  · cases h
  · split at h <;> cases h
  · split at h
    next => exact Except.ok.inj h
    next => cases h

/-- A listed attribute is made iff its value can be coerced to the kind of the table. -/
private theorem Attribute.withValue_eq_ok_iff {type : Code} {kind : Kind}
    (known : AttributeType.kind? type = some kind) {value : Value} {a : Attribute} :
    withValue type value = .ok a ↔
      ∃ stored, value.coerce kind = .ok stored ∧ a = ⟨type, kind, .held stored⟩ := by
  have hkind : AttributeType.kindFor type (some value.kind) = .ok kind := by
    rw [AttributeType.kindFor, known]
  rw [withValue, hkind]
  change (value.coerce kind >>= fun stored => pure ⟨type, kind, .held stored⟩) = .ok a ↔ _
  cases value.coerce kind with
  | error e =>
    constructor
    · intro h
      cases h
    · rintro ⟨_, h, -⟩
      cases h
  | ok stored =>
    constructor
    · intro h
      exact ⟨stored, rfl, (Except.ok.inj h).symm⟩
    · rintro ⟨_, h, rfl⟩
      cases h
      rfl

/-- Setting a type inserts the attribute made of it. -/
private theorem Template.set_eq_ok {t u : Template} {type : Code} {value : Value}
    (h : t.set type value = .ok u) :
    ∃ a, Attribute.withValue type value = .ok a ∧ u = t.insert a := by
  rw [set] at h
  cases ha : Attribute.withValue type value with
  | error e =>
    rw [ha] at h
    cases h
  | ok a =>
    rw [ha] at h
    exact ⟨a, rfl, (Except.ok.inj h).symm⟩

/-- Every template built by the operations of the client is regular. -/
theorem Template.Built.regular {t : Template} (built : t.Built) : t.Regular := by
  induction built with
  | empty => exact .mk .nil (fun _ h => nomatch h) (fun _ h => nomatch h)
  | @set t u type value _ known _ given iht ihnested =>
    obtain ⟨kind, hkind⟩ := Option.isSome_iff_exists.1 known
    obtain ⟨a, ha, rfl⟩ := set_eq_ok given
    obtain ⟨stored, hstored, rfl⟩ := (Attribute.withValue_eq_ok_iff hkind).1 ha
    obtain ⟨distinct, holds, nested⟩ := iht
    refine .mk (nodup_types_insert distinct _) (fun b hb => ?_) (fun b hb inner hinner => ?_)
    · rcases Attribute.mem_insertInto hb with rfl | hmem
      · cases Value.kind_of_coerce hstored
        exact ⟨stored, rfl, hkind⟩
      · exact holds b hmem
    · rcases Attribute.mem_insertInto hb with rfl | hmem
      · cases hinner
        exact ihnested inner (Value.eq_of_coerce_template hstored)
      · exact nested b hmem inner hinner

/-! ## Writing and reading -/

variable {encoding : Encoding}

/-- A value is read back by its kind, if a template in it is. -/
theorem Reading.ofWire_toWire {value : Value} (fits : ∀ text ∈ value.texts, encoding.Fits text)
    (nested : ∀ inner, value = .template inner →
      Template.ofWire encoding (inner.toWire encoding) = .ok inner) :
    Reading.ofWire encoding value.kind (value.toWire encoding) = .ok (.held value) := by
  cases value with
  | bool b => cases b <;> rfl
  | number n =>
    rw [Value.toWire, Reading.ofWire, Value.kind, Reading.ofBytes, Word.isEmpty_toBytes,
      if_neg Bool.false_ne_true, Word.ofBytes_toBytes]
    rfl
  | bytes b => rfl
  | text s =>
    rw [Value.toWire, Reading.ofWire, Value.kind, Reading.ofBytes,
      Encoding.decode_encode (fits s (by simp [Value.texts]))]
  | date d =>
    rw [Value.toWire, Reading.ofWire, Value.kind, Reading.ofBytes, Date.ofBytes_toBytes]
    rfl
  | mechanism m =>
    rw [Value.toWire, Reading.ofWire, Value.kind, Reading.ofBytes, Word.isEmpty_toBytes,
      if_neg Bool.false_ne_true, Word.ofBytes_toBytes]
    rfl
  | mechanisms ms =>
    rw [Value.toWire, Reading.ofWire, Value.kind, Reading.ofBytes, Word.arrayOfBytes_arrayToBytes]
    rfl
  | template t =>
    obtain ⟨as⟩ := t
    have hinner := nested ⟨as⟩ rfl
    rw [Template.ofWire, Template.toWire] at hinner
    rw [Value.toWire, Reading.ofWire, Value.kind, if_pos rfl, hinner]
    rfl

/-- An attribute of a known type is read back, if its value is. -/
theorem Attribute.ofWire_toWire {type : Code} {value : Value}
    (known : AttributeType.kind? type = some value.kind)
    (read : Reading.ofWire encoding value.kind (value.toWire encoding) = .ok (.held value)) :
    Attribute.ofWire encoding (Attribute.toWire encoding ⟨type, value.kind, .held value⟩) =
      .ok ⟨type, value.kind, .held value⟩ := by
  have hkind : wireKind type = value.kind := by
    rw [wireKind, known]
    rfl
  rw [toWire, Reading.toWire, Attribute.ofWire, hkind, read]
  rfl

/-- What the attributes of a template are read as is added in order. -/
theorem Template.ofWire_toWire_map {t : Template} {f : Attribute → Attribute}
    (each : ∀ a ∈ t.attributes, Attribute.ofWire encoding (a.toWire encoding) = .ok (f a)) :
    Template.ofWire encoding (t.toWire encoding) = .ok (ofAttributes (t.attributes.map f)) := by
  have hread : (t.toWire encoding).mapM (Attribute.ofWire encoding) = .ok (t.attributes.map f) := by
    rw [toWire, Attribute.allToWire_eq_map, mapM_eq_ok_iff, List.forall₂_map_left_iff,
      List.forall₂_map_right_iff, List.forall₂_same]
    exact each
  rw [ofWire_eq, hread]
  rfl

/-- A regular template is read back. -/
theorem Template.Regular.ofWire_toWire {t : Template} (regular : t.Regular)
    (fits : ∀ text ∈ t.texts, encoding.Fits text) :
    Template.ofWire encoding (t.toWire encoding) = .ok t := by
  induction regular with
  | @mk t distinct holds nested ih =>
    have each : ∀ a ∈ t.attributes, Attribute.ofWire encoding (a.toWire encoding) = .ok a := by
      intro a hmem
      obtain ⟨value, ha, known⟩ := holds a hmem
      have hfits : ∀ text ∈ value.texts, encoding.Fits text := by
        intro text htext
        refine fits text (Attribute.mem_textsAll hmem ?_)
        rw [ha]
        exact htext
      have hnested : ∀ inner, value = .template inner →
          Template.ofWire encoding (inner.toWire encoding) = .ok inner := by
        rintro inner rfl
        refine ih a hmem inner (congrArg Attribute.reading ha) fun text htext => hfits text ?_
        rwa [Value.texts_template]
      rw [ha]
      exact Attribute.ofWire_toWire known (Reading.ofWire_toWire hfits hnested)
    have hread : Template.ofWire encoding (t.toWire encoding) = .ok (ofAttributes (t.attributes.map id)) :=
      ofWire_toWire_map each
    rw [hread, List.map_id, ofAttributes_attributes distinct]

/-! ## Equality -/

/-- A regular template equals itself: no type comes twice in it or in a template in it. -/
theorem Template.Regular.same_self {t : Template} (regular : t.Regular) : t.same t = true := by
  induction regular with
  | mk distinct _ _ ih =>
    refine Template.same_self distinct fun a hmem => ?_
    exact Attribute.same_self_of_nested fun inner hinner => ih a hmem inner hinner

/-! ## Big numbers -/

/-- A big number under a known type is read as one, unless the type stores text. -/
theorem Attribute.bigNat?_of_withValue {type : Code} {kind : Kind}
    (known : AttributeType.kind? type = some kind) {n : Nat} {a : Attribute}
    (given : withValue type (.ofBigNat n) = .ok a) :
    a.bigNat? =
      if AttributeType.kind? type = some .text then .error (.token Rv.attributeTypeInvalid)
      else .ok (some n) := by
  obtain ⟨stored, hstored, rfl⟩ := (withValue_eq_ok_iff known).1 given
  rw [known]
  rw [Value.ofBigNat] at hstored
  cases kind with
  | bytes =>
    cases hstored
    rw [if_neg (by decide)]
    exact congrArg (fun m => Except.ok (some m)) (BigNat.ofBytes_toBytes n)
  | text =>
    rw [if_pos rfl]
    rw [Value.coerce] at hstored
    split at hstored
    · cases hstored
      rfl
    · cases hstored
  | bool | number | date | mechanism | mechanisms | template => cases hstored

/-- Every attribute a regular template carries is listed. -/
private theorem Template.Regular.known_of_carries {t : Template} {a : Attribute} (regular : t.Regular)
    (carried : t.Carries a) : ∃ kind, AttributeType.kind? a.type = some kind := by
  induction carried with
  | here member =>
    obtain ⟨-, holds, -⟩ := regular
    obtain ⟨value, -, known⟩ := holds a member
    exact ⟨value.kind, known⟩
  | inside member holds _ ih =>
    obtain ⟨-, -, nested⟩ := regular
    exact ih (nested _ member _ holds)

/-! ## The main result -/

/-- A built template whose texts fit the encoding is read back from the wire as the very template that was
written, so with the same types in the same order at every level, and it equals itself. What was given as
a big number at any level is read as this number from what comes back, unless its type stores text. -/
theorem Template.ofWire_toWire_of_built {t : Template} (built : t.Built)
    (fits : ∀ text ∈ t.texts, encoding.Fits text) :
    Template.ofWire encoding (t.toWire encoding) = .ok t ∧ t.same t = true ∧
      ∀ decoded a n, Template.ofWire encoding (t.toWire encoding) = .ok decoded → decoded.Carries a →
        Attribute.withValue a.type (.ofBigNat n) = .ok a →
          a.bigNat? =
            if AttributeType.kind? a.type = some .text then .error (.token Rv.attributeTypeInvalid)
            else .ok (some n) := by
  have regular := built.regular
  have hread := regular.ofWire_toWire fits
  refine ⟨hread, regular.same_self, fun decoded a n hdecoded carried given => ?_⟩
  cases hread.symm.trans hdecoded
  obtain ⟨kind, known⟩ := regular.known_of_carries carried
  exact Attribute.bigNat?_of_withValue known given

/-- A modulus that a key may be unwrapped with, some mechanisms and a date. -/
def unwrapRestriction (n : Nat) (start : Date) : Template :=
  ⟨[⟨0x120, .bytes, .held (.ofBigNat n)⟩, ⟨0x40000600, .mechanisms, .held (.mechanisms [1, 3])⟩,
    ⟨0x110, .date, .held (.date start)⟩]⟩

/-- A key with a label that Latin-1 has and a template. -/
def keyDescription (n : Nat) (start : Date) : Template :=
  ⟨[⟨0x3, .text, .held (.text "clé")⟩,
    ⟨0x40000212, .template, .held (.template (unwrapRestriction n start))⟩]⟩

private theorem built_unwrapRestriction (n : Nat) (start : Date) : (unwrapRestriction n start).Built :=
  have first := @Template.Built.set .empty _ 0x120 (.ofBigNat n) .empty rfl (fun _ h => by cases h) rfl
  have second := @Template.Built.set _ _ 0x40000600 (.mechanisms [1, 3]) first rfl
    (fun _ h => by cases h) rfl
  @Template.Built.set _ _ 0x110 (.date start) second rfl (fun _ h => by cases h) rfl

private theorem built_keyDescription (n : Nat) (start : Date) : (keyDescription n start).Built :=
  have first := @Template.Built.set .empty _ 0x3 (.text "clé") .empty rfl (fun _ h => by cases h) rfl
  @Template.Built.set _ _ 0x40000212 (.template (unwrapRestriction n start)) first rfl
    (fun _ h => by cases h; exact built_unwrapRestriction n start) rfl

/-- The modulus in the template of a key is read back in Latin-1. -/
theorem Template.ofWire_toWire_of_built_keyDescription :
    ∃ decoded a, Template.ofWire .latin1
        ((keyDescription 65537 ⟨2024, 2, 29, by decide⟩).toWire .latin1) = .ok decoded ∧
      decoded.Carries a ∧ a.type = 0x120 ∧ a.bigNat? = .ok (some 65537) := by
  have fits : ∀ text ∈ (keyDescription 65537 ⟨2024, 2, 29, by decide⟩).texts,
      Encoding.latin1.Fits text := by
    simp [keyDescription, unwrapRestriction, Template.texts, Attribute.textsAll, Attribute.texts,
      Reading.texts, Value.texts, Value.ofBigNat, Encoding.Fits]
  obtain ⟨read, -, numbers⟩ := ofWire_toWire_of_built (built_keyDescription _ _) fits
  have carried : (keyDescription 65537 ⟨2024, 2, 29, by decide⟩).Carries
      ⟨0x120, .bytes, .held (.ofBigNat 65537)⟩ :=
    .inside (List.mem_cons_of_mem _ List.mem_cons_self) rfl (.here List.mem_cons_self)
  exact ⟨_, _, read, carried, rfl, numbers _ _ 65537 read carried rfl⟩

/-- Under a type that stores text, a big number does not come back. -/
theorem Template.not_bigNat?_of_built :
    ¬ ∀ (encoding : Encoding) (t decoded : Template) (a : Attribute) (n : Nat), t.Built →
      (∀ text ∈ t.texts, encoding.Fits text) →
      Template.ofWire encoding (t.toWire encoding) = .ok decoded → decoded.Carries a →
      Attribute.withValue a.type (.ofBigNat n) = .ok a → a.bigNat? = .ok (some n) := by
  intro all
  let label : Attribute := ⟨0x3, .text, .held (.text "A")⟩
  have given : Attribute.withValue 0x3 (.ofBigNat 65) = .ok label := by
    have hbytes : Value.ofBigNat 65 = .bytes [65] := by
      rw [Value.ofBigNat, BigNat.toBytes]
      rfl
    have htext : Text.Utf8.decode? [65] = some ['A'] := by
      simp [Text.Utf8.decode?, Text.Utf8.scan]
    refine (Attribute.withValue_eq_ok_iff (show AttributeType.kind? 0x3 = some .text from rfl)).2
      ⟨.text "A", ?_, rfl⟩
    rw [hbytes, Value.coerce, htext]
  have built : Template.Built ⟨[label]⟩ :=
    @Template.Built.set .empty _ 0x3 (.ofBigNat 65) .empty rfl (fun _ h => by cases h)
      (by rw [Template.set, given]; rfl)
  have fits : ∀ text ∈ (Template.mk [label]).texts, Encoding.utf8.Fits text := fun _ _ => trivial
  have read := built.regular.ofWire_toWire fits
  have number := all .utf8 ⟨[label]⟩ ⟨[label]⟩ label 65 built fits read (.here List.mem_cons_self) given
  cases number

end TokenClient
