import TokenClient.Proofs.Attribute.Sameness

/-!
# Templates that are read, written and read again

What a module answers need not be in the form in which a client would write it: a number may have fewer bytes, a truth
value more, a text may not be well-formed, a type may come twice. Reading a template settles all of this, at every
level, so what is written of it is in normal form (`WireAttribute.Normal`).

One thing is lost. An attribute may be there without a value (`Attribute.Blank`), and on the wire this cannot be told
from one that was not filled in. So what is read again is the same template, but that nothing is known of the
attributes that have no value (`Template.forgetBlank`). It is written as before, so it then stays as it is. The main
result is `Template.reread_of_ofWire`.
-/

namespace TokenClient

mutual

/-- A value with the blank attributes in it unknown. -/
def Value.forgetBlank : Value → Value
  | .template ⟨as⟩ => .template ⟨Attribute.forgetBlankAll as⟩
  | .bool b => .bool b
  | .number n => .number n
  | .bytes b => .bytes b
  | .text s => .text s
  | .date d => .date d
  | .mechanism m => .mechanism m
  | .mechanisms ms => .mechanisms ms

/-- A reading with the blank attributes in it unknown, and itself unknown if it is of a blank attribute. -/
def Reading.forgetBlank : Reading → Reading
  | .empty => .unknown
  | .held v => .held v.forgetBlank
  | .unknown => .unknown
  | .absent => .absent
  | .sensitive => .sensitive

/-- An attribute, unknown if it is blank, and with the blank attributes in it unknown. -/
def Attribute.forgetBlank : Attribute → Attribute
  | ⟨type, kind, reading⟩ => ⟨type, kind, reading.forgetBlank⟩

/-- A list of attributes with the blank ones unknown, at every level. -/
def Attribute.forgetBlankAll : List Attribute → List Attribute
  | [] => []
  | a :: as => a.forgetBlank :: Attribute.forgetBlankAll as

end

/-- A template with the blank attributes unknown, at every level. -/
def Template.forgetBlank (t : Template) : Template := ⟨Attribute.forgetBlankAll t.attributes⟩

/-- An attribute is there and has no value. -/
def Attribute.Blank (a : Attribute) : Prop := a.reading.isPresent = true ∧ a.reading.value? = none

/-- An entry says that an attribute is there and has no value. -/
def WireAttribute.Blank (entry : WireAttribute) : Prop :=
  ∃ bytes, entry.value = .bytes bytes ∧ (Attribute.wireKind entry.type).SaysNone bytes

/-- Bytes in the form in which a value of a kind is written. -/
def Kind.Writes (encoding : Encoding) (bytes : Bytes) : Kind → Prop
  | .bool => bytes = [0] ∨ bytes = [1]
  | .number | .mechanism => bytes.length = 8
  | .bytes => True
  | .text => encoding = .utf8 → ∃ text, Text.Utf8.decode? bytes = some text
  | .date => ∃ date : Date, bytes = date.toBytes
  | .mechanisms => 8 ∣ bytes.length
  | .template => False

/-- An entry in the form in which it is written, at every level. -/
inductive WireAttribute.Normal (encoding : Encoding) : WireAttribute → Prop
  | null {type : Code} : Normal encoding ⟨type, .null⟩
  | bytes {type : Code} {bytes : Bytes} (written : (Attribute.wireKind type).Writes encoding bytes) :
      Normal encoding ⟨type, .bytes bytes⟩
  | nested {type : Code} {entries : List WireAttribute} (distinct : (entries.map WireAttribute.type).Nodup)
      (each : ∀ entry ∈ entries, Normal encoding entry) : Normal encoding ⟨type, .nested entries⟩

variable {encoding : Encoding} {a : Attribute} {t : Template} {type : Code} {kind : Kind} {value : Value}

/-! ## Forgetting -/

private theorem Value.forgetBlank_template (t : Template) :
    (Value.template t).forgetBlank = .template t.forgetBlank := by
  obtain ⟨as⟩ := t
  rw [forgetBlank, Template.forgetBlank]

private theorem Value.forgetBlank_of_not_template (h : ∀ inner, value ≠ .template inner) :
    value.forgetBlank = value := by
  cases value with
  | template t => exact absurd rfl (h t)
  | bool _ | number _ | bytes _ | text _ | date _ | mechanism _ | mechanisms _ => rw [forgetBlank]

@[simp]
private theorem Attribute.type_forgetBlank (a : Attribute) : a.forgetBlank.type = a.type := by
  obtain ⟨type, kind, reading⟩ := a
  rw [forgetBlank]

/-- Blank attributes are forgotten one by one. -/
private theorem Attribute.forgetBlankAll_eq_map (as : List Attribute) :
    Attribute.forgetBlankAll as = as.map Attribute.forgetBlank := by
  induction as with
  | nil => rw [forgetBlankAll, List.map_nil]
  | cons a as ih => rw [forgetBlankAll, ih, List.map_cons]

private theorem Template.attributes_forgetBlank (t : Template) :
    t.forgetBlank.attributes = t.attributes.map Attribute.forgetBlank :=
  Attribute.forgetBlankAll_eq_map t.attributes

@[simp]
private theorem Template.types_forgetBlank (t : Template) : t.forgetBlank.types = t.types := by
  rw [types, attributes_forgetBlank, List.map_map]
  exact List.map_congr_left fun a _ => a.type_forgetBlank

mutual

/-- What is forgotten was not written: the wire value is the same. -/
theorem Value.toWire_forgetBlank (encoding : Encoding) : ∀ value : Value,
    value.forgetBlank.toWire encoding = value.toWire encoding
  | .template ⟨as⟩ => by
    rw [Value.forgetBlank, Value.toWire, Value.toWire, Attribute.allToWire_forgetBlankAll encoding as]
  | .bool _ | .number _ | .bytes _ | .text _ | .date _ | .mechanism _ | .mechanisms _ => by
    rw [Value.forgetBlank]

private theorem Reading.toWire_forgetBlank (encoding : Encoding) : ∀ reading : Reading,
    reading.forgetBlank.toWire encoding = reading.toWire encoding
  | .held value => by
    rw [Reading.forgetBlank, Reading.toWire, Reading.toWire, Value.toWire_forgetBlank encoding value]
  | .empty => by rw [Reading.forgetBlank, Reading.toWire, Reading.toWire]
  | .unknown | .absent | .sensitive => by rw [Reading.forgetBlank]

private theorem Attribute.toWire_forgetBlank (encoding : Encoding) : ∀ a : Attribute,
    a.forgetBlank.toWire encoding = a.toWire encoding
  | ⟨type, kind, reading⟩ => by
    rw [Attribute.forgetBlank, Attribute.toWire, Attribute.toWire, Reading.toWire_forgetBlank encoding reading]

private theorem Attribute.allToWire_forgetBlankAll (encoding : Encoding) : ∀ as : List Attribute,
    Attribute.allToWire encoding (Attribute.forgetBlankAll as) = Attribute.allToWire encoding as
  | [] => by rw [Attribute.forgetBlankAll]
  | a :: as => by
    rw [Attribute.forgetBlankAll, Attribute.allToWire, Attribute.allToWire, Attribute.toWire_forgetBlank encoding a,
      Attribute.allToWire_forgetBlankAll encoding as]

end

/-- Forgetting the blank values of a template changes nothing of what is sent. -/
private theorem Template.toWire_forgetBlank (encoding : Encoding) (t : Template) :
    t.forgetBlank.toWire encoding = t.toWire encoding :=
  Attribute.allToWire_forgetBlankAll encoding t.attributes

/-! ## What is read -/

namespace Attribute

/-- What can be said of an attribute that was read from the wire, apart from those in it. -/
structure Decoded (encoding : Encoding) (a : Attribute) : Prop where
  kind : a.kind = wireKind a.type
  holds : a.HoldsOwnKind
  distinct : a.HoldsDistinct
  told : a.reading ≠ .absent ∧ a.reading ≠ .sensitive
  fits : ∀ text, a.reading = .held (.text text) → encoding.Fits text

/-- Reading an entry tells nothing, that there is no value, or a value. -/
theorem reading_of_ofWire {entry : WireAttribute} (h : ofWire encoding entry = .ok a) :
    a.type = entry.type ∧ a.kind = wireKind a.type ∧
      (a.reading = .unknown ∧ ¬ entry.Blank ∨ a.reading = .empty ∧ entry.Blank ∨
        ¬ entry.Blank ∧ ∃ value, a.reading = .held value ∧ ∀ text, value = .text text → encoding.Fits text) := by
  obtain ⟨type, value⟩ := entry
  rw [ofWire] at h
  obtain ⟨reading, hreading, rfl⟩ := map_ok_iff.1 h
  refine ⟨rfl, rfl, ?_⟩
  cases value with
  | null =>
    rw [Reading.ofWire] at hreading
    cases hreading
    refine .inl ⟨rfl, ?_⟩
    rintro ⟨_, ⟨⟩, -⟩
  | bytes bytes =>
    -- The bytes alone tell whether the entry is blank, given the kind of its type.
    have hblank : WireAttribute.Blank ⟨type, .bytes bytes⟩ ↔ (wireKind type).SaysNone bytes := by
      constructor
      · rintro ⟨_, ⟨⟩, hnone⟩
        exact hnone
      · exact fun hnone => ⟨bytes, rfl, hnone⟩
    rw [Reading.ofWire] at hreading
    rw [hblank]
    obtain ⟨hnone, rfl⟩ | ⟨hnot, value, rfl, -, fits, -⟩ := Reading.ofBytes_cases hreading
    · exact .inr (.inl ⟨rfl, hnone⟩)
    · exact .inr (.inr ⟨hnot, value, rfl, fits⟩)
  | nested entries =>
    rw [Reading.ofWire] at hreading
    split at hreading
    next =>
      obtain ⟨t, -, rfl⟩ := map_ok_iff.1 hreading
      refine .inr (.inr ⟨?_, _, rfl, fun _ h => nomatch h⟩)
      rintro ⟨_, ⟨⟩, -⟩
    next => cases hreading

/-- Every attribute read off the wire is a decoded one. -/
theorem decoded_ofWire (entry : WireAttribute) (a : Attribute) (h : ofWire encoding entry = .ok a) :
    a.Decoded encoding where
  kind := (reading_of_ofWire h).2.1
  holds := kept_holdsOwnKind.ofWire encoding entry a h
  distinct := holdsDistinct_ofWire entry a h
  told := by
    obtain ⟨-, -, ⟨h, -⟩ | ⟨h, -⟩ | ⟨-, value, h, -⟩⟩ := reading_of_ofWire h <;> rw [h] <;> exact ⟨nofun, nofun⟩
  fits text htext := by
    obtain ⟨-, -, ⟨h, -⟩ | ⟨h, -⟩ | ⟨-, value, h, fits⟩⟩ := reading_of_ofWire h
    · cases h.symm.trans htext
    · cases h.symm.trans htext
    · cases h.symm.trans htext
      exact fits text rfl

/-- An attribute is blank if the entry says so that it is read from. -/
theorem blank_iff_of_ofWire {entry : WireAttribute} (h : ofWire encoding entry = .ok a) :
    a.Blank ↔ entry.Blank := by
  rw [Blank]
  obtain ⟨-, -, ⟨h, hnot⟩ | ⟨h, hblank⟩ | ⟨hnot, value, h, -⟩⟩ := reading_of_ofWire h
  · rw [h]
    exact iff_of_false nofun hnot
  · rw [h]
    exact iff_of_true ⟨rfl, rfl⟩ hblank
  · rw [h]
    exact iff_of_false nofun hnot

end Attribute

/-! ## Reading again -/

/-- A template is read again if its attributes are. -/
theorem Template.ofWire_toWire_forgetBlank (distinct : t.types.Nodup)
    (each : ∀ a ∈ t.attributes, Attribute.ofWire encoding (a.toWire encoding) = .ok a.forgetBlank) :
    Template.ofWire encoding (t.toWire encoding) = .ok t.forgetBlank := by
  rw [ofWire_toWire_map each, ← attributes_forgetBlank, ofAttributes_attributes]
  rwa [types_forgetBlank]

/-- A value is read again as it was, but for what is blank in it. -/
theorem Reading.ofWire_toWire_forgetBlank (fits : ∀ text, value = .text text → encoding.Fits text)
    (nested : ∀ inner, value = .template inner →
      Template.ofWire encoding (inner.toWire encoding) = .ok inner.forgetBlank) :
    Reading.ofWire encoding value.kind (value.toWire encoding) = .ok (.held value.forgetBlank) := by
  by_cases h : ∃ inner, value = .template inner
  · obtain ⟨⟨as⟩, rfl⟩ := h
    have hinner := nested ⟨as⟩ rfl
    rw [Template.ofWire, Template.toWire] at hinner
    rw [Value.toWire, Reading.ofWire, Value.kind, if_pos rfl, hinner, Value.forgetBlank_template]
    rfl
  · rw [Value.forgetBlank_of_not_template (not_exists.1 h)]
    refine Reading.ofWire_toWire (fun text htext => ?_) fun inner hinner => absurd ⟨inner, hinner⟩ h
    cases value with
    | text s =>
      rw [Value.texts, List.mem_singleton] at htext
      exact fits text (htext ▸ rfl)
    | template t => exact absurd ⟨t, rfl⟩ h
    | bool _ | number _ | bytes _ | date _ | mechanism _ | mechanisms _ =>
      rw [Value.texts] at htext
      cases htext

/-- What was read is read again, but for what is blank. -/
theorem Attribute.ofWire_toWire_forgetBlank (decoded : a.Throughout (Decoded encoding)) :
    ofWire encoding (a.toWire encoding) = .ok a.forgetBlank := by
  induction decoded with
  | @mk a here nested ih =>
    obtain ⟨type, kind, reading⟩ := a
    obtain rfl : kind = wireKind type := here.kind
    rw [toWire, ofWire, forgetBlank]
    cases reading with
    | unknown | empty =>
      rw [Reading.toWire, Reading.ofWire, Reading.forgetBlank]
      rfl
    | absent => exact absurd rfl here.told.1
    | sensitive => exact absurd rfl here.told.2
    | held value =>
      have hkind : value.kind = wireKind type := here.holds value rfl
      have hvalue : Reading.ofWire encoding (wireKind type) (value.toWire encoding) =
          .ok (.held value.forgetBlank) := by
        rw [← hkind]
        refine Reading.ofWire_toWire_forgetBlank (fun text h => here.fits text (h ▸ rfl)) ?_
        rintro inner rfl
        exact Template.ofWire_toWire_forgetBlank (here.distinct inner rfl) (ih inner rfl)
      rw [Reading.toWire, hvalue, Reading.forgetBlank]
      rfl

/-! ## Equality with what was read first -/

/-- A template is the same without its blank values iff none of its attributes, at any depth, had one. -/
private theorem Template.same_forgetBlank_iff {P : Attribute → Prop} (distinct : t.types.Nodup)
    (each : ∀ a ∈ t.attributes, a.forgetBlank.same a = true ↔ a.Throughout P) :
    t.forgetBlank.same t = true ↔ t.Throughout P := by
  have distinct' : t.forgetBlank.types.Nodup := by rwa [types_forgetBlank]
  have found : ∀ type b, t.forgetBlank.get? type = some b ↔ ∃ a ∈ t.attributes, a.type = type ∧ b = a.forgetBlank := by
    intro type b
    rw [get?_eq_some_iff distinct', attributes_forgetBlank, List.mem_map]
    constructor
    · rintro ⟨⟨a, ha, rfl⟩, rfl⟩
      exact ⟨a, ha, a.type_forgetBlank.symm, rfl⟩
    · rintro ⟨a, ha, rfl, rfl⟩
      exact ⟨⟨a, ha, rfl⟩, a.type_forgetBlank⟩
  rw [same_iff distinct' distinct]
  constructor
  · rintro ⟨-, under⟩ a ha
    exact (each a ha).1 (under a.type _ a ((found a.type _).2 ⟨a, ha, rfl, rfl⟩)
      ((get?_eq_some_iff distinct).2 ⟨ha, rfl⟩))
  · intro all
    refine ⟨fun type => by rw [types_forgetBlank], fun type b a hb ha => ?_⟩
    obtain ⟨c, hc, rfl, rfl⟩ := (found type b).1 hb
    obtain rfl : c = a := Option.some.inj (((get?_eq_some_iff distinct).2 ⟨hc, rfl⟩).symm.trans ha)
    exact (each c hc).2 (all c hc)

/-- What is read again is equal to what was read first if nothing in it was blank. -/
theorem Attribute.same_forgetBlank_iff (decoded : a.Throughout (Decoded encoding)) :
    a.forgetBlank.same a = true ↔ a.Throughout fun b => ¬ b.Blank := by
  induction decoded with
  | @mk a here nested ih =>
    obtain ⟨type, kind, reading⟩ := a
    rw [forgetBlank, same_iff, Reading.same_iff]
    cases reading with
    | unknown =>
      rw [Reading.forgetBlank]
      exact iff_of_true ⟨rfl, .inl ⟨rfl, nofun⟩⟩ (throughout_of_value?_eq_none (fun h => nomatch h.1) rfl)
    | empty =>
      rw [Reading.forgetBlank]
      refine iff_of_false ?_ ?_
      · rintro ⟨-, ⟨h, -⟩ | ⟨_, _, h, -⟩⟩ <;> cases h
      · rintro ⟨notBlank, -⟩
        exact notBlank ⟨rfl, rfl⟩
    -- Only a single read tells of these two, and decoding never does.
    | absent => exact absurd rfl here.told.1
    | sensitive => exact absurd rfl here.told.2
    | held value =>
      have notBlank : ¬ (⟨type, kind, .held value⟩ : Attribute).Blank := fun h => nomatch h.2
      rw [Reading.forgetBlank]
      by_cases h : ∃ inner, value = .template inner
      · obtain ⟨t, rfl⟩ := h
        have hinner := Template.same_forgetBlank_iff (here.distinct t rfl) (ih t rfl)
        rw [Value.forgetBlank_template]
        constructor
        · rintro ⟨-, ⟨-, hnot⟩ | ⟨_, _, h, h', hsame⟩⟩
          · exact absurd rfl (hnot _)
          · cases h
            cases h'
            refine throughout_held notBlank ?_
            rintro inner ⟨⟩
            exact hinner.1 hsame
        · rintro ⟨-, each⟩
          exact ⟨rfl, .inr ⟨_, _, rfl, rfl, hinner.2 (each t rfl)⟩⟩
      · have hnot := not_exists.1 h
        rw [Value.forgetBlank_of_not_template hnot]
        refine iff_of_true ⟨rfl, .inl ⟨rfl, fun inner h => hnot inner (Reading.held.inj h)⟩⟩ ?_
        exact throughout_held notBlank fun inner h => absurd h (hnot inner)

/-! ## Normal form -/

/-- A value that is no template is written in the form of its kind. -/
theorem Value.writes_toWire (encoding : Encoding) (h : ∀ inner, value ≠ .template inner) :
    ∃ bytes, value.toWire encoding = .bytes bytes ∧ value.kind.Writes encoding bytes := by
  cases value with
  | bool b => exact ⟨_, rfl, by cases b <;> simp [kind, Kind.Writes]⟩
  | number n => exact ⟨_, rfl, Word.length_toBytes n⟩
  | mechanism m => exact ⟨_, rfl, Word.length_toBytes m⟩
  | bytes b => exact ⟨_, rfl, trivial⟩
  | text s =>
    refine ⟨_, rfl, ?_⟩
    rintro rfl
    exact ⟨s.toList, Text.Utf8.decode?_encode s.toList⟩
  | date d => exact ⟨_, rfl, d, rfl⟩
  | mechanisms ms =>
    refine ⟨_, rfl, ms.length, ?_⟩
    exact Word.length_arrayToBytes ms
  | template t => exact absurd rfl (h t)

/-- What was read is written in normal form. -/
theorem Attribute.normal_toWire (decoded : a.Throughout (Decoded encoding)) :
    (a.toWire encoding).Normal encoding := by
  induction decoded with
  | @mk a here nested ih =>
    obtain ⟨type, kind, reading⟩ := a
    obtain rfl : kind = wireKind type := here.kind
    rw [toWire]
    cases reading with
    | unknown | empty | absent | sensitive =>
      rw [Reading.toWire]
      exact .null
    | held value =>
      rw [Reading.toWire]
      by_cases h : ∃ inner, value = .template inner
      · obtain ⟨⟨as⟩, rfl⟩ := h
        have htypes := Template.types_toWire encoding ⟨as⟩
        rw [Template.toWire] at htypes
        rw [Value.toWire]
        refine .nested (htypes ▸ here.distinct _ rfl) ?_
        rw [allToWire_eq_map]
        intro entry hentry
        obtain ⟨b, hb, rfl⟩ := List.mem_map.1 hentry
        exact ih _ rfl b hb
      · obtain ⟨bytes, hbytes, written⟩ := value.writes_toWire encoding (not_exists.1 h)
        rw [hbytes]
        have hkind : value.kind = wireKind type := here.holds value rfl
        exact .bytes (hkind ▸ written)

/-! ## The main result -/

/-- What is read of entries is written in normal form. Read again, it is the same template, with the same types in
order, but that its blank attributes are unknown, and it is equal if there are none. The blank attributes are those of
which an entry says so. What is read again is written as before, so from then on nothing changes. -/
theorem Template.reread_of_ofWire {entries : List WireAttribute} (read : Template.ofWire encoding entries = .ok t) :
    Template.ofWire encoding (t.toWire encoding) = .ok t.forgetBlank ∧
      t.forgetBlank.types = t.types ∧
      (t.forgetBlank.same t = true ↔ t.Throughout fun a => ¬ a.Blank) ∧
      (∀ entry a, Attribute.ofWire encoding entry = .ok a → (a.Blank ↔ entry.Blank)) ∧
      ((t.toWire encoding).map WireAttribute.type).Nodup ∧
      (∀ entry ∈ t.toWire encoding, entry.Normal encoding) ∧
      t.forgetBlank.toWire encoding = t.toWire encoding := by
  have distinct : t.types.Nodup := nodup_types_ofWire read
  have decoded : t.Throughout (Attribute.Decoded encoding) :=
    Template.throughout_ofWireOnto Attribute.decoded_ofWire read Template.throughout_empty
  refine ⟨?_, t.types_forgetBlank, ?_, fun _ _ => Attribute.blank_iff_of_ofWire, ?_, ?_,
    t.toWire_forgetBlank encoding⟩
  · exact ofWire_toWire_forgetBlank distinct fun a ha => Attribute.ofWire_toWire_forgetBlank (decoded a ha)
  · exact same_forgetBlank_iff distinct fun a ha => Attribute.same_forgetBlank_iff (decoded a ha)
  · rwa [types_toWire]
  · rw [toWire, Attribute.allToWire_eq_map]
    intro entry hentry
    obtain ⟨a, ha, rfl⟩ := List.mem_map.1 hentry
    exact Attribute.normal_toWire (decoded a ha)

/-- A key class of one byte, a flag of two, two labels of which the last is not UTF-8, and a template with a key type
without a value. -/
def sloppyAnswer : List WireAttribute :=
  [⟨0x0, .bytes [3]⟩, ⟨0x1, .bytes [0, 2]⟩, ⟨0x3, .bytes [0x61]⟩, ⟨0x3, .bytes [0xFF]⟩,
    ⟨0x40000212, .nested [⟨0x100, .bytes []⟩]⟩]

/-- What is read of it. -/
def sloppyTemplate : Template :=
  ⟨[⟨0x0, .number, .held (.number 3)⟩, ⟨0x1, .bool, .held (.bool true)⟩, ⟨0x3, .text, .held (.text "\uFFFD")⟩,
    ⟨0x40000212, .template, .held (.template ⟨[⟨0x100, .number, .empty⟩]⟩)⟩]⟩

/-- What is read of it again is not equal, because of the key type. -/
theorem Template.reread_of_ofWire_sloppyAnswer :
    Template.ofWire .utf8 (sloppyTemplate.toWire .utf8) = .ok sloppyTemplate.forgetBlank ∧
      sloppyTemplate.forgetBlank.same sloppyTemplate = false := by
  have hlabel : Encoding.utf8.decode [0xFF] = "\uFFFD" := by
    simp [Encoding.decode, Text.Utf8.decodeLossy, Text.Utf8.scan, Text.Utf8.lead?]
  have read : Template.ofWire .utf8 sloppyAnswer = .ok sloppyTemplate := by
    rw [sloppyTemplate, ← hlabel]
    rfl
  obtain ⟨again, -, same, -⟩ := reread_of_ofWire read
  refine ⟨again, Bool.eq_false_iff.2 fun h => ?_⟩
  obtain ⟨-, nested⟩ := same.1 h ⟨0x40000212, .template, .held (.template ⟨[⟨0x100, .number, .empty⟩]⟩)⟩
    (by simp [sloppyTemplate])
  obtain ⟨notBlank, -⟩ := nested _ rfl _ List.mem_cons_self
  exact notBlank ⟨rfl, rfl⟩

end TokenClient
