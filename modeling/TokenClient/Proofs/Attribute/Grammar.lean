import TokenClient.Proofs.Attribute.Collection
import TokenClient.Proofs.Attribute.Failure
import TokenClient.Proofs.Attribute.Payload
import TokenClient.Proofs.Text.Encoding

/-!
# What can be read from the wire

A wire entry is malformed if its bytes are none of the kind that the table has for its type (`Kind.Refuses`), or if it
has a nested list under a type that stores no template (`WireAttribute.Malformed`). Nothing else goes wrong: a list of
entries cannot be read exactly if there is a malformed entry in it, at whatever depth, and all such failures are the
same (`Template.ofWire_fails_iff`). Types that are not in the table store bytes, and any bytes will do for these.

Bytes that can be read say that there is no value, or they are read as a value of the kind (`Reading.ofBytes_cases`).
A date is the one kind whose bytes are checked for what they say: they are those of a date of the calendar
(`Date.eq_toBytes_of_ofBytes`), or they say that there is no date.
-/

namespace TokenClient

/-- Bytes that are read neither as a value of a kind nor as there being none. -/
def Kind.Refuses (bytes : Bytes) : Kind → Prop
  | .bool | .bytes | .text => False
  | .number | .mechanism => 8 < bytes.length
  | .mechanisms => ¬ 8 ∣ bytes.length
  -- There is a byte besides zero digits, blanks and NUL, and the bytes are not the eight digits of a date.
  | .date => (∃ b ∈ bytes, b ≠ 0x30 ∧ b ≠ 0x20 ∧ b ≠ 0) ∧ ∀ date : Date, bytes ≠ date.toBytes
  | .template => bytes ≠ []

/-- Bytes that say that there is no value of a kind: no bytes where a number is due, or the value "no date". -/
def Kind.SaysNone (bytes : Bytes) : Kind → Prop
  | .number | .mechanism => bytes = []
  | .date => ∀ b ∈ bytes, b = 0x30 ∨ b = 0x20 ∨ b = 0
  | .bool | .bytes | .text | .mechanisms | .template => False

namespace WireAttribute

/-- An entry that cannot be read, be it alone. -/
inductive Malformed : WireAttribute → Prop
  | bytes {type : Code} {kind : Kind} {bytes : Bytes} (known : AttributeType.kind? type = some kind)
      (refused : kind.Refuses bytes) : Malformed ⟨type, .bytes bytes⟩
  | nested {type : Code} {entries : List WireAttribute} (other : AttributeType.kind? type ≠ some .template) :
      Malformed ⟨type, .nested entries⟩

/-- An entry is among entries, or in a nested list of one of them at any depth. -/
inductive Within (entry : WireAttribute) : List WireAttribute → Prop
  | here {entries : List WireAttribute} (member : entry ∈ entries) : Within entry entries
  | inside {entries inner : List WireAttribute} {type : Code} (member : ⟨type, .nested inner⟩ ∈ entries)
      (within : Within entry inner) : Within entry entries

end WireAttribute

variable {encoding : Encoding} {bytes : Bytes} {kind : Kind}

/-! ## Bytes -/

/-- A result fails. -/
def Fails {α : Type} (result : Except Error α) : Prop := ∃ e, result = .error e

@[simp]
private theorem fails_error {α : Type} (e : Error) : Fails (.error e : Except Error α) := ⟨e, rfl⟩

@[simp]
private theorem not_fails_ok {α : Type} (a : α) : ¬ Fails (.ok a : Except Error α) := fun ⟨_, h⟩ => nomatch h

@[simp]
private theorem fails_map {α β : Type} (f : α → β) (result : Except Error α) : Fails (result.map f) ↔ Fails result := by
  cases result <;> simp [Except.map]

/-- Reading a word fails iff the bytes are more than a word has. -/
private theorem Word.fails_ofBytes_iff (filled : bytes ≠ []) : Fails (Word.ofBytes bytes) ↔ 8 < bytes.length := by
  have hlength : ¬ bytes.length = 0 := fun h => filled (List.length_eq_zero_iff.1 h)
  rw [Word.ofBytes, Word.size]
  split
  next h => simpa using h.resolve_left hlength
  next h => simpa using fun hlong => h (.inr hlong)

/-- Reading words fails iff the bytes do not fill whole ones. -/
private theorem Word.fails_arrayOfBytes_iff : Fails (Word.arrayOfBytes bytes) ↔ ¬ 8 ∣ bytes.length := by
  rw [Word.arrayOfBytes, Word.size, Nat.dvd_iff_mod_eq_zero]
  split
  next h => simpa using h
  next h => simpa using h

namespace Date

/-- A date is made of the numbers given. -/
private theorem eq_of_make {year month day : Nat} {date : Date} (h : make year month day = .ok date) :
    date.year = year ∧ date.month = month ∧ date.day = day := by
  unfold make at h
  split at h <;> cases h
  exact ⟨rfl, rfl, rfl⟩

/-- A date is read from no bytes but its own. -/
theorem eq_toBytes_of_ofBytes {date : Date} (h : ofBytes bytes = .ok (some date)) : bytes = date.toBytes := by
  unfold ofBytes at h
  split at h
  next => cases h
  next =>
    split at h
    next hdigits =>
      obtain ⟨hlength, hall⟩ := hdigits
      rw [List.all_eq_true] at hall
      have hyear : decimalBytes 4 (decimalNumber (bytes.take 4)) = bytes.take 4 :=
        decimalBytes_decimalNumber (by simp [hlength]) fun b hb => hall b (List.mem_of_mem_take hb)
      have hmonth : decimalBytes 2 (decimalNumber ((bytes.drop 4).take 2)) = (bytes.drop 4).take 2 :=
        decimalBytes_decimalNumber (by simp [hlength]) fun b hb =>
          hall b (List.mem_of_mem_drop (List.mem_of_mem_take hb))
      have hday : decimalBytes 2 (decimalNumber (bytes.drop 6)) = bytes.drop 6 :=
        decimalBytes_decimalNumber (by simp [hlength]) fun b hb => hall b (List.mem_of_mem_drop hb)
      obtain ⟨read, hread, hsome⟩ := map_ok_iff.1 h
      cases hsome
      obtain ⟨hy, hm, hd⟩ := eq_of_make hread
      rw [toBytes_eq, hy, hm, hd, hyear, hmonth, hday, ← List.append_assoc, ← List.take_add,
        List.take_append_drop]
    next => cases h

/-- That there is no date is read from fillers alone. -/
theorem all_isFiller_of_ofBytes (h : ofBytes bytes = .ok none) : bytes.all isFiller = true := by
  unfold ofBytes at h
  split at h
  next hall => exact hall
  next =>
    split at h
    next =>
      obtain ⟨date, -, hdate⟩ := map_ok_iff.1 h
      cases hdate
    next => cases h

/-- Reading a date fails iff the bytes are neither blank nor those of a date. -/
theorem fails_ofBytes_iff :
    Fails (ofBytes bytes) ↔
      (∃ b ∈ bytes, b ≠ 0x30 ∧ b ≠ 0x20 ∧ b ≠ 0) ∧ ∀ date : Date, bytes ≠ date.toBytes := by
  have hfilled : (∃ b ∈ bytes, b ≠ 0x30 ∧ b ≠ 0x20 ∧ b ≠ 0) ↔ ¬ bytes.all isFiller = true := by
    simp [isFiller, and_assoc]
  rw [hfilled]
  constructor
  · intro fails
    refine ⟨fun hall => ?_, ?_⟩
    · rw [ofBytes, if_pos hall] at fails
      exact not_fails_ok _ fails
    · rintro date rfl
      rw [ofBytes_toBytes] at fails
      exact not_fails_ok _ fails
  · rintro ⟨hfilled, hnone⟩
    cases h : ofBytes bytes with
    | error e => exact fails_error e
    | ok date? =>
      cases date? with
      | none => exact absurd (all_isFiller_of_ofBytes h) hfilled
      | some date => exact absurd (eq_toBytes_of_ofBytes h) (hnone date)

end Date

/-- Bytes fail to be read exactly if the kind refuses them. -/
theorem Reading.fails_ofBytes_iff : Fails (Reading.ofBytes encoding kind bytes) ↔ kind.Refuses bytes := by
  cases kind with
  | bool | bytes | text => exact iff_of_false (not_fails_ok _) not_false
  | number | mechanism =>
    rw [Reading.ofBytes, Kind.Refuses]
    split
    next hempty => simp [List.isEmpty_iff.1 hempty]
    next hfilled => rw [fails_map, Word.fails_ofBytes_iff fun h => hfilled (List.isEmpty_iff.2 h)]
  | date => rw [Reading.ofBytes, fails_map, Date.fails_ofBytes_iff, Kind.Refuses]
  | mechanisms => rw [Reading.ofBytes, fails_map, Word.fails_arrayOfBytes_iff, Kind.Refuses]
  | template =>
    rw [Reading.ofBytes, Kind.Refuses]
    split
    next hempty => simp [List.isEmpty_iff.1 hempty]
    next hfilled => exact iff_of_true (fails_error _) fun h => hfilled (List.isEmpty_iff.2 h)

/-- Bytes that are read say that there is no value, or they are read as one of the kind. -/
theorem Reading.ofBytes_cases {reading : Reading} (h : Reading.ofBytes encoding kind bytes = .ok reading) :
    kind.SaysNone bytes ∧ reading = .empty ∨
      ¬ kind.SaysNone bytes ∧ ∃ value, reading = .held value ∧ value.kind = kind ∧
        (∀ text, value = .text text → encoding.Fits text) ∧ ∀ inner, value = .template inner → inner = .empty := by
  cases kind with
  | bool | bytes =>
    cases h
    exact .inr ⟨not_false, _, rfl, rfl, by simp, by simp⟩
  | text =>
    cases h
    refine .inr ⟨not_false, _, rfl, rfl, ?_, by simp⟩
    rintro text ⟨⟩
    exact Encoding.fits_decode encoding bytes
  | number | mechanism =>
    rw [Reading.ofBytes] at h
    split at h
    next hempty =>
      cases h
      exact .inl ⟨List.isEmpty_iff.1 hempty, rfl⟩
    next hfilled =>
      obtain ⟨n, -, rfl⟩ := map_ok_iff.1 h
      exact .inr ⟨fun hnil => hfilled (List.isEmpty_iff.2 hnil), _, rfl, rfl, by simp, by simp⟩
  | date =>
    obtain ⟨date?, hdate, rfl⟩ := map_ok_iff.1 h
    -- A date is the one kind whose empty form has many spellings.
    have hfiller : Kind.date.SaysNone bytes ↔ bytes.all Date.isFiller = true := by
      simp [Kind.SaysNone, Date.isFiller, or_assoc]
    rw [hfiller]
    cases date? with
    | none => exact .inl ⟨Date.all_isFiller_of_ofBytes hdate, rfl⟩
    | some date =>
      refine .inr ⟨fun hall => ?_, _, rfl, rfl, by simp, by simp⟩
      rw [Date.ofBytes, if_pos hall] at hdate
      cases hdate
  | mechanisms =>
    obtain ⟨ms, -, rfl⟩ := map_ok_iff.1 h
    exact .inr ⟨not_false, _, rfl, rfl, by simp, by simp⟩
  | template =>
    rw [Reading.ofBytes] at h
    split at h <;> cases h
    refine .inr ⟨not_false, _, rfl, rfl, by simp, ?_⟩
    rintro inner ⟨⟩
    rfl

/-! ## Entries -/

namespace WireAttribute

variable {entry first : WireAttribute} {entries inner : List WireAttribute} {type : Code} {value : WireValue}

private theorem not_within_nil : ¬ entry.Within [] := by
  rintro (⟨member⟩ | ⟨member, -⟩) <;> cases member

/-- An entry is within others if it is the first of them, in the list nested in this one, or within the rest. -/
theorem within_cons :
    entry.Within (⟨type, value⟩ :: entries) ↔
      entry = ⟨type, value⟩ ∨ (∃ inner, value = .nested inner ∧ entry.Within inner) ∨ entry.Within entries := by
  constructor
  · rintro (⟨member⟩ | ⟨member, within⟩)
    · exact (List.mem_cons.1 member).imp_right fun h => .inr (.here h)
    · rcases List.mem_cons.1 member with heq | hmem
      · cases heq
        exact .inr (.inl ⟨_, rfl, within⟩)
      · exact .inr (.inr (.inside hmem within))
  · rintro (rfl | ⟨inner, rfl, within⟩ | ⟨member⟩ | ⟨member, within⟩)
    · exact .here List.mem_cons_self
    · exact .inside List.mem_cons_self within
    · exact .here (List.mem_cons_of_mem _ member)
    · exact .inside (List.mem_cons_of_mem _ member) within

/-- There is a malformed entry among entries or in one of them at some depth. -/
def SomeMalformed (entries : List WireAttribute) : Prop :=
  ∃ entry : WireAttribute, entry.Within entries ∧ entry.Malformed

private theorem not_someMalformed_nil : ¬ SomeMalformed [] := fun ⟨_, within, _⟩ => not_within_nil within

/-- Entries are malformed when the first is, when one nested in the first is, or when a later one is. -/
private theorem someMalformed_cons :
    SomeMalformed (⟨type, value⟩ :: entries) ↔
      (Malformed ⟨type, value⟩ ∨ ∃ inner, value = .nested inner ∧ SomeMalformed inner) ∨ SomeMalformed entries := by
  simp only [SomeMalformed, within_cons]
  constructor
  · rintro ⟨entry, rfl | ⟨inner, rfl, within⟩ | within, malformed⟩
    · exact .inl (.inl malformed)
    · exact .inl (.inr ⟨inner, rfl, entry, within, malformed⟩)
    · exact .inr ⟨entry, within, malformed⟩
  · rintro ((malformed | ⟨inner, rfl, entry, within, malformed⟩) | ⟨entry, within, malformed⟩)
    · exact ⟨_, .inl rfl, malformed⟩
    · exact ⟨entry, .inr (.inl ⟨inner, rfl, within⟩), malformed⟩
    · exact ⟨entry, .inr (.inr within), malformed⟩

private theorem not_malformed_null : ¬ Malformed ⟨type, .null⟩ := nofun

/-- Bytes are malformed iff the kind of the type refuses them. -/
private theorem malformed_bytes_iff : Malformed ⟨type, .bytes bytes⟩ ↔ (Attribute.wireKind type).Refuses bytes := by
  rw [Attribute.wireKind]
  constructor
  · rintro ⟨known, refused⟩
    rwa [known]
  · intro refused
    cases known : AttributeType.kind? type with
    | none =>
      rw [known] at refused
      cases refused
    | some kind =>
      rw [known] at refused
      exact .bytes known refused

/-- Nested entries are malformed iff the type is not one of templates. -/
private theorem malformed_nested_iff : Malformed ⟨type, .nested inner⟩ ↔ Attribute.wireKind type ≠ .template := by
  rw [Attribute.wireKind]
  constructor
  · intro | .nested other => ?_
    cases known : AttributeType.kind? type with
    | none => exact fun h => nomatch h
    | some kind =>
      rintro rfl
      exact other known
  · intro other
    refine .nested fun known => other ?_
    rw [known]
    rfl

end WireAttribute

mutual

/-- Reading an attribute fails iff its entry is malformed, or one nested in it is. -/
theorem Attribute.fails_ofWire_iff (type : Code) : ∀ value : WireValue,
    Fails (Attribute.ofWire encoding ⟨type, value⟩) ↔
      WireAttribute.Malformed ⟨type, value⟩ ∨
        ∃ inner, value = .nested inner ∧ WireAttribute.SomeMalformed inner
  | .null => by
    rw [Attribute.ofWire, fails_map, Reading.ofWire]
    refine iff_of_false (not_fails_ok _) ?_
    rintro (malformed | ⟨inner, hnull, -⟩)
    · exact WireAttribute.not_malformed_null malformed
    · cases hnull
  | .bytes bytes => by
    rw [Attribute.ofWire, fails_map, Reading.ofWire, Reading.fails_ofBytes_iff, WireAttribute.malformed_bytes_iff]
    simp
  | .nested inner => by
    rw [Attribute.ofWire, fails_map, Reading.ofWire, WireAttribute.malformed_nested_iff]
    split
    next htemplate =>
      rw [fails_map, Template.fails_ofWireOnto_iff .empty inner]
      simp [htemplate]
    next hother => exact iff_of_true (fails_error _) (.inl hother)

/-- Reading entries into a template fails iff one of them, at any depth, is malformed. -/
theorem Template.fails_ofWireOnto_iff (t : Template) : ∀ entries : List WireAttribute,
    Fails (Template.ofWireOnto encoding t entries) ↔ WireAttribute.SomeMalformed entries
  | [] => by
    rw [Template.ofWireOnto]
    exact iff_of_false (not_fails_ok _) WireAttribute.not_someMalformed_nil
  | ⟨type, value⟩ :: entries => by
    have hfirst := Attribute.fails_ofWire_iff type value
    rw [WireAttribute.someMalformed_cons, ← hfirst, Template.ofWireOnto]
    split
    next e h => exact iff_of_true (fails_error e) (.inl ⟨e, h⟩)
    next a h =>
      rw [h, Template.fails_ofWireOnto_iff (t.insert a) entries]
      simp

end

/-- A list of entries cannot be read exactly if one of them at some depth is malformed. A failure is always the
answer that an attribute value is invalid. What comes under a type that is not in the table is read as it is. -/
theorem Template.ofWire_fails_iff (encoding : Encoding) (entries : List WireAttribute) :
    ((∃ e, Template.ofWire encoding entries = .error e) ↔
        ∃ entry : WireAttribute, entry.Within entries ∧ entry.Malformed) ∧
      (∀ e, Template.ofWire encoding entries = .error e → e.kind = .token ∧ e.rv = Rv.attributeValueInvalid) ∧
      ∀ type bytes, AttributeType.kind? type = none →
        Attribute.ofWire encoding ⟨type, .bytes bytes⟩ = .ok ⟨type, .bytes, .held (.bytes bytes)⟩ := by
  refine ⟨Template.fails_ofWireOnto_iff .empty entries, ?_, ?_⟩
  · intro e h
    rw [Template.ofWireOnto_error h]
    exact ⟨rfl, rfl⟩
  · intro type bytes unknown
    rw [Attribute.ofWire, Attribute.wireKind, unknown]
    rfl

/-- A number of nine bytes spoils the templates around it. -/
example :
    Template.ofWire .utf8
        [⟨0x3, .bytes [0x61]⟩, ⟨0x40000212, .nested [⟨0x0, .bytes [1, 0, 0, 0, 0, 0, 0, 0, 0]⟩]⟩] =
      .error (.token Rv.attributeValueInvalid) := rfl

end TokenClient
