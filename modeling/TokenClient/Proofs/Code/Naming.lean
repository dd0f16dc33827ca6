import Mathlib.Data.List.Nodup
import Mathlib.Data.Nat.Bitwise
import TokenClient.Code.KeyType
import TokenClient.Code.MechanismType
import TokenClient.Code.ObjectClass
import TokenClient.Code.Rv
import TokenClient.Proofs.Attribute.Table
import TokenClient.Proofs.Text.Blank
import TokenClient.Proofs.Text.Hex

/-!
# Names that tell codes apart

A code is named by a table, or by its number. No name stands twice in a table, and none has a small x in it
(`Unmistakable`), as every name that shows a number has. The numbers are shown with all their digits, those of vendors
without the vendor bit, which they all have. So in no family are two codes named alike (`Naming.name_injective`,
`AttributeType.name_injective`).

A name from a table leads back to its code, and no other name leads anywhere (`Naming.code?_name`,
`AttributeType.ofName?_name`): a name that shows a number starts with the family, so it is no literal either.
-/

namespace TokenClient

/-! ## Numbers of vendors -/

namespace Code

/-- A code is its vendor number with its vendor bit put back. -/
private theorem vendorNumber_or (code : Code) : code.vendorNumber ||| (code &&& vendorBit) = code := by
  rw [vendorNumber, ← UInt64.toBitVec_inj]
  ext i hi
  simp only [UInt64.toBitVec_or, UInt64.toBitVec_and, UInt64.toBitVec_not, BitVec.getElem_or, BitVec.getElem_and,
    BitVec.getElem_not]
  cases code.toBitVec[i] <;> simp

private theorem and_vendorBit {code : Code} (vendor : code.isVendor = true) : code &&& vendorBit = vendorBit := by
  have hbit : vendorBit.toNat = 2 ^ 31 := rfl
  rw [isVendor, bne_iff_ne, ne_eq, ← UInt64.toNat_inj, UInt64.toNat_and, hbit, Nat.and_two_pow] at vendor
  rw [← UInt64.toNat_inj, UInt64.toNat_and, hbit, Nat.and_two_pow]
  cases hset : code.toNat.testBit 31 with
  | false => simp [hset] at vendor
  | true => simp

/-- Vendors tell their codes apart by the numbers that they give them. -/
theorem vendorNumber_inj {code other : Code} (vendor : code.isVendor = true) (vendor' : other.isVendor = true)
    (same : code.vendorNumber = other.vendorNumber) : code = other := by
  rw [← vendorNumber_or code, ← vendorNumber_or other, and_vendorBit vendor, and_vendorBit vendor', same]

/-- A text is no literal if it starts with neither white space nor the digit zero. -/
theorem ofLiteral?_eq_none {text : String} {c : Char} (start : text.toList.head? = some c)
    (solid : Text.isBlank c = false) (other : c ≠ '0') : ofLiteral? text = none := by
  have hliteral : Text.hexLiteral? (Text.trim text.toList) = none := by
    obtain ⟨rest, htrim⟩ := List.head?_eq_some_iff.1 (Text.head?_trim start solid)
    rw [htrim]
    unfold Text.hexLiteral?
    split
    next h => exact absurd (List.cons.inj h).1 other
    next h => exact absurd (List.cons.inj h).1 other
    next => rfl
  rw [ofLiteral?, hliteral, Option.bind_none]

end Code

/-- A name is found for a code, or else it is made for it. No two codes have the same name if none is found for two,
none is made for two, and none that is found is made. -/
theorem injective_getD {found : Code → Option String} {made : Code → String}
    (once : ∀ {code other name}, found code = some name → found other = some name → code = other)
    (apart : ∀ {code other name}, found code = some name → name ≠ made other)
    (injective : Function.Injective made) : Function.Injective fun code => (found code).getD (made code) := by
  intro code other same
  cases hcode : found code with
  | some name =>
    cases hother : found other with
    | some name' =>
      simp only [hcode, hother, Option.getD_some] at same
      subst same
      exact once hcode hother
    | none =>
      simp only [hcode, hother, Option.getD_some, Option.getD_none] at same
      exact absurd same (apart hcode)
  | none =>
    cases hother : found other with
    | some name =>
      simp only [hcode, hother, Option.getD_some, Option.getD_none] at same
      exact absurd same.symm (apart hother)
    | none =>
      simp only [hcode, hother, Option.getD_none] at same
      exact injective same

/-! ## Tables of names -/

/-- Texts that are all different, and none has the small x of the names that show a number. -/
structure Unmistakable (texts : List String) : Prop where
  once : texts.Nodup
  plain : ∀ text ∈ texts, 'x' ∉ text.toList

/-- The bytes of a text. -/
def textBytes (text : String) : Bytes := text.toByteArray.data.toList

/-- The bytes of a text as the digits of one number. -/
def textNumber (text : String) : Nat := (textBytes text).foldl (fun n b => 256 * n + b.toNat) 0

private theorem textBytes_eq (text : String) : textBytes text = text.toList.flatMap String.utf8EncodeChar := by
  rw [textBytes, ← String.utf8Encode_toList, List.utf8Encode, List.data_toByteArray]

-- Over a table this is decided for the bytes, because the kernel has to decode a text to get at its characters.
private theorem Unmistakable.of_bytes {texts : List String} (once : (texts.map textNumber).Nodup)
    (plain : ∀ text ∈ texts, 0x78 ∉ textBytes text) : Unmistakable texts where
  once := List.Nodup.of_map textNumber once
  plain text member hmem := by
    have hbyte : 0x78 ∈ textBytes text := by
      rw [textBytes_eq]
      exact List.mem_flatMap.2 ⟨'x', hmem, by decide⟩
    exact plain text member hbyte

section

variable {α : Type} {entries : List α} {name : α → String} {entry other : α} {text : String}

/-- Entries of one name are one entry. -/
private theorem Unmistakable.eq_of_name (names : Unmistakable (entries.map name)) (member : entry ∈ entries)
    (member' : other ∈ entries) (same : name entry = name other) : entry = other :=
  List.inj_on_of_nodup_map names.once member member' same

/-- No entry has a name with a number in it. -/
private theorem Unmistakable.name_ne (names : Unmistakable (entries.map name)) (member : entry ∈ entries)
    (number : 'x' ∈ text.toList) : name entry ≠ text := by
  rintro rfl
  exact names.plain _ (List.mem_map_of_mem member) number

/-- An entry is found by its name. -/
theorem Unmistakable.find?_eq_some (names : Unmistakable (entries.map name)) (member : entry ∈ entries) :
    entries.find? (name · == name entry) = some entry := by
  cases hfound : entries.find? (name · == name entry) with
  | none => simpa using List.find?_eq_none.1 hfound entry member
  | some found =>
    have hname : name found = name entry := by simpa using List.find?_some hfound
    rw [names.eq_of_name (List.mem_of_find?_eq_some hfound) member hname]

/-- No entry is found by a name that shows a number. -/
theorem Unmistakable.find?_eq_none (names : Unmistakable (entries.map name)) (number : 'x' ∈ text.toList) :
    entries.find? (name · == text) = none := by
  rw [List.find?_eq_none]
  intro entry member
  rw [beq_iff_eq]
  exact names.name_ne member number

end

/-! ## Families of codes -/

namespace Naming

variable {naming : Naming} {code : Code} {text : String}

/-- The names of the table are mistaken neither for each other nor for those that show a number, and the family starts
with what no literal starts with. -/
structure Distinct (naming : Naming) : Prop where
  names : Unmistakable (naming.table.map (·.2))
  start : ∃ c, naming.family.toList.head? = some c ∧ Text.isBlank c = false ∧ c ≠ '0'

/-- The name that shows the number of a code. -/
def numbered (naming : Naming) (code : Code) : String :=
  if code.isVendor then
    naming.family ++ "_VENDOR_DEFINED+0x" ++ String.ofList (Text.hexCode code.vendorNumber)
  else
    naming.family ++ "_0x" ++ String.ofList (Text.hexCode8 code)

/-- A code is named by its entry, or else by its number. -/
private theorem name_eq_getD (naming : Naming) (code : Code) :
    naming.name code = (naming.table.lookup code).getD (naming.numbered code) := by
  rw [name]
  cases naming.table.lookup code <;> rfl

/-- Numbered names differ when the codes do. -/
private theorem numbered_injective (naming : Naming) : Function.Injective naming.numbered := by
  intro code other same
  unfold numbered at same
  rw [← String.toList_inj] at same
  split at same
  next vendor =>
    split at same
    next vendor' =>
      simp only [String.toList_append, List.append_assoc, List.append_cancel_left_eq, String.toList_ofList] at same
      exact Code.vendorNumber_inj vendor vendor' (Text.hexCode_injective same)
    next => simp at same
  next =>
    split at same
    next => simp at same
    next =>
      simp only [String.toList_append, List.append_assoc, List.append_cancel_left_eq, String.toList_ofList] at same
      exact Text.hexCode8_injective same

/-- A numbered name has the `x` of its number. -/
private theorem mem_numbered (naming : Naming) (code : Code) : 'x' ∈ (naming.numbered code).toList := by
  unfold numbered
  split <;> simp

private theorem head?_numbered {c : Char} (start : naming.family.toList.head? = some c) (code : Code) :
    (naming.numbered code).toList.head? = some c := by
  unfold numbered
  split <;> simp [start]

private theorem mem_of_lookup (h : naming.table.lookup code = some text) : (code, text) ∈ naming.table := by
  obtain ⟨before, after, htable, -⟩ := List.lookup_eq_some_iff.1 h
  simp [htable]

/-- A name of the table is found, and its code with it. -/
theorem Distinct.find?_eq (distinct : naming.Distinct) (member : (code, text) ∈ naming.table) :
    naming.find? text = some code := by
  rw [find?, distinct.names.find?_eq_some member, Option.map_some]

private theorem Distinct.find?_numbered (distinct : naming.Distinct) (code : Code) :
    naming.find? (naming.numbered code) = none := by
  rw [find?, distinct.names.find?_eq_none (mem_numbered naming code), Option.map_none]

/-- Codes of a family are not named alike. -/
theorem name_injective (distinct : naming.Distinct) : Function.Injective naming.name := by
  have hname : naming.name = fun code => (naming.table.lookup code).getD (naming.numbered code) :=
    funext (name_eq_getD naming)
  rw [hname]
  refine injective_getD ?_ ?_ naming.numbered_injective
  · intro code other name hcode hother
    have hfind := distinct.find?_eq (mem_of_lookup hcode)
    rw [distinct.find?_eq (mem_of_lookup hother)] at hfind
    exact (Option.some.inj hfind).symm
  · intro code other name hcode
    exact distinct.names.name_ne (mem_of_lookup hcode) (mem_numbered naming other)

/-- A name leads back to its code if the table has the code, and nowhere else. -/
theorem code?_name (distinct : naming.Distinct) (code : Code) :
    naming.code? (naming.name code) = if code ∈ naming.table.map (·.1) then some code else none := by
  rw [code?, name_eq_getD]
  cases hlookup : naming.table.lookup code with
  | some name =>
    have hmem := mem_of_lookup hlookup
    rw [Option.getD_some, distinct.find?_eq hmem, if_pos (List.mem_map_of_mem hmem)]
    rfl
  | none =>
    have hunlisted : code ∉ naming.table.map (·.1) := by
      intro hmem
      obtain ⟨entry, hentry, rfl⟩ := List.mem_map.1 hmem
      simpa using List.lookup_eq_none_iff.1 hlookup entry hentry
    obtain ⟨c, hstart, solid, other⟩ := distinct.start
    have hliteral := Code.ofLiteral?_eq_none (head?_numbered hstart code) solid other
    rw [Option.getD_none, distinct.find?_numbered, hliteral, if_neg hunlisted]
    rfl

end Naming

/-- The names of the return values are distinct, and none looks like a numbered one. -/
theorem Rv.distinct_naming : Rv.naming.Distinct where
  names := .of_bytes (by decide +kernel) (by decide +kernel)
  start := ⟨'C', rfl, rfl, by decide⟩

/-- So are those of the object classes. -/
theorem ObjectClass.distinct_naming : ObjectClass.naming.Distinct where
  names := .of_bytes (by decide +kernel) (by decide +kernel)
  start := ⟨'C', rfl, rfl, by decide⟩

/-- So are those of the key types. -/
theorem KeyType.distinct_naming : KeyType.naming.Distinct where
  names := .of_bytes (by decide +kernel) (by decide +kernel)
  start := ⟨'C', rfl, rfl, by decide⟩

/-- So are those of the mechanisms. -/
theorem MechanismType.distinct_naming : MechanismType.naming.Distinct where
  names := .of_bytes (by decide +kernel) (by decide +kernel)
  start := ⟨'C', rfl, rfl, by decide⟩

/-! ## Attribute types -/

namespace AttributeType

variable {type : Code} {entry other : Entry}

/-- The name that shows the number of a type. -/
def numbered (type : Code) : String :=
  if type.isVendor then "VENDOR_DEFINED [0x" ++ String.ofList (Text.hexCode type) ++ "]"
  else "0x" ++ String.ofList (Text.hexCode8 type)

/-- A type is named by its entry, or else by its number. -/
private theorem name_eq_getD (type : Code) : name type = ((find? type).map (·.name)).getD (numbered type) := by
  rw [name]
  cases find? type <;> rfl

/-- The names of the attribute types are distinct, and none looks like a numbered one. -/
theorem unmistakable_names : Unmistakable (table.toList.map (·.name)) :=
  .of_bytes (by decide +kernel) (by decide +kernel)

/-- The numbered name of a type has the `x` of its number. -/
private theorem mem_numbered (type : Code) : 'x' ∈ (numbered type).toList := by
  unfold numbered
  split <;> simp

/-- Numbered names of types differ when the types do. -/
private theorem numbered_injective : Function.Injective numbered := by
  intro type other same
  unfold numbered at same
  rw [← String.toList_inj] at same
  split at same
  next =>
    split at same
    next =>
      simp only [String.toList_append, List.append_assoc, List.append_cancel_left_eq, List.append_cancel_right_eq,
        String.toList_ofList] at same
      exact Text.hexCode_injective same
    next => simp at same
  next =>
    split at same
    next => simp at same
    next =>
      simp only [String.toList_append, List.append_cancel_left_eq, String.toList_ofList] at same
      exact Text.hexCode8_injective same

/-- Attribute types are not named alike. -/
theorem name_injective : Function.Injective name := by
  have hname : name = fun type => ((find? type).map (·.name)).getD (numbered type) := funext name_eq_getD
  rw [hname]
  refine injective_getD ?_ ?_ numbered_injective
  · intro type other name htype hother
    obtain ⟨entry, hfind, rfl⟩ := Option.map_eq_some_iff.1 htype
    obtain ⟨entry', hfind', hname'⟩ := Option.map_eq_some_iff.1 hother
    obtain ⟨hmem, rfl⟩ := find?_eq_some_iff.1 hfind
    obtain ⟨hmem', rfl⟩ := find?_eq_some_iff.1 hfind'
    rw [unmistakable_names.eq_of_name hmem.val hmem'.val hname'.symm]
  · intro type other name htype
    obtain ⟨entry, hfind, rfl⟩ := Option.map_eq_some_iff.1 htype
    exact unmistakable_names.name_ne (find?_eq_some_iff.1 hfind).1.val (mem_numbered other)

/-- The name of an entry is found again. -/
theorem ofName?_eq (member : entry ∈ table) : ofName? entry.name = some entry.type := by
  rw [ofName?, ← Array.find?_toList, unmistakable_names.find?_eq_some member.val, Option.map_some]

private theorem ofName?_numbered (type : Code) : ofName? (numbered type) = none := by
  rw [ofName?, ← Array.find?_toList, unmistakable_names.find?_eq_none (mem_numbered type), Option.map_none]

/-- A name leads back to its type if the type is known, and nowhere else. -/
theorem ofName?_name (type : Code) : ofName? (name type) = if (kind? type).isSome then some type else none := by
  rw [name_eq_getD, kind?]
  cases hfind : find? type with
  | none => exact ofName?_numbered type
  | some entry =>
    obtain ⟨hmem, rfl⟩ := find?_eq_some_iff.1 hfind
    exact ofName?_eq hmem

end AttributeType

/-- In each of the five families no two codes are named alike. The name of an attribute type, of a key type and of a
mechanism leads back to the code if the table of the family has it, and nowhere if not; the search for an attribute type
finds the entry that the table has for it, and there is one exactly if the type is known. -/
theorem names_unambiguous :
    (Function.Injective AttributeType.name ∧ Function.Injective Rv.name ∧ Function.Injective ObjectClass.name ∧
      Function.Injective KeyType.name ∧ Function.Injective MechanismType.name) ∧
    (∀ type, AttributeType.ofName? (AttributeType.name type) =
      if (AttributeType.kind? type).isSome then some type else none) ∧
    (∀ code, KeyType.ofName? (KeyType.name code) =
      if code ∈ (KeyType.standard ++ KeyType.generic).map (·.1) then some code else none) ∧
    (∀ code, MechanismType.ofName? (MechanismType.name code) =
      if code ∈ (MechanismType.standard ++ MechanismType.generic).map (·.1) then some code else none) ∧
    (∀ type entry, AttributeType.find? type = some entry ↔ entry ∈ AttributeType.table ∧ entry.type = type) ∧
    (∀ type, (AttributeType.kind? type).isSome ↔ ∃ entry ∈ AttributeType.table, entry.type = type) := by
  refine ⟨⟨AttributeType.name_injective, Naming.name_injective Rv.distinct_naming,
    Naming.name_injective ObjectClass.distinct_naming, Naming.name_injective KeyType.distinct_naming,
    Naming.name_injective MechanismType.distinct_naming⟩, AttributeType.ofName?_name,
    Naming.code?_name KeyType.distinct_naming, Naming.code?_name MechanismType.distinct_naming,
    fun type entry => AttributeType.find?_eq_some_iff, fun type => ?_⟩
  rw [Option.isSome_iff_exists]
  simp [AttributeType.kind?_eq_some_iff]

end TokenClient
