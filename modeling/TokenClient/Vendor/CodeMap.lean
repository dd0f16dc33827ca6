import TokenClient.Code.KeyType
import TokenClient.Code.MechanismType
import TokenClient.Room
import TokenClient.Text.Cut
import TokenClient.Vendor.Record

/-!
# Vendor code maps

Between the generic codes that applications use and the codes that a vendor's module expects, for key
types and for mechanisms apart. Each of the two maps is one-to-one: a new pair drives out every pair that
shares a side with it. Standard codes are never translated, and a vendor code without a pair stands for
itself.

The map of a vendor record is read off its entries. A name is cut at a byte to get at what follows its mark, and that
could panic. It does not, because only names with a mark are cut (`CodeMap.isSome_addEntry`).
-/

namespace TokenClient

/-- Pairs of a generic code and a vendor's code. -/
abbrev CodePairs := List (Code × Code)

namespace CodePairs

/-- The pairs with one more, without those that share a side with it. -/
def insert (pairs : CodePairs) (generic vendor : Code) : CodePairs :=
  pairs.filter (fun (g, v) => g != generic && v != vendor) ++ [(generic, vendor)]

/-- The vendor's code of a generic one. Only codes with the vendor bit are looked up. -/
def toVendor (pairs : CodePairs) (code : Code) : Code :=
  if code.isVendor then ((pairs.find? (·.1 == code)).map (·.2)).getD code else code

/-- The generic code of a vendor's one. Only codes with the vendor bit are looked up. -/
def toGeneric (pairs : CodePairs) (code : Code) : Code :=
  if code.isVendor then ((pairs.find? (·.2 == code)).map (·.1)).getD code else code

end CodePairs

/-- How generic codes and those of a vendor correspond. -/
structure CodeMap where
  keyTypes : CodePairs
  mechanisms : CodePairs
deriving DecidableEq, Repr

namespace CodeMap

/-- The map that translates nothing. -/
def empty : CodeMap := ⟨[], []⟩

/-- Whether a map translates nothing. -/
def isEmpty (map : CodeMap) : Bool := map.keyTypes.isEmpty && map.mechanisms.isEmpty

/-- The map with a pair of key types. -/
def addKeyType (map : CodeMap) (generic vendor : Code) : CodeMap :=
  ⟨map.keyTypes.insert generic vendor, map.mechanisms⟩

/-- The map with a pair of mechanisms. -/
def addMechanism (map : CodeMap) (generic vendor : Code) : CodeMap :=
  ⟨map.keyTypes, map.mechanisms.insert generic vendor⟩

def keyTypeToVendor (map : CodeMap) (code : Code) : Code := map.keyTypes.toVendor code
def keyTypeToGeneric (map : CodeMap) (code : Code) : Code := map.keyTypes.toGeneric code
def mechanismToVendor (map : CodeMap) (code : Code) : Code := map.mechanisms.toVendor code
def mechanismToGeneric (map : CodeMap) (code : Code) : Code := map.mechanisms.toGeneric code

/-- The part of a name after its first four bytes. The call panics if these are not whole characters. -/
def afterMark (name : String) : Attempt String := (Text.fromByte? 4 name.toList).map String.ofList

/-- The generic code of a name: one of the family, or a literal after the family's mark. -/
def genericCode? (family : String → Option Code) (name : String) : Attempt (Option Code) :=
  match family name with
  | some code => some (some code)
  | none => (afterMark name).map Code.ofLiteral?

/-- The map with the pair of one entry of a vendor record. -/
def addEntry (map : CodeMap) (name value : String) : Attempt (Except Error CodeMap) :=
  match Code.ofLiteral? value with
  | none => some (.error (.config ("invalid code '" ++ value ++ "' for " ++ name)))
  | some vendor =>
    if "CKK_".toList.isPrefixOf name.toList then
      (genericCode? KeyType.ofName? name).map fun
        | some generic => .ok (map.addKeyType generic vendor)
        | none => .error (.config ("unknown key type " ++ name))
    else if "CKM_".toList.isPrefixOf name.toList then
      (genericCode? MechanismType.ofName? name).map fun
        | some generic => .ok (map.addMechanism generic vendor)
        | none => .error (.config ("unknown mechanism " ++ name))
    else some (.error (.config ("unsupported code name " ++ name)))

/-- The map with the pairs of entries of a vendor record in order; the first failure is its failure. -/
def addEntries (map : CodeMap) : CodeTable → Attempt (Except Error CodeMap)
  | [] => some (.ok map)
  | (name, value) :: codes =>
    (map.addEntry name value).bind fun
      | .ok next => addEntries next codes
      | .error e => some (.error e)

/-- What a vendor record comes to: its entries are added in the order of their names. -/
def ofRecord? (record : VendorRecord) : Attempt (Except Error CodeMap) := empty.addEntries record.codes

/-! ## Names are cut after a mark -/

/-- A name with a mark of four bytes can be cut after it. -/
theorem isSome_afterMark {mark : List Char} {name : String} (size : Text.byteLength mark = 4)
    (marked : mark.isPrefixOf name.toList = true) : (afterMark name).isSome = true := by
  obtain ⟨rest, hname⟩ := List.isPrefixOf_iff_prefix.1 marked
  rw [afterMark, ← hname, ← size, Text.fromByte?_append]
  rfl

private theorem isSome_genericCode? {mark : List Char} {name : String} (size : Text.byteLength mark = 4)
    (marked : mark.isPrefixOf name.toList = true) (family : String → Option Code) :
    (genericCode? family name).isSome = true := by
  unfold genericCode?
  split
  next => rfl
  next => rw [Option.isSome_map, isSome_afterMark size marked]

/-- No entry makes the call panic: a name without a mark is not cut. -/
theorem isSome_addEntry (map : CodeMap) (name value : String) : (map.addEntry name value).isSome = true := by
  unfold addEntry
  split
  next => rfl
  next =>
    split
    next marked => rw [Option.isSome_map, isSome_genericCode? rfl marked]
    next =>
      split
      next marked => rw [Option.isSome_map, isSome_genericCode? rfl marked]
      next => rfl

private theorem isSome_addEntries (map : CodeMap) (codes : CodeTable) : (map.addEntries codes).isSome = true := by
  induction codes generalizing map with
  | nil => rfl
  | cons entry codes ih =>
    obtain ⟨result, hresult⟩ := Option.isSome_iff_exists.1 (map.isSome_addEntry entry.1 entry.2)
    rw [addEntries, hresult, Option.bind_some]
    cases result with
    | ok next => exact ih next
    | error e => rfl

/-- The map of a vendor record. -/
def ofRecord (record : VendorRecord) : Except Error CodeMap := (ofRecord? record).get (empty.isSome_addEntries _)

end CodeMap

end TokenClient
