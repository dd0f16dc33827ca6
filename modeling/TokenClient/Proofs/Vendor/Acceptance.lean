import TokenClient.Proofs.Code.Literal
import TokenClient.Proofs.Code.Naming
import TokenClient.Proofs.Vendor.Record

/-!
# Which vendor records are accepted

A record is refused just if one of its values is no literal, or one of its names is neither in the table of a kind nor a
literal after the mark of a kind (`CodeMap.IsName`, `CodeMap.fails_ofRecord_iff`).

What follows the mark of a name is found by counting bytes, and a name with a mark is cut just behind it
(`CodeKind.afterMark_eq_some_iff`).
-/

namespace TokenClient

variable {kind : CodeKind} {name value text : String}

/-! ## Names -/

/-- The family of a kind. -/
def CodeKind.naming : CodeKind → Naming
  | keyType => KeyType.naming
  | mechanism => MechanismType.naming

/-- The names that the table has for a kind. -/
def CodeKind.names (kind : CodeKind) : List String := kind.naming.table.map (·.2)

/-- A text names a code: it is in the table of a kind, or a literal after the mark of a kind. -/
def CodeMap.IsName (name : String) : Prop :=
  ∃ kind : CodeKind, name ∈ kind.names ∨ ∃ literal, name = kind.mark ++ literal ∧ Code.IsLiteral literal

namespace CodeKind

/-- A name in the table of a kind has its mark. -/
theorem mark_prefix_of_mem_names (listed : name ∈ kind.names) : kind.mark.toList <+: name.toList := by
  have hmarks : ∀ name ∈ kind.names, kind.mark.toList.isPrefixOf name.toList = true := by
    cases kind <;> decide +kernel
  exact List.isPrefixOf_iff_prefix.1 (hmarks name listed)

/-- What is found after a mark is what the name has after it. -/
theorem afterMark_eq_some_iff (marked : kind.mark.toList <+: name.toList) {literal : String} :
    CodeMap.afterMark name = some literal ↔ name = kind.mark ++ literal := by
  obtain ⟨rest, hname⟩ := marked
  have size : Text.byteLength kind.mark.toList = 4 := by cases kind <;> rfl
  have cut : CodeMap.afterMark name = some (String.ofList rest) := by
    rw [CodeMap.afterMark, ← hname, ← size, Text.fromByte?_append, Option.map_some]
  rw [cut, Option.some_inj, ← String.toList_inj, ← String.toList_inj, String.toList_append, String.toList_ofList,
    ← hname, List.append_cancel_left_eq]

/-- A name is looked up in the naming of its kind. -/
private theorem ofName?_eq (kind : CodeKind) : kind.ofName? = kind.naming.code? := by
  cases kind <;> rfl

/-- A name is found iff the table has it. -/
private theorem exists_find?_iff (naming : Naming) :
    (∃ code, naming.find? text = some code) ↔ text ∈ naming.table.map (·.2) := by
  rw [← Option.isSome_iff_exists, Naming.find?, Option.isSome_map, List.find?_isSome, List.mem_map]
  simp only [beq_iff_eq]

/-- A name with a mark stands for a code by the table, and for no other reason. -/
theorem exists_ofName?_iff (marked : kind.mark.toList <+: name.toList) :
    (∃ code, kind.ofName? name = some code) ↔ name ∈ kind.names := by
  have hliteral : Code.ofLiteral? name = none := by
    obtain ⟨rest, hname⟩ := marked
    apply Code.ofLiteral?_eq_none (c := 'C') _ rfl (by decide)
    rw [← hname]
    cases kind <;> rfl
  rw [ofName?_eq, Naming.code?, hliteral, names, ← exists_find?_iff]
  simp

/-- A marked name has a code iff the table has it or a literal follows the mark. -/
private theorem exists_genericCode?_iff (marked : kind.mark.toList <+: name.toList) :
    (∃ code, CodeMap.genericCode? kind.ofName? name = some (some code)) ↔
      name ∈ kind.names ∨ ∃ literal, name = kind.mark ++ literal ∧ Code.IsLiteral literal := by
  simp only [← exists_ofName?_iff marked, ← Code.exists_ofLiteral?_iff, ← afterMark_eq_some_iff marked]
  rw [CodeMap.genericCode?]
  cases kind.ofName? name with
  | some code => simp
  | none =>
    simp only [Option.map_eq_some_iff, reduceCtorEq, exists_false, false_or]
    exact exists_comm.trans (exists_congr fun literal => exists_and_left)

end CodeKind

namespace CodeMap

/-! ## Entries and records -/

/-- An entry of a record is written as it has to be just if it names a code and has a literal for its value. -/
theorem exists_written_iff :
    (∃ entry : CodeEntry, entry.Written (name, value)) ↔ IsName name ∧ Code.IsLiteral value := by
  constructor
  · rintro ⟨⟨kind, generic, vendor⟩, marked, named, valued⟩
    refine ⟨⟨kind, ?_⟩, Code.exists_ofLiteral?_iff.1 ⟨vendor, valued⟩⟩
    exact (CodeKind.exists_genericCode?_iff marked).1 ⟨generic, named⟩
  · rintro ⟨⟨kind, hname⟩, literal⟩
    obtain ⟨vendor, valued⟩ := Code.exists_ofLiteral?_iff.2 literal
    have marked : kind.mark.toList <+: name.toList := by
      rcases hname with listed | ⟨literal, rfl, -⟩
      · exact CodeKind.mark_prefix_of_mem_names listed
      · rw [String.toList_append]
        exact List.prefix_append _ _
    obtain ⟨generic, named⟩ := (CodeKind.exists_genericCode?_iff marked).2 hname
    exact ⟨⟨kind, generic, vendor⟩, marked, named, valued⟩

/-- Entries can be found for the items of a list one by one. -/
theorem exists_forall₂_written_iff {codes : CodeTable} :
    (∃ entries, List.Forall₂ CodeEntry.Written entries codes) ↔
      ∀ text ∈ codes, ∃ entry : CodeEntry, entry.Written text := by
  induction codes with
  | nil => exact iff_of_true ⟨[], .nil⟩ (by simp)
  | cons text codes ih =>
    rw [List.forall_mem_cons, ← ih]
    constructor
    · rintro ⟨entries, written⟩
      obtain ⟨entry, entries, hentry, hentries, rfl⟩ := List.forall₂_cons_right_iff.1 written
      exact ⟨⟨entry, hentry⟩, entries, hentries⟩
    · rintro ⟨⟨entry, hentry⟩, entries, hentries⟩
      exact ⟨entry :: entries, .cons hentry hentries⟩

/-- A record is refused just if one of its entries is not written as it has to be. -/
theorem fails_ofRecord_iff (record : VendorRecord) :
    (∃ e, ofRecord record = .error e) ↔
      ∃ entry ∈ record.codes, ¬ Code.IsLiteral entry.2 ∨ ¬ IsName entry.1 := by
  have haccepted : (∃ map, ofRecord record = .ok map) ↔
      ∀ entry ∈ record.codes, IsName entry.1 ∧ Code.IsLiteral entry.2 := by
    simp only [ofRecord_eq_ok_iff, ← exists_written_iff, ← exists_forall₂_written_iff]
    constructor
    · rintro ⟨_, entries, written, -⟩
      exact ⟨entries, written⟩
    · rintro ⟨entries, written⟩
      exact ⟨_, entries, written, rfl⟩
  have hrefused : (∃ e, ofRecord record = .error e) ↔ ¬ ∃ map, ofRecord record = .ok map := by
    cases ofRecord record <;> simp
  rw [hrefused, haccepted]
  push Not
  refine exists_congr fun entry => and_congr_right fun _ => ?_
  rw [← not_and_or, and_comm, not_and]

/-- A text is read as a code just if it is a literal that writes it, and is refused otherwise. A record is read without
cutting a name inside a character, and is refused just if a value is no literal or a name is neither in a table nor a
literal after a mark. -/
theorem literals_exact :
    (∀ text code, Code.ofLiteral? text = some code ↔ Code.Spells code.toNat text.toList) ∧
    (∀ text, Code.ofLiteral? text = none ↔ ∀ n < 2 ^ 64, ¬ Code.Spells n text.toList) ∧
    (∀ record, ofRecord? record = some (ofRecord record)) ∧
    (∀ record, (∃ e, ofRecord record = .error e) ↔
      ∃ entry ∈ record.codes, ¬ Code.IsLiteral entry.2 ∨ ¬ IsName entry.1) := by
  refine ⟨fun text code => Code.ofLiteral?_eq_some_iff, fun text => ?_, ofRecord?_eq, fails_ofRecord_iff⟩
  rw [Code.ofLiteral?_eq_none_iff, Code.IsLiteral]
  push Not
  rfl

end CodeMap

end TokenClient
