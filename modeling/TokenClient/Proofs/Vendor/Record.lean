import TokenClient.Proofs.Vendor.Entries

/-!
# The code map of a vendor record

What an entry of a vendor record says is set down apart from the reading of it: its name is one of its kind, or
a literal after the mark of its kind, and its value is a literal (`CodeEntry.Written`). A record is accepted
exactly if each of its entries is so written, and its map is the one that comes about from them
(`CodeMap.ofRecord_eq_ok_iff`).

The main result (`CodeMap.ofRecord_translates`) is about records whose entries share no side. Every entry is
honoured in each direction that starts from a code with the vendor bit. From a code without it nothing is
translated, even where the record has an entry for it (`CodeMap.not_ofRecord_translates_all`): standard
codes stand for themselves.
-/

namespace TokenClient

namespace CodeKind

/-- The first characters of the names of a kind. -/
def mark : CodeKind → String
  | keyType => "CKK_"
  | mechanism => "CKM_"

/-- The code of a name, for a kind. -/
def ofName? : CodeKind → String → Option Code
  | keyType => KeyType.ofName?
  | mechanism => MechanismType.ofName?

/-- A name has the mark of one kind only. -/
theorem eq_of_mark {kind other : CodeKind} {cs : List Char} (first : kind.mark.toList <+: cs)
    (second : other.mark.toList <+: cs) : kind = other := by
  have hlength : kind.mark.toList.length = other.mark.toList.length := by
    cases kind <;> cases other <;> decide
  have hmark := (List.prefix_of_prefix_length_le first second (Nat.le_of_eq hlength)).eq_of_length hlength
  cases kind <;> cases other <;> first | rfl | exact absurd hmark (by decide)

end CodeKind

/-- What the name and the value of an entry of a vendor record have to be. -/
structure CodeEntry.Written (entry : CodeEntry) (text : String × String) : Prop where
  marked : entry.kind.mark.toList <+: text.1.toList
  named : CodeMap.genericCode? entry.kind.ofName? text.1 = some (some entry.generic)
  valued : Code.ofLiteral? text.2 = some entry.vendor

/-- A name and a value say one thing only. -/
theorem CodeEntry.Written.unique {entry other : CodeEntry} {text : String × String}
    (first : entry.Written text) (second : other.Written text) : entry = other := by
  obtain ⟨kind, generic, vendor⟩ := entry
  obtain ⟨kind', generic', vendor'⟩ := other
  obtain rfl : kind = kind' := CodeKind.eq_of_mark first.marked second.marked
  obtain rfl : generic = generic' := Option.some.inj (Option.some.inj (first.named.symm.trans second.named))
  obtain rfl : vendor = vendor' := Option.some.inj (first.valued.symm.trans second.valued)
  rfl

namespace CodeMap

variable {map later : CodeMap} {record : VendorRecord} {entries : List CodeEntry}

/-- Whatever is added for the code of a name, it is added if there is one. -/
private theorem map_add_eq_ok_iff (found : Attempt (Option Code)) (add : Code → CodeMap) (e : Error) :
    (found.map fun
      | some generic => Except.ok (add generic)
      | none => .error e) = some (.ok later) ↔ ∃ generic, found = some (some generic) ∧ later = add generic := by
  constructor
  · intro h
    obtain ⟨code?, rfl, hcode⟩ := Option.map_eq_some_iff.1 h
    cases code? with
    | some generic =>
      cases hcode
      exact ⟨generic, rfl, rfl⟩
    | none => cases hcode
  · rintro ⟨generic, rfl, rfl⟩
    rfl

/-- An entry is accepted if it is written as an entry has to be, and then it is added. -/
theorem addEntry_eq_ok_iff {name value : String} :
    map.addEntry name value = some (.ok later) ↔
      ∃ entry : CodeEntry, entry.Written (name, value) ∧ later = map.add entry := by
  constructor
  · intro accepted
    unfold addEntry at accepted
    split at accepted
    next => cases accepted
    next vendor hvalue =>
      split at accepted
      next hmark =>
        obtain ⟨generic, hname, rfl⟩ := (map_add_eq_ok_iff _ (map.addKeyType · vendor) _).1 accepted
        exact ⟨⟨.keyType, generic, vendor⟩, ⟨List.isPrefixOf_iff_prefix.1 hmark, hname, hvalue⟩, rfl⟩
      next =>
        split at accepted
        next hmark =>
          obtain ⟨generic, hname, rfl⟩ := (map_add_eq_ok_iff _ (map.addMechanism · vendor) _).1 accepted
          exact ⟨⟨.mechanism, generic, vendor⟩, ⟨List.isPrefixOf_iff_prefix.1 hmark, hname, hvalue⟩, rfl⟩
        next => cases accepted
  · rintro ⟨⟨kind, generic, vendor⟩, ⟨hmark, hname, hvalue⟩, rfl⟩
    have hprefix := List.isPrefixOf_iff_prefix.2 hmark
    unfold addEntry
    rw [hvalue]
    cases kind with
    | keyType =>
      exact (if_pos hprefix).trans ((map_add_eq_ok_iff _ (map.addKeyType · vendor) _).2 ⟨generic, hname, rfl⟩)
    | mechanism =>
      -- The marks are tried in turn, so the first one must not fit a mechanism.
      have hother : ¬ "CKK_".toList.isPrefixOf name.toList = true := by
        intro h
        cases @CodeKind.eq_of_mark .keyType .mechanism _ (List.isPrefixOf_iff_prefix.1 h) hmark
      refine (if_neg hother).trans ((if_pos hprefix).trans ?_)
      exact (map_add_eq_ok_iff _ (map.addMechanism · vendor) _).2 ⟨generic, hname, rfl⟩

/-- Entries are accepted if each of them is written as an entry has to be. -/
theorem addEntries_eq_ok_iff {codes : CodeTable} :
    map.addEntries codes = some (.ok later) ↔
      ∃ entries, List.Forall₂ CodeEntry.Written entries codes ∧ later = entries.foldl add map := by
  induction codes generalizing map with
  | nil =>
    rw [addEntries]
    constructor
    · intro h
      cases h
      exact ⟨[], .nil, rfl⟩
    · rintro ⟨entries, written, rfl⟩
      cases written
      rfl
  | cons text codes ih =>
    obtain ⟨name, value⟩ := text
    rw [addEntries, Option.bind_eq_some_iff]
    constructor
    · rintro ⟨result, hfirst, hrest⟩
      cases result with
      | error e => cases hrest
      | ok next =>
        obtain ⟨entry, hentry, rfl⟩ := addEntry_eq_ok_iff.1 hfirst
        obtain ⟨entries, written, rfl⟩ := ih.1 hrest
        exact ⟨entry :: entries, .cons hentry written, rfl⟩
    · rintro ⟨entries, written, rfl⟩
      cases written with
      | @cons entry _ entries _ hentry written =>
        exact ⟨_, addEntry_eq_ok_iff.2 ⟨entry, hentry, rfl⟩, ih.2 ⟨entries, written, rfl⟩⟩

/-- Reading a record never panics. -/
theorem ofRecord?_eq (record : VendorRecord) : ofRecord? record = some (ofRecord record) :=
  (Option.some_get _).symm

/-- A record is accepted exactly if its entries are written as they have to be. -/
theorem ofRecord_eq_ok_iff :
    ofRecord record = .ok map ↔
      ∃ entries, List.Forall₂ CodeEntry.Written entries record.codes ∧ map = ofEntries entries := by
  rw [← Option.some_inj, ← ofRecord?_eq, ofRecord?, addEntries_eq_ok_iff]
  rfl

/-- The entries that a record consists of are determined. -/
theorem entries_unique {others : List CodeEntry} {codes : CodeTable}
    (first : List.Forall₂ CodeEntry.Written entries codes)
    (second : List.Forall₂ CodeEntry.Written others codes) : entries = others := by
  induction first generalizing others with
  | nil =>
    cases second
    rfl
  | cons hentry _ ih =>
    cases second with
    | cons hother rest => rw [hentry.unique hother, ih rest]

/-- What a map makes of entries that share no side. A side with the vendor bit leads to the other one, a side
without it stands for itself, and so does every code that is not the side of an entry. -/
structure Honours (map : CodeMap) (entries : List CodeEntry) : Prop where
  toVendor : ∀ entry ∈ entries, map.toVendor entry.kind entry.generic =
    if entry.generic.isVendor then entry.vendor else entry.generic
  toGeneric : ∀ entry ∈ entries, map.toGeneric entry.kind entry.vendor =
    if entry.vendor.isVendor then entry.generic else entry.vendor
  toVendor_else : ∀ kind code, (∀ entry ∈ entries, entry.kind = kind → entry.generic ≠ code) →
    map.toVendor kind code = code
  toGeneric_else : ∀ kind code, (∀ entry ∈ entries, entry.kind = kind → entry.vendor ≠ code) →
    map.toGeneric kind code = code

private theorem honours_ofEntries (apart : entries.Pairwise CodeEntry.Apart) :
    (ofEntries entries).Honours entries where
  toVendor := by
    intro entry hentry
    rw [toVendor_eq]
    exact (oneToOne_ofEntries entries entry.kind).toVendor_of_mem
      ((mem_pairs_ofEntries apart).2 ⟨entry, hentry, rfl, rfl⟩)
  toGeneric := by
    intro entry hentry
    rw [toGeneric_eq]
    exact (oneToOne_ofEntries entries entry.kind).toGeneric_of_mem
      ((mem_pairs_ofEntries apart).2 ⟨entry, hentry, rfl, rfl⟩)
  toVendor_else := by
    intro kind code unpaired
    rw [toVendor_eq]
    apply CodePairs.toVendor_of_not_mem
    intro pair hpair
    obtain ⟨entry, hentry, hkind, rfl⟩ := (mem_pairs_ofEntries apart).1 hpair
    exact unpaired entry hentry hkind
  toGeneric_else := by
    intro kind code unpaired
    rw [toGeneric_eq]
    apply CodePairs.toGeneric_of_not_mem
    intro pair hpair
    obtain ⟨entry, hentry, hkind, rfl⟩ := (mem_pairs_ofEntries apart).1 hpair
    exact unpaired entry hentry hkind

/-- An accepted record consists of entries, and if no two of them share a side, its map honours them. -/
theorem ofRecord_translates (accepted : ofRecord record = .ok map) :
    (∃ entries, List.Forall₂ CodeEntry.Written entries record.codes) ∧
      ∀ entries, List.Forall₂ CodeEntry.Written entries record.codes → entries.Pairwise CodeEntry.Apart →
        map.Honours entries := by
  obtain ⟨entries, written, rfl⟩ := ofRecord_eq_ok_iff.1 accepted
  refine ⟨⟨entries, written⟩, ?_⟩
  intro others hothers apart
  obtain rfl := entries_unique written hothers
  exact honours_ofEntries apart

/-- A key type and a mechanism outside the standard, and the mechanism of AES in between, each with a code of
the vendor. -/
def blockCipherEntries : List CodeEntry :=
  [⟨.keyType, 0xFFFFF002, 0x80000507⟩, ⟨.mechanism, 0x1081, 0x80000609⟩,
    ⟨.mechanism, 0xFFFFF008, 0x80000608⟩]

/-- The record of `blockCipherEntries`. -/
def blockCipherRecord : VendorRecord :=
  ⟨none, none, none, none,
    [("CKK_VENDOR_SM4", "0x80000507"), ("CKM_AES_ECB", "0x80000609"), ("CKM_VENDOR_SM4_ECB", "0x80000608")]⟩

private theorem written_blockCipherRecord :
    List.Forall₂ CodeEntry.Written blockCipherEntries blockCipherRecord.codes := by
  apply List.Forall₂.cons ⟨by decide, by decide +kernel, by decide +kernel⟩
  apply List.Forall₂.cons ⟨by decide, by decide +kernel, by decide +kernel⟩
  apply List.Forall₂.cons ⟨by decide, by decide +kernel, by decide +kernel⟩
  exact .nil

private theorem ofRecord_blockCipherRecord : ofRecord blockCipherRecord = .ok (ofEntries blockCipherEntries) :=
  ofRecord_eq_ok_iff.2 ⟨_, written_blockCipherRecord, rfl⟩

private theorem apart_blockCipherEntries : blockCipherEntries.Pairwise CodeEntry.Apart := by decide

/-- A record for the block ciphers of a vendor, read and honoured. -/
theorem ofRecord_translates_blockCipherRecord :
    ofRecord blockCipherRecord = .ok (ofEntries blockCipherEntries) ∧
      (ofEntries blockCipherEntries).Honours blockCipherEntries :=
  ⟨ofRecord_blockCipherRecord, (ofRecord_translates ofRecord_blockCipherRecord).2 _
    written_blockCipherRecord apart_blockCipherEntries⟩

/-- It is not the case that every entry is honoured in both directions: the record gives AES a code of the
vendor, but the standard code is never translated. -/
theorem not_ofRecord_translates_all :
    ¬ ∀ record map entries, ofRecord record = .ok map →
      List.Forall₂ CodeEntry.Written entries record.codes → entries.Pairwise CodeEntry.Apart →
        ∀ entry ∈ entries, map.toVendor entry.kind entry.generic = entry.vendor ∧
          map.toGeneric entry.kind entry.vendor = entry.generic := by
  intro honoured
  have haes := honoured _ _ _ ofRecord_blockCipherRecord written_blockCipherRecord apart_blockCipherEntries
    ⟨.mechanism, 0x1081, 0x80000609⟩ (by decide)
  exact absurd haes.1 (by decide)

end CodeMap

end TokenClient
