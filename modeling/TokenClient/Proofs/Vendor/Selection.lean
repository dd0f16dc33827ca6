import TokenClient.Proofs.Vendor.Selector
import TokenClient.Proofs.Vendor.Version
import TokenClient.Vendor.Config

/-!
# Which vendor record is selected

A record suits a module if each of its selectors that is set holds (`VendorRecord.Suits`). Whether a version selector
can be read has nothing to do with the version that it is held against, so a configuration whose selectors were all
read once has no record that cannot be checked (`Config.checked_eq_ok_iff`, `VendorRecord.applies_of_readable`). Then
the record selected is the first one that suits, and what comes after it does not matter
(`Config.selectVendor_exact`): the search does not get there.
-/

namespace TokenClient

variable {path : Option String} {info : ModuleInfo} {record : VendorRecord} {config accepted : Config}
  {vendors before after : List VendorRecord}

namespace VendorRecord

/-- The selectors of a record that are set hold for a module. -/
structure Suits (record : VendorRecord) (path : Option String) (info : ModuleInfo) : Prop where
  path : ∀ selector, record.modulePath = some selector → ∃ text, path = some text ∧ anySubstring selector text = true
  manufacturer : ∀ selector, record.manufacturerId = some selector →
    anySubstring selector info.manufacturerId = true
  description : ∀ selector, record.description = some selector →
    anySubstring selector info.libraryDescription = true
  version : ∀ selector, record.version = some selector →
    ∃ range : Version.Range, range.Writes selector ∧ range.Includes info.libraryVersion

/-- The version selector of a record, if it is set, writes a version or a range of them. -/
def Readable (record : VendorRecord) : Prop :=
  ∀ selector, record.version = some selector → ∃ range : Version.Range, range.Writes selector

private theorem Readable.not_error (readable : record.Readable) {version : Version} (e : Error) :
    versionSelects record.version version ≠ .error e := by
  cases hversion : record.version with
  | none => exact fun h => nomatch h
  | some selector =>
    obtain ⟨range, hrange⟩ := readable selector hversion
    rw [versionSelects, Version.Range.parse_eq_ok_iff.2 hrange]
    exact fun h => nomatch h

/-- A selector that is set asks for a text that contains it. -/
private theorem selects_iff {selector text : Option String} :
    selects selector text = true ↔ ∀ s, selector = some s → ∃ t, text = some t ∧ anySubstring s t = true := by
  cases selector <;> cases text <;> simp [selects]

private theorem selects_some_iff {selector : Option String} {text : String} :
    selects selector (some text) = true ↔ ∀ s, selector = some s → anySubstring s text = true := by
  simp [selects_iff]

private theorem versionSelects_eq_ok_true_iff {selector : Option String} {version : Version} :
    versionSelects selector version = .ok true ↔
      ∀ s, selector = some s → ∃ range : Version.Range, range.Writes s ∧ range.Includes version := by
  cases selector with
  | none => simp [versionSelects]
  | some selector =>
    simp [versionSelects, map_ok_iff, Version.Range.parse_eq_ok_iff, Version.Range.contains_iff]

/-- Whether a selector can be read is up to the selector alone. -/
theorem exists_versionSelects_eq_ok_iff {selector : String} {version : Version} :
    (∃ holds, versionSelects (some selector) version = .ok holds) ↔
      ∃ range : Version.Range, range.Writes selector := by
  simp only [versionSelects, map_ok_iff, Version.Range.parse_eq_ok_iff]
  constructor
  · rintro ⟨_, range, hrange, -⟩
    exact ⟨range, hrange⟩
  · rintro ⟨range, hrange⟩
    exact ⟨_, range, hrange, rfl⟩

/-- A record suits iff all its selectors hold. -/
private theorem suits_iff :
    record.Suits path info ↔
      ((selects record.modulePath path = true ∧ selects record.manufacturerId (some info.manufacturerId) = true) ∧
        selects record.description (some info.libraryDescription) = true) ∧
      versionSelects record.version info.libraryVersion = .ok true := by
  rw [selects_iff, selects_some_iff, selects_some_iff, versionSelects_eq_ok_true_iff]
  constructor
  · intro suits
    exact ⟨⟨⟨suits.path, suits.manufacturer⟩, suits.description⟩, suits.version⟩
  · rintro ⟨⟨⟨hpath, hmanufacturer⟩, hdescription⟩, hversion⟩
    exact ⟨hpath, hmanufacturer, hdescription, hversion⟩

/-- A record whose version selector can be read can be checked, and it applies if it suits. -/
theorem applies_of_readable (readable : record.Readable) (path : Option String) (info : ModuleInfo) :
    ∃ applies, record.applies path info = .ok applies ∧ (applies = true ↔ record.Suits path info) := by
  rw [suits_iff, ← Bool.and_eq_true, ← Bool.and_eq_true, applies]
  split
  next htexts =>
    cases hversion : versionSelects record.version info.libraryVersion with
    | ok holds =>
      refine ⟨holds, rfl, ?_⟩
      rw [Except.ok.injEq, and_iff_right htexts]
    | error e => exact absurd hversion (readable.not_error e)
  next htexts =>
    refine ⟨false, rfl, ?_⟩
    simp [htexts]

end VendorRecord

namespace Config

private theorem readable_iff :
    (match record.version with
      | some selector => (Version.Range.parse selector).map fun _ => ()
      | none => Except.ok ()) = .ok () ↔ record.Readable := by
  cases hversion : record.version with
  | none => simp [VendorRecord.Readable, hversion]
  | some selector => simp [VendorRecord.Readable, hversion, map_ok_iff, Version.Range.parse_eq_ok_iff]

/-- A configuration passes if the version selectors of all its records can be read. -/
theorem checked_eq_ok_iff :
    config.checked = .ok accepted ↔ config = accepted ∧ ∀ record ∈ config.vendors, record.Readable := by
  have hall (vendors : List VendorRecord) :
      (forM vendors fun record : VendorRecord =>
        match record.version with
        | some selector => (Version.Range.parse selector).map fun _ => ()
        | none => Except.ok ()) = .ok () ↔ ∀ record ∈ vendors, record.Readable := by
    induction vendors with
    | nil => simp [pure, Except.pure]
    | cons record vendors ih =>
      rw [List.forM_cons, bind_ok_iff, List.forall_mem_cons, ← ih, ← readable_iff]
      exact ⟨fun ⟨_, h⟩ => h, fun h => ⟨(), h⟩⟩
  rw [checked, map_ok_iff, List.forM_eq_forM, ← hall]
  exact ⟨fun ⟨_, h, heq⟩ => ⟨heq, h⟩, fun ⟨heq, h⟩ => ⟨(), h, heq⟩⟩

/-- What the selection from a list of records comes to: the first record that suits the module, or none if none
does. -/
def IsFirstSuiting (path : Option String) (info : ModuleInfo) (vendors : List VendorRecord) :
    Option VendorRecord → Prop
  | none => ∀ record ∈ vendors, ¬ record.Suits path info
  | some record =>
    ∃ before after, vendors = before ++ record :: after ∧ (∀ earlier ∈ before, ¬ earlier.Suits path info) ∧
      record.Suits path info

/-- The search stops at a record that applies, whatever follows. -/
theorem firstApplying_append (skipped : ∀ earlier ∈ before, earlier.applies path info = .ok false)
    (applies : record.applies path info = .ok true) (after : List VendorRecord) :
    firstApplying path info (before ++ record :: after) = .ok (some record) := by
  induction before with
  | nil => rw [List.nil_append, firstApplying, applies]
  | cons first before ih =>
    rw [List.forall_mem_cons] at skipped
    rw [List.cons_append, firstApplying, skipped.1]
    exact ih skipped.2

/-- Where all records can be checked the first one that suits is found. -/
theorem exists_firstSuiting (readable : ∀ record ∈ vendors, record.Readable) (path : Option String)
    (info : ModuleInfo) :
    ∃ selected, firstApplying path info vendors = .ok selected ∧ IsFirstSuiting path info vendors selected := by
  induction vendors with
  | nil => exact ⟨none, rfl, List.forall_mem_nil _⟩
  | cons record vendors ih =>
    rw [List.forall_mem_cons] at readable
    obtain ⟨applies, happlies, hsuits⟩ := VendorRecord.applies_of_readable readable.1 path info
    cases applies with
    | true =>
      refine ⟨some record, ?_, [], vendors, rfl, List.forall_mem_nil _, hsuits.1 rfl⟩
      rw [firstApplying, happlies]
    | false =>
      have hskipped : ¬ record.Suits path info := fun h => nomatch hsuits.2 h
      obtain ⟨selected, hselected, hfirst⟩ := ih readable.2
      refine ⟨selected, ?_, ?_⟩
      · rw [firstApplying, happlies]
        exact hselected
      · cases selected with
        | none => exact List.forall_mem_cons.2 ⟨hskipped, hfirst⟩
        | some found =>
          obtain ⟨before, after, rfl, hbefore, hfound⟩ := hfirst
          exact ⟨record :: before, after, rfl, List.forall_mem_cons.2 ⟨hskipped, hbefore⟩, hfound⟩

/-- The code map depends on the record selected and on nothing else. -/
private theorem codeMap_congr {other : Config} (h : other.selectVendor path info = config.selectVendor path info) :
    other.codeMap path info = config.codeMap path info := by
  rw [codeMap, codeMap, h]

/-- In a configuration that passed, every record can be checked against every module and applies just if it suits, and
the first one that suits is selected, or none if none does. What follows the selected record, be it changed, removed or
new and even if it cannot be checked, changes neither the selection nor the code map.

A version selector can be read or not whatever the version is, and it holds if the version is the one it writes, or lies
between the ends of the range it writes. A selector of the path does not hold where there is no path, and a text
selector of white space and colons does not hold at all. -/
theorem selectVendor_exact (passed : config.checked = .ok config) (path : Option String) (info : ModuleInfo) :
    (∀ record ∈ config.vendors,
      ∃ applies, record.applies path info = .ok applies ∧ (applies = true ↔ record.Suits path info)) ∧
    (∃ selected, config.selectVendor path info = .ok selected ∧
      IsFirstSuiting path info config.vendors selected) ∧
    (∀ before record after, config.vendors = before ++ record :: after →
      (∀ earlier ∈ before, ¬ earlier.Suits path info) → record.Suits path info →
        ∀ others,
          ({ config with vendors := before ++ record :: others } : Config).selectVendor path info =
            .ok (some record) ∧
          ({ config with vendors := before ++ record :: others } : Config).codeMap path info =
            config.codeMap path info) ∧
    (∀ selector version,
      ((∃ holds, VendorRecord.versionSelects (some selector) version = .ok holds) ↔
        ∃ range : Version.Range, range.Writes selector) ∧
      (VendorRecord.versionSelects (some selector) version = .ok true ↔
        ∃ range : Version.Range, range.Writes selector ∧ range.Includes version)) ∧
    (∀ selector, VendorRecord.selects (some selector) none = false) ∧
    (∀ selector text, (∀ c ∈ selector.toList, Text.isBlank c = true ∨ c = ':') →
      VendorRecord.selects (some selector) text = false) := by
  obtain ⟨-, readable⟩ := checked_eq_ok_iff.1 passed
  have happlies : ∀ record ∈ config.vendors,
      ∃ applies, record.applies path info = .ok applies ∧ (applies = true ↔ record.Suits path info) :=
    fun record hrecord => VendorRecord.applies_of_readable (readable record hrecord) path info
  refine ⟨happlies, exists_firstSuiting readable path info, ?_, ?_, fun _ => rfl, ?_⟩
  · intro before record after hvendors hbefore hrecord others
    rw [hvendors, List.forall_mem_append, List.forall_mem_cons] at happlies
    -- What stands before the record does not apply, so nothing after it is ever looked at.
    have hskipped : ∀ earlier ∈ before, earlier.applies path info = .ok false := by
      intro earlier hmem
      obtain ⟨applies, happlies, hsuits⟩ := happlies.1 earlier hmem
      rw [happlies, Bool.eq_false_iff.2 fun h => hbefore earlier hmem (hsuits.1 h)]
    have hfound : record.applies path info = .ok true := by
      obtain ⟨applies, happlies, hsuits⟩ := happlies.2.1
      rw [happlies, hsuits.2 hrecord]
    have hselect : ∀ following, ({ config with vendors := before ++ record :: following } : Config).selectVendor path
        info = .ok (some record) := firstApplying_append hskipped hfound
    refine ⟨hselect others, codeMap_congr ?_⟩
    rw [hselect others, ← hselect after, ← hvendors]
  · intro selector version
    refine ⟨VendorRecord.exists_versionSelects_eq_ok_iff, ?_⟩
    rw [VendorRecord.versionSelects_eq_ok_true_iff]
    simp
  · intro selector text blank
    cases text with
    | none => rfl
    | some text => exact VendorRecord.anySubstring_of_blank blank

/-- A record that suits the module of `mockInfo`. -/
def mockRecord : VendorRecord :=
  ⟨some "libmock", none, some "nothing: MOCK ", some " +2 - 2.06 ", [("CKK_VENDOR_SM4", "0x80000507")]⟩

/-- Records that do not: a blank selector, and a range whose ends are the wrong way round. -/
def otherRecords : List VendorRecord :=
  [⟨none, some " : ", none, none, []⟩, ⟨none, none, some "mock", some "2.5-2.3", []⟩]

/-- The description of a module of version 2.4. -/
def mockInfo : ModuleInfo := ⟨⟨3, 1⟩, "Mock Devices Inc.", 0, "Mock PKCS#11 Module", ⟨2, 4⟩⟩

/-- A record all of whose selectors hold is chosen before every one after it. -/
theorem selectVendor_exact_mockRecord :
    (⟨true, otherRecords ++ [mockRecord]⟩ : Config).checked = .ok ⟨true, otherRecords ++ [mockRecord]⟩ ∧
      ∀ others,
        (⟨true, otherRecords ++ mockRecord :: others⟩ : Config).selectVendor (some "/usr/lib/libmock.so") mockInfo =
          .ok (some mockRecord) := by
  have passed :
      (⟨true, otherRecords ++ [mockRecord]⟩ : Config).checked = .ok ⟨true, otherRecords ++ [mockRecord]⟩ := by
    decide +kernel
  obtain ⟨happlies, -, hstable, -⟩ := selectVendor_exact passed (some "/usr/lib/libmock.so") mockInfo
  have hsuits : ∀ record ∈ otherRecords ++ [mockRecord], ∀ holds,
      record.applies (some "/usr/lib/libmock.so") mockInfo = .ok holds →
        (holds = true ↔ record.Suits (some "/usr/lib/libmock.so") mockInfo) := by
    intro record hrecord holds hholds
    obtain ⟨applies, happlies, hsuits⟩ := happlies record hrecord
    rw [happlies] at hholds
    cases hholds
    exact hsuits
  have hothers : ∀ record ∈ otherRecords,
      record.applies (some "/usr/lib/libmock.so") mockInfo = .ok false := by decide +kernel
  refine ⟨passed, fun others => (hstable otherRecords mockRecord [] rfl ?_ ?_ others).1⟩
  · intro earlier hmem suits
    exact Bool.false_ne_true ((hsuits earlier (List.mem_append_left _ hmem) false (hothers earlier hmem)).2 suits)
  · exact (hsuits mockRecord (List.mem_append_right _ (List.mem_singleton_self _)) true (by decide +kernel)).1 rfl

end Config

end TokenClient
