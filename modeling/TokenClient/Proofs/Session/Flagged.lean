import TokenClient.Proofs.Attribute.Flagged
import TokenClient.Proofs.Attribute.Lawful
import TokenClient.Proofs.Session.Obtained
import TokenClient.Session.Flagged

/-!
# Attributes with flags that a client gets hold of

A client makes an attribute, reads it from the wire or from an object, gives it a value, directly or where it stands in
a template, and looks into the templates that attributes store. `Flagged.Attribute.Obtained` has one case for each of
these, and each is what is done to the fields. Nothing is assumed of a module: a read may have gone through any
exchanges.

Reading an object field by field comes to what is read of it as readings, so every attribute that is obtained has been
laid out from a reading (`Flagged.Attribute.Obtained.exists_flagged`) and tells what this tells
(`Flagged.Attribute.Obtained.tells_reading`). Since readings hold values of their kinds, the
flags of what is obtained go together, with the value and its kind, in an attribute and in all that it contains
(`Flagged.Attribute.obtained_consistent`).
-/

namespace TokenClient

variable {session after : Session} {object type : Code} {types : List Code} {exchanges : List Exchange}

/-! ## What sessions read -/

namespace Session

/-- What a filled entry says is laid out. -/
theorem flagged_readEntry (session : Session) (entry : WireAttribute) :
    Flagged.readEntry session entry = (session.readEntry entry).map Attribute.flagged := by
  rw [Flagged.readEntry, readEntry, Attribute.flagged_ofWire]
  cases Attribute.ofWire session.encoding entry with
  | error e => rfl
  | ok a => exact congrArg Except.ok (Attribute.mapKeyTypes_flagged _ a)

/-- A single read commutes with laying attributes out. -/
private theorem flagged_readOne (session : Session) (handle object : Code) (absence : Absence) (type : Code) :
    Flagged.readOne session handle object absence type =
      (session.readOne handle object absence type).map (·.map Attribute.flagged) := by
  refine congrArg (Program.ask _) (funext fun reply => ?_)
  cases hresult : reply.result with
  | ok value => simp only [readAnswer, hresult, flagged_readEntry, Program.map]
  | error e =>
    simp only [readAnswer, hresult, Program.map, Attribute.flagged_absent, Attribute.flagged_sensitive]
    split
    next => rfl
    next => split <;> rfl

/-- So does reading an attribute. -/
private theorem flagged_readAttribute (session : Session) (object type : Code) :
    Flagged.readAttribute session object type =
      (session.readAttribute object type).map fun (result, after) => (result.map Attribute.flagged, after) := by
  unfold Flagged.readAttribute readAttribute
  cases session.openHandle with
  | error e => rfl
  | ok handle => simp only [flagged_readOne, Program.map_map, Function.comp_def]

/-- A template with outcomes added, or the first failure among them. -/
def addOutcomes (t : Template) (outcomes : List (Except Error Attribute)) : Except Error Template :=
  outcomes.foldlM (fun template outcome => outcome.map template.insert) t

private theorem addOutcomes_ok (t : Template) (a : Attribute) (outcomes : List (Except Error Attribute)) :
    addOutcomes t (.ok a :: outcomes) = addOutcomes (t.insert a) outcomes := rfl

/-- Entries are added as the outcomes are that they come to. -/
theorem flagged_addEntries (session : Session) (t : Template) (entries : List WireAttribute) :
    Flagged.addEntries session t.flagged entries =
      (addOutcomes t (entries.map session.readEntry)).map Template.flagged := by
  induction entries generalizing t with
  | nil => rfl
  | cons entry entries ih =>
    rw [Flagged.addEntries, flagged_readEntry, List.map_cons]
    cases session.readEntry entry with
    | error e => rfl
    | ok a =>
      change Flagged.addEntries session (t.flagged.insert a.flagged) entries = _
      rw [Template.insert_flagged, ih, addOutcomes_ok]

/-- Once a read has failed the rest are read, and the failure is the answer. -/
theorem readInto_failed (session : Session) (handle object : Code) (t : Flagged.Template) (e : Error)
    (types : List Code) :
    Flagged.readInto session handle object t (some e) types =
      (session.readEach handle object types).map fun _ => .error e := by
  induction types generalizing t with
  | nil => rfl
  | cons type types ih =>
    rw [Flagged.readInto, readEach, flagged_readOne, Program.bind_map, Program.map_bind]
    refine congrArg (Program.bind _) (funext fun outcome => ?_)
    rw [Program.map_map]
    cases outcome with
    | ok a => exact ih _
    | error _ => exact ih _

/-- Attributes that are read one by one go into a template as their outcomes do when all are there. -/
theorem flagged_readInto (session : Session) (handle object : Code) (t : Template) (types : List Code) :
    Flagged.readInto session handle object t.flagged none types =
      (session.readEach handle object types).map fun outcomes =>
        (addOutcomes t outcomes).map Template.flagged := by
  induction types generalizing t with
  | nil => rfl
  | cons type types ih =>
    rw [Flagged.readInto, readEach, flagged_readOne, Program.bind_map, Program.map_bind]
    refine congrArg (Program.bind _) (funext fun outcome => ?_)
    rw [Program.map_map]
    cases outcome with
    | ok a =>
      change Flagged.readInto session handle object (t.flagged.insert a.flagged) none types = _
      rw [Template.insert_flagged, ih]
      rfl
    | error e => exact readInto_failed session handle object _ e types

/-- Reading a list of attributes commutes with laying them out. -/
private theorem flagged_readAttributes (session : Session) (object : Code) (types : List Code) :
    Flagged.readAttributes session object types =
      (session.readAttributes object types).map fun (result, after) => (result.map Template.flagged, after) := by
  unfold Flagged.readAttributes readAttributes
  rw [show Flagged.Template.empty = Template.empty.flagged from rfl]
  cases session.openHandle with
  | error e => rfl
  | ok handle =>
    refine congrArg (Program.ask _) (funext fun reply => ?_)
    cases hresult : reply.result with
    | ok value =>
      simp only [hresult, flagged_addEntries]
      rfl
    | error e =>
      simp only [hresult, flagged_readInto, Program.map_map, Function.comp_def]
      rfl

/-- The request for an attribute is answered with what is read. -/
theorem plays_perform_readAttribute {result : Except Error Attribute}
    (plays : (session.readAttribute object type).Plays exchanges (result, after)) :
    (session.perform (.readAttribute object type)).Plays exchanges (⟨result, ()⟩, after) := by
  rw [perform]
  exact plays_plainly.2 ⟨result, plays, rfl⟩

private theorem plays_perform_readAttributes {result : Except Error Template}
    (plays : (session.readAttributes object types).Plays exchanges (result, after)) :
    (session.perform (.readAttributes object types)).Plays exchanges (⟨result, ()⟩, after) := by
  rw [perform]
  exact plays_plainly.2 ⟨result, plays, rfl⟩

end Session

/-! ## What a client gets hold of -/

namespace Flagged

/-- An attribute is `a` itself, or it stands in the template that `a` stores, at any level. -/
inductive Attribute.Contains : Attribute → Attribute → Prop
  | self (a : Attribute) : Contains a a
  | inside {a b c : Attribute} {inner : Template} (stores : a.stored = some (.template inner))
      (member : b ∈ inner.attributes) (contains : Contains b c) : Contains a c

/-- The attributes that a client gets hold of. -/
inductive Attribute.Obtained : Attribute → Prop
  | make {type : Code} {a : Attribute} (made : make type = .ok a) : Obtained a
  | withValue {type : Code} {value : Value} {a : Attribute} (made : withValue type value = .ok a)
      (nested : ∀ inner, value = .template inner → ∀ b ∈ inner.attributes, Obtained b) : Obtained a
  | ofWire {encoding : Encoding} {entry : WireAttribute} {a : Attribute}
      (told : ofWire encoding entry = .ok a) : Obtained a
  /-- The attribute that a session reads of an object. -/
  | read {session after : Session} {object type : Code} {exchanges : List Exchange} {a : Attribute}
      (plays : (readAttribute session object type).Plays exchanges (.ok a, after)) : Obtained a
  /-- One of the attributes that a session reads of an object. -/
  | readAmong {session after : Session} {object : Code} {types : List Code} {exchanges : List Exchange}
      {t : Template} {a : Attribute} (plays : (readAttributes session object types).Plays exchanges (.ok t, after))
      (member : a ∈ t.attributes) : Obtained a
  /-- What is left of an attribute that is given a value, be it that the value is refused. -/
  | setValue {a b : Attribute} {value : Value} {result : Except Error Unit} (obtained : Obtained a)
      (nested : ∀ inner, value = .template inner → ∀ b ∈ inner.attributes, Obtained b)
      (given : setValue value a = (result, b)) : Obtained b
  /-- An attribute of a template in which one of them is given a value. -/
  | setWithin {t u : Template} {type : Code} {value : Value} {result : Except Error Unit} {b : Attribute}
      (obtained : ∀ a ∈ t.attributes, Obtained a)
      (nested : ∀ inner, value = .template inner → ∀ b ∈ inner.attributes, Obtained b)
      (given : Template.updateAt type (Attribute.setValue value) t = (result, u))
      (member : b ∈ u.attributes) : Obtained b
  | renumbered {a : Attribute} (f : Code → Code) (obtained : Obtained a) : Obtained (a.mapKeyTypes f)
  /-- An attribute of a template that an attribute stores. -/
  | inside {a b : Attribute} {inner : Template} (obtained : Obtained a)
      (stores : a.stored = some (.template inner)) (member : b ∈ inner.attributes) : Obtained b

namespace Attribute

/-- What an obtained attribute contains can be obtained from it. -/
theorem Obtained.contained {a b : Attribute} (obtained : a.Obtained) (contains : a.Contains b) : b.Obtained := by
  induction contains with
  | self a => exact obtained
  | inside stores member _ ih => exact ih (obtained.inside stores member)

/-- Some attribute that a client gets hold of has been laid out as `a`. -/
def IsLaidOut (a : Attribute) : Prop := ∃ b : TokenClient.Attribute, b.Obtained ∧ a = b.flagged

/-- A list is laid out if each of its attributes is. -/
theorem exists_flaggedAll {as : List Attribute} (each : ∀ a ∈ as, a.IsLaidOut) :
    ∃ bs : List TokenClient.Attribute, (∀ b ∈ bs, b.Obtained) ∧ as = TokenClient.Attribute.flaggedAll bs := by
  induction as with
  | nil => exact ⟨[], List.forall_mem_nil _, rfl⟩
  | cons a as ih =>
    obtain ⟨⟨b, hb, rfl⟩, others⟩ := List.forall_mem_cons.1 each
    obtain ⟨bs, hbs, rfl⟩ := ih others
    exact ⟨b :: bs, List.forall_mem_cons.2 ⟨hb, hbs⟩, rfl⟩

/-- A value is laid out if the attributes in it are. -/
theorem exists_flagged_value {value : Value}
    (nested : ∀ inner, value = .template inner → ∀ b ∈ inner.attributes, b.IsLaidOut) :
    ∃ v : TokenClient.Value, value = v.flagged ∧
      ∀ inner, v = .template inner → ∀ b ∈ inner.attributes, b.Obtained := by
  cases value with
  | template inner =>
    obtain ⟨as⟩ := inner
    obtain ⟨bs, hbs, rfl⟩ := exists_flaggedAll (nested _ rfl)
    refine ⟨.template ⟨bs⟩, rfl, ?_⟩
    rintro inner h
    cases h
    exact hbs
  | bool b => exact ⟨.bool b, rfl, by simp⟩
  | number n => exact ⟨.number n, rfl, by simp⟩
  | bytes b => exact ⟨.bytes b, rfl, by simp⟩
  | text s => exact ⟨.text s, rfl, by simp⟩
  | date d => exact ⟨.date d, rfl, by simp⟩
  | mechanism m => exact ⟨.mechanism m, rfl, by simp⟩
  | mechanisms ms => exact ⟨.mechanisms ms, rfl, by simp⟩

/-- What is left of an attribute that is given a value comes of laying out the attribute with the value. -/
theorem IsLaidOut.setValue {a b : Attribute} {value : Value} {result : Except Error Unit} (laidOut : a.IsLaidOut)
    (nested : ∀ inner, value = .template inner → ∀ b ∈ inner.attributes, b.IsLaidOut)
    (given : Attribute.setValue value a = (result, b)) : b.IsLaidOut := by
  obtain ⟨a, ha, rfl⟩ := laidOut
  obtain ⟨v, rfl, hv⟩ := exists_flagged_value nested
  rw [TokenClient.Attribute.setValue_flagged, TokenClient.Attribute.assign_eq] at given
  cases hset : a.setValue v with
  | ok c =>
    rw [hset] at given
    cases given
    exact ⟨c, .setValue ha hset hv, rfl⟩
  | error e =>
    rw [hset] at given
    cases given
    exact ⟨a, ha, rfl⟩

end Attribute

/-- An update within a list leaves the other attributes as they are. -/
theorem Template.mem_updateIn {type : Code} {update : Update Attribute Unit} {as : List Attribute} {b : Attribute}
    (member : b ∈ (updateIn type update as).2) : b ∈ as ∨ ∃ a ∈ as, b = (update a).2 := by
  induction as with
  | nil => exact .inl member
  | cons a as ih =>
    rw [updateIn] at member
    split at member
    · rcases List.mem_cons.1 member with rfl | member
      · exact .inr ⟨a, List.mem_cons_self, rfl⟩
      · exact .inl (List.mem_cons_of_mem a member)
    · rcases List.mem_cons.1 member with rfl | member
      · exact .inl List.mem_cons_self
      · obtain member | ⟨c, hc, rfl⟩ := ih member
        · exact .inl (List.mem_cons_of_mem a member)
        · exact .inr ⟨c, List.mem_cons_of_mem a hc, rfl⟩

/-- Whatever a client gets hold of has been laid out from a reading: no other combination of the flags comes
about. -/
theorem Attribute.Obtained.exists_flagged {a : Attribute} (obtained : a.Obtained) :
    ∃ b : TokenClient.Attribute, b.Obtained ∧ a = b.flagged := by
  show a.IsLaidOut
  -- On how it was obtained: each operation commutes with laying out, so its result is laid out again.
  induction obtained with
  | make made =>
    rw [TokenClient.Attribute.flagged_make] at made
    obtain ⟨b, hb, rfl⟩ := map_ok_iff.1 made
    exact ⟨b, .make hb, rfl⟩
  | withValue made _ ih =>
    obtain ⟨v, rfl, hv⟩ := exists_flagged_value ih
    rw [TokenClient.Attribute.flagged_withValue] at made
    obtain ⟨b, hb, rfl⟩ := map_ok_iff.1 made
    exact ⟨b, .withValue hb hv, rfl⟩
  | ofWire told =>
    rw [TokenClient.Attribute.flagged_ofWire] at told
    obtain ⟨b, hb, rfl⟩ := map_ok_iff.1 told
    exact ⟨b, .ofWire hb, rfl⟩
  | read plays =>
    rw [Session.flagged_readAttribute] at plays
    obtain ⟨⟨result, after⟩, hplays, heq⟩ := Program.plays_map.1 plays
    obtain ⟨b, rfl, rfl⟩ := map_ok_iff.1 (Prod.mk.inj heq).1.symm
    exact ⟨b, .read (Session.plays_perform_readAttribute hplays) rfl, rfl⟩
  | readAmong plays member =>
    rw [Session.flagged_readAttributes] at plays
    obtain ⟨⟨result, after⟩, hplays, heq⟩ := Program.plays_map.1 plays
    obtain ⟨t, rfl, rfl⟩ := map_ok_iff.1 (Prod.mk.inj heq).1.symm
    rw [TokenClient.Template.attributes_flagged] at member
    obtain ⟨b, hb, rfl⟩ := List.mem_map.1 member
    exact ⟨b, .readAmong (Session.plays_perform_readAttributes hplays) rfl hb, rfl⟩
  | setValue _ _ given ih ihNested => exact ih.setValue ihNested given
  -- Setting within a template replaces one attribute, and the others are in hand as they were.
  | setWithin _ _ given member ih ihNested =>
    obtain ⟨rfl, rfl⟩ := Prod.mk.inj given
    obtain member | ⟨a, ha, rfl⟩ := Template.mem_updateIn member
    · exact ih _ member
    · exact (ih a ha).setValue ihNested rfl
  | renumbered f _ ih =>
    obtain ⟨b, hb, rfl⟩ := ih
    exact ⟨b.mapKeyTypes f, .renumbered f hb, TokenClient.Attribute.mapKeyTypes_flagged f b⟩
  | inside _ stores member ih =>
    obtain ⟨b, hb, rfl⟩ := ih
    obtain ⟨t, holds, rfl⟩ := TokenClient.Attribute.exists_template_of_stored stores
    rw [TokenClient.Template.attributes_flagged] at member
    obtain ⟨c, hc, rfl⟩ := List.mem_map.1 member
    exact ⟨c, .inside hb holds hc, rfl⟩

/-- What a client gets hold of tells what the reading tells from which it has been laid out: to accessors, on the wire,
as text, and when it is compared. -/
theorem Attribute.Obtained.tells_reading {a b : Attribute} (ha : a.Obtained) (hb : b.Obtained) :
    ∃ c d : TokenClient.Attribute, (c.Obtained ∧ a = c.flagged) ∧ (d.Obtained ∧ b = d.flagged) ∧
      a.value = c.value.map (·.map TokenClient.Value.flagged) ∧
      (∀ (α : Type) (pick : Value → Option α), a.read pick = c.read (pick ∘ TokenClient.Value.flagged)) ∧
      (∀ encoding, a.toWire encoding = c.toWire encoding) ∧ a.display = c.display ∧ a.same b = c.same d := by
  obtain ⟨c, hc, rfl⟩ := ha.exists_flagged
  obtain ⟨d, hd, rfl⟩ := hb.exists_flagged
  exact ⟨c, d, ⟨hc, rfl⟩, ⟨hd, rfl⟩, c.value_flagged, fun _ pick => c.read_flagged pick, c.toWire_flagged,
    c.display_flagged, c.same_flagged d⟩

/-- An attribute that holds nothing but a value of its kind is laid out with flags that go together. -/
theorem Attribute.lawful_flagged {type : Code} {kind : Kind} {reading : Reading}
    (own : (⟨type, kind, reading⟩ : TokenClient.Attribute).HoldsOwnKind) :
    (TokenClient.Attribute.flagged ⟨type, kind, reading⟩).Lawful where
  stored value h := by
    cases reading with
    | held v =>
      cases h
      exact ⟨rfl, rfl, rfl, (TokenClient.Value.kind_flagged v).trans (own v rfl)⟩
    | unknown | absent | sensitive | empty => cases h
  sensitive h := by
    cases reading with
    | sensitive => exact ⟨rfl, rfl, rfl⟩
    | unknown | absent | empty | held _ => cases h
  absent h := by
    cases reading with
    | unknown | absent => rfl
    | sensitive | empty | held _ => cases h
  unknown h := by
    cases reading with
    | unknown => exact ⟨rfl, rfl⟩
    | absent | sensitive | empty | held _ => cases h

namespace Attribute

/-- The flags and the value of every attribute that a client gets hold of go together and with its kind, and so do
those of every attribute in it. -/
theorem obtained_consistent {a b : Attribute} (obtained : a.Obtained) (contains : a.Contains b) : b.Consistent := by
  obtain ⟨⟨type, kind, reading⟩, hc, rfl⟩ := (obtained.contained contains).exists_flagged
  obtain ⟨own, -⟩ := hc.throughout TokenClient.Attribute.kept_holdsOwnKind
  exact (lawful_flagged own).consistent

/-- An attribute of a vendor's type that stores a template with a key type. -/
def vendorRestriction (keyType : Code) : Attribute :=
  ⟨0x80000001, .template,
    some (.template ⟨[⟨AttributeType.keyType, .number, some (.number keyType), true, false, true⟩]⟩), true, false, true⟩

/-- The type has no kind of its own, and takes that of the template that it is given. -/
theorem obtained_vendorRestriction (keyType : Code) : (vendorRestriction keyType).Obtained := by
  have made : Attribute.make 0x80000001 = .ok ⟨0x80000001, .bytes, none, false, false, true⟩ := rfl
  have member : withValue AttributeType.keyType (.number keyType) =
      .ok ⟨AttributeType.keyType, .number, some (.number keyType), true, false, true⟩ := rfl
  have given : setValue
      (.template ⟨[⟨AttributeType.keyType, .number, some (.number keyType), true, false, true⟩]⟩)
        ⟨0x80000001, .bytes, none, false, false, true⟩ = (.ok (), vendorRestriction keyType) := rfl
  refine .setValue (.make made) ?_ given
  rintro inner h b hb
  cases h
  rw [List.mem_singleton.1 hb]
  exact .withValue member fun _ h => (by cases h)

/-- The renumbered key type in it is consistent. -/
theorem obtained_consistent_vendorRestriction :
    (⟨AttributeType.keyType, .number, some (.number 0x80000006), true, false, true⟩ : Attribute).Consistent := by
  refine obtained_consistent ((obtained_vendorRestriction 6).renumbered (· ||| 0x80000000))
    (.inside rfl List.mem_cons_self (.self _))

end Attribute

end Flagged

end TokenClient
