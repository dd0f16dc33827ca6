import TokenClient.Proofs.Attribute.Consistency
import TokenClient.Proofs.Session.Assembly
import TokenClient.Proofs.Session.Run

/-!
# Attributes that a client gets hold of

A client makes an attribute, reads it from the wire or from an object, changes its value, directly or where it
stands in a template, and looks into the templates that attributes hold. `Attribute.Obtained` has one case for
each of these. Nothing is assumed of a module: a read may have gone through any exchanges.

What is kept by all the ways to make and to change an attribute holds throughout what is obtained
(`Attribute.Obtained.throughout`).
-/

namespace TokenClient

/-- The attributes that a client gets hold of. -/
inductive Attribute.Obtained : Attribute → Prop
  | make {type : Code} {a : Attribute} (made : make type = .ok a) : Obtained a
  | withValue {type : Code} {value : Value} {a : Attribute} (made : withValue type value = .ok a)
      (nested : ∀ inner, value = .template inner → ∀ b ∈ inner.attributes, Obtained b) : Obtained a
  | ofWire {encoding : Encoding} {entry : WireAttribute} {a : Attribute}
      (told : ofWire encoding entry = .ok a) : Obtained a
  /-- The attribute that a session reads of an object. -/
  | read {session after : Session} {object type : Code} {exchanges : List Exchange}
      {answer : (Request.readAttribute object type).Answer} {a : Attribute}
      (plays : (session.perform (.readAttribute object type)).Plays exchanges (answer, after))
      (told : answer.result = .ok a) : Obtained a
  /-- One of the attributes that a session reads of an object. -/
  | readAmong {session after : Session} {object : Code} {types : List Code} {exchanges : List Exchange}
      {answer : (Request.readAttributes object types).Answer} {t : Template} {a : Attribute}
      (plays : (session.perform (.readAttributes object types)).Plays exchanges (answer, after))
      (told : answer.result = .ok t) (member : a ∈ t.attributes) : Obtained a
  | setValue {a b : Attribute} {value : Value} (obtained : Obtained a) (given : a.setValue value = .ok b)
      (nested : ∀ inner, value = .template inner → ∀ b ∈ inner.attributes, Obtained b) : Obtained b
  /-- An attribute of a template in which one of them is given a value. -/
  | setWithin {t u : Template} {type : Code} {value : Value} {b : Attribute}
      (obtained : ∀ a ∈ t.attributes, Obtained a) (given : t.setValue? type value = some (.ok u))
      (nested : ∀ inner, value = .template inner → ∀ b ∈ inner.attributes, Obtained b)
      (member : b ∈ u.attributes) : Obtained b
  | renumbered {a : Attribute} (f : Code → Code) (obtained : Obtained a) : Obtained (a.mapKeyTypes f)
  /-- An attribute of a template that an attribute holds. -/
  | inside {a b : Attribute} {inner : Template} (obtained : Obtained a)
      (holds : a.reading = .held (.template inner)) (member : b ∈ inner.attributes) : Obtained b

variable {a b : Attribute} {t : Template}

/-! ## What sessions read -/

/-- A template is put together from the attributes that came out. -/
theorem Template.forall_mem_assemble {P : Attribute → Prop} {outcomes : List (Except Error Attribute)}
    (each : ∀ a, .ok a ∈ outcomes → P a) (h : Template.assemble outcomes = .ok t) :
    ∀ a ∈ t.attributes, P a := by
  induction outcomes using List.reverseRecOn generalizing t with
  | nil =>
    cases h
    exact fun _ hmem => absurd hmem List.not_mem_nil
  | append_singleton outcomes outcome ih =>
    rw [assemble_concat] at h
    obtain ⟨earlier, hearlier, hlast⟩ := bind_ok_iff.1 h
    obtain ⟨a, rfl, rfl⟩ := map_ok_iff.1 hlast
    have hbefore := ih (fun a hmem => each a (List.mem_append_left _ hmem)) hearlier
    intro b hb
    rcases Attribute.mem_insertInto hb with rfl | hmem
    · exact each _ (List.mem_append_right _ (List.mem_singleton_self _))
    · exact hbefore b hmem

namespace Session

variable {session after : Session} {object type : Code} {types : List Code} {exchanges : List Exchange}
  {P : Attribute → Prop}

/-- A session reads only attributes of a sort: what filled entries say is of it, and so are attributes that are
absent or not revealed. -/
structure ReadsOnly (session : Session) (P : Attribute → Prop) : Prop where
  entry : ∀ entry a, session.readEntry entry = .ok a → P a
  absent : ∀ type, P (.absent type)
  sensitive : ∀ type, P (.sensitive type)

/-- What a session makes of a reply has the property its reads have. -/
theorem ReadsOnly.readAnswer (reads : session.ReadsOnly P) {absence : Absence} {result : Except Error Unit}
    {values : List WireValue} (h : session.readAnswer absence type result values = .ok a) : P a := by
  unfold Session.readAnswer at h
  split at h
  · exact reads.entry _ _ h
  · split at h
    · cases h
      exact reads.absent type
    · split at h <;> cases h
      exact reads.sensitive type

/-- So has what a single read gives. -/
theorem ReadsOnly.readOne (reads : session.ReadsOnly P) {handle : Code} {absence : Absence}
    (plays : (session.readOne handle object absence type).Plays exchanges (.ok a)) : P a := by
  obtain ⟨reply, rest, -, hrest⟩ := Program.plays_ask.1 plays
  exact reads.readAnswer (Program.plays_done.1 hrest).2.symm

/-- So has each attribute that single reads one after the other give. -/
theorem ReadsOnly.readEach (reads : session.ReadsOnly P) {handle : Code}
    {outcomes : List (Except Error Attribute)}
    (plays : (session.readEach handle object types).Plays exchanges outcomes) (h : .ok a ∈ outcomes) :
    P a := by
  induction types generalizing exchanges outcomes with
  | nil =>
    obtain ⟨-, rfl⟩ := Program.plays_done.1 plays
    cases h
  | cons type types ih =>
    obtain ⟨first, rest, outcome, -, hfirst, hrest⟩ := Program.plays_bind.1 plays
    obtain ⟨others, hothers, rfl⟩ := Program.plays_map.1 hrest
    obtain rfl | hlater := List.mem_cons.1 h
    · exact reads.readOne hfirst
    · exact ih hothers hlater

/-- So has the attribute a request reads. -/
theorem ReadsOnly.readAttribute (reads : session.ReadsOnly P)
    (plays : (session.readAttribute object type).Plays exchanges (.ok a, after)) : P a := by
  unfold Session.readAttribute at plays
  split at plays
  next => cases (Program.plays_done.1 plays).2
  next handle _ =>
    obtain ⟨outcome, hplays, heq⟩ := Program.plays_map.1 plays
    cases heq
    exact reads.readOne hplays

/-- The attributes that a session reads in one call, or one by one, are put together. -/
theorem ReadsOnly.exists_assemble (reads : session.ReadsOnly P)
    (plays : (session.readAttributes object types).Plays exchanges (.ok t, after)) :
    ∃ outcomes, Template.assemble outcomes = .ok t ∧ ∀ a, .ok a ∈ outcomes → P a := by
  unfold Session.readAttributes at plays
  split at plays
  next => cases (Program.plays_done.1 plays).2
  next handle _ =>
    obtain ⟨reply, rest, -, hrest⟩ := Program.plays_ask.1 plays
    split at hrest
    next =>
      refine ⟨_, (Prod.mk.inj (Program.plays_done.1 hrest).2).1.symm, fun a hmem => ?_⟩
      obtain ⟨entry, -, hentry⟩ := List.mem_map.1 hmem
      exact reads.entry entry a hentry
    next =>
      obtain ⟨outcomes, hplays, heq⟩ := Program.plays_map.1 hrest
      exact ⟨outcomes, (Prod.mk.inj heq).1.symm, fun a hmem => reads.readEach hplays hmem⟩

/-- Every attribute that a request reads at once has the property, by whichever way it was read. -/
theorem ReadsOnly.readAttributes (reads : session.ReadsOnly P)
    (plays : (session.readAttributes object types).Plays exchanges (.ok t, after)) :
    ∀ a ∈ t.attributes, P a := by
  obtain ⟨outcomes, hassemble, each⟩ := reads.exists_assemble plays
  exact Template.forall_mem_assemble each hassemble

/-- What is kept by all attributes holds throughout those that are read. -/
theorem readsOnly_throughout (kept : Attribute.Kept P) (session : Session) :
    session.ReadsOnly (Attribute.Throughout P) where
  entry entry a h := by
    obtain ⟨told, htold, rfl⟩ := map_ok_iff.1 h
    exact (Attribute.throughout_ofWire (kept.ofWire _) htold).mapKeyTypes (kept.mapKeyTypes _)
  absent type := Attribute.throughout_of_value?_eq_none (kept.absent type) rfl
  sensitive type := Attribute.throughout_of_value?_eq_none (kept.sensitive type) rfl

end Session

/-! ## All attributes -/

namespace Attribute

/-- What is kept holds throughout all attributes that a client gets hold of. -/
theorem Obtained.throughout {P : Attribute → Prop} (obtained : a.Obtained) (kept : Kept P) :
    a.Throughout P := by
  induction obtained with
  | make made => exact kept.throughout_make made
  | withValue made _ ih => exact kept.throughout_withValue made ih
  | ofWire told => exact throughout_ofWire (kept.ofWire _) told
  | read plays told =>
    rw [Session.perform] at plays
    obtain ⟨result, hplays, rfl⟩ := Session.plays_plainly.1 plays
    obtain rfl : result = .ok _ := told
    exact (Session.readsOnly_throughout kept _).readAttribute hplays
  | readAmong plays told member =>
    rw [Session.perform] at plays
    obtain ⟨result, hplays, rfl⟩ := Session.plays_plainly.1 plays
    obtain rfl : result = .ok _ := told
    exact (Session.readsOnly_throughout kept _).readAttributes hplays _ member
  | setValue _ given _ ih ihNested =>
    obtain ⟨here, -⟩ := ih
    exact kept.throughout_setValue given here ihNested
  | setWithin _ given _ member ih ihNested =>
    exact Template.Throughout.setValue? ih kept given ihNested _ member
  | renumbered f _ ih => exact ih.mapKeyTypes (kept.mapKeyTypes f)
  | inside _ holds member ih =>
    obtain ⟨-, nested⟩ := ih
    exact nested _ holds _ member

/-- An attribute of a vendor's type that holds a template with a key type. -/
def vendorRestriction (keyType : Code) : Attribute :=
  ⟨0x80000001, .template, .held (.template ⟨[⟨AttributeType.keyType, .number, .held (.number keyType)⟩]⟩)⟩

/-- The type has no kind of its own, and takes that of the template that it is given. -/
theorem obtained_vendorRestriction (keyType : Code) : (vendorRestriction keyType).Obtained := by
  have made : Attribute.make 0x80000001 = .ok ⟨0x80000001, .bytes, .absent⟩ := rfl
  have member : withValue AttributeType.keyType (.number keyType) =
      .ok ⟨AttributeType.keyType, .number, .held (.number keyType)⟩ := rfl
  have given : setValue ⟨0x80000001, .bytes, .absent⟩
      (.template ⟨[⟨AttributeType.keyType, .number, .held (.number keyType)⟩]⟩) =
        .ok (vendorRestriction keyType) := rfl
  refine .setValue (.make made) given ?_
  rintro inner h b hb
  cases h
  rw [List.mem_singleton.1 hb]
  exact .withValue member fun _ h => nomatch h

end Attribute

end TokenClient
