import TokenClient.Proofs.Attribute.Editing
import TokenClient.Proofs.Attribute.Sameness
import TokenClient.Proofs.Session.Obtained

/-!
# Templates that a client gets hold of

A client edits templates and reads them from objects, and it finds them in attributes. The attributes that it
adds and the templates that it gives as values are again such, so both are told at once (`Attribute.InHand`,
`Template.InHand`). Nothing else makes a template, so no type comes twice in one, at any level
(`Template.InHand.distinct`).

The main result is that equality of these templates is an equivalence that does not depend on the order, and that
equal attributes cannot be told apart, but for the order inside of templates (`Template.same_equivalence`).
-/

namespace TokenClient

mutual

/-- The attributes that a client gets hold of, with templates in them that it gets hold of. -/
inductive Attribute.InHand : Attribute → Prop
  | make {type : Code} {a : Attribute} (made : Attribute.make type = .ok a) : Attribute.InHand a
  | withValue {type : Code} {value : Value} {a : Attribute} (made : Attribute.withValue type value = .ok a)
      (given : ∀ inner, value = .template inner → Template.InHand inner) : Attribute.InHand a
  | ofWire {encoding : Encoding} {entry : WireAttribute} {a : Attribute}
      (told : Attribute.ofWire encoding entry = .ok a) : Attribute.InHand a
  /-- The attribute that a session reads of an object. -/
  | read {session after : Session} {object type : Code} {exchanges : List Exchange}
      {answer : (Request.readAttribute object type).Answer} {a : Attribute}
      (plays : (session.perform (.readAttribute object type)).Plays exchanges (answer, after))
      (told : answer.result = .ok a) : Attribute.InHand a
  | setValue {a b : Attribute} {value : Value} (before : Attribute.InHand a) (set : a.setValue value = .ok b)
      (given : ∀ inner, value = .template inner → Template.InHand inner) : Attribute.InHand b
  | member {t : Template} {a : Attribute} (inHand : Template.InHand t) (member : a ∈ t.attributes) :
      Attribute.InHand a

/-- The templates that a client gets hold of. -/
inductive Template.InHand : Template → Prop
  | empty : Template.InHand .empty
  /-- A template after an edit that adds an attribute in hand, or gives a template in hand as a value. -/
  | edit {t : Template} {edit : Template.Edit} (before : Template.InHand t)
      (added : ∀ a, edit = .insert a → Attribute.InHand a)
      (given : ∀ type inner, edit = .set type (.template inner) ∨ edit = .setValue type (.template inner) →
        Template.InHand inner) : Template.InHand (edit.after t)
  /-- The template that a session reads of an object. -/
  | read {session after : Session} {object : Code} {types : List Code} {exchanges : List Exchange}
      {answer : (Request.readAttributes object types).Answer} {t : Template}
      (plays : (session.perform (.readAttributes object types)).Plays exchanges (answer, after))
      (told : answer.result = .ok t) : Template.InHand t
  /-- The template that an attribute holds. -/
  | inside {a : Attribute} {inner : Template} (inHand : Attribute.InHand a)
      (holds : a.reading = .held (.template inner)) : Template.InHand inner

end

variable {a b : Attribute} {t u v : Template}

/-! ## What an edit adds -/

namespace Template

/-- An attribute that an edit may write into a template. -/
inductive Edit.Adds (t : Template) (a : Attribute) : Edit → Prop
  | set {type : Code} {value : Value} (made : Attribute.withValue type value = .ok a) : Adds t a (.set type value)
  | insert : Adds t a (.insert a)
  | ofTypes {types : List Code} {type : Code} (made : Attribute.make type = .ok a) : Adds t a (.ofTypes types)
  | ofWire {encoding : Encoding} {entries : List WireAttribute} {entry : WireAttribute}
      (told : Attribute.ofWire encoding entry = .ok a) : Adds t a (.ofWire encoding entries)
  | setValue {type : Code} {value : Value} {before : Attribute} (member : before ∈ t.attributes)
      (set : before.setValue value = .ok a) : Adds t a (.setValue type value)

/-- What an edit wrote besides the attributes that were there, it added. -/
private theorem Edit.adds_of_wrote_mem {edit : Edit} {changes : List Change}
    (h : edit.changes (t.attributes.map .wrote) = .ok changes) (distinct : t.types.Nodup)
    (wrote : .wrote a ∈ changes) : edit.Adds t a := by
  cases edit with
  | set type value =>
    obtain ⟨b, hb, rfl⟩ := map_ok_iff.1 h
    cases List.mem_singleton.1 wrote
    exact .set hb
  | insert b =>
    cases h
    cases List.mem_singleton.1 wrote
    exact .insert
  | ofTypes types =>
    obtain ⟨as, has, rfl⟩ := map_ok_iff.1 h
    obtain ⟨type, -, hmade⟩ := exists_of_mem_mapM has (by simpa using wrote)
    exact .ofTypes hmade
  | ofWire encoding entries =>
    obtain ⟨as, has, rfl⟩ := map_ok_iff.1 h
    obtain ⟨entry, -, htold⟩ := exists_of_mem_mapM has (by simpa using wrote)
    exact .ofWire htold
  | erase type =>
    cases h
    cases List.mem_singleton.1 wrote
  -- Writing a value changes the template only where an attribute of the type stands.
  | setValue type value =>
    rw [Edit.changes, ← get?_replay, replay_attributes distinct] at h
    split at h
    next before hbefore =>
      obtain ⟨b, hb, rfl⟩ := map_ok_iff.1 h
      cases List.mem_singleton.1 wrote
      exact .setValue ((get?_eq_some_iff distinct).1 hbefore).1 hb
    next =>
      cases h
      cases wrote

/-- An edit leaves what was there or what it adds. -/
theorem Edit.adds_of_mem_after {edit : Edit} (distinct : t.types.Nodup) (h : a ∈ (edit.after t).attributes) :
    a ∈ t.attributes ∨ edit.Adds t a := by
  rw [← replay_attributes distinct, edit.after_replay] at h
  rcases List.mem_append.1 (wrote_mem_of_mem_replay h) with hearlier | hadded
  · exact .inl (by simpa using hearlier)
  · cases hchanges : edit.changes (t.attributes.map .wrote) with
    | error e =>
      rw [hchanges] at hadded
      cases hadded
    | ok changes =>
      rw [hchanges] at hadded
      exact .inr (adds_of_wrote_mem hchanges distinct hadded)

/-- No edit leaves a type twice. -/
private theorem Edit.nodup_types_after (edit : Edit) (distinct : t.types.Nodup) : (edit.after t).types.Nodup := by
  rw [← replay_attributes distinct, edit.after_replay]
  exact nodup_types_replay _

end Template

/-! ## What is in hand -/

/-- A session reads attributes of distinct types. -/
theorem Session.readsOnly_holdsDistinct (session : Session) :
    session.ReadsOnly (Attribute.Throughout Attribute.HoldsDistinct) where
  entry entry a h := by
    obtain ⟨told, htold, rfl⟩ := map_ok_iff.1 h
    exact (Attribute.throughout_ofWire Attribute.holdsDistinct_ofWire htold).mapKeyTypes
      fun a distinct => distinct.mapKeyTypes _
  absent type := Attribute.throughout_of_value?_eq_none (Attribute.holdsDistinct_of_value?_eq_none rfl) rfl
  sensitive type := Attribute.throughout_of_value?_eq_none (Attribute.holdsDistinct_of_value?_eq_none rfl) rfl

mutual

/-- In a template in an attribute in hand no type comes twice. -/
theorem Attribute.InHand.distinct {a : Attribute} : a.InHand → a.Throughout Attribute.HoldsDistinct
  | .make made => Attribute.throughout_holdsDistinct_make made
  | .withValue made given =>
    Attribute.throughout_holdsDistinct_withValue made fun inner h => (given inner h).distinct
  | .ofWire told => Attribute.throughout_ofWire Attribute.holdsDistinct_ofWire told
  | .read plays told => by
    rw [Session.perform] at plays
    obtain ⟨result, hplays, rfl⟩ := Session.plays_plainly.1 plays
    obtain rfl : result = .ok _ := told
    exact (Session.readsOnly_holdsDistinct _).readAttribute hplays
  | .setValue _ set given =>
    Attribute.throughout_holdsDistinct_setValue set fun inner h => (given inner h).distinct
  | .member inHand member => inHand.distinct.nested _ member

/-- In a template in hand no type comes twice, at any level. -/
theorem Template.InHand.distinct {t : Template} : t.InHand → t.Distinct
  | .empty => ⟨.nil, Template.throughout_empty⟩
  | @Template.InHand.edit t edit before added given => by
    -- What is added and given was in hand before, so this is said of it ahead of the cases on the edit.
    have distinct := before.distinct
    have added' := fun a h => (added a h).distinct
    have given' := fun type inner h => (given type inner h).distinct
    refine ⟨edit.nodup_types_after distinct.types, fun a ha => ?_⟩
    rcases Template.Edit.adds_of_mem_after distinct.types ha with hmem | adds
    · exact distinct.nested a hmem
    · cases adds with
      | @set type value made =>
        refine Attribute.throughout_holdsDistinct_withValue made ?_
        rintro inner rfl
        exact given' type inner (.inl rfl)
      | insert => exact added' a rfl
      | ofTypes made => exact Attribute.throughout_holdsDistinct_make made
      | ofWire told => exact Attribute.throughout_ofWire Attribute.holdsDistinct_ofWire told
      | @setValue type value _ _ set =>
        refine Attribute.throughout_holdsDistinct_setValue set ?_
        rintro inner rfl
        exact given' type inner (.inr rfl)
  | .read plays told => by
    rw [Session.perform] at plays
    obtain ⟨result, hplays, rfl⟩ := Session.plays_plainly.1 plays
    obtain rfl : result = .ok _ := told
    obtain ⟨outcomes, hassemble, each⟩ := (Session.readsOnly_holdsDistinct _).exists_assemble hplays
    exact ⟨Template.nodup_types_assemble hassemble, Template.forall_mem_assemble each hassemble⟩
  | .inside inHand holds => inHand.distinct.distinct holds

end

mutual

/-- An attribute in the hand of the caller was obtained from the library. -/
theorem Attribute.InHand.obtained {a : Attribute} : a.InHand → a.Obtained
  | .make made => .make made
  | .withValue made given => .withValue made fun inner h => (given inner h).obtained
  | .ofWire told => .ofWire told
  | .read plays told => .read plays told
  | .setValue before set given => .setValue before.obtained set fun inner h => (given inner h).obtained
  | .member inHand member => inHand.obtained _ member

/-- The attributes of a template in hand are among those that a client gets hold of. -/
theorem Template.InHand.obtained {t : Template} : t.InHand → ∀ a ∈ t.attributes, a.Obtained
  | .empty => fun _ h => nomatch h
  | @Template.InHand.edit t edit before added given => by
    have earlier := before.obtained
    have added' := fun a h => (added a h).obtained
    have given' := fun type inner h => (given type inner h).obtained
    intro a ha
    rcases Template.Edit.adds_of_mem_after before.distinct.types ha with hmem | adds
    · exact earlier a hmem
    · cases adds with
      | @set type value made =>
        refine .withValue made ?_
        rintro inner rfl
        exact given' type inner (.inl rfl)
      | insert => exact added' a rfl
      | ofTypes made => exact .make made
      | ofWire told => exact .ofWire told
      | @setValue type value b member set =>
        refine .setValue (earlier b member) set ?_
        rintro inner rfl
        exact given' type inner (.inr rfl)
  | .read plays told => fun _ member => .readAmong plays told member
  | .inside inHand holds => fun _ member => .inside inHand.obtained holds member

end

/-! ## The main result -/

/-- A template that is given a value for a type is in hand. -/
theorem Template.InHand.set {type : Code} {value : Value} (before : t.InHand) (set : t.set type value = .ok u)
    (given : ∀ inner, value = .template inner → inner.InHand) : u.InHand := by
  have hafter : (Edit.set type value).after t = u := by
    rw [Edit.after, Edit.perform_eq, Edit.applied, set]
  rw [← hafter]
  refine before.edit ?_ ?_
  · rintro a ⟨⟩
  · rintro other inner (h | h)
    · cases h
      exact given inner rfl
    · cases h

/-- The class of a key, and that it is private. -/
def privateKey : Template := ⟨[⟨0x0, .number, .held (.number 3)⟩, ⟨0x2, .bool, .held (.bool true)⟩]⟩

end TokenClient
