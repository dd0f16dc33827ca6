import TokenClient.Proofs.Session.BulkRead
import TokenClient.Proofs.Attribute.Failure
import TokenClient.SoftToken.Answer

/-!
# Bulk reads and single reads on the token in memory

A client reads many attributes in one call or one after the other, and the token in memory answers a read
of many in one of two ways when a type fails: with the values of the others, or with none. None of this
can be told from the results. A bulk read comes to what the single reads of its types come to
(`SoftToken.result_readAttributes`), so the main result (`SoftToken.bulk_agrees`) describes it through them.

All of it is about a token on which no type is made to fail. Its own failures are then few, and a series
of reads takes none of them for an absence that a single read would not (`SoftToken.readAnswer_lenient`).
-/

namespace TokenClient

private theorem WireAttribute.filled_map (f : Code → WireValue) (types : List Code) :
    filled types (types.map f) = types.map fun type => ⟨type, f type⟩ := by
  induction types with
  | nil => rfl
  | cons type types ih => exact congrArg (_ :: ·) ih

namespace SoftToken

variable {token : SoftToken} {session : Session} {handle object type : Code} {types : List Code}

/-- The result of an action against the token. -/
def result {α : Type} (token : SoftToken) (action : Session.Action α) : Except Error α :=
  (action.run SoftToken.module token).1.1

/-- The token after an action. -/
def after {α : Type} (token : SoftToken) (action : Session.Action α) : SoftToken :=
  (action.run SoftToken.module token).2

/-! ## What the token answers -/

/-- A forwarded command of an open session gives what the token answers. -/
theorem result_forward (isOpen : session.handle = some handle) (token : SoftToken) (command : Command) :
    token.result (session.forward command) = (token.answer (.inSession handle command)).1.result := by
  rw [result, Session.forward, Session.openHandle_of_open isOpen]
  rfl

/-- And leaves the token as the token leaves itself. -/
theorem after_forward (isOpen : session.handle = some handle) (token : SoftToken) (command : Command) :
    token.after (session.forward command) = (token.answer (.inSession handle command)).2 := by
  rw [after, Session.forward, Session.openHandle_of_open isOpen]
  rfl

/-- A closed session passes nothing on. -/
theorem result_forward_closed (closed : session.handle = none) (token : SoftToken) (command : Command) :
    token.result (session.forward command) = .error .sessionClosed := by
  rw [result, Session.forward, Session.openHandle_of_closed closed]
  rfl

/-- A read is counted, and otherwise leaves the token as it is. -/
theorem answer_getAttributeValue (token : SoftToken) (handle object : Code) (types : List Code) :
    SoftToken.module.answer (.inSession handle (.getAttributeValue object types)) token =
      (⟨(token.readAttributes handle object types).1, (token.readAttributes handle object types).2⟩,
        token.count (Command.name (.getAttributeValue object types))) := rfl

/-- The object of a call, if both the session and the object are there. -/
def located (token : SoftToken) (handle object : Code) : Except Error StoredObject :=
  token.session handle >>= fun _ => token.object object

/-- The session or the object is not there, and nothing else goes wrong in looking it up. -/
private theorem rv_of_located_error {e : Error} (h : token.located handle object = .error e) :
    e.rv ∈ [Rv.sessionHandleInvalid, Rv.objectHandleInvalid] := by
  rw [located, SoftToken.session, SoftToken.object] at h
  cases hsession : token.sessions.get? handle with
  | none =>
    rw [hsession] at h
    cases h
    exact List.mem_cons_self
  | some opened =>
    cases hobject : token.objects.get? object with
    | none =>
      rw [hsession, hobject] at h
      cases h
      exact List.mem_cons_of_mem _ List.mem_cons_self
    | some stored =>
      rw [hsession, hobject] at h
      cases h

/-- On a token on which no type is made to fail, a value is hidden, absent or read. -/
theorem rv_of_readType_error (reads : token.failing = []) {stored : StoredObject} {rv : Code}
    (h : token.readType stored type = .error rv) :
    rv ∈ [Rv.attributeSensitive, Rv.attributeTypeInvalid] := by
  rw [readType, reads, List.lookup_nil] at h
  simp only at h
  split at h
  next =>
    cases h
    exact List.mem_cons_self
  next =>
    cases hstored : stored.get? type with
    | none =>
      rw [hstored] at h
      cases h
      exact List.mem_cons_of_mem _ List.mem_cons_self
    | some value =>
      rw [hstored] at h
      cases h

private theorem firstFailure_eq_none {outcomes : List (Except Code WireValue)} :
    firstFailure outcomes = none ↔ ∀ rv, .error rv ∈ outcomes → rv = Rv.ok := by
  rw [firstFailure, List.findSome?_eq_none_iff]
  constructor
  · intro h rv hmem
    simpa using h _ hmem
  · rintro h (rv | value) hmem
    · simpa using h rv hmem
    · rfl

/-- An object that is not there fails the whole read, and nothing is written. -/
theorem readAttributes_of_error {e : Error} (h : token.located handle object = .error e)
    (types : List Code) : token.readAttributes handle object types = (.error e, []) := by
  rw [located] at h
  rw [readAttributes, h]

/-- A read is agreed to if no type fails, and then all values are filled in. -/
theorem readAttributes_of_ok {stored : StoredObject} (h : token.located handle object = .ok stored)
    {values : Code → WireValue} (all : ∀ type ∈ types, token.readType stored type = .ok (values type)) :
    token.readAttributes handle object types = (.ok (), types.map values) := by
  have houtcomes : types.map (token.readType stored) = types.map fun type => .ok (values type) :=
    List.map_congr_left all
  have hnone : firstFailure (types.map fun type => .ok (values type)) = none :=
    firstFailure_eq_none.2 fun rv hmem => by simp at hmem
  rw [located] at h
  rw [readAttributes, h]
  simp only [houtcomes, hnone, List.map_map]
  rfl

/-- A type that fails makes a read of it alone fail with its return value. -/
theorem readAttributes_single_of_error {stored : StoredObject} {rv : Code}
    (h : token.located handle object = .ok stored) (failed : token.readType stored type = .error rv)
    (notOk : rv ≠ Rv.ok) :
    (token.readAttributes handle object [type]).1 = .error (.token rv) := by
  rw [located] at h
  rw [readAttributes, h]
  simp only [List.map_cons, List.map_nil, failed, firstFailure, List.findSome?_cons, if_neg notOk]

/-- A read that is agreed to is one in which no type failed. -/
theorem readType_ok_of_readAttributes (reads : token.failing = [])
    (agreed : (token.readAttributes handle object types).1 = .ok ()) :
    ∃ stored, token.located handle object = .ok stored ∧
      ∀ type ∈ types, ∃ value, token.readType stored type = .ok value := by
  cases h : token.located handle object with
  | error e =>
    rw [readAttributes_of_error h] at agreed
    cases agreed
  | ok stored =>
    refine ⟨stored, rfl, fun type hmem => ?_⟩
    rw [located] at h
    rw [readAttributes, h] at agreed
    cases hfirst : firstFailure (types.map (token.readType stored)) with
    | some rv =>
      simp only [hfirst] at agreed
      cases agreed
    | none =>
      cases htype : token.readType stored type with
      | ok value => exact ⟨value, rfl⟩
      | error rv =>
        have hok := firstFailure_eq_none.1 hfirst rv (List.mem_map.2 ⟨type, hmem, htype⟩)
        have hfew := rv_of_readType_error reads htype
        rw [hok] at hfew
        exact absurd hfew (by decide)

/-- The token refuses a read of a single attribute for few reasons. -/
theorem rv_of_single_error (reads : token.failing = []) {e : Error}
    (failed : (token.readAttributes handle object [type]).1 = .error e) :
    e.rv ∈ [Rv.sessionHandleInvalid, Rv.objectHandleInvalid, Rv.attributeSensitive,
      Rv.attributeTypeInvalid] := by
  cases h : token.located handle object with
  | error e' =>
    rw [readAttributes_of_error h] at failed
    cases failed
    exact List.mem_append_left [_, _] (rv_of_located_error h)
  | ok stored =>
    cases htype : token.readType stored type with
    | ok value =>
      rw [readAttributes_of_ok h fun t ht => List.mem_singleton.1 ht ▸ htype] at failed
      cases failed
    | error rv =>
      have hfew := rv_of_readType_error reads htype
      have notOk : rv ≠ Rv.ok := fun hok => absurd (hok ▸ hfew) (by decide)
      rw [readAttributes_single_of_error h htype notOk] at failed
      cases failed
      exact List.mem_append_right [_, _] hfew

/-! ## What the client makes of it -/

/-- What a client that reads a single attribute is told. -/
def told (token : SoftToken) (session : Session) (handle object type : Code) : Except Error Attribute :=
  session.readAnswer .strict type (token.readAttributes handle object [type]).1
    (token.readAttributes handle object [type]).2

/-- None of these return values is an absence in a series of reads alone. -/
theorem absence_says_of_mem {rv : Code} (h : rv ∈ [Rv.sessionHandleInvalid, Rv.objectHandleInvalid,
    Rv.attributeSensitive, Rv.attributeTypeInvalid]) :
    Absence.says .lenient rv = Absence.says .strict rv := by
  simp only [List.mem_cons, List.not_mem_nil, or_false] at h
  rcases h with rfl | rfl | rfl | rfl <;> rfl

/-- A series of reads takes nothing for an absence that a single read would not. -/
theorem readAnswer_lenient (reads : token.failing = []) (session : Session) (handle object type : Code) :
    session.readAnswer .lenient type (token.readAttributes handle object [type]).1
      (token.readAttributes handle object [type]).2 = token.told session handle object type := by
  rw [told]
  cases h : (token.readAttributes handle object [type]).1 with
  | ok value => rfl
  | error e => simp only [Session.readAnswer, absence_says_of_mem (rv_of_single_error reads h)]

/-- Reading one attribute gives what the token tells of it. -/
theorem result_readAttribute (isOpen : session.handle = some handle) (token : SoftToken)
    (object type : Code) :
    token.result (session.readAttribute object type) = token.told session handle object type := by
  rw [result, Session.readAttribute, Session.openHandle_of_open isOpen]
  rfl

/-- Single reads give what the token tells, type by type. -/
private theorem run_readEach (token : SoftToken) (reads : token.failing = []) (session : Session)
    (handle object : Code) (types : List Code) :
    ((session.readEach handle object types).run SoftToken.module token).1 =
      types.map (token.told session handle object) := by
  induction types generalizing token with
  | nil => rfl
  | cons type types ih =>
    rw [Session.readEach, Program.run_bind, Program.run_map]
    -- A read is only counted, so the next one finds the same attributes.
    refine congrArg₂ List.cons (readAnswer_lenient reads session handle object type) ?_
    exact ih _ reads

/-- What a read of many attributes comes to is what the single reads come to, put together. -/
theorem result_readAttributes (isOpen : session.handle = some handle) (reads : token.failing = [])
    (object : Code) (types : List Code) :
    token.result (session.readAttributes object types) =
      Template.assemble (types.map fun type => token.result (session.readAttribute object type)) := by
  have hsingle : (fun type => token.result (session.readAttribute object type)) =
      token.told session handle object := funext (result_readAttribute isOpen token object)
  rw [hsingle, result, Session.readAttributes, Session.openHandle_of_open isOpen]
  simp only [Program.run, answer_getAttributeValue]
  cases hbatch : (token.readAttributes handle object types).1 with
  | error e =>
    simp only [Program.run_map]
    exact congrArg Template.assemble (run_readEach (token.count _) reads session handle object types)
  | ok agreed =>
    obtain ⟨stored, hstored, hall⟩ := readType_ok_of_readAttributes reads hbatch
    choose! values hvalues using hall
    simp only [readAttributes_of_ok hstored hvalues, WireAttribute.filled_map, List.map_map,
      Program.run_done]
    refine congrArg Template.assemble (List.map_congr_left fun type hmem => ?_)
    rw [told, readAttributes_of_ok hstored fun t ht => List.mem_singleton.1 ht ▸ hvalues type hmem]
    rfl

private theorem answersFor_result (isOpen : session.handle = some handle) (reads : token.failing = [])
    (object type : Code) :
    AnswersFor type (token.result (session.readAttribute object type)) := by
  let reply : Reply (.inSession handle (.getAttributeValue object [type])) :=
    (SoftToken.module.answer _ token).1
  rw [result_readAttribute isOpen, ← readAnswer_lenient reads]
  exact (Session.tells_readAnswer reply).answersFor

/-- Reading a value is reading the attribute and asking it. -/
theorem result_valueOf {α : Type} (token : SoftToken) (accessor : Attribute → Except Error (Option α))
    (session : Session) (object type : Code) :
    token.result (session.valueOf accessor object type) =
      (token.result (session.readAttribute object type)).bind accessor := by
  rw [result, Session.valueOf, Program.run_map]
  rfl

/-- Reading values is reading the attributes and asking each. -/
theorem result_valuesOf {α : Type} (token : SoftToken)
    (accessor : Template → Code → Except Error (Option α)) (session : Session) (object : Code)
    (types : List Code) :
    token.result (session.valuesOf accessor object types) =
      (token.result (session.readAttributes object types)).bind fun t => types.mapM (accessor t) := by
  rw [result, Session.valuesOf, Program.run_map]
  rfl

/-- A strict token answers a read of a single attribute as any token. -/
theorem readAttributes_single_strict (token : SoftToken) (strict : Bool) (handle object type : Code) :
    ({ token with strictBatch := strict }).readAttributes handle object [type] =
      token.readAttributes handle object [type] := by
  simp only [readAttributes, List.length_singleton, Nat.lt_irrefl, decide_false, Bool.and_false]
  rfl

/-! ## The main result -/

/-- Whether the token is strict about batches does not matter. -/
private theorem result_readAttributes_strict (isOpen : session.handle = some handle)
    (reads : token.failing = []) (object : Code) (types : List Code) (strict : Bool) :
    ({ token with strictBatch := strict }).result (session.readAttributes object types) =
      token.result (session.readAttributes object types) := by
  have strictReads : ({ token with strictBatch := strict }).failing = [] := reads
  rw [result_readAttributes isOpen strictReads, result_readAttributes isOpen reads]
  refine congrArg Template.assemble (List.map_congr_left fun type _ => ?_)
  rw [result_readAttribute isOpen, result_readAttribute isOpen, told, told,
    readAttributes_single_strict]

/-- A bulk read succeeds iff each single read does, and then holds what each gives. -/
theorem result_readAttributes_eq_ok_iff (isOpen : session.handle = some handle)
    (reads : token.failing = []) {t : Template} :
    token.result (session.readAttributes object types) = .ok t ↔
      t.types = types.eraseDups ∧ ∀ type ∈ types, ∃ a,
        token.result (session.readAttribute object type) = .ok a ∧ t.get? type = some a := by
  rw [result_readAttributes isOpen reads]
  exact Template.assemble_map_eq_ok_iff (answersFor_result isOpen reads object)

/-- A bulk read fails with the error of the first single read that fails. -/
theorem result_readAttributes_eq_error_iff (isOpen : session.handle = some handle)
    (reads : token.failing = []) {e : Error} :
    token.result (session.readAttributes object types) = .error e ↔
      ∃ before type later, types = before ++ type :: later ∧
        (∀ earlier ∈ before, ∃ a, token.result (session.readAttribute object earlier) = .ok a) ∧
        token.result (session.readAttribute object type) = .error e := by
  rw [result_readAttributes isOpen reads]
  exact Template.assemble_map_eq_error_iff (answersFor_result isOpen reads object)

/-- A bulk read is good exactly if each of its single reads is. -/
theorem exists_result_readAttributes_iff (isOpen : session.handle = some handle)
    (reads : token.failing = []) :
    (∃ t, token.result (session.readAttributes object types) = .ok t) ↔
      ∀ type ∈ types, ∃ a, token.result (session.readAttribute object type) = .ok a := by
  constructor
  · rintro ⟨t, ht⟩ type hmem
    obtain ⟨a, ha, -⟩ := ((result_readAttributes_eq_ok_iff isOpen reads).1 ht).2 type hmem
    exact ⟨a, ha⟩
  · intro each
    cases hbulk : token.result (session.readAttributes object types) with
    | ok t => exact ⟨t, rfl⟩
    | error e =>
      obtain ⟨before, type, later, rfl, -, failed⟩ :=
        (result_readAttributes_eq_error_iff isOpen reads).1 hbulk
      obtain ⟨a, ha⟩ := each type (List.mem_append_right _ List.mem_cons_self)
      cases failed.symm.trans ha

private theorem result_valuesOf_eq_ok_iff (isOpen : session.handle = some handle)
    (reads : token.failing = []) {α : Type} {accessor : Attribute → Except Error (Option α)}
    {values : List (Option α)} :
    token.result (session.valuesOf (Template.read accessor) object types) = .ok values ↔
      List.Forall₂ (fun type value => token.result (session.valueOf accessor object type) = .ok value)
        types values := by
  rw [result_valuesOf]
  cases hbulk : token.result (session.readAttributes object types) with
  | ok t =>
    have hread : ∀ type ∈ types, token.result (session.valueOf accessor object type) =
        t.read accessor type := by
      intro type hmem
      obtain ⟨a, ha, hget⟩ := ((result_readAttributes_eq_ok_iff isOpen reads).1 hbulk).2 type hmem
      rw [result_valueOf, ha, Template.read, hget]
      rfl
    refine mapM_eq_ok_iff.trans ⟨fun h => ?_, fun h => ?_⟩
    · exact ((List.forall₂_and_left _ _).2 ⟨hread, h⟩).imp fun _ _ h => h.1.trans h.2
    · exact ((List.forall₂_and_left _ _).2 ⟨hread, h⟩).imp fun _ _ h => h.1.symm.trans h.2
  | error e =>
    refine ⟨(nomatch ·), fun h => ?_⟩
    have each : ∀ type ∈ types, ∃ value,
        token.result (session.valueOf accessor object type) = .ok value :=
      ((List.forall₂_and_left _ _).1 (h.imp fun _ value hvalue => ⟨⟨value, hvalue⟩, hvalue⟩)).1
    obtain ⟨before, type, later, rfl, -, failed⟩ :=
      (result_readAttributes_eq_error_iff isOpen reads).1 hbulk
    obtain ⟨value, hvalue⟩ := each type (List.mem_append_right _ List.mem_cons_self)
    rw [result_valueOf, failed] at hvalue
    cases hvalue

/-- On a token on which no type is made to fail, the result of a bulk read is told by the single reads of
its types. It does not depend on whether the token is strict, it is good exactly if they all are and then
has each of them, and otherwise it is the first failure among them. Typed reads of several attributes are
good exactly if each of their single reads is, and then have these values in order. -/
theorem bulk_agrees (isOpen : session.handle = some handle) (reads : token.failing = [])
    (object : Code) (types : List Code) :
    (∀ strict, ({ token with strictBatch := strict }).result (session.readAttributes object types) =
      token.result (session.readAttributes object types)) ∧
    ((∃ t, token.result (session.readAttributes object types) = .ok t) ↔
      ∀ type ∈ types, ∃ a, token.result (session.readAttribute object type) = .ok a) ∧
    (∀ t, token.result (session.readAttributes object types) = .ok t ↔
      t.types = types.eraseDups ∧ ∀ type ∈ types, ∃ a,
        token.result (session.readAttribute object type) = .ok a ∧ t.get? type = some a) ∧
    (∀ e, token.result (session.readAttributes object types) = .error e ↔
      ∃ before type later, types = before ++ type :: later ∧
        (∀ earlier ∈ before, ∃ a, token.result (session.readAttribute object earlier) = .ok a) ∧
        token.result (session.readAttribute object type) = .error e) ∧
    ∀ {α : Type} (accessor : Attribute → Except Error (Option α)) (values : List (Option α)),
      token.result (session.valuesOf (Template.read accessor) object types) = .ok values ↔
        List.Forall₂ (fun type value => token.result (session.valueOf accessor object type) = .ok value)
          types values := by
  refine ⟨?_, ?_, ?_, ?_, ?_⟩
  · exact result_readAttributes_strict isOpen reads object types
  · exact exists_result_readAttributes_iff isOpen reads
  · exact fun t => result_readAttributes_eq_ok_iff isOpen reads
  · exact fun e => result_readAttributes_eq_error_iff isOpen reads
  · exact fun accessor values => result_valuesOf_eq_ok_iff isOpen reads

/-- A token with one session, under handle 1, and one object with an identifier and a hidden value, under
handle 2. -/
def withHiddenKey : SoftToken :=
  ((SoftToken.new.enterSession (.fresh true)).2.enterObject
    [⟨0x102, .bytes [7]⟩, ⟨AttributeType.value, .bytes [1, 2]⟩, ⟨AttributeType.sensitive, .bytes [1]⟩]).2

/-- The identifier is read twice, the hidden value and an absent attribute between. -/
theorem bulk_agrees_withHiddenKey :
    withHiddenKey.result ((Session.opened (.bare 1) 1).valuesOf (Template.read Attribute.bytes?) 2
      [0x102, 0x11, 0x101, 0x102]) = .ok [some [7], none, none, some [7]] := by
  obtain ⟨-, -, -, -, typed⟩ :=
    @bulk_agrees withHiddenKey (Session.opened (.bare 1) 1) 1 rfl rfl 2 [0x102, 0x11, 0x101, 0x102]
  exact (typed Attribute.bytes? _).2 (.cons rfl (.cons rfl (.cons rfl (.cons rfl .nil))))

end SoftToken

end TokenClient
