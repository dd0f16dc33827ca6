import TokenClient.Proofs.Session.Assembly
import TokenClient.Proofs.Session.Run

/-!
# Reading many attributes at once

A read of many attributes is one call. If the module agrees to it, the entries it has filled in are the
outcome. If it does not, whatever it may have written is dropped, and every type is read on its own, in
order and to the end. Either way there is one outcome for each type asked for, an attribute or a failure,
and the outcomes are put together in one way (`Template.Collects`).

The main result (`Session.readAttributes_exact`) holds for all replies of the module. What the reply to a
single read tells is set down in `Session.Tells`.
-/

namespace TokenClient

/-! ## Single reads -/

/-- An attribute read off the wire has the type of its entry. -/
private theorem Attribute.type_of_ofWire {encoding : Encoding} {entry : WireAttribute} {a : Attribute}
    (h : Attribute.ofWire encoding entry = .ok a) : a.type = entry.type := by
  obtain ⟨type, value⟩ := entry
  rw [Attribute.ofWire] at h
  cases hreading : Reading.ofWire encoding (wireKind type) value with
  | error e =>
    rw [hreading] at h
    cases h
  | ok reading =>
    rw [hreading] at h
    cases h
    rfl

namespace Session

variable {session after : Session} {handle object type : Code} {types : List Code}
  {exchanges : List Exchange}

section Calls

variable {P : Call → Prop}
  (reads : ∀ handle object types, P (.inSession handle (.getAttributeValue object types)))

include reads

/-- A series of reads makes no other calls than reads. -/
theorem allCalls_readEach (session : Session) (handle object : Code) (types : List Code) :
    (session.readEach handle object types).AllCalls P := by
  induction types with
  | nil => trivial
  | cons type types ih =>
    exact Program.AllCalls.bind ⟨reads _ _ _, fun _ => trivial⟩ fun outcome => ih.map _

/-- Reading one attribute calls nothing but the function that reads. -/
theorem allCalls_readAttribute (session : Session) (object type : Code) :
    (session.readAttribute object type).AllCalls P := by
  unfold readAttribute
  split
  next => trivial
  next => exact ⟨reads _ _ _, fun _ => trivial⟩

/-- Nor does reading a list of them. -/
theorem allCalls_readAttributes (session : Session) (object : Code) (types : List Code) :
    (session.readAttributes object types).AllCalls P := by
  unfold readAttributes
  split
  next => trivial
  next handle _ =>
    refine ⟨reads _ _ _, fun reply => ?_⟩
    dsimp only
    split
    next => trivial
    next => exact (allCalls_readEach reads session handle object types).map _

end Calls

/-- The return values that are taken for the absence of an attribute in a series of reads. -/
def absenceValues : List Code :=
  [Rv.attributeTypeInvalid, Rv.argumentsBad, Rv.functionFailed, Rv.functionRejected]

/-- What the reply to the read of a single attribute tells, in a series of reads. -/
inductive Tells (session : Session) (type : Code)
    (reply : Reply (.inSession handle (.getAttributeValue object [type]))) :
    Except Error Attribute → Prop
  | filled (agreed : reply.result = .ok ()) :
      Tells session type reply (session.readEntry ⟨type, reply.written.headD .null⟩)
  | absent {e : Error} (failed : reply.result = .error e) (answered : e.rv ∈ absenceValues) :
      Tells session type reply (.ok (Attribute.absent type))
  | sensitive {e : Error} (failed : reply.result = .error e) (answered : e.rv = Rv.attributeSensitive) :
      Tells session type reply (.ok (Attribute.sensitive type))
  | failure {e : Error} (failed : reply.result = .error e)
      (other : e.rv ∉ Rv.attributeSensitive :: absenceValues) :
      Tells session type reply (.error e)

/-- One read for each type, in order, and what it tells. -/
inductive ReadsEach (session : Session) (handle object : Code) :
    List Code → List Exchange → List (Except Error Attribute) → Prop
  | nil : ReadsEach session handle object [] [] []
  | cons {type : Code} {types : List Code}
      {reply : Reply (.inSession handle (.getAttributeValue object [type]))}
      {outcome : Except Error Attribute} {exchanges : List Exchange}
      {outcomes : List (Except Error Attribute)} :
      session.Tells type reply outcome → ReadsEach session handle object types exchanges outcomes →
        ReadsEach session handle object (type :: types)
          (⟨.inSession handle (.getAttributeValue object [type]), reply⟩ :: exchanges)
          (outcome :: outcomes)

/-- The lenient reading takes exactly the listed values as absence. -/
private theorem says_lenient {rv : Code} : Absence.says .lenient rv = true ↔ rv ∈ absenceValues := by
  unfold Absence.says
  simp [absenceValues, or_assoc]

/-- Reading an entry answers for its type. -/
private theorem answersFor_readEntry (entry : WireAttribute) :
    AnswersFor entry.type (session.readEntry entry) := by
  intro a h
  cases hentry : Attribute.ofWire session.encoding entry with
  | error e =>
    rw [readEntry, hentry] at h
    cases h
  | ok b =>
    rw [readEntry, hentry] at h
    cases h
    rw [Attribute.type_mapKeyTypes, Attribute.type_of_ofWire hentry]

/-- What a single read tells is about the type it asked for. -/
theorem Tells.answersFor {reply : Reply (.inSession handle (.getAttributeValue object [type]))}
    {outcome : Except Error Attribute} (tells : session.Tells type reply outcome) :
    AnswersFor type outcome := by
  intro a h
  cases tells with
  | filled => exact answersFor_readEntry _ a h
  | absent | sensitive =>
    cases h
    rfl
  | failure => cases h

/-- The answer the session takes from a reply is the one the reply tells. -/
theorem tells_readAnswer (reply : Reply (.inSession handle (.getAttributeValue object [type]))) :
    session.Tells type reply (session.readAnswer .lenient type reply.result reply.written) := by
  cases hreply : reply.result with
  | ok value => exact .filled hreply
  | error e =>
    simp only [readAnswer]
    by_cases habsent : e.rv ∈ absenceValues
    · rw [if_pos (says_lenient.2 habsent)]
      exact .absent hreply habsent
    · rw [if_neg fun h => habsent (says_lenient.1 h)]
      by_cases hsensitive : e.rv = Rv.attributeSensitive
      · rw [if_pos hsensitive]
        exact .sensitive hreply hsensitive
      · rw [if_neg hsensitive]
        exact .failure hreply fun hmem => (List.mem_cons.1 hmem).elim hsensitive habsent

/-- The reply to a single read tells one thing. -/
theorem Tells.eq_readAnswer {reply : Reply (.inSession handle (.getAttributeValue object [type]))}
    {outcome : Except Error Attribute} (tells : session.Tells type reply outcome) :
    outcome = session.readAnswer .lenient type reply.result reply.written := by
  cases tells with
  | filled agreed => rw [agreed, readAnswer]
  | absent failed answered =>
    rw [failed]
    simp only [readAnswer]
    rw [if_pos (says_lenient.2 answered)]
  | sensitive failed answered =>
    have hpresent : ¬ Absence.says .lenient Rv.attributeSensitive = true := by decide
    rw [failed]
    simp only [readAnswer]
    rw [if_neg (answered ▸ hpresent), if_pos answered]
  | failure failed other =>
    rw [List.mem_cons, not_or] at other
    rw [failed]
    simp only [readAnswer]
    rw [if_neg fun h => other.2 (says_lenient.1 h), if_neg other.1]

/-- A series of reads goes on to the end, whatever the replies are. -/
theorem plays_readEach_iff {outcomes : List (Except Error Attribute)} :
    (session.readEach handle object types).Plays exchanges outcomes ↔
      session.ReadsEach handle object types exchanges outcomes := by
  constructor
  · intro plays
    induction types generalizing exchanges outcomes with
    | nil =>
      obtain ⟨rfl, rfl⟩ := Program.plays_done.1 plays
      exact .nil
    | cons type types ih =>
      obtain ⟨first, rest, outcome, rfl, hfirst, hrest⟩ := Program.plays_bind.1 plays
      obtain ⟨others, hothers, rfl⟩ := Program.plays_map.1 hrest
      obtain ⟨reply, none, rfl, hdone⟩ := Program.plays_ask.1 hfirst
      obtain ⟨rfl, rfl⟩ := Program.plays_done.1 hdone
      exact .cons (tells_readAnswer reply) (ih hothers)
  · intro reads
    induction reads with
    | nil => exact .done []
    | @cons type types reply outcome exchanges outcomes tells _ ih =>
      cases tells.eq_readAnswer
      exact Program.plays_bind.2 ⟨[_], exchanges, _, rfl, .ask reply (.done _),
        Program.plays_map.2 ⟨outcomes, ih, rfl⟩⟩

/-- The single reads answer for the types in their order. -/
theorem ReadsEach.answersFor {outcomes : List (Except Error Attribute)}
    (reads : session.ReadsEach handle object types exchanges outcomes) :
    List.Forall₂ AnswersFor types outcomes := by
  induction reads with
  | nil => exact .nil
  | cons tells _ ih => exact .cons tells.answersFor ih

/-- Whatever the module fills in, there is one entry for each type. -/
theorem answersFor_filled (types : List Code) (values : List WireValue) :
    List.Forall₂ AnswersFor types ((WireAttribute.filled types values).map session.readEntry) := by
  induction types generalizing values with
  | nil => exact .nil
  | cons type types ih =>
    cases values with
    | nil => exact .cons (answersFor_readEntry (.query type)) (ih [])
    | cons value values => exact .cons (answersFor_readEntry ⟨type, value⟩) (ih values)

/-! ## The main result -/

/-- A read of many attributes starts with one call for all of them. Its entries are the outcome if the
module agrees, and then it is the only call. If not, there follows one call for each type, and only what
these tell is the outcome. All replies are possible, and they determine the result. -/
theorem readAttributes_exact (isOpen : session.handle = some handle) {result : Except Error Template} :
    (session.readAttributes object types).Plays exchanges (result, after) ↔
      after = session ∧
      ∃ (batch : Reply (.inSession handle (.getAttributeValue object types))) (singles : List Exchange)
        (outcomes : List (Except Error Attribute)),
        exchanges = ⟨.inSession handle (.getAttributeValue object types), batch⟩ :: singles ∧
        (batch.result = .ok () →
          singles = [] ∧ outcomes = (WireAttribute.filled types batch.written).map session.readEntry) ∧
        (∀ e, batch.result = .error e → session.ReadsEach handle object types singles outcomes) ∧
        Template.Collects types outcomes result := by
  -- The outcomes determine the result (`Template.Collects.eq_assemble`), so both directions go by the batch reply.
  rw [readAttributes, openHandle_of_open isOpen]
  constructor
  · intro plays
    obtain ⟨batch, singles, rfl, hrest⟩ := Program.plays_ask.1 plays
    cases hbatch : batch.result with
    | ok value =>
      simp only [hbatch] at hrest
      obtain ⟨rfl, heq⟩ := Program.plays_done.1 hrest
      obtain ⟨rfl, rfl⟩ := Prod.mk.inj heq
      refine ⟨rfl, batch, [], _, rfl, fun _ => ⟨rfl, rfl⟩, ?_, ?_⟩
      · intro e h
        rw [hbatch] at h
        cases h
      · exact Template.collects_assemble (answersFor_filled types batch.written)
    | error e =>
      simp only [hbatch] at hrest
      obtain ⟨outcomes, hplays, heq⟩ := Program.plays_map.1 hrest
      obtain ⟨rfl, rfl⟩ := Prod.mk.inj heq
      have reads := plays_readEach_iff.1 hplays
      refine ⟨rfl, batch, singles, outcomes, rfl, ?_, fun _ _ => reads, ?_⟩
      · intro h
        rw [hbatch] at h
        cases h
      · exact Template.collects_assemble reads.answersFor
  · rintro ⟨rfl, batch, singles, outcomes, rfl, agreed, failed, collects⟩
    refine .ask batch ?_
    cases hbatch : batch.result with
    | ok value =>
      obtain ⟨rfl, rfl⟩ := agreed hbatch
      rw [collects.eq_assemble]
      exact .done _
    | error e =>
      rw [collects.eq_assemble]
      exact Program.plays_map.2 ⟨outcomes, plays_readEach_iff.2 (failed e hbatch), rfl⟩

/-- The replies to a value, a label and the value once more, after a batch that fills in something and
fails. The value is revealed at first and then no longer, and the label is not known to the module. -/
def mixedReplies (handle object : Code) : List Exchange :=
  [⟨.inSession handle (.getAttributeValue object [0x11, 0x3, 0x11]),
      ⟨.error (.token Rv.attributeSensitive), [.bytes [9], .bytes [9]]⟩⟩,
    ⟨.inSession handle (.getAttributeValue object [0x11]), ⟨.ok (), [.bytes [0x41]]⟩⟩,
    ⟨.inSession handle (.getAttributeValue object [0x3]), ⟨.error (.token Rv.functionFailed), []⟩⟩,
    ⟨.inSession handle (.getAttributeValue object [0x11]), ⟨.error (.token Rv.attributeSensitive), []⟩⟩]

private theorem readsEach_mixedReplies (handle object : Code) :
    (opened (.bare 1) handle).ReadsEach handle object [0x11, 0x3, 0x11] (mixedReplies handle object).tail
      [.ok ⟨0x11, .bytes, .held (.bytes [0x41])⟩, .ok (.absent 0x3), .ok (.sensitive 0x11)] :=
  .cons (tells_readAnswer _) (.cons (tells_readAnswer _) (.cons (tells_readAnswer _) .nil))

/-- The value comes first and stays there, and what was told of it last counts. -/
theorem readAttributes_exact_mixed :
    ((opened (.bare 1) 7).readAttributes 3 [0x11, 0x3, 0x11]).Plays (mixedReplies 7 3)
      (.ok ⟨[.sensitive 0x11, .absent 0x3]⟩, opened (.bare 1) 7) := by
  have reads := readsEach_mixedReplies 7 3
  refine (readAttributes_exact rfl).2 ⟨rfl, _, _, _, rfl, ?_, fun _ _ => reads, ?_⟩
  · intro h
    cases h
  · exact (Template.collects_iff reads.answersFor).2 rfl

end Session

end TokenClient
