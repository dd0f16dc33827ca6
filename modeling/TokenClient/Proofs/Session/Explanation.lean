import TokenClient.Proofs.Attribute.Failure
import TokenClient.Proofs.Session.Dialogue

/-!
# Where errors of the tracker's class come from

The class of an error tells whether the tracker refused a call. A module may answer with an error of that
class too, so a call counts as refused here only if no reply is that very error (`RefusedLocally`).

For every call there are only these two sources of such errors: a reply, or the tracker, and then there was
no exchange (`Session.Explains`). Neither decoding what a module fills in nor any other work of the client
comes into it. A refusal without an exchange leaves the session as it was, except for message steps
(`Session.explains_message`), which are accounted for in `Session.Refusal`.
-/

namespace TokenClient

/-- The module itself answered with this error. -/
def Answered (exchanges : List Exchange) (e : Error) : Prop :=
  ∃ exchange ∈ exchanges, exchange.reply.result = .error e

/-- A call failed on account of the tracker: the error is of its class, and it is not the module's. -/
def RefusedLocally {α : Type} (exchanges : List Exchange) (result : Except Error α) : Prop :=
  ∃ e, result = .error e ∧ e.kind = .operationState ∧ ¬ Answered exchanges e

private theorem answered_single {call : Call} {reply : Reply call} {e : Error}
    (h : reply.result = .error e) : Answered [⟨call, reply⟩] e :=
  ⟨_, List.mem_singleton_self _, h⟩

private theorem Answered.append_left {exchanges : List Exchange} {e : Error} (h : Answered exchanges e)
    (later : List Exchange) : Answered (exchanges ++ later) e := by
  obtain ⟨exchange, hmem, hresult⟩ := h
  exact ⟨exchange, List.mem_append_left _ hmem, hresult⟩

private theorem Answered.append_right {exchanges : List Exchange} {e : Error} (h : Answered exchanges e)
    (earlier : List Exchange) : Answered (earlier ++ exchanges) e := by
  obtain ⟨exchange, hmem, hresult⟩ := h
  exact ⟨exchange, List.mem_append_right _ hmem, hresult⟩

/-! ## Errors of other classes -/

/-- No code of the module makes an error of the tracker's class. -/
private theorem Error.kind_token_ne (rv : Code) : (Error.token rv).kind ≠ .operationState := by
  simp only [Error.kind]
  split <;> simp

private theorem Error.kind_verdict {error : Error} (h : error.verdict.kind = .operationState) :
    error.verdict = error := by
  unfold Error.verdict at h ⊢
  split
  next hrv =>
    rw [if_pos hrv] at h
    exact absurd h (Error.kind_token_ne _)
  next => rfl

/-- An accessor fails for its own reasons, which are of other classes. -/
private theorem Attribute.kind_read_error {α : Type} {pick : Value → Option α} {a : Attribute} {e : Error}
    (h : a.read pick = .error e) : e.kind ≠ .operationState := by
  obtain rfl | rfl := Attribute.read_error h
  · simp [Error.kind]
  · exact Error.kind_token_ne _

/-- A failed assembly has its error from one of the outcomes. -/
private theorem Template.mem_of_assemble_error {outcomes : List (Except Error Attribute)} {e : Error}
    (h : Template.assemble outcomes = .error e) : .error e ∈ outcomes := by
  suffices ∀ t : Template,
      outcomes.foldlM (fun t outcome => outcome.map t.insert) t = .error e → .error e ∈ outcomes from
    this _ h
  clear h
  induction outcomes with
  | nil =>
    intro t h
    cases h
  | cons outcome outcomes ih =>
    intro t h
    rw [List.foldlM_cons] at h
    cases outcome with
    | error e' =>
      cases h
      exact List.mem_cons_self
    | ok a => exact List.mem_cons_of_mem _ (ih _ h)

namespace Session

variable {α : Type} {session after : Session} {exchanges : List Exchange} {handle : Code} {e : Error}

/-- A call whose errors of the tracker's class are the module's own, or come without any exchange and
leave the session as it was. -/
def Explains (session : Session) (action : Action α) : Prop :=
  ∀ exchanges e after, action.Plays exchanges (.error e, after) → e.kind = .operationState →
    Answered exchanges e ∨ exchanges = [] ∧ after = session

private theorem explains_done (session : Session) (result : Except Error α) :
    session.Explains (.done (result, session)) := by
  intro exchanges e after plays _
  obtain ⟨rfl, heq⟩ := Program.plays_done.1 plays
  cases heq
  exact .inr ⟨rfl, rfl⟩

/-- A call that puts a command to the module, and fails as the module says. -/
theorem Relays.explains {command : Command} {outcome : Except Error command.Result → Except Error α}
    {action : Action α} (relays : session.Relays command outcome action)
    (passes : ∀ result e, outcome result = .error e → e.kind = .operationState → result = .error e) :
    session.Explains action := by
  intro exchanges e after plays hkind
  obtain h | ⟨handle, reply, -, -, rfl, hresult, -⟩ := relays _ _ _ plays
  · exact .inr h
  · exact .inl (answered_single (passes _ _ hresult.symm hkind))

private theorem Relays.explains_id {command : Command} {action : Action command.Result}
    (relays : session.Relays command id action) : session.Explains action :=
  relays.explains fun _ _ h _ => h

private theorem explains_forward (session : Session) (command : Command) :
    session.Explains (session.forward command) := by
  intro exchanges e after plays hkind
  cases hhandle : session.handle with
  | none =>
    rw [forward, openHandle_of_closed hhandle] at plays
    obtain ⟨rfl, heq⟩ := Program.plays_done.1 plays
    cases heq
    exact .inr ⟨rfl, rfl⟩
  | some handle =>
    obtain ⟨reply, rfl, hresult, -⟩ := (plays_forward_of_open hhandle).1 plays
    exact .inl (answered_single hresult.symm)

/-- The answer to a request that writes nothing besides is explained as the call is. -/
theorem Explains.plainly {β : Type} {answer : Except Error α → β} {outcome : β → Except Error α}
    {action : Action α} (explains : session.Explains action)
    (same : ∀ result, outcome (answer result) = result) :
    ∀ exchanges value after e, (Session.plainly answer action).Plays exchanges (value, after) →
      outcome value = .error e → e.kind = .operationState →
        Answered exchanges e ∨ exchanges = [] ∧ after = session := by
  intro exchanges value after e plays failed hkind
  obtain ⟨result, hplays, rfl⟩ := plays_plainly.1 plays
  rw [same] at failed
  rw [failed] at hplays
  exact explains exchanges e after hplays hkind

private theorem explains_isRw (session : Session) : session.Explains session.isRw := by
  intro exchanges e after plays hkind
  unfold isRw at plays
  cases hknown : session.knownRw with
  | some rw =>
    rw [hknown] at plays
    cases (Program.plays_done.1 plays).2
  | none =>
    rw [hknown] at plays
    obtain ⟨⟨info, middle⟩, hinfo, heq⟩ := Program.plays_map.1 plays
    cases info with
    | ok info => cases heq
    | error e' =>
      cases heq
      exact explains_forward session .getSessionInfo _ _ _ hinfo hkind

private theorem explains_login (session : Session) (user : Code) (pin : String) :
    session.Explains (session.login user pin) := by
  apply (relays_login session user pin).explains
  rintro (e | value) e' h _
  · simp only [loggedIn] at h
    split at h <;> cases h
    rfl
  · cases h

private theorem explains_randomBytes (session : Session) (length : UInt64) :
    session.Explains (session.randomBytes length) :=
  (relays_randomBytes session length).explains fun _ _ h _ => map_error_iff.1 h

/-! ## Reads -/

/-- What the module filled in badly is of another class. -/
private theorem kind_readEntry_error {entry : WireAttribute} (h : session.readEntry entry = .error e) :
    e.kind ≠ .operationState := by
  rw [Attribute.ofWire_error (map_error_iff.1 h)]
  exact Error.kind_token_ne _

/-- A single read fails as the module says, or for what the module has filled in. -/
theorem answered_readOne {object type : Code} {absence : Absence}
    (plays : (session.readOne handle object absence type).Plays exchanges (.error e))
    (hkind : e.kind = .operationState) : Answered exchanges e := by
  obtain ⟨reply, rest, rfl, hrest⟩ := Program.plays_ask.1 plays
  obtain ⟨rfl, heq⟩ := Program.plays_done.1 hrest
  refine answered_single ?_
  cases hreply : reply.result with
  | ok value =>
    rw [hreply] at heq
    exact absurd hkind (kind_readEntry_error heq.symm)
  | error e' =>
    rw [hreply] at heq
    simp only [readAnswer] at heq
    split at heq
    next => cases heq
    next =>
      split at heq <;> cases heq
      rfl

/-- One of the single reads failed, and that as the module said. -/
private theorem answered_readEach {object : Code} {types : List Code} {outcomes : List (Except Error Attribute)}
    (plays : (session.readEach handle object types).Plays exchanges outcomes)
    (failed : .error e ∈ outcomes) (hkind : e.kind = .operationState) : Answered exchanges e := by
  induction types generalizing exchanges outcomes with
  | nil =>
    obtain ⟨-, rfl⟩ := Program.plays_done.1 plays
    cases failed
  | cons type types ih =>
    obtain ⟨first, rest, outcome, rfl, hfirst, hrest⟩ := Program.plays_bind.1 plays
    obtain ⟨others, hothers, rfl⟩ := Program.plays_map.1 hrest
    obtain rfl | hlater := List.mem_cons.1 failed
    · exact (answered_readOne hfirst hkind).append_left _
    · exact (ih hothers hlater).append_right _

private theorem explains_readAttribute (session : Session) (object type : Code) :
    session.Explains (session.readAttribute object type) := by
  unfold readAttribute
  split
  next e _ => exact explains_done session _
  next handle _ =>
    intro exchanges e after plays hkind
    obtain ⟨outcome, hplays, heq⟩ := Program.plays_map.1 plays
    cases heq
    exact .inl (answered_readOne hplays hkind)

private theorem explains_readAttributes (session : Session) (object : Code) (types : List Code) :
    session.Explains (session.readAttributes object types) := by
  unfold readAttributes
  split
  next e _ => exact explains_done session _
  next handle _ =>
    intro exchanges e after plays hkind
    obtain ⟨reply, rest, rfl, hrest⟩ := Program.plays_ask.1 plays
    split at hrest
    next =>
      obtain ⟨-, heq⟩ := Program.plays_done.1 hrest
      have hmem := Template.mem_of_assemble_error (Prod.mk.inj heq).1.symm
      obtain ⟨entry, -, hentry⟩ := List.mem_map.1 hmem
      exact absurd hkind (kind_readEntry_error hentry)
    next =>
      obtain ⟨outcomes, hplays, heq⟩ := Program.plays_map.1 hrest
      have hmem := Template.mem_of_assemble_error (Prod.mk.inj heq).1.symm
      exact .inl ((answered_readEach hplays hmem hkind).append_right [_])

/-- Looking into what was read adds no error of the tracker's class. -/
theorem Explains.bind {β : Type} {action : Action α} {look : α → Except Error β}
    (explains : session.Explains action)
    (other : ∀ value e, look value = .error e → e.kind ≠ .operationState) :
    session.Explains (action.map fun (result, session) => (result.bind look, session)) := by
  intro exchanges e after plays hkind
  obtain ⟨⟨result, middle⟩, hplays, heq⟩ := Program.plays_map.1 plays
  obtain ⟨hresult, rfl⟩ := Prod.mk.inj heq
  cases result with
  | error e' =>
    cases hresult
    exact explains _ _ _ hplays hkind
  | ok value => exact absurd hkind (other value e hresult.symm)

private theorem explains_valueOf {pick : Value → Option α} (session : Session) (object type : Code) :
    session.Explains (valueOf (fun a => a.read pick) session object type) :=
  (explains_readAttribute session object type).bind fun _ _ => Attribute.kind_read_error

private theorem explains_valuesOf {pick : Value → Option α} (session : Session) (object : Code)
    (types : List Code) :
    session.Explains (valuesOf (Template.read fun a => a.read pick) session object types) := by
  apply (explains_readAttributes session object types).bind
  intro template e h
  obtain ⟨type, -, htype⟩ := mapM_error h
  simp only [Template.read] at htype
  split at htype
  next => exact Attribute.kind_read_error htype
  next => cases htype

/-! ## Operations -/

/-- A verdict on a signature is no error of the tracker's class. -/
theorem settle_error {verifies : Bool} {result : Except Error α} (h : settle verifies result = .error e)
    (hkind : e.kind = .operationState) : result = .error e := by
  unfold settle at h
  split at h
  next =>
    cases result with
    | ok value => cases h
    | error e' =>
      cases h
      rw [Error.kind_verdict hkind]
  next => exact h

private theorem explains_step (session : Session) (step : Step) : session.Explains (session.step step) :=
  (relays_step session step).explains fun _ _ => settle_error

private theorem explains_find (session : Session) (max : UInt64) : session.Explains (session.find max) :=
  (relays_find session max).explains fun _ _ h _ => map_error_iff.1 h

/-- Collecting handles fails only if the module does. -/
theorem answered_collect {cursor : FindCursor}
    (plays : (collect handle cursor).Plays exchanges (.error e)) : Answered exchanges e := by
  fun_induction collect handle cursor generalizing exchanges with
  | case1 cursor ih =>
    obtain ⟨reply, rest, rfl, hrest⟩ := Program.plays_ask.1 plays
    split at hrest
    next e' hreply =>
      obtain ⟨rfl, heq⟩ := Program.plays_done.1 hrest
      cases heq
      exact answered_single hreply
    next batch _ =>
      split at hrest
      next => cases (Program.plays_done.1 hrest).2
      next hnew => exact (ih batch hnew hrest).append_right [_]

/-- A search fails as one of its three parts does, and only the start can fail without an exchange. -/
private theorem explains_findAll (session : Session) (template : Template) :
    session.Explains (session.findAll template) := by
  intro exchanges e after plays hkind
  unfold findAll at plays
  obtain ⟨first, rest, ⟨started, middle⟩, rfl, hstart, hrest⟩ := Program.plays_bind.1 plays
  cases started with
  | error e' =>
    obtain ⟨rfl, heq⟩ := Program.plays_done.1 hrest
    cases heq
    rw [List.append_nil]
    exact (relays_startFind session template).explains_id _ _ _ hstart hkind
  | ok value =>
    obtain ⟨handle, isOpen, -, -⟩ := started_of_startFind hstart
    simp only [openHandle_of_open isOpen] at hrest
    obtain ⟨collecting, ending, found, rfl, hcollect, hend⟩ := Program.plays_bind.1 hrest
    obtain ⟨⟨ended, last⟩, hfinal, heq⟩ := Program.plays_map.1 hend
    obtain ⟨hresult, rfl⟩ := Prod.mk.inj heq
    refine .inl (Answered.append_right ?_ first)
    cases found with
    | error e' =>
      cases hresult
      exact (answered_collect hcollect).append_left ending
    | ok handles =>
      have hended : ended = .error e := map_error_iff.1 hresult.symm
      rw [hended] at hfinal
      obtain h | ⟨hnone, -⟩ := (relays_endFind middle).explains_id ending e after hfinal hkind
      · exact h.append_right collecting
      · -- The session is open, so the end of the search has reached the module.
        unfold endFind at hfinal
        rw [openHandle_of_open isOpen] at hfinal
        obtain ⟨_, hplays, -⟩ := Program.plays_map.1 hfinal
        obtain ⟨reply, hexchange, -⟩ := Program.plays_request.1 hplays
        rw [hnone] at hexchange
        cases hexchange

/-- A message step fails with an error of the tracker's class as the module says, or because it may not
come now. -/
theorem explains_message {step : MessageStep} {value : Except Error step.Result × step.Written}
    (plays : (session.message step).Plays exchanges (value, after)) (failed : value.1 = .error e)
    (hkind : e.kind = .operationState) :
    Answered exchanges e ∨
      exchanges = [] ∧ session.admitMessage step = .error e ∧ after = session.afterMessage step false := by
  unfold Session.message at plays
  split at plays
  next e' hadmitted =>
    obtain ⟨rfl, heq⟩ := Program.plays_done.1 plays
    cases heq
    cases failed
    exact .inr ⟨rfl, hadmitted, rfl⟩
  next handle hadmitted =>
    obtain ⟨reply, rest, rfl, hrest⟩ := Program.plays_ask.1 plays
    obtain ⟨rfl, heq⟩ := Program.plays_done.1 hrest
    cases heq
    exact .inl (answered_single (settle_error failed hkind))

/-! ## All requests -/

/-- An error of the tracker's class is the module's, or the tracker's and without a trace. -/
theorem explains_perform {request : Request} (other : ∀ step, request ≠ .message step) :
    ∀ exchanges (answer : request.Answer) after e,
      (session.perform request).Plays exchanges (answer, after) → answer.result = .error e →
        e.kind = .operationState → Answered exchanges e ∨ exchanges = [] ∧ after = session := by
  unfold perform
  cases request with
  | message step => exact absurd rfl (other step)
  | handle =>
    intro exchanges answer after e plays failed hkind
    obtain ⟨rfl, heq⟩ := Program.plays_done.1 plays
    cases heq
    exact .inr ⟨rfl, rfl⟩
  | close => exact (relays_close session).explains_id.plainly fun _ => rfl
  | isRw => exact (explains_isRw session).plainly fun _ => rfl
  | setOperationState _ _ _ => exact (relays_setOperationState session _ _ _).explains_id.plainly fun _ => rfl
  | login _ _ => exact (explains_login session _ _).plainly fun _ => rfl
  | readAttribute _ _ => exact (explains_readAttribute session _ _).plainly fun _ => rfl
  | readAttributes _ _ => exact (explains_readAttributes session _ _).plainly fun _ => rfl
  | readBool _ _ | readNumber _ _ | readBytes _ _ | readText _ _ | readBigNat _ _ =>
    exact (explains_valueOf session _ _).plainly fun _ => rfl
  | readNumbers _ _ | readBytesList _ _ | readTexts _ _ =>
    exact (explains_valuesOf session _ _).plainly fun _ => rfl
  | startFind _ => exact (relays_startFind session _).explains_id.plainly fun _ => rfl
  | find _ => exact (explains_find session _).plainly fun _ => rfl
  | endFind => exact (relays_endFind session).explains_id.plainly fun _ => rfl
  | findAll _ => exact (explains_findAll session _).plainly fun _ => rfl
  | randomBytes _ => exact (explains_randomBytes session _).plainly fun _ => rfl
  | start _ _ => exact (relays_start session _ _).explains_id.plainly fun _ => rfl
  | step _ => exact (explains_step session _).plainly fun _ => rfl
  | cancel _ => exact (relays_cancel session _).explains_id.plainly fun _ => rfl
  | info | operationState | loginUser _ _ _ | logout | initPin _ | setPin _ _ | createObject _
  | copyObject _ _ | destroyObject _ | objectSize _ | setAttributes _ _ | generateKey _ _
  | generateKeyPair _ _ _ | wrapKey _ _ _ | unwrapKey _ _ _ _ | deriveKey _ _ _ | seedRandom _
  | functionStatus | cancelFunction =>
    apply Explains.plainly
    · apply explains_forward
    · intro result
      rfl

end Session

end TokenClient
