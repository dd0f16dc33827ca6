import TokenClient.Proofs.SoftToken.Find
import TokenClient.Proofs.SoftToken.Shown

/-!
# Objects on the token in memory

Sessions of one client create, copy, write, destroy and read objects of the token in any order. What they are
told is what the abstract store would tell (`SoftToken.objects_refine_store`).

The token refines a store if each of its objects shows what is in the store under the handle, and if all
handles that were given out for objects lie at or below the counter (`SoftToken.Refines`). A new handle is then
fresh, as long as the counter does not start over. Each request is a step of the store and keeps the
refinement (`SoftToken.Refines.step`); reads leave everything but the count of calls as it was.
-/

namespace TokenClient

/-- Whether a request only reads attributes. -/
def Request.readsAttributes : Request → Bool
  | .readAttribute _ _ | .readBool _ _ | .readNumber _ _ | .readBytes _ _ | .readText _ _
  | .readBigNat _ _ | .readAttributes _ _ | .readNumbers _ _ | .readBytesList _ _
  | .readTexts _ _ => true
  | _ => false

/-- A request makes, writes, destroys or reads an object, and its template loses nothing on the way. -/
def Session.ConcernsObjects (session : Session) : Request → Prop
  | .createObject t | .copyObject _ t | .setAttributes _ t => session.Portable t
  | .destroyObject _ => True
  | request => request.readsAttributes = true

namespace SoftToken

open Registry

variable {client : Client} {token later : SoftToken} {store : Store} {session : Session}
  {handle object type : Code} {types : List Code} {t : Template}

/-- The result of a request to a session on the token, and the token after it. -/
def serve (token : SoftToken) (session : Session) (request : Request) :
    Except Error request.Result × SoftToken :=
  let served := (session.perform request).run SoftToken.module token
  (served.1.1.result, served.2)

/-- A session of the client, open for reading and writing on the token, may make a request: it concerns
objects, and the counter of handles does not start over. -/
structure Admits (token : SoftToken) (client : Client) (session : Session) (request : Request) : Prop where
  sameClient : session.token.client = client
  isOpen : ∃ handle opened, session.handle = some handle ∧
    token.sessions.get? handle = some opened ∧ opened.isRw = true
  concerns : session.ConcernsObjects request
  noWrap : token.lastHandle ≤ (token.serve session request).2.lastHandle

/-- Requests of sessions of the client, one after the other, have these results. More sessions may be opened
at any time. -/
inductive Serves (client : Client) : SoftToken → List Store.Event → SoftToken → Prop
  | nil (token : SoftToken) : Serves client token [] token
  | opening {token last : SoftToken} {events : List Store.Event} (slot flags : Code)
      (noWrap : token.lastHandle ≤ (token.answer (.openSession slot flags)).2.lastHandle)
      (rest : Serves client (token.answer (.openSession slot flags)).2 events last) :
      Serves client token events last
  | cons {token last : SoftToken} {session : Session} {request : Request} {events : List Store.Event}
      (admits : token.Admits client session request)
      (rest : Serves client (token.serve session request).2 events last) :
      Serves client token (⟨request, (token.serve session request).1⟩ :: events) last

/-- The token has the objects of a store. -/
structure Refines (client : Client) (token : SoftToken) (store : Store) : Prop where
  reads : token.failing = []
  shows : ∀ handle, Option.Rel (StoredObject.Shows client) (token.objects.get? handle)
    (store.objects handle)
  given : ∀ handle ∈ store.given, handle ≤ token.lastHandle
  known : ∀ handle, store.objects handle ≠ none → handle ∈ store.given

/-! ## What keeps the refinement -/

/-- What else the token keeps does not matter. -/
theorem Refines.congr (refines : Refines client token store) (failing : later.failing = token.failing)
    (objects : later.objects = token.objects) (noWrap : token.lastHandle ≤ later.lastHandle) :
    Refines client later store where
  reads := failing.trans refines.reads
  shows := objects ▸ refines.shows
  given h hmem := UInt64.le_trans (refines.given h hmem) noWrap
  known := refines.known

/-- Counting a call leaves the objects as they are. -/
theorem Refines.count (refines : Refines client token store) (name : String) :
    Refines client (token.count name) store := refines.congr rfl rfl (UInt64.le_refl _)

private theorem failing_openSession (token : SoftToken) (slot flags : Code) :
    (token.openSession slot flags).2.failing = token.failing := by
  unfold openSession
  split
  next => rfl
  next => split <;> rfl

/-- Opening a session leaves the objects as they are. -/
theorem Refines.opening (refines : Refines client token store) {slot flags : Code}
    (noWrap : token.lastHandle ≤ (token.answer (.openSession slot flags)).2.lastHandle) :
    Refines client (token.answer (.openSession slot flags)).2 store :=
  refines.congr (failing_openSession (token.count _) slot flags)
    (objects_openSession (token.count _) slot flags) noWrap

/-- The next handle of the token is fresh in the store. -/
theorem Refines.fresh (refines : Refines client token store)
    (noWrap : token.lastHandle ≤ token.lastHandle + 1) : store.Fresh (token.lastHandle + 1) := by
  have hnew : token.lastHandle + 1 ∉ store.given := by
    intro hmem
    exact absurd (UInt64.le_antisymm noWrap (refines.given _ hmem)) (by simp)
  refine ⟨hnew, ?_⟩
  by_contra hsome
  exact hnew (refines.known _ hsome)

/-- A new object goes under the next handle. -/
theorem Refines.enter {entries : List WireAttribute} {thing : Store.Object}
    (refines : Refines client token store) (noWrap : token.lastHandle ≤ token.lastHandle + 1)
    (shows : (StoredObject.make entries).Shows client thing) :
    Refines client (token.enterObject entries).2 (store.enter (token.lastHandle + 1) thing) where
  reads := refines.reads
  shows h := by
    simp only [enterObject, Store.enter, get?_enter, Function.update_apply, eq_comm (a := h)]
    split
    next => exact .some shows
    next => exact refines.shows h
  given h hmem := by
    obtain rfl | hmem := List.mem_cons.1 hmem
    · exact UInt64.le_refl _
    · exact UInt64.le_trans (refines.given h hmem) noWrap
  known h hsome := by
    by_cases heq : h = token.lastHandle + 1
    · exact heq ▸ List.mem_cons_self
    · simp only [Store.enter, Function.update_of_ne heq] at hsome
      exact List.mem_cons_of_mem _ (refines.known h hsome)

/-- What is under a handle is replaced on both sides, or taken away. -/
theorem Refines.replace {objects : Registry StoredObject} {stored : Option StoredObject}
    {thing : Option Store.Object} (refines : Refines client token store)
    (found : store.objects object ≠ none)
    (changed : ∀ h, objects.get? h = if object = h then stored else token.objects.get? h)
    (shows : Option.Rel (StoredObject.Shows client) stored thing) :
    Refines client { token with objects := objects } (store.replace object thing) where
  reads := refines.reads
  shows h := by
    simp only [changed, Store.replace, Function.update_apply, eq_comm (a := h)]
    split
    next => exact shows
    next => exact refines.shows h
  given := refines.given
  known h hsome := by
    by_cases heq : h = object
    · exact refines.known h (heq ▸ found)
    · simp only [Store.replace, Function.update_of_ne heq] at hsome
      exact refines.known h hsome

/-- Under a handle there is an object on both sides, or on none. -/
theorem Refines.object_cases (refines : Refines client token store) {opened : OpenSession}
    (isOpen : token.sessions.get? handle = some opened) (object : Code) :
    (token.located handle object = .error (.token Rv.objectHandleInvalid) ∧ store.objects object = none) ∨
      ∃ stored thing, token.located handle object = .ok stored ∧
        token.objects.get? object = some stored ∧ store.objects object = some thing ∧
        stored.Shows client thing := by
  have hshows := refines.shows object
  rw [SoftToken.located, session_eq_ok isOpen, SoftToken.object]
  generalize token.objects.get? object = stored at hshows ⊢
  generalize store.objects object = thing at hshows ⊢
  cases hshows with
  | none => exact .inl ⟨rfl, rfl⟩
  | some shows => exact .inr ⟨_, _, rfl, rfl, rfl, shows⟩

/-! ## Reads -/

/-- What is read of a type of an object is what it shows. -/
theorem told_of_shows {stored : StoredObject} {thing : Store.Object} (reads : token.failing = [])
    (hlocated : token.located handle object = .ok stored)
    (shows : stored.Shows session.token.client thing) (type : Code) :
    token.told session handle object type = .ok (thing.read type) := by
  rw [told, Store.Object.read, ← shows.hidden]
  -- Hidden goes before absent: the token does not look for a value that it would not reveal.
  by_cases hhidden : stored.hidesValue = true ∧ type = AttributeType.value
  · have hrefused : token.readType stored type = .error Rv.attributeSensitive := by
      rw [readType, reads, List.lookup_nil]
      simp [hhidden]
    rw [readAttributes_single_of_error hlocated hrefused (by decide), if_pos hhidden]
    rfl
  · have hfound : token.readType stored type =
        (stored.get? type).elim (.error Rv.attributeTypeInvalid) .ok := by
      rw [readType, reads, List.lookup_nil]
      simp only [Bool.and_eq_true, beq_iff_eq, if_neg hhidden]
      cases stored.get? type <;> rfl
    have hshown := shows.values type
    rw [if_neg hhidden]
    generalize stored.get? type = wire at hfound hshown
    generalize thing.values type = value at hshown ⊢
    cases hshown with
    | none =>
      rw [readAttributes_single_of_error hlocated hfound (by decide)]
      rfl
    | @some wire value decodes =>
      rw [readAttributes_of_ok hlocated fun t ht => List.mem_singleton.1 ht ▸ hfound]
      exact decodes

/-- A read of a type is told as by the store. -/
theorem Refines.result_readAttribute (refines : Refines session.token.client token store)
    (isOpen : session.handle = some handle) {opened : OpenSession}
    (known : token.sessions.get? handle = some opened) (object type : Code) :
    token.result (session.readAttribute object type) = store.read object type := by
  rw [SoftToken.result_readAttribute isOpen, Store.read]
  obtain ⟨hmissing, hnone⟩ | ⟨stored, thing, hlocated, -, hthing, shows⟩ := refines.object_cases known object
  · rw [hnone, told, readAttributes_of_error hmissing]
    rfl
  · rw [hthing, told_of_shows refines.reads hlocated shows]

/-- A read of several types is told as by the store. -/
theorem Refines.result_readAttributes (refines : Refines session.token.client token store)
    (isOpen : session.handle = some handle) {opened : OpenSession}
    (known : token.sessions.get? handle = some opened) (object : Code) (types : List Code) :
    token.result (session.readAttributes object types) = store.readAll object types := by
  have hsingle : ∀ type, token.result (session.readAttribute object type) = store.read object type :=
    refines.result_readAttribute isOpen known object
  rw [Store.readAll]
  cases hthing : store.objects object with
  | some thing =>
    refine (result_readAttributes_eq_ok_iff isOpen refines.reads).2 ⟨?_, fun type hmem => ?_⟩
    · simp [Template.types, Function.comp_def]
    · refine ⟨thing.read type, by rw [hsingle, Store.read, hthing], ?_⟩
      exact Store.Object.get?_map_read (List.mem_eraseDups.2 hmem)
  | none =>
    -- The refused read is tried again type by type, and without types nothing is left to fail.
    cases types with
    | nil =>
      refine (result_readAttributes_eq_ok_iff isOpen refines.reads).2 ⟨rfl, ?_⟩
      exact List.forall_mem_nil _
    | cons type types =>
      refine (result_readAttributes_eq_error_iff isOpen refines.reads).2 ⟨[], type, types, rfl, ?_, ?_⟩
      · exact List.forall_mem_nil _
      · rw [hsingle, Store.read, hthing]

/-- A call that reads attributes. -/
def IsRead (call : Call) : Prop :=
  ∃ handle object types, call = .inSession handle (.getAttributeValue object types)

/-- A program that only reads attributes leaves the token as it is, but for the count of calls. -/
theorem run_of_reads {α : Type} {p : Program α} (reads : p.AllCalls IsRead) (token : SoftToken) :
    ∃ calls, (p.run SoftToken.module token).2 = { token with calls := calls } := by
  induction p generalizing token with
  | done a => exact ⟨token.calls, rfl⟩
  | ask call next ih =>
    obtain ⟨⟨handle, object, types, rfl⟩, rest⟩ := reads
    obtain ⟨calls, hrest⟩ := ih _ (rest _) (token.count (Command.name (.getAttributeValue object types)))
    exact ⟨calls, hrest⟩

/-- A request that is a plain call has the result of the call. -/
theorem serve_of_performed {request : Request} {action : Session.Action request.Result}
    {written : request.Written}
    (performed : session.perform request = Session.plainly (⟨·, written⟩) action) (token : SoftToken) :
    token.serve session request = (token.result action, token.after action) := by
  rw [serve, performed, Session.plainly, Program.run_map]
  rfl

/-- A request that reads is a plain call that makes no other calls than reads, and is told as by the
store. -/
theorem Refines.exists_action (refines : Refines session.token.client token store)
    (isOpen : session.handle = some handle) {opened : OpenSession}
    (known : token.sessions.get? handle = some opened) {request : Request}
    (reads : request.readsAttributes = true) :
    ∃ (action : Session.Action request.Result) (written : request.Written),
      session.perform request = Session.plainly (⟨·, written⟩) action ∧ action.AllCalls IsRead ∧
        store.result? request = some (token.result action) := by
  have isRead : ∀ handle object types, IsRead (.inSession handle (.getAttributeValue object types)) :=
    fun handle object types => ⟨handle, object, types, rfl⟩
  have hone : ∀ object type, (session.readAttribute object type).AllCalls IsRead :=
    Session.allCalls_readAttribute isRead session
  have hall : ∀ object types, (session.readAttributes object types).AllCalls IsRead :=
    Session.allCalls_readAttributes isRead session
  -- The reads of typed values come down to these two.
  have htype : ∀ object type, token.result (session.readAttribute object type) = store.read object type :=
    refines.result_readAttribute isOpen known
  have htypes : ∀ object types,
      token.result (session.readAttributes object types) = store.readAll object types :=
    refines.result_readAttributes isOpen known
  cases request with
  | readAttribute object type =>
    exact ⟨_, (), rfl, hone object type, congrArg some (htype object type).symm⟩
  | readAttributes object types =>
    exact ⟨_, (), rfl, hall object types, congrArg some (htypes object types).symm⟩
  | readBool object type | readNumber object type | readBytes object type | readText object type
  | readBigNat object type =>
    refine ⟨_, (), rfl, (hone object type).map _, ?_⟩
    rw [result_valueOf, htype]
    rfl
  | readNumbers object types | readBytesList object types | readTexts object types =>
    refine ⟨_, (), rfl, (hall object types).map _, ?_⟩
    rw [result_valuesOf, htypes]
    rfl
  | _ => cases reads

/-! ## Each request is a step of the store -/

variable {opened : OpenSession}

/-- Reading is one step of the store, which stays as it is. -/
private theorem Refines.step_read (refines : Refines session.token.client token store)
    (isOpen : session.handle = some handle) (known : token.sessions.get? handle = some opened)
    {request : Request} (reads : request.readsAttributes = true) :
    store.Step request (token.serve session request).1 store ∧
      Refines session.token.client (token.serve session request).2 store := by
  obtain ⟨action, written, performed, hcalls, hresult⟩ := refines.exists_action isOpen known reads
  obtain ⟨calls, hlater⟩ := run_of_reads hcalls token
  rw [serve_of_performed performed, after, hlater]
  exact ⟨.read hresult, refines.congr rfl rfl (UInt64.le_refl _)⟩

private theorem serve_createObject (isOpen : session.handle = some handle) (t : Template) :
    token.serve session (.createObject t) =
      (token.count (Command.name (.createObject (session.wireTemplate t)))).createObject handle
        (session.wireTemplate t) := by
  rw [@serve_of_performed session (.createObject t) (session.createObject t) () rfl, Session.createObject,
    result_forward isOpen, after_forward isOpen]
  rfl

private theorem serve_copyObject (isOpen : session.handle = some handle) (source : Code) (t : Template) :
    token.serve session (.copyObject source t) =
      (token.count (Command.name (.copyObject source (session.wireTemplate t)))).copyObject handle source
        (session.wireTemplate t) := by
  rw [@serve_of_performed session (.copyObject source t) (session.copyObject source t) () rfl,
    Session.copyObject, result_forward isOpen, after_forward isOpen]
  rfl

private theorem serve_setAttributes (isOpen : session.handle = some handle) (object : Code) (t : Template) :
    token.serve session (.setAttributes object t) =
      (token.count (Command.name (.setAttributeValue object (session.wireTemplate t)))).setAttributes
        handle object (session.wireTemplate t) := by
  rw [@serve_of_performed session (.setAttributes object t) (session.setAttributes object t) () rfl,
    Session.setAttributes, result_forward isOpen, after_forward isOpen]
  rfl

private theorem serve_destroyObject (isOpen : session.handle = some handle) (object : Code) :
    token.serve session (.destroyObject object) =
      (token.count (Command.name (.destroyObject object))).destroyObject handle object := by
  rw [@serve_of_performed session (.destroyObject object) (session.destroyObject object) () rfl,
    Session.destroyObject, result_forward isOpen, after_forward isOpen]
  rfl

/-- Creating an object is one step of the store. -/
theorem Refines.step_create (refines : Refines session.token.client token store)
    (known : token.sessions.get? handle = some opened) (isRw : opened.isRw = true)
    (portable : session.Portable t)
    (noWrap : token.lastHandle ≤ (token.createObject handle (session.wireTemplate t)).2.lastHandle) :
    ∃ next, store.Step (.createObject t) (token.createObject handle (session.wireTemplate t)).1 next ∧
      Refines session.token.client (token.createObject handle (session.wireTemplate t)).2 next := by
  have hcreated : token.createObject handle (session.wireTemplate t) =
      (.ok (token.lastHandle + 1), (token.enterObject (session.wireTemplate t)).2) := by
    rw [createObject, session_eq_ok known]
    simp only [isRw, if_true]
    rfl
  rw [hcreated] at noWrap ⊢
  exact ⟨_, .create (refines.fresh noWrap), refines.enter noWrap (StoredObject.shows_create portable)⟩

/-- So is copying one. -/
theorem Refines.step_copy (refines : Refines session.token.client token store)
    (known : token.sessions.get? handle = some opened) (portable : session.Portable t) (source : Code)
    (noWrap : token.lastHandle ≤ (token.copyObject handle source (session.wireTemplate t)).2.lastHandle) :
    ∃ next, store.Step (.copyObject source t)
        (token.copyObject handle source (session.wireTemplate t)).1 next ∧
      Refines session.token.client (token.copyObject handle source (session.wireTemplate t)).2 next := by
  obtain ⟨hmissing, hnone⟩ | ⟨stored, thing, hlocated, -, hthing, shows⟩ := refines.object_cases known source
  · rw [located] at hmissing
    rw [copyObject, hmissing]
    exact ⟨store, .copyUnknown hnone, refines⟩
  · rw [located] at hlocated
    rw [copyObject, hlocated] at noWrap ⊢
    exact ⟨_, .copy hthing (refines.fresh noWrap), refines.enter noWrap (shows.copy portable)⟩

/-- So is writing attributes of one. -/
theorem Refines.step_set (refines : Refines session.token.client token store)
    (known : token.sessions.get? handle = some opened) (portable : session.Portable t) (object : Code) :
    ∃ next, store.Step (.setAttributes object t)
        (token.setAttributes handle object (session.wireTemplate t)).1 next ∧
      Refines session.token.client (token.setAttributes handle object (session.wireTemplate t)).2 next := by
  obtain ⟨hmissing, hnone⟩ | ⟨stored, thing, hlocated, hstored, hthing, shows⟩ :=
    refines.object_cases known object
  · rw [located] at hmissing
    rw [setAttributes, hmissing]
    exact ⟨store, .setUnknown hnone, refines⟩
  · rw [located] at hlocated
    rw [setAttributes, hlocated]
    refine ⟨_, .set hthing, refines.replace (by simp [hthing]) (fun h => ?_) (.some (shows.write portable))⟩
    rw [get?_replace]
    split
    next heq => rw [← heq, hstored]; rfl
    next => rfl

/-- So is destroying one. -/
theorem Refines.step_destroy (refines : Refines client token store)
    (known : token.sessions.get? handle = some opened) (object : Code) :
    ∃ next, store.Step (.destroyObject object) (token.destroyObject handle object).1 next ∧
      Refines client (token.destroyObject handle object).2 next := by
  obtain ⟨hmissing, hnone⟩ | ⟨stored, thing, hlocated, -, hthing, -⟩ := refines.object_cases known object
  · rw [located] at hmissing
    rw [destroyObject, hmissing]
    exact ⟨store, .destroyUnknown hnone, refines⟩
  · rw [located] at hlocated
    rw [destroyObject, hlocated]
    refine ⟨_, .destroy hthing, refines.replace (by simp [hthing]) (fun h => ?_) .none⟩
    exact get?_erase ..

/-- Every request that concerns objects is a step of the store. -/
theorem Refines.step {request : Request} (refines : Refines client token store)
    (admits : token.Admits client session request) :
    ∃ next, store.Step request (token.serve session request).1 next ∧
      Refines client (token.serve session request).2 next := by
  obtain ⟨rfl, ⟨handle, opened, isOpen, known, isRw⟩, concerns, noWrap⟩ := admits
  cases request with
  | createObject t =>
    rw [serve_createObject isOpen] at noWrap ⊢
    exact (refines.count _).step_create known isRw concerns noWrap
  | copyObject source t =>
    rw [serve_copyObject isOpen] at noWrap ⊢
    exact (refines.count _).step_copy known concerns source noWrap
  | setAttributes object t =>
    rw [serve_setAttributes isOpen]
    exact (refines.count _).step_set known concerns object
  | destroyObject object =>
    rw [serve_destroyObject isOpen]
    exact (refines.count _).step_destroy known object
  | _ => exact ⟨store, refines.step_read isOpen known concerns⟩

/-! ## The main result -/

/-- A token without objects has those of the empty store. -/
theorem refines_empty (reads : token.failing = []) (noObjects : token.objects = []) :
    Refines client token .empty where
  reads := reads
  shows _ := noObjects ▸ .none
  given _ hmem := nomatch hmem
  known _ hsome := absurd rfl hsome

/-- Every run of such requests is one of the store. -/
theorem Refines.run {events : List Store.Event} {last : SoftToken}
    (refines : Refines client token store) (serves : Serves client token events last) :
    ∃ final, store.Run events final ∧ Refines client last final := by
  induction serves generalizing store with
  | nil token => exact ⟨store, .nil store, refines⟩
  | opening _ _ noWrap _ ih => exact ih (refines.opening noWrap)
  | cons admits _ ih =>
    obtain ⟨middle, hstep, hmiddle⟩ := refines.step admits
    obtain ⟨final, hrun, hfinal⟩ := ih hmiddle
    exact ⟨final, .cons hstep hrun, hfinal⟩

/-- On a token that starts without objects, and on which no type is made to fail, the results of any run of
requests that make, copy, write, destroy and read objects are those of the abstract store. -/
theorem objects_refine_store {events : List Store.Event} {last : SoftToken} (reads : token.failing = [])
    (noObjects : token.objects = []) (serves : token.Serves client events last) :
    ∃ final, Store.empty.Run events final := by
  obtain ⟨final, hrun, -⟩ := (refines_empty reads noObjects).run serves
  exact ⟨final, hrun⟩

/-- A token with a session open for reading and writing, under handle 1. -/
def withSession1 : SoftToken :=
  (SoftToken.new.answer (.openSession tokenSlot (Flag.serialSession ||| Flag.rwSession))).2

/-- The session for a client that knows no vendor's codes. -/
def session1 : Session := .opened (.bare 1) 1

/-- The description of a secret. -/
def secret : Template :=
  ⟨[⟨AttributeType.value, .bytes, .held (.bytes [1, 2])⟩, ⟨AttributeType.sensitive, .bool, .held (.bool true)⟩]⟩

/-- The description of something that is not sensitive. -/
def revealed : Template := ⟨[⟨AttributeType.sensitive, .bool, .held (.bool false)⟩]⟩

private theorem portable_secret : session1.Portable secret where
  regular :=
    have first := @Template.Built.set .empty _ AttributeType.value (.bytes [1, 2]) .empty rfl
      (fun _ h => by cases h) rfl
    (@Template.Built.set _ _ AttributeType.sensitive (.bool true) first rfl (fun _ h => by cases h)
      rfl).regular
  fits _ h := nomatch h
  translates _ h := nomatch h

private theorem portable_revealed : session1.Portable revealed where
  regular := (@Template.Built.set .empty _ AttributeType.sensitive (.bool false) .empty rfl
    (fun _ h => by cases h) rfl).regular
  fits _ h := nomatch h
  translates _ h := nomatch h

/-- The requests of the example are admitted. -/
private theorem admits_session1 {request : Request} (concerns : session1.ConcernsObjects request)
    (isOpen : ∃ opened, token.sessions.get? 1 = some opened ∧ opened.isRw = true)
    (noWrap : token.lastHandle ≤ (token.serve session1 request).2.lastHandle) :
    token.Admits (Token.bare 1).client session1 request where
  sameClient := rfl
  isOpen := ⟨1, isOpen.imp fun _ h => ⟨rfl, h⟩⟩
  concerns := concerns
  noWrap := noWrap

/-- A secret stays hidden when its mark is written over, and is revealed in a copy that is not marked. -/
theorem objects_refine_store_secret : ∃ final, Store.empty.Run
    [⟨.createObject secret, .ok 2⟩, ⟨.setAttributes 2 revealed, .ok ()⟩,
      ⟨.readAttribute 2 AttributeType.value, .ok (Attribute.sensitive AttributeType.value)⟩,
      ⟨.copyObject 2 revealed, .ok 3⟩, ⟨.destroyObject 2, .ok ()⟩,
      ⟨.readBytes 3 AttributeType.value, .ok (some [1, 2])⟩,
      ⟨.readBytes 2 AttributeType.value, .error (.token Rv.objectHandleInvalid)⟩] final :=
  @objects_refine_store (Token.bare 1).client withSession1 _ _ rfl rfl
    (.cons (@admits_session1 _ (.createObject secret) portable_secret ⟨_, rfl, rfl⟩ (by decide))
    (.cons (@admits_session1 _ (.setAttributes 2 revealed) portable_revealed ⟨_, rfl, rfl⟩ (by decide))
    (.cons (@admits_session1 _ (.readAttribute 2 AttributeType.value) rfl ⟨_, rfl, rfl⟩ (by decide))
    (.cons (@admits_session1 _ (.copyObject 2 revealed) portable_revealed ⟨_, rfl, rfl⟩ (by decide))
    (.cons (@admits_session1 _ (.destroyObject 2) trivial ⟨_, rfl, rfl⟩ (by decide))
    (.cons (@admits_session1 _ (.readBytes 3 AttributeType.value) rfl ⟨_, rfl, rfl⟩ (by decide))
    (.cons (@admits_session1 _ (.readBytes 2 AttributeType.value) rfl ⟨_, rfl, rfl⟩ (by decide))
    (.nil _))))))))

/-- A class that is known to be there, without a value. -/
def emptyClass : Attribute := ⟨0x0, .number, .empty⟩

/-- A read of no types is not refused where there is no object, and a number without a value that an object
is created with is not read as it was given, nor as absent. -/
theorem not_objects_refine_store :
    (withSession1.objects.get? 9 = none ∧
      (withSession1.serve session1 (.readAttributes 9 [])).1 ≠ .error (.token Rv.objectHandleInvalid)) ∧
    (emptyClass.reading.isPresent = true ∧ AttributeType.kind? emptyClass.type = some emptyClass.kind ∧
      (withSession1.serve session1 (.createObject ⟨[emptyClass]⟩)).1 = .ok 2 ∧
      ((withSession1.serve session1 (.createObject ⟨[emptyClass]⟩)).2.serve session1
        (.readAttribute 2 emptyClass.type)).1 ∉ [.ok emptyClass, .ok (Attribute.absent emptyClass.type)]) := by
  refine ⟨⟨rfl, fun h => by cases h⟩, rfl, rfl, rfl, ?_⟩
  have hread : ((withSession1.serve session1 (.createObject ⟨[emptyClass]⟩)).2.serve session1
      (.readAttribute 2 emptyClass.type)).1 = .ok (Attribute.unknown emptyClass.type) := rfl
  rw [hread]
  simp [emptyClass, Attribute.unknown, Attribute.absent]

end SoftToken

end TokenClient
