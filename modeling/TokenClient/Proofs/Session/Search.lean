import TokenClient.Proofs.Session.Handout
import TokenClient.Proofs.Session.History
import TokenClient.Proofs.Session.Origin

/-!
# A search within a run

While a search runs on a session, other requests may be made of it; the tracker refuses most of them, and
none of those that pass touches the search. So the calls for further handles that a run contains
(`pulls`) hand out handles as the cursor alone says (`FindCursor.Hands`), however they are spread over
the run.

The invariant is that the session has a certain cursor (`Session.Searching`). A request either asks for
handles, and then the cursor is moved on (`Searching.find`), or it cannot ask for any
(`calls_perform`), and then the cursor stays (`Searching.dialogue`). The main result
(`Session.search_exact`) says what the caller gets between the start of a search and its end, whatever the
module replies.

A call for more handles than there is room for panics once the module has given it a batch (`Loses`). The session is
then as it was, but the module goes on after that batch, so its handles are lost
(`Session.not_search_complete`).
-/

namespace TokenClient

/-- A call asks a module for further handles. -/
def Call.Pulls : Call → Prop
  | .inSession _ (.findObjects _) => True
  | _ => False

namespace Session

variable {session middle after : Session} {handle : Code} {cursor last : FindCursor}
  {exchanges : List Exchange} {request : Request} {events : List Event}

/-- What a request comes to, if it asks for at least one handle and does not panic. -/
def Event.pull? : Event → Option Pull
  | ⟨.find max, exchanges, ⟨.ok (some handles), _⟩⟩ => if max = 0 then none else some ⟨max, exchanges, .ok handles⟩
  | ⟨.find max, exchanges, ⟨.error e, _⟩⟩ => if max = 0 then none else some ⟨max, exchanges, .error e⟩
  | _ => none

/-- The calls for handles among the events that have come to a result, in order. -/
def pulls (events : List Event) : List Pull := events.filterMap Event.pull?

/-- The batches of handles that the module has given, in order. -/
def batches (events : List Event) : List (List Code) := (history events).filterMap Exchange.batch?

/-- A search runs on an open session, and it has come to a certain cursor. -/
structure Searching (session : Session) (handle : Code) (cursor : FindCursor) : Prop where
  isOpen : session.handle = some handle
  active : session.tracker.active.contains .find = true
  cursor : session.tracker.cursor = some cursor

/-! ## Requests that ask for no handles -/

/-- Only the two requests that search pull handles. -/
private theorem origin_of_pulls {call : Call} (pulls : call.Pulls) (comes : call.From request) :
    (∃ max, request = .find max) ∨ ∃ template, request = .findAll template := by
  unfold Call.Pulls at pulls
  split at pulls
  next => exact comes
  next => exact pulls.elim

/-- Only the requests for handles, and the search of all objects, ask the module for any. -/
theorem not_pulls_of_plays {answer : request.Answer} (one : ∀ max, request ≠ .find max)
    (all : ∀ template, request ≠ .findAll template)
    (plays : (session.perform request).Plays exchanges (answer, after)) :
    ∀ exchange ∈ exchanges, ¬ exchange.call.Pulls := by
  intro exchange hmem pulls
  have comes := (calls_perform session request).of_plays plays exchange hmem
  obtain ⟨max, rfl⟩ | ⟨template, rfl⟩ := origin_of_pulls pulls comes
  · exact one max rfl
  · exact all template rfl

/-! ## A request during a search -/

private theorem checkSearch_of_active {tracker : Tracker} (active : tracker.active.contains .find = true) :
    tracker.checkSearch = .error (.searchBlocked tracker.active) := by
  unfold Tracker.checkSearch
  split
  next h =>
    rw [OperationSet.isEmpty_iff.1 h] at active
    simp at active
  next => rfl

/-- An exchange that neither asks for handles nor ends the search leaves its cursor alone. -/
theorem cursor_answered {tracker : Tracker} {command : Command} {reply : Reply (.inSession handle command)}
    (active : tracker.active.contains .find = true) (admits : tracker.Admits command)
    (other : ¬ (Call.inSession handle command).Pulls)
    (kept : ¬ Exchange.Ends .find ⟨.inSession handle command, reply⟩) :
    (tracker.answered command reply.result).cursor = tracker.cursor := by
  -- The commands that could touch the cursor are excluded, refused, or would end the search.
  cases command with
  | closeSession => exact absurd trivial kept
  | findObjects max => exact absurd trivial other
  | findObjectsFinal => exact absurd rfl kept
  | findObjectsInit template =>
    have hcheck : tracker.checkSearch = .ok () := admits
    rw [checkSearch_of_active active] at hcheck
    cases hcheck
  | setOperationState _ _ _ =>
    cases hreply : reply.result with
    | ok value => exact absurd hreply kept
    | error e => rfl
  | sessionCancel flags =>
    cases hreply : reply.result with
    | error e => rfl
    | ok value =>
      have unnamed : (OperationSet.ofCancelFlags flags).contains .find = false :=
        Bool.eq_false_iff.2 fun h => kept ⟨h, hreply⟩
      simp [Tracker.answered, Tracker.finish, unnamed]
  | start start mechanism =>
    cases hreply : reply.result with
    | error e => rfl
    | ok value => cases start <;> rfl
  | step step =>
    have hfind : (OperationSet.ofList step.operations).contains .find = false := by cases step <;> rfl
    simp only [Tracker.answered]
    split
    next => simp [Tracker.finish, hfind]
    next => rfl
  | message step => exact Tracker.cursor_afterMessage ..
  | _ => rfl

/-- A search goes on through exchanges that neither ask for handles nor end it. -/
theorem Searching.dialogue (searching : session.Searching handle cursor)
    (dialogue : session.Dialogue exchanges after) (other : ∀ exchange ∈ exchanges, ¬ exchange.call.Pulls)
    (kept : ∀ exchange ∈ exchanges, ¬ exchange.Ends .find) : after.Searching handle cursor := by
  induction dialogue with
  | nil => exact searching
  | @cons session after opened command reply exchanges isOpen admits _ ih =>
    obtain ⟨hother, others⟩ := List.forall_mem_cons.1 other
    obtain ⟨hkept, keeps⟩ := List.forall_mem_cons.1 kept
    refine ih ?_ others keeps
    have hactive : (session.tracker.answered command reply.result).active.contains .find = true :=
      Tracker.active_answered.2 (.inr ⟨searching.active, hkept⟩)
    have hcursor := (cursor_answered searching.active admits hother hkept).trans searching.cursor
    cases command with
    | closeSession => exact absurd trivial hkept
    | _ => exact ⟨searching.isOpen, hactive, hcursor⟩

/-- While a search runs, a call for handles is a matter of its cursor. -/
theorem Searching.find_eq (searching : session.Searching handle cursor) {max : UInt64} (positive : 0 < max) :
    session.find max =
      if cursor.exhausted then .done (.ok (some []), session)
      else
        (Program.request (.inSession handle (.findObjects max))).map fun
          | .ok batch =>
            match cursor.filter max batch with
            | some (handles, cursor) => (.ok (some handles), session.withCursor cursor)
            | none => (.ok none, session)
          | .error e => (.error e, session) := by
  unfold Session.find
  simp only [openHandle_of_open searching.isOpen, (Tracker.checkActive_eq_ok_iff _ _).2 searching.active,
    searching.cursor, if_neg (UInt64.pos_iff_ne_zero.1 positive)]
  congr 2
  funext result
  cases result <;> rfl

/-- A call for handles moves the cursor on, and nothing else, or it panics and changes nothing. -/
theorem Searching.find {max : UInt64} {result : Except Error (Attempt (List Code))}
    (searching : session.Searching handle cursor) (positive : 0 < max)
    (plays : (session.find max).Plays exchanges (result, after)) :
    (∃ got next, result = got.map some ∧ after = session.withCursor next ∧
      cursor.Hands handle [⟨max, exchanges, got⟩] next) ∨
    result = .ok none ∧ after = session ∧ Loses handle max exchanges := by
  rw [searching.find_eq positive] at plays
  split at plays
  next hexhausted =>
    obtain ⟨rfl, heq⟩ := Program.plays_done.1 plays
    cases heq
    exact .inl ⟨.ok [], cursor, rfl, (withCursor_of_cursor searching.cursor).symm, .spent hexhausted (.nil _)⟩
  next hmore =>
    obtain ⟨_, hplays, heq⟩ := Program.plays_map.1 plays
    obtain ⟨reply, rfl, rfl⟩ := Program.plays_request.1 hplays
    have more := Bool.eq_false_iff.2 hmore
    split at heq
    next batch hreply =>
      by_cases room : HasRoom FindCursor.handleSize max.toNat
      · rw [FindCursor.filter_of_room room] at heq
        cases heq
        exact .inl ⟨.ok _, _, rfl, rfl, .handed more positive room hreply (.nil _)⟩
      · rw [FindCursor.filter_of_no_room room] at heq
        cases heq
        exact .inr ⟨rfl, rfl, .lost rfl hreply room⟩
    next e hreply =>
      cases heq
      exact .inl ⟨.error e, cursor, rfl, (withCursor_of_cursor searching.cursor).symm, .failed more hreply (.nil _)⟩

private theorem pulls_other {answer : request.Answer} (other : ∀ max, request ≠ .find max) :
    pulls [⟨request, exchanges, answer⟩] = [] := by
  cases request with
  | find max => exact absurd rfl (other max)
  | _ => rfl

/-- A call for no handles is none of the calls with a result. -/
theorem pulls_find_zero (exchanges : List Exchange) (result : Except Error (Attempt (List Code))) :
    pulls [⟨.find 0, exchanges, ⟨result, ()⟩⟩] = [] := by
  rcases result with _ | _ | _ <;> rfl

/-- What a call for handles comes to is one of the calls with a result. -/
theorem pulls_find {max : UInt64} (positive : 0 < max) (exchanges : List Exchange)
    (result : Except Error (List Code)) :
    pulls [⟨.find max, exchanges, ⟨result.map some, ()⟩⟩] = [⟨max, exchanges, result⟩] := by
  have nonzero : max ≠ 0 := UInt64.pos_iff_ne_zero.1 positive
  cases result <;> simp [pulls, Event.pull?, Except.map, nonzero]

/-- A session goes on searching with another cursor. -/
theorem Searching.withCursor (searching : session.Searching handle cursor) (next : FindCursor) :
    (session.withCursor next).Searching handle next :=
  ⟨searching.isOpen, searching.active, rfl⟩

/-- No search of all objects starts while a search runs. -/
theorem Searching.findAll {template : Template} {result : Except Error (List Code)}
    (searching : session.Searching handle cursor)
    (plays : (session.findAll template).Plays exchanges (result, after)) :
    exchanges = [] ∧ after = session := by
  unfold Session.findAll startFind at plays
  simp only [openHandle_of_open searching.isOpen, checkSearch_of_active searching.active] at plays
  obtain ⟨rfl, heq⟩ := Program.plays_done.1 plays
  cases heq
  exact ⟨rfl, rfl⟩

/-- A call for handles that fails or panics leaves the session as it is. -/
theorem Searching.eq_of_no_handles {max : UInt64} {answer : (Request.find max).Answer}
    (searching : session.Searching handle cursor) (positive : 0 < max)
    (plays : (session.perform (.find max)).Plays exchanges (answer, after))
    (fails : ∀ handles, answer.result ≠ .ok (some handles)) : after = session := by
  unfold Session.perform at plays
  obtain ⟨result, hplays, rfl⟩ := plays_plainly.1 plays
  obtain ⟨got, next, rfl, rfl, hands⟩ | ⟨-, rfl, -⟩ := searching.find positive hplays
  · cases hands with
    | spent _ rest => exact absurd rfl (fails [])
    | failed _ _ rest =>
      cases rest
      exact withCursor_of_cursor searching.cursor
    | handed _ _ _ _ rest => exact absurd rfl (fails _)
  · rfl

/-- A call for handles panics just if there is no room for them and the module gives a batch. -/
theorem Searching.panics_iff {max : UInt64} {answer : (Request.find max).Answer}
    (searching : session.Searching handle cursor) (positive : 0 < max)
    (plays : (session.perform (.find max)).Plays exchanges (answer, after)) :
    answer.result = .ok none ↔ Loses handle max exchanges := by
  unfold Session.perform at plays
  obtain ⟨result, hplays, rfl⟩ := plays_plainly.1 plays
  obtain ⟨got, next, rfl, -, hands⟩ | ⟨rfl, -, loses⟩ := searching.find positive hplays
  · refine iff_of_false ?_ ?_
    · cases got <;> exact fun h => by cases h
    · rintro ⟨asked, replied, full⟩
      cases hands with
      | spent _ _ => cases asked
      | failed _ failed _ =>
        cases asked
        rw [failed] at replied
        cases replied
      | handed _ _ room _ _ => exact full room
  · exact iff_of_true rfl loses

/-- A call for no handles at all is refused. -/
theorem Searching.find_zero {result : Except Error (Attempt (List Code))}
    (searching : session.Searching handle cursor)
    (plays : (session.find 0).Plays exchanges (result, after)) : exchanges = [] ∧ after = session := by
  unfold Session.find at plays
  simp only [openHandle_of_open searching.isOpen,
    (Tracker.checkActive_eq_ok_iff _ _).2 searching.active] at plays
  obtain ⟨rfl, heq⟩ := Program.plays_done.1 plays
  cases heq
  exact ⟨rfl, rfl⟩

/-- A request that asks for no handles leaves the search alone. -/
theorem Searching.frame {answer : request.Answer} (searching : session.Searching handle cursor)
    (plays : (session.perform request).Plays exchanges (answer, after))
    (kept : ∀ exchange ∈ exchanges, ¬ exchange.Ends .find) (one : ∀ max, request ≠ .find max)
    (all : ∀ template, request ≠ .findAll template) : after.Searching handle cursor := by
  have other := not_pulls_of_plays one all plays
  obtain dialogue | ⟨dialogue, -, known, rfl⟩ | ⟨-, step, -, -, rfl⟩ := perform_dialogue plays
  · exact searching.dialogue dialogue other kept
  · have same := searching.dialogue dialogue other kept
    exact ⟨same.isOpen, same.active, same.cursor⟩
  · refine ⟨searching.isOpen, ?_, ?_⟩
    · simpa [Session.afterMessage] using searching.active
    · simpa [Session.afterMessage] using searching.cursor

/-- Whatever is asked of a session while a search runs on it, the search has handed out the handles that
were asked for. -/
theorem Searching.perform {answer : request.Answer} (searching : session.Searching handle cursor)
    (plays : (session.perform request).Plays exchanges (answer, after))
    (kept : ∀ exchange ∈ exchanges, ¬ exchange.Ends .find) :
    ∃ next, after.Searching handle next ∧
      cursor.Hands handle (pulls [⟨request, exchanges, answer⟩]) next := by
  -- Only a call for handles moves the cursor; a search of all objects is refused while another one runs.
  by_cases one : ∃ max, request = .find max
  · obtain ⟨max, rfl⟩ := one
    unfold Session.perform at plays
    obtain ⟨result, hplays, rfl⟩ := plays_plainly.1 plays
    by_cases zero : max = 0
    · subst zero
      obtain ⟨-, rfl⟩ := searching.find_zero hplays
      exact ⟨cursor, searching, pulls_find_zero exchanges _ ▸ .nil cursor⟩
    have positive : 0 < max := UInt64.pos_iff_ne_zero.2 zero
    obtain ⟨got, next, rfl, rfl, hands⟩ | ⟨rfl, rfl, -⟩ := searching.find positive hplays
    · exact ⟨next, searching.withCursor next, (pulls_find positive exchanges got).symm ▸ hands⟩
    · exact ⟨cursor, searching, .nil cursor⟩
  have other : ∀ max, request ≠ .find max := fun max h => one ⟨max, h⟩
  refine ⟨cursor, ?_, pulls_other other ▸ .nil cursor⟩
  by_cases all : ∃ template, request = .findAll template
  · obtain ⟨template, rfl⟩ := all
    unfold Session.perform at plays
    obtain ⟨result, hplays, -⟩ := plays_plainly.1 plays
    obtain ⟨-, rfl⟩ := searching.findAll hplays
    exact searching
  · exact searching.frame plays kept other fun template h => all ⟨template, h⟩

private theorem pulls_cons (event : Event) (events : List Event) :
    pulls (event :: events) = pulls [event] ++ pulls events :=
  @List.filterMap_append _ _ [event] events Event.pull?

/-- A run that does not end a search has handed out the handles that were asked for. -/
theorem Searching.run (searching : session.Searching handle cursor) (run : session.Run events after)
    (kept : ∀ exchange ∈ history events, ¬ exchange.Ends .find) :
    ∃ last, after.Searching handle last ∧ cursor.Hands handle (pulls events) last := by
  induction run generalizing cursor with
  | nil => exact ⟨cursor, searching, .nil cursor⟩
  | cons plays _ ih =>
    rw [history, List.flatMap_cons] at kept
    obtain ⟨next, hnext, hfirst⟩ :=
      searching.perform plays fun exchange h => kept exchange (List.mem_append_left _ h)
    obtain ⟨last, hlast, hrest⟩ := ih hnext fun exchange h => kept exchange (List.mem_append_right _ h)
    rw [pulls_cons]
    exact ⟨last, hlast, hfirst.append hrest⟩

/-! ## What becomes of the batches -/

private theorem batch?_eq_none {exchange : Exchange} (other : ¬ exchange.call.Pulls) : exchange.batch? = none := by
  unfold Exchange.batch?
  split
  next => exact absurd trivial other
  next => rfl

/-- The batches that the module gives to a request are those of the calls with a result, unless it panics. -/
theorem Searching.batches_of_perform {answer : request.Answer} (searching : session.Searching handle cursor)
    (plays : (session.perform request).Plays exchanges (answer, after))
    (returns : ∀ max (answer' : (Request.find max).Answer),
      (⟨request, exchanges, answer⟩ : Event) = ⟨.find max, exchanges, answer'⟩ → answer'.result ≠ .ok none) :
    exchanges.filterMap Exchange.batch? = (pulls [⟨request, exchanges, answer⟩]).flatMap Pull.batches := by
  by_cases one : ∃ max, request = .find max
  · obtain ⟨max, rfl⟩ := one
    have hreturns := returns max answer rfl
    unfold Session.perform at plays
    obtain ⟨result, hplays, rfl⟩ := plays_plainly.1 plays
    by_cases zero : max = 0
    · subst zero
      obtain ⟨rfl, -⟩ := searching.find_zero hplays
      rw [pulls_find_zero]
      rfl
    have positive : 0 < max := UInt64.pos_iff_ne_zero.2 zero
    obtain ⟨got, next, rfl, -, -⟩ | ⟨rfl, -, -⟩ := searching.find positive hplays
    · rw [pulls_find positive, List.flatMap_singleton]
      rfl
    · exact absurd rfl hreturns
  have other : ∀ max, request ≠ .find max := fun max h => one ⟨max, h⟩
  rw [pulls_other other, List.flatMap_nil, List.filterMap_eq_nil_iff]
  by_cases all : ∃ template, request = .findAll template
  · obtain ⟨template, rfl⟩ := all
    unfold Session.perform at plays
    obtain ⟨result, hplays, -⟩ := plays_plainly.1 plays
    obtain ⟨rfl, -⟩ := searching.findAll hplays
    exact List.forall_mem_nil _
  · intro exchange hmem
    exact batch?_eq_none (not_pulls_of_plays other (fun template h => all ⟨template, h⟩) plays exchange hmem)

/-- If no call panics, the batches that the module gives during a search are those of the calls for handles. -/
theorem Searching.batches_eq (searching : session.Searching handle cursor) (run : session.Run events after)
    (kept : ∀ exchange ∈ history events, ¬ exchange.Ends .find)
    (returns : ∀ max exchanges answer, ⟨.find max, exchanges, answer⟩ ∈ events → answer.result ≠ .ok none) :
    batches events = (pulls events).flatMap Pull.batches := by
  induction run generalizing cursor with
  | nil => rfl
  | @cons session next after request exchanges answer events plays _ ih =>
    rw [history, List.flatMap_cons] at kept
    obtain ⟨cursor', hnext, -⟩ :=
      searching.perform plays fun exchange h => kept exchange (List.mem_append_left _ h)
    have hfirst := searching.batches_of_perform plays fun max answer' heq =>
      returns max exchanges answer' (heq ▸ List.mem_cons_self)
    have hrest := ih hnext (fun exchange h => kept exchange (List.mem_append_right _ h))
      fun max exchanges answer hmem => returns max exchanges answer (List.mem_cons_of_mem _ hmem)
    rw [pulls_cons, List.flatMap_append, ← hfirst, ← hrest, batches, batches, history, List.flatMap_cons,
      List.filterMap_append]
    rfl

/-! ## The main result -/

/-- A search that was started has its cursor at the start. -/
private theorem searching_of_startFind {template : Template} {answer : (Request.startFind template).Answer}
    (plays : (session.perform (.startFind template)).Plays exchanges (answer, after))
    (started : answer.result = .ok ()) :
    ∃ handle, session.handle = some handle ∧ after.Searching handle .start := by
  unfold Session.perform at plays
  obtain ⟨result, hplays, rfl⟩ := plays_plainly.1 plays
  rw [show result = .ok () from started] at hplays
  obtain ⟨handle, isOpen, active, hcursor⟩ := started_of_startFind hplays
  refine ⟨handle, ?_, isOpen, active, hcursor⟩
  obtain ⟨-, rfl⟩ | ⟨opened, reply, hopened, -, -, -, rfl⟩ :=
    relays_startFind session template _ _ _ hplays
  · exact isOpen
  · exact isOpen

/-- A call for handles among the events of a search is made on a session on which the search runs. -/
theorem Searching.exists_middle {before later : List Event} {max : UInt64} {answer : (Request.find max).Answer}
    (searching : session.Searching handle cursor)
    (run : session.Run (before ++ ⟨.find max, exchanges, answer⟩ :: later) after)
    (kept : ∀ exchange ∈ history (before ++ ⟨.find max, exchanges, answer⟩ :: later), ¬ exchange.Ends .find) :
    ∃ middle next cursor', session.Run before middle ∧ middle.Searching handle cursor' ∧
      (middle.perform (.find max)).Plays exchanges (answer, next) ∧ next.Run later after := by
  obtain ⟨middle, hbefore, hrest⟩ := run.split
  obtain ⟨next, hplays, hlater⟩ := run_cons.1 hrest
  rw [history, List.flatMap_append] at kept
  obtain ⟨cursor', hmiddle, -⟩ :=
    searching.run hbefore fun exchange h => kept exchange (List.mem_append_left _ h)
  exact ⟨middle, next, cursor', hbefore, hmiddle, hplays, hlater⟩

/-- Between the start of a search and its end any requests may be made, and the module may reply anything.
A call for handles panics just if there is no room for as many as are wanted and the module gives a batch. Of the
other calls for handles every one asks the module once, until one of them has handed out nothing; after
that the module is not asked again. No handle comes twice. A failure of the module is passed on, and like a panic
it leaves the session as it is. If the module keeps to the limits, then the caller gets what the batches of these
calls hold, each handle once, and if no call panics, these are all the batches: nothing is lost. -/
theorem search_exact {template : Template} {start : List Exchange}
    (run : session.Run (⟨.startFind template, start, ⟨.ok (), ()⟩⟩ :: events) after)
    (kept : ∀ exchange ∈ history events, ¬ exchange.Ends .find) :
    (∃ handle, session.handle = some handle ∧
      (∀ max exchanges answer, 0 < max → ⟨.find max, exchanges, answer⟩ ∈ events →
        (answer.result = .ok none ↔ Loses handle max exchanges)) ∧
      ∀ before pull later, pulls events = before ++ pull :: later →
        ((∀ other ∈ before, other.result ≠ .ok []) → pull.Asks handle) ∧
        ((∃ other ∈ before, other.result = .ok []) → pull.IsSilent)) ∧
    ((pulls events).flatMap Pull.handles).Nodup ∧
    (∀ before max exchanges answer later, 0 < max → (∀ handles, answer.result ≠ .ok (some handles)) →
      events = before ++ ⟨.find max, exchanges, answer⟩ :: later →
        ∃ middle, session.Run (⟨.startFind template, start, ⟨.ok (), ()⟩⟩ :: before) middle ∧
          middle.active.contains .find = true ∧
          (middle.perform (.find max)).Plays exchanges (answer, middle) ∧ middle.Run later after) ∧
    ((∀ pull ∈ pulls events, ∀ batch ∈ pull.batches, batch.length ≤ pull.max.toNat) →
      ∃ news stale, (pulls events).flatMap Pull.batches = news ++ stale ∧ EachNew [] news ∧
        stale.length ≤ 1 ∧ (∀ batch ∈ stale, batch ⊆ news.flatten) ∧
        (pulls events).flatMap Pull.handles = news.flatten.eraseDups) ∧
    ((∀ max exchanges answer, ⟨.find max, exchanges, answer⟩ ∈ events → answer.result ≠ .ok none) →
      batches events = (pulls events).flatMap Pull.batches) := by
  obtain ⟨started, hstart, hrun⟩ := run_cons.1 run
  obtain ⟨handle, isOpen, searching⟩ := searching_of_startFind hstart rfl
  obtain ⟨last, -, hands⟩ := searching.run hrun kept
  refine ⟨⟨handle, isOpen, ?_, ?_⟩, hands.nodup, ?_, ?_, searching.batches_eq hrun kept⟩
  · intro max exchanges answer positive hmem
    obtain ⟨before, later, rfl⟩ := List.append_of_mem hmem
    obtain ⟨middle, next, cursor, -, hmiddle, hplays, -⟩ := searching.exists_middle hrun kept
    exact hmiddle.panics_iff positive hplays
  · intro before pull later heq
    rw [heq] at hands
    exact ⟨hands.asks rfl, hands.silent⟩
  · intro before max exchanges answer later positive fails heq
    subst heq
    obtain ⟨middle, next, cursor, hbefore, hmiddle, hplays, hlater⟩ := searching.exists_middle hrun kept
    -- The call changed nothing, so the run could have gone on without it.
    obtain rfl := hmiddle.eq_of_no_handles positive hplays fails
    exact ⟨next, .cons hstart hbefore, hmiddle.active, hplays, hlater⟩
  · intro fits
    simpa [FindCursor.start, List.removeAll_nil] using hands.complete rfl fits

/-- A search in five calls. The module repeats itself within a batch and from batch to batch, fails once,
and in the end has nothing new; a logout comes in between. -/
def repetitive (handle : Code) (e : Error) : List Event :=
  [⟨.find 3, [⟨.inSession handle (.findObjects 3), ⟨.ok [4, 5, 4], ()⟩⟩], ⟨.ok (some [4, 5]), ()⟩⟩,
    ⟨.find 2, [⟨.inSession handle (.findObjects 2), ⟨.error e, ()⟩⟩], ⟨.error e, ()⟩⟩,
    ⟨.logout, [⟨.inSession handle .logout, ⟨.ok (), ()⟩⟩], ⟨.ok (), ()⟩⟩,
    ⟨.find 2, [⟨.inSession handle (.findObjects 2), ⟨.ok [5, 6], ()⟩⟩], ⟨.ok (some [6]), ()⟩⟩,
    ⟨.find 9, [⟨.inSession handle (.findObjects 9), ⟨.ok [4], ()⟩⟩], ⟨.ok (some []), ()⟩⟩,
    ⟨.find 1, [], ⟨.ok (some []), ()⟩⟩]

private theorem run_repetitive (template : Template) (e : Error) :
    (opened (.bare 1) 7).Run
      (⟨.startFind template,
          [⟨.inSession 7 (.findObjectsInit ((opened (.bare 1) 7).wireTemplate template)), ⟨.ok (), ()⟩⟩],
          ⟨.ok (), ()⟩⟩ :: repetitive 7 e)
      { opened (.bare 1) 7 with
        tracker := ⟨.single .find, false, some ⟨[4, 5, 6], true, by decide⟩⟩ } :=
  .cons (.ask _ (.done _)) (.cons (.ask _ (.done _)) (.cons (.ask _ (.done _)) (.cons (.ask _ (.done _))
    (.cons (.ask _ (.done _)) (.cons (.ask _ (.done _)) (.cons (.done _) (.nil _)))))))

private theorem not_ends_repetitive (handle : Code) (e : Error) :
    ∀ exchange ∈ history (repetitive handle e), ¬ exchange.Ends .find := by
  simp [history, repetitive, Exchange.Ends]

/-- Of the three batches the last one holds nothing new, and the caller has got the handles of the others,
each once. Then the module is not asked again. -/
theorem search_exact_repetitive :
    (∃ news stale, [[4, 5, 4], [5, 6], [4]] = news ++ stale ∧ EachNew [] news ∧ stale.length ≤ 1 ∧
      [4, 5, 6] = news.flatten.eraseDups) ∧ (⟨1, [], .ok []⟩ : Pull).IsSilent := by
  obtain ⟨⟨handle, -, -, each⟩, -, -, complete, -⟩ := search_exact (run_repetitive .empty .sessionClosed)
    (not_ends_repetitive 7 .sessionClosed)
  have fits : ∀ pull ∈ pulls (repetitive 7 .sessionClosed), ∀ batch ∈ pull.batches,
      batch.length ≤ pull.max.toNat := by decide
  obtain ⟨news, stale, hbatches, hnew, hlength, -, hhandles⟩ := complete fits
  refine ⟨⟨news, stale, hbatches, hnew, hlength, hhandles⟩, ?_⟩
  refine (each [⟨3, _, _⟩, ⟨2, _, _⟩, ⟨2, _, _⟩, ⟨9, _, .ok []⟩] _ [] rfl).2 ?_
  exact ⟨_, List.mem_append_right [_, _, _] List.mem_cons_self, rfl⟩

/-- A call for more handles than there is room for can panic: it does when the module gives a batch. -/
theorem Searching.plays_find_of_no_room {max : UInt64} {batch : List Code}
    (searching : session.Searching handle cursor) (more : cursor.exhausted = false)
    (full : ¬ HasRoom FindCursor.handleSize max.toNat) :
    (session.perform (.find max)).Plays [⟨.inSession handle (.findObjects max), ⟨.ok batch, ()⟩⟩]
      (⟨.ok none, ()⟩, session) := by
  have positive : 0 < max := UInt64.pos_iff_ne_zero.2 fun h => full (h ▸ by decide)
  unfold Session.perform
  refine plays_plainly.2 ⟨.ok none, ?_, rfl⟩
  rw [searching.find_eq positive, if_neg (by simp [more])]
  refine Program.plays_map.2 ⟨.ok batch, Program.plays_request.2 ⟨⟨.ok batch, ()⟩, rfl, rfl⟩, ?_⟩
  simp only [FindCursor.filter_of_no_room full]

/-- The least number of handles for which there is no room. -/
def tooMany : UInt64 := 0x1000000000000000

/-- A call for as many handles as there is no room for. The module gives the one handle that it has. -/
def greedy (handle : Code) : List Event :=
  [⟨.find tooMany, [⟨.inSession handle (.findObjects tooMany), ⟨.ok [5], ()⟩⟩], ⟨.ok none, ()⟩⟩]

private theorem run_greedy (template : Template) :
    (opened (.bare 1) 7).Run
      (⟨.startFind template,
          [⟨.inSession 7 (.findObjectsInit ((opened (.bare 1) 7).wireTemplate template)), ⟨.ok (), ()⟩⟩],
          ⟨.ok (), ()⟩⟩ :: greedy 7)
      { opened (.bare 1) 7 with tracker := (opened (.bare 1) 7).tracker.start .find } := by
  refine .cons (.ask _ (.done _)) (.cons ?_ (.nil _))
  have searching : ({ opened (.bare 1) 7 with tracker := (opened (.bare 1) 7).tracker.start .find } : Session).Searching
      7 .start := ⟨rfl, by simp, rfl⟩
  exact searching.plays_find_of_no_room rfl (by decide)

/-- A module that keeps to the limits is not enough: the handles of a batch for which there is no room are
lost. -/
theorem not_search_complete :
    ¬ ∀ (session after : Session) (template : Template) (start : List Exchange) (events : List Event),
      session.Run (⟨.startFind template, start, ⟨.ok (), ()⟩⟩ :: events) after →
      (∀ exchange ∈ history events, ¬ exchange.Ends .find) →
      (∀ max exchanges answer, ⟨.find max, exchanges, answer⟩ ∈ events →
        0 < max ∧ ∀ batch ∈ exchanges.filterMap Exchange.batch?, batch.length ≤ max.toNat) →
      ∃ news stale, batches events = news ++ stale ∧ EachNew [] news ∧ stale.length ≤ 1 ∧
        (∀ batch ∈ stale, batch ⊆ news.flatten) ∧
        (pulls events).flatMap Pull.handles = news.flatten.eraseDups := by
  intro complete
  have kept : ∀ exchange ∈ history (greedy 7), ¬ exchange.Ends .find := by
    simp [history, greedy, Exchange.Ends]
  have fits : ∀ max exchanges answer, ⟨.find max, exchanges, answer⟩ ∈ greedy 7 →
      0 < max ∧ ∀ batch ∈ exchanges.filterMap Exchange.batch?, batch.length ≤ max.toNat := by
    intro max exchanges answer hmem
    cases List.mem_singleton.1 hmem
    decide
  obtain ⟨news, stale, hbatches, -, -, hstale, hhandles⟩ :=
    complete _ _ .empty _ _ (run_greedy .empty) kept fits
  have hnews : news.flatten = [] := by
    have nothing : news.flatten.eraseDups = [] := hhandles.symm
    cases hflat : news.flatten with
    | nil => rfl
    | cons first others => simp [hflat, List.eraseDups_cons] at nothing
  have hgiven : (5 : Code) ∈ (news ++ stale).flatten := hbatches ▸ (by decide)
  rw [List.flatten_append, hnews, List.nil_append] at hgiven
  obtain ⟨batch, hbatch, hmem⟩ := List.mem_flatten.1 hgiven
  simpa [hnews] using hstale batch hbatch hmem

end Session

end TokenClient
