import Mathlib.Algebra.BigOperators.Group.List.Basic
import TokenClient.Proofs.Session.Search

/-!
# The search of all objects

A search of all objects is a start, calls for a hundred handles at a time, and an end. It goes on as long as
the module says something new. Every call but the last has handed out a handle that had not been handed out
before, and there are no more handles than words: this bounds the number of calls, whatever the module
replies (`FindCursor.Hands.length_le`).

The calls for handles are those that a caller could have made one by one (`plays_collect`,
`Session.Searching.run_of_hands`), so what is known of searches within runs holds of them. The main result
(`Session.findAll_exact`) lists the exchanges in order: the end of the search is the last one and
the only one of its kind, however the calls before it went.
-/

namespace TokenClient

/-- A call for handles as an event of a run. -/
def Pull.event (pull : Pull) : Session.Event := ⟨.find pull.max, pull.exchanges, ⟨pull.result.map some, ()⟩⟩

/-- The caller got at least one handle. -/
def Pull.Finds (pull : Pull) : Prop := ∃ first others, pull.result = .ok (first :: others)

variable {handle : Code} {cursor last : FindCursor} {pulls : List Pull} {exchanges : List Exchange}

private theorem Pull.Asks.length_exchanges {pull : Pull} (asks : pull.Asks handle) : pull.exchanges.length = 1 := by
  cases asks with
  | failed asked _ _ => rw [asked, List.length_singleton]
  | handed asked _ _ _ _ => rw [asked, List.length_singleton]

/-- Calls that ask the module once each make as many exchanges as they are. -/
theorem length_flatMap_exchanges (asks : ∀ pull ∈ pulls, pull.Asks handle) :
    (pulls.flatMap Pull.exchanges).length = pulls.length := by
  induction pulls with
  | nil => rfl
  | cons pull pulls ih =>
    obtain ⟨hpull, hpulls⟩ := List.forall_mem_cons.1 asks
    rw [List.flatMap_cons, List.length_append, hpull.length_exchanges, ih hpulls, List.length_cons,
      Nat.add_comm]

/-- There are no more calls that hand something out than there are words. -/
theorem FindCursor.Hands.length_le (hands : cursor.Hands handle pulls last)
    (finds : ∀ pull ∈ pulls, pull.Finds) : pulls.length ≤ UInt64.size := by
  have hlength : pulls.length ≤ (pulls.flatMap Pull.handles).length := by
    rw [List.length_flatMap, ← List.length_map]
    apply List.length_le_sum_of_one_le
    intro n hn
    obtain ⟨pull, hpull, rfl⟩ := List.mem_map.1 hn
    obtain ⟨first, others, hfound⟩ := finds pull hpull
    simp [Pull.handles, hfound]
  have hsize := last.size_le
  rw [FindCursor.size, hands.returned, List.length_append] at hsize
  omega

namespace Session

variable {session middle after : Session}

/-- A call for handles that the cursor allows can be made on a session. -/
theorem Searching.plays_find {pull : Pull} (searching : session.Searching handle cursor)
    (hands : cursor.Hands handle [pull] last) (positive : 0 < pull.max) :
    (session.perform (.find pull.max)).Plays pull.exchanges
      (⟨pull.result.map some, ()⟩, session.withCursor last) := by
  unfold Session.perform
  refine plays_plainly.2 ⟨pull.result.map some, ?_, rfl⟩
  rw [searching.find_eq positive]
  cases hands with
  | spent exhausted rest =>
    cases rest
    rw [if_pos exhausted, withCursor_of_cursor searching.cursor]
    exact .done _
  | failed more replied rest =>
    cases rest
    rw [if_neg (by simp [more]), withCursor_of_cursor searching.cursor]
    exact Program.plays_map.2 ⟨_, Program.plays_request.2 ⟨_, rfl, replied.symm⟩, rfl⟩
  | handed more _ room replied rest =>
    cases rest
    rw [if_neg (by simp [more])]
    refine Program.plays_map.2 ⟨_, Program.plays_request.2 ⟨_, rfl, replied.symm⟩, ?_⟩
    simp only [FindCursor.filter_of_room room, Except.map]

/-- The pulls of a search are a run of the session. -/
private theorem Searching.run_of_hands (searching : session.Searching handle cursor)
    (hands : cursor.Hands handle pulls last) (positive : ∀ pull ∈ pulls, 0 < pull.max) :
    session.Run (pulls.map Pull.event) (session.withCursor last) := by
  induction pulls generalizing session cursor with
  | nil =>
    cases hands
    rw [withCursor_of_cursor searching.cursor]
    exact .nil session
  | cons pull pulls ih =>
    obtain ⟨hpull, hpulls⟩ := List.forall_mem_cons.1 positive
    obtain ⟨next, hfirst, hrest⟩ := @FindCursor.Hands.split _ _ _ [pull] pulls hands
    exact .cons (searching.plays_find hfirst hpull) (ih (searching.withCursor next) hrest hpulls)

/-- The calls by which all handles are collected: each but the last hands something out. -/
theorem plays_collect {found : Except Error (List Code)} (more : cursor.exhausted = false)
    (plays : (collect handle cursor).Plays exchanges found) :
    ∃ pulls ending last, cursor.Hands handle (pulls ++ [ending]) last ∧
      exchanges = (pulls ++ [ending]).flatMap Pull.exchanges ∧
      (∀ pull ∈ pulls ++ [ending], pull.max = batchSize ∧ pull.Asks handle) ∧ (∀ pull ∈ pulls, pull.Finds) ∧
      (ending.result = .ok [] ∨ ∃ e, ending.result = .error e) ∧
      found = ending.result.map fun _ => last.returned := by
  -- Along the recursion of the program: a batch that brings nothing new ends it, any other moves the cursor on.
  fun_induction collect handle cursor generalizing exchanges with
  | case1 cursor ih =>
    obtain ⟨reply, rest, rfl, hrest⟩ := Program.plays_ask.1 plays
    split at hrest
    next e hreply =>
      obtain ⟨rfl, rfl⟩ := Program.plays_done.1 hrest
      refine ⟨[], _, cursor, .failed more hreply (.nil _), rfl, ?_, by simp, .inr ⟨e, rfl⟩, rfl⟩
      exact List.forall_mem_singleton.2 ⟨rfl, .failed rfl hreply rfl⟩
    next batch hreply =>
      have positive : 0 < batchSize := by decide
      have room : HasRoom FindCursor.handleSize batchSize.toNat := by decide
      have asks : Pull.Asks handle ⟨batchSize, [⟨_, reply⟩], .ok (cursor.fresh batchSize batch)⟩ :=
        .handed rfl hreply rfl (length_freshHandles_le ..) (freshHandles_sublist ..)
      split at hrest
      next hempty =>
        obtain ⟨rfl, rfl⟩ := Program.plays_done.1 hrest
        refine ⟨[], _, _, .handed more positive room hreply (.nil _), rfl, ?_, by simp, .inl ?_, ?_⟩
        · exact List.forall_mem_singleton.2 ⟨rfl, asks⟩
        · exact congrArg Except.ok hempty
        · simp [hempty, Except.map]
      next hnew =>
        have hmore : (cursor.advance batchSize batch).exhausted = false := by simp [more, hnew]
        obtain ⟨pulls, ending, last, hands, rfl, hasks, hfinds, hending⟩ := ih batch hnew hmore hrest
        obtain ⟨first, others, hfirst⟩ := List.exists_cons_of_ne_nil hnew
        refine ⟨_ :: pulls, ending, last, .handed more positive room hreply hands, rfl, ?_, ?_, hending⟩
        · exact List.forall_mem_cons.2 ⟨⟨rfl, asks⟩, hasks⟩
        · exact List.forall_mem_cons.2 ⟨⟨first, others, congrArg _ hfirst⟩, hfinds⟩

/-- On an idle session the start of a search is put to the module. -/
theorem plays_startFind_of_idle {template : Template} {result : Except Error Unit}
    (isOpen : session.handle = some handle) (idle : session.active = .empty)
    (plays : (session.startFind template).Plays exchanges (result, after)) :
    ∃ started : Reply (.inSession handle (.findObjectsInit (session.wireTemplate template))),
      exchanges = [⟨_, started⟩] ∧ result = started.result ∧
        (∀ e, started.result = .error e → after = session) ∧
        (started.result = .ok () → after = { session with tracker := session.tracker.start .find }) := by
  have check : session.tracker.checkSearch = .ok () := by
    rw [Tracker.checkSearch, show session.tracker.active = .empty from idle]
    rfl
  unfold startFind at plays
  simp only [openHandle_of_open isOpen, check] at plays
  obtain ⟨_, hplays, heq⟩ := Program.plays_map.1 plays
  obtain ⟨started, rfl, rfl⟩ := Program.plays_request.1 hplays
  refine ⟨started, rfl, ?_⟩
  cases hstarted : started.result with
  | ok value =>
    rw [hstarted] at heq
    cases heq
    exact ⟨rfl, fun e h => (nomatch h), fun _ => rfl⟩
  | error e =>
    rw [hstarted] at heq
    cases heq
    exact ⟨rfl, fun e _ => rfl, fun h => nomatch h⟩

/-- The end of a search is put to the module, and no search runs after it. -/
theorem plays_endFind_of_open {result : Except Error Unit} (isOpen : session.handle = some handle)
    (plays : session.endFind.Plays exchanges (result, after)) :
    ∃ ended : Reply (.inSession handle .findObjectsFinal), exchanges = [⟨_, ended⟩] ∧
      result = ended.result ∧
      after = { session with tracker := session.tracker.finish (.single .find) } := by
  unfold endFind at plays
  simp only [openHandle_of_open isOpen] at plays
  obtain ⟨_, hplays, heq⟩ := Program.plays_map.1 plays
  obtain ⟨ended, rfl, rfl⟩ := Program.plays_request.1 hplays
  cases heq
  exact ⟨ended, rfl, rfl, rfl⟩

/-- The end of a search does not depend on how far the search has come. -/
theorem plays_endFind_withCursor {ended : Reply (.inSession handle .findObjectsFinal)}
    (isOpen : session.handle = some handle) (cursor : FindCursor) :
    ((session.withCursor cursor).perform .endFind).Plays [⟨_, ended⟩]
      (⟨ended.result, ()⟩, { session with tracker := session.tracker.finish (.single .find) }) := by
  unfold perform
  refine plays_plainly.2 ⟨ended.result, ?_, rfl⟩
  have stillOpen : (session.withCursor cursor).openHandle = .ok handle := openHandle_of_open isOpen
  simp only [endFind, stillOpen]
  refine Program.plays_map.2 ⟨_, Program.plays_request.2 ⟨ended, rfl, rfl⟩, ?_⟩
  simp [withCursor, Tracker.finish]

/-- A whole search can be made by requests one by one. -/
theorem Searching.run_whole {template : Template}
    {started : Reply (.inSession handle (.findObjectsInit (session.wireTemplate template)))}
    {ended : Reply (.inSession handle .findObjectsFinal)} (searching : middle.Searching handle cursor)
    (begins : (session.startFind template).Plays [⟨_, started⟩] (.ok (), middle))
    (hands : cursor.Hands handle pulls last) (positive : ∀ pull ∈ pulls, 0 < pull.max) :
    session.Run
      (⟨.startFind template, [⟨_, started⟩], ⟨.ok (), ()⟩⟩ ::
        (pulls.map Pull.event ++ [⟨.endFind, [⟨_, ended⟩], ⟨ended.result, ()⟩⟩]))
      { middle with tracker := middle.tracker.finish (.single .find) } := by
  refine @Run.cons _ middle _ _ _ _ _ ?_ ((searching.run_of_hands hands positive).append ?_)
  · unfold Session.perform
    exact plays_plainly.2 ⟨_, begins, rfl⟩
  · exact .cons (plays_endFind_withCursor searching.isOpen last) (.nil _)

/-- A search of all objects that does not start asks nothing else. One that starts is a start, calls for
handles, and an end. -/
theorem plays_findAll {template : Template} {result : Except Error (List Code)}
    (isOpen : session.handle = some handle) (idle : session.active = .empty)
    (plays : (session.findAll template).Plays exchanges (result, after)) :
    ∃ started : Reply (.inSession handle (.findObjectsInit (session.wireTemplate template))),
      (∃ e, started.result = .error e ∧ exchanges = [⟨_, started⟩] ∧ result = .error e ∧ after = session) ∨
      (started.result = .ok () ∧
        ∃ pulls ending last, ∃ ended : Reply (.inSession handle .findObjectsFinal),
          (session.startFind template).Plays [⟨_, started⟩]
            (.ok (), { session with tracker := session.tracker.start .find }) ∧
          FindCursor.start.Hands handle (pulls ++ [ending]) last ∧
          exchanges = ⟨_, started⟩ :: (pulls ++ [ending]).flatMap Pull.exchanges ++ [⟨_, ended⟩] ∧
          (∀ pull ∈ pulls ++ [ending], pull.max = batchSize ∧ pull.Asks handle) ∧
          (∀ pull ∈ pulls, pull.Finds) ∧
          (ending.result = .ok [] ∨ ∃ e, ending.result = .error e) ∧
          result = (ending.result.bind fun _ => ended.result.map fun () => last.returned) ∧
          after = { session with tracker := (session.tracker.start .find).finish (.single .find) }) := by
  unfold findAll at plays
  obtain ⟨first, rest, ⟨outcome, middle⟩, rfl, hstart, hrest⟩ := Program.plays_bind.1 plays
  obtain ⟨started, rfl, rfl, hfailed, hbegun⟩ := plays_startFind_of_idle isOpen idle hstart
  refine ⟨started, ?_⟩
  cases hstarted : started.result with
  | error e =>
    obtain rfl := hfailed e hstarted
    simp only [hstarted] at hrest
    obtain ⟨rfl, heq⟩ := Program.plays_done.1 hrest
    cases heq
    exact .inl ⟨e, rfl, rfl, rfl, rfl⟩
  | ok value =>
    have hmiddle := hbegun hstarted
    have stillOpen : middle.handle = some handle := hmiddle ▸ isOpen
    simp only [hstarted, openHandle_of_open stillOpen] at hstart hrest
    obtain ⟨collecting, ending, found, rfl, hcollect, hend⟩ := Program.plays_bind.1 hrest
    obtain ⟨⟨outcome, final⟩, hfinal, heq⟩ := Program.plays_map.1 hend
    cases heq
    obtain ⟨ended, rfl, rfl, rfl⟩ := plays_endFind_of_open stillOpen hfinal
    obtain ⟨pulls, ending, last, hands, rfl, hasks, hfinds, hending, rfl⟩ := plays_collect rfl hcollect
    subst hmiddle
    refine .inr ⟨rfl, pulls, ending, last, ended, hstart, hands, rfl, hasks, hfinds, hending, ?_, rfl⟩
    cases ending.result <;> rfl

/-! ## The main result -/

/-- A search of all objects comes to an end on every module, however it replies. If the search does not
start, the module is asked nothing else. If it starts, then calls for handles follow, of which all but the
last hand something out, and after them, as the last exchange, a single end of the search. The last call for
handles has handed out nothing or has failed. Its failure is the result, else the failure of the end is,
else the handles are, each once; if the module keeps to the limit, they are all that it has named. All this
is as if the caller had made the requests one by one, and nothing runs on the session afterwards. -/
theorem findAll_exact {σ : Type} (module : Module σ) (s : σ) {template : Template}
    (isOpen : session.handle = some handle) (idle : session.active = .empty) :
    ∃ exchanges result after, (session.findAll template).exchanges module s = exchanges ∧
      ((session.findAll template).run module s).1 = (result, after) ∧
      exchanges.length ≤ UInt64.size + 3 ∧ after.active = .empty ∧
      ∃ started : Reply (.inSession handle (.findObjectsInit (session.wireTemplate template))),
        (∀ e, started.result = .error e →
          exchanges = [⟨_, started⟩] ∧ result = .error e ∧ after = session) ∧
        (started.result = .ok () →
          ∃ pulls ending, ∃ ended : Reply (.inSession handle .findObjectsFinal),
            exchanges = ⟨_, started⟩ :: (pulls ++ [ending]).flatMap Pull.exchanges ++ [⟨_, ended⟩] ∧
            (∀ pull ∈ pulls ++ [ending], pull.max = batchSize ∧ pull.Asks handle) ∧
            (∀ pull ∈ pulls, pull.Finds) ∧
            (ending.result = .ok [] ∨ ∃ e, ending.result = .error e) ∧
            (∀ e, ending.result = .error e → result = .error e) ∧
            (∀ e, ending.result = .ok [] → ended.result = .error e → result = .error e) ∧
            (ending.result = .ok [] → ended.result = .ok () →
              result = .ok (pulls.flatMap Pull.handles)) ∧
            (pulls.flatMap Pull.handles).Nodup ∧
            ((∀ pull ∈ pulls, ∀ batch ∈ pull.batches, batch.length ≤ batchSize.toNat) →
              pulls.flatMap Pull.handles = (pulls.flatMap Pull.batches).flatten.eraseDups) ∧
            session.Run
              (⟨.startFind template, [⟨_, started⟩], ⟨.ok (), ()⟩⟩ ::
                ((pulls ++ [ending]).map Pull.event ++
                  [⟨.endFind, [⟨_, ended⟩], ⟨ended.result, ()⟩⟩])) after) := by
  have plays := Program.plays_run module (session.findAll template) s
  generalize (session.findAll template).exchanges module s = exchanges at plays ⊢
  generalize ((session.findAll template).run module s).1 = value at plays ⊢
  obtain ⟨result, after⟩ := value
  refine ⟨exchanges, result, after, rfl, rfl, ?_⟩
  obtain ⟨started, ⟨e, hstarted, rfl, rfl, rfl⟩ | ⟨hstarted, pulls, ending, last, ended, begins, hands, rfl,
    hasks, hfinds, hending, rfl, rfl⟩⟩ := plays_findAll isOpen idle plays
  · refine ⟨by simp, idle, started, ?_, fun h => by simp [hstarted] at h⟩
    intro e' h
    obtain rfl : e = e' := by simpa [hstarted] using h
    exact ⟨rfl, rfl, rfl⟩
  -- The last call for handles is cut off: all the others found something, and that bounds their number.
  obtain ⟨next, hfirst, -⟩ := hands.split
  refine ⟨?_, ?_, started, fun e h => by simp [hstarted] at h, fun _ => ?_⟩
  · -- Each call that found something took new handles out of the words there are.
    have hcount := hfirst.length_le hfinds
    simp only [List.length_append, List.length_cons, List.length_nil,
      length_flatMap_exchanges fun pull h => (hasks pull h).2]
    omega
  · rw [active, Tracker.active_finish, Tracker.active_start,
      show session.tracker.active = .empty from idle]
    decide
  refine ⟨pulls, ending, ended, rfl, hasks, hfinds, hending, ?_, ?_, ?_, hfirst.nodup, ?_, ?_⟩
  · intro e h
    rw [h]
    rfl
  · intro e h hended
    rw [h, hended]
    rfl
  · intro h hended
    have hlast : last.returned = pulls.flatMap Pull.handles := by
      simpa [FindCursor.start, Pull.handles, h] using hands.returned
    rw [h, hended, hlast]
    rfl
  · intro fits
    refine hfirst.handles_eq fun pull h => ?_
    rw [(hasks pull (List.mem_append_left _ h)).1]
    exact fits pull h
  · have searching : ({ session with tracker := session.tracker.start .find } : Session).Searching handle
        .start := ⟨isOpen, by simp, rfl⟩
    refine searching.run_whole begins hands fun pull h => ?_
    rw [(hasks pull h).1]
    decide

/-- A module that never runs out of handles: it answers each call for them with the next word. -/
def endless : Module Code where
  answer
    | .inSession _ (.findObjects _), next => (⟨.ok [next], ()⟩, next + 1)
    | .inSession _ (.findObjectsInit _), next | .inSession _ .findObjectsFinal, next => (⟨.ok (), ()⟩, next)
    | call, next => (.refuse call call.unsupported, next)

/-- Even where the module never runs out of handles the search comes to an end. -/
theorem findAll_exact_endless :
    ∃ exchanges result after,
      ((opened (.bare 1) 7).findAll .empty).exchanges endless 0 = exchanges ∧
      (((opened (.bare 1) 7).findAll .empty).run endless 0).1 = (result, after) ∧
      exchanges.length ≤ UInt64.size + 3 ∧ after.active = .empty := by
  have isOpen : (opened (.bare 1) 7).handle = some 7 := rfl
  obtain ⟨exchanges, result, after, hexchanges, hrun, hlength, hempty, -⟩ :=
    @findAll_exact 7 (opened (.bare 1) 7) Code endless 0 .empty isOpen rfl
  exact ⟨exchanges, result, after, hexchanges, hrun, hlength, hempty⟩

end Session

end TokenClient
