import TokenClient.Proofs.Session.Cancel

/-!
# The tracker and the history of a session

The tracker sums up what has passed between a session and the module. What each call means for an operation
is set down here call by call and without regard to the tracker: which calls start it, which ones conclude
it, which ones carry it on (`Start.Begins`, `Step.Concludes`, `Step.Feeds`, `MessageStep.Handles`). By these
an exchange starts an operation, ends it or belongs to it, and an operation runs after a sequence of
exchanges if one of them has started it and none has ended it since (`RunsAfter`).

The main result (`Session.active_iff_history`) says that this is just what the tracker lists, and that a
step reaches the module only while its operation runs. One lemma about a single exchange
(`Tracker.active_answered`) carries it; the rest is induction over dialogues and runs.
-/

namespace TokenClient

/-! ## What calls mean for operations -/

/-- The starts of an operation. -/
inductive Start.Begins : Start → Operation → Prop
  | encrypt (key : Code) : Begins (.encrypt key) .encrypt
  | decrypt (key : Code) : Begins (.decrypt key) .decrypt
  | digest : Begins .digest .digest
  | sign (key : Code) : Begins (.sign key) .sign
  | signRecover (key : Code) : Begins (.signRecover key) .signRecover
  | verify (key : Code) : Begins (.verify key) .verify
  | verifyRecover (key : Code) : Begins (.verifyRecover key) .verifyRecover
  | messageEncrypt (key : Code) : Begins (.messageEncrypt key) .messageEncrypt
  | messageDecrypt (key : Code) : Begins (.messageDecrypt key) .messageDecrypt
  | messageSign (key : Code) : Begins (.messageSign key) .messageSign
  | messageVerify (key : Code) : Begins (.messageVerify key) .messageVerify

/-- The steps that conclude an operation whatever the module says to them: the final ones, and those that
take all data at once. A message operation has only a final one. -/
inductive Step.Concludes : Step → Operation → Prop
  | encrypt (data : Bytes) : Concludes (.encrypt data) .encrypt
  | encryptFinal : Concludes .encryptFinal .encrypt
  | decrypt (data : Bytes) : Concludes (.decrypt data) .decrypt
  | decryptFinal : Concludes .decryptFinal .decrypt
  | digest (data : Bytes) : Concludes (.digest data) .digest
  | digestFinal : Concludes .digestFinal .digest
  | sign (data : Bytes) : Concludes (.sign data) .sign
  | signFinal : Concludes .signFinal .sign
  | signRecover (data : Bytes) : Concludes (.signRecover data) .signRecover
  | verify (data signature : Bytes) : Concludes (.verify data signature) .verify
  | verifyFinal (signature : Bytes) : Concludes (.verifyFinal signature) .verify
  | verifyRecover (signature : Bytes) : Concludes (.verifyRecover signature) .verifyRecover
  | messageEncryptFinal : Concludes .messageEncryptFinal .messageEncrypt
  | messageDecryptFinal : Concludes .messageDecryptFinal .messageDecrypt
  | messageSignFinal : Concludes .messageSignFinal .messageSign
  | messageVerifyFinal : Concludes .messageVerifyFinal .messageVerify

/-- The steps that carry an operation on, alone or together with another one. -/
inductive Step.Feeds : Step → Operation → Prop
  | encryptUpdate (data : Bytes) : Feeds (.encryptUpdate data) .encrypt
  | decryptUpdate (data : Bytes) : Feeds (.decryptUpdate data) .decrypt
  | digestUpdate (data : Bytes) : Feeds (.digestUpdate data) .digest
  | digestKey (key : Code) : Feeds (.digestKey key) .digest
  | signUpdate (data : Bytes) : Feeds (.signUpdate data) .sign
  | verifyUpdate (data : Bytes) : Feeds (.verifyUpdate data) .verify
  | digestOfEncrypt (data : Bytes) : Feeds (.digestEncryptUpdate data) .digest
  | encryptOfDigest (data : Bytes) : Feeds (.digestEncryptUpdate data) .encrypt
  | decryptOfDigest (data : Bytes) : Feeds (.decryptDigestUpdate data) .decrypt
  | digestOfDecrypt (data : Bytes) : Feeds (.decryptDigestUpdate data) .digest
  | signOfEncrypt (data : Bytes) : Feeds (.signEncryptUpdate data) .sign
  | encryptOfSign (data : Bytes) : Feeds (.signEncryptUpdate data) .encrypt
  | decryptOfVerify (data : Bytes) : Feeds (.decryptVerifyUpdate data) .decrypt
  | verifyOfDecrypt (data : Bytes) : Feeds (.decryptVerifyUpdate data) .verify

/-- The message steps of an operation. -/
inductive MessageStep.Handles : MessageStep → Operation → Prop
  | encrypt (params : MessageParams) (aad plaintext : Bytes) :
      Handles (.encrypt params aad plaintext) .messageEncrypt
  | encryptBegin (params : MessageParams) (aad : Bytes) :
      Handles (.encryptBegin params aad) .messageEncrypt
  | encryptNext (params : MessageParams) (part : Bytes) (last : Bool) :
      Handles (.encryptNext params part last) .messageEncrypt
  | decrypt (params : MessageParams) (aad ciphertext : Bytes) :
      Handles (.decrypt params aad ciphertext) .messageDecrypt
  | decryptBegin (params : MessageParams) (aad : Bytes) :
      Handles (.decryptBegin params aad) .messageDecrypt
  | decryptNext (params : MessageParams) (part : Bytes) (last : Bool) :
      Handles (.decryptNext params part last) .messageDecrypt
  | sign (params : Option MechanismParams) (data : Bytes) : Handles (.sign params data) .messageSign
  | signBegin (params : Option MechanismParams) : Handles (.signBegin params) .messageSign
  | signNext (params : Option MechanismParams) (part : Bytes) (last : Bool) :
      Handles (.signNext params part last) .messageSign
  | verify (params : Option MechanismParams) (data signature : Bytes) :
      Handles (.verify params data signature) .messageVerify
  | verifyBegin (params : Option MechanismParams) : Handles (.verifyBegin params) .messageVerify
  | verifyNext (params : Option MechanismParams) (part : Bytes) (signature : Option Bytes) :
      Handles (.verifyNext params part signature) .messageVerify

private theorem Start.begins_iff {start : Start} {op : Operation} : start.Begins op ↔ op = start.operation := by
  constructor
  · intro h
    cases h <;> rfl
  · rintro rfl
    cases start <;> constructor

/-- A step concludes the operations it is the last of. -/
private theorem Step.concludes_iff {step : Step} {op : Operation} :
    step.Concludes op ↔ step.isLast = true ∧ op ∈ step.operations := by
  constructor
  · intro h
    cases h <;> simp [isLast, operations]
  · rintro ⟨hlast, hop⟩
    cases step <;> simp only [isLast, Bool.false_eq_true] at hlast <;>
      obtain rfl := List.mem_singleton.1 hop <;> constructor

/-- It feeds them when it is not the last. -/
private theorem Step.feeds_iff {step : Step} {op : Operation} :
    step.Feeds op ↔ step.isLast = false ∧ op ∈ step.operations := by
  constructor
  · intro h
    cases h <;> simp [isLast, operations]
  · rintro ⟨hlast, hop⟩
    cases step <;> simp only [isLast, Bool.true_eq_false] at hlast <;>
      simp only [operations, List.mem_cons, List.not_mem_nil, or_false] at hop
    case digestEncryptUpdate | decryptDigestUpdate | signEncryptUpdate | decryptVerifyUpdate =>
      obtain rfl | rfl := hop <;> constructor
    all_goals
      subst hop
      constructor

private theorem MessageStep.handles_iff {step : MessageStep} {op : Operation} :
    step.Handles op ↔ step.operation = op := by
  constructor
  · intro h
    cases h <;> rfl
  · rintro rfl
    cases step <;> constructor

/-! ## What exchanges mean for operations -/

namespace Exchange

/-- An exchange that starts an operation: the module has agreed to a start of it. -/
def Starts (op : Operation) : Exchange → Prop
  | ⟨.inSession _ (.start start _), reply⟩ => start.Begins op ∧ reply.result = .ok ()
  | ⟨.inSession _ (.findObjectsInit _), reply⟩ => op = .find ∧ reply.result = .ok ()
  | _ => False

/-- An exchange that ends an operation. A message step never does, nor a call for further handles. -/
def Ends (op : Operation) : Exchange → Prop
  | ⟨.inSession _ (.step step), reply⟩ =>
    step.Concludes op ∨ step.Feeds op ∧ ∃ e, reply.result = .error e
  | ⟨.inSession _ .findObjectsFinal, _⟩ => op = .find
  | ⟨.inSession _ (.sessionCancel flags), reply⟩ => Session.Names flags op ∧ reply.result = .ok ()
  | ⟨.inSession _ (.setOperationState _ _ _), reply⟩ => reply.result = .ok ()
  | ⟨.inSession _ .closeSession, _⟩ => True
  | _ => False

/-- An exchange by which an operation that runs is used or concluded. The end of a search is left out: it
always reaches the module. -/
def Uses (op : Operation) : Exchange → Prop
  | ⟨.inSession _ (.step step), _⟩ => step.Concludes op ∨ step.Feeds op
  | ⟨.inSession _ (.message step), _⟩ => step.Handles op
  | ⟨.inSession _ (.findObjects _), _⟩ => op = .find
  | _ => False

end Exchange

/-- An operation runs after some exchanges: one of them has started it, and none has ended it since. -/
def RunsAfter (exchanges : List Exchange) (op : Operation) : Prop :=
  ∃ before start later, exchanges = before ++ start :: later ∧ start.Starts op ∧
    ∀ exchange ∈ later, ¬ exchange.Ends op

private theorem not_runsAfter_nil (op : Operation) : ¬ RunsAfter [] op := by
  rintro ⟨before, start, later, heq, -⟩
  simp at heq

/-- After one more exchange an operation runs if that exchange has started it, or if it ran before and the
exchange has not ended it. -/
theorem runsAfter_concat {exchanges : List Exchange} {exchange : Exchange} {op : Operation} :
    RunsAfter (exchanges ++ [exchange]) op ↔
      exchange.Starts op ∨ RunsAfter exchanges op ∧ ¬ exchange.Ends op := by
  constructor
  · rintro ⟨before, start, later, heq, hstart, hlater⟩
    obtain rfl | ⟨others, last, rfl⟩ := List.eq_nil_or_concat later
    · obtain ⟨-, rfl⟩ := List.append_singleton_inj.1 heq
      exact .inl hstart
    · rw [List.concat_eq_append] at heq hlater
      have hsplit : exchanges ++ [exchange] = (before ++ start :: others) ++ [last] := by simp [heq]
      obtain ⟨rfl, rfl⟩ := List.append_singleton_inj.1 hsplit
      refine .inr ⟨⟨before, start, others, rfl, hstart, ?_⟩, hlater _ (by simp)⟩
      exact fun e he => hlater e (List.mem_append_left _ he)
  · rintro (hstart | ⟨⟨before, start, later, rfl, hstart, hlater⟩, hends⟩)
    · exact ⟨exchanges, exchange, [], rfl, hstart, by simp⟩
    · refine ⟨before, start, later ++ [exchange], by simp, hstart, ?_⟩
      intro e he
      obtain he | he := List.mem_append.1 he
      · exact hlater e he
      · exact List.mem_singleton.1 he ▸ hends

/-! ## One exchange -/

/-- What an exchange does to the operations that run, as the tracker sees it, is what it means for them. -/
theorem Tracker.active_answered {tracker : Tracker} {handle : Code} {command : Command}
    {reply : Reply (.inSession handle command)} {op : Operation} :
    (tracker.answered command reply.result).active.contains op = true ↔
      Exchange.Starts op ⟨.inSession handle command, reply⟩ ∨
        tracker.active.contains op = true ∧ ¬ Exchange.Ends op ⟨.inSession handle command, reply⟩ := by
  cases command with
  | closeSession => simp [answered, idle, Exchange.Starts, Exchange.Ends]
  | findObjectsFinal => simp [answered, Exchange.Starts, Exchange.Ends]
  | setOperationState _ _ _ =>
    cases hreply : reply.result <;> simp [answered, idle, Exchange.Starts, Exchange.Ends, hreply]
  | sessionCancel flags =>
    cases hreply : reply.result <;>
      simp [answered, Exchange.Starts, Exchange.Ends, Session.Names, hreply]
  | start start mechanism =>
    cases hreply : reply.result <;>
      simp [answered, Exchange.Starts, Exchange.Ends, Start.begins_iff, hreply]
  | findObjectsInit template =>
    cases hreply : reply.result <;> simp [answered, Exchange.Starts, Exchange.Ends, hreply]
  | step step =>
    cases hreply : reply.result <;> cases hlast : step.isLast <;>
      simp [answered, Exchange.Starts, Exchange.Ends, Step.concludes_iff, Step.feeds_iff, hreply, hlast,
        Except.isOk, Except.toBool]
  | message step => simp [answered, Exchange.Starts, Exchange.Ends]
  | findObjects max => cases reply.result <;> simp [answered, Exchange.Starts, Exchange.Ends]
  | _ => simp [answered, Exchange.Starts, Exchange.Ends]

/-- The tracker lets a call of an operation through only if it lists the operation. -/
theorem Tracker.Admits.active {tracker : Tracker} {handle : Code} {command : Command}
    {reply : Reply (.inSession handle command)} {op : Operation} (admits : tracker.Admits command)
    (uses : Exchange.Uses op ⟨.inSession handle command, reply⟩) :
    tracker.active.contains op = true := by
  cases command with
  | step step =>
    have hop : op ∈ step.operations := by
      obtain h | h := uses
      · exact (Step.concludes_iff.1 h).2
      · exact (Step.feeds_iff.1 h).2
    exact (checkAll_eq_ok_iff _ _).1 admits op hop
  | message step =>
    rw [← MessageStep.handles_iff.1 uses]
    exact (checkMessage_eq_ok_iff.1 admits).1
  | findObjects max =>
    rw [show op = .find from uses]
    exact (checkActive_eq_ok_iff _ _).1 admits.1
  | _ => exact uses.elim

namespace Session

variable {session after : Session} {past exchanges : List Exchange} {events : List Event}

/-- The tracker lists exactly the operations that run after some exchanges. -/
def Tracks (session : Session) (past : List Exchange) : Prop :=
  ∀ op, session.active.contains op = true ↔ RunsAfter past op

/-- Among further exchanges an operation is used only where it runs. -/
def UsesRunning (past exchanges : List Exchange) : Prop :=
  ∀ op before exchange later, exchanges = before ++ exchange :: later → exchange.Uses op →
    RunsAfter (past ++ before) op

private theorem usesRunning_nil (past : List Exchange) : UsesRunning past [] := by
  intro op before exchange later heq
  simp at heq

/-- An exchange that uses what runs, and more of them after it. -/
theorem UsesRunning.cons {exchange : Exchange} (first : ∀ op, exchange.Uses op → RunsAfter past op)
    (rest : UsesRunning (past ++ [exchange]) exchanges) : UsesRunning past (exchange :: exchanges) := by
  intro op before used later heq uses
  cases before with
  | nil =>
    cases heq
    simpa using first op uses
  | cons other before =>
    cases heq
    simpa using rest op before used later rfl uses

/-- Histories that use what runs follow one another. -/
theorem UsesRunning.append {later : List Exchange} (first : UsesRunning past exchanges)
    (rest : UsesRunning (past ++ exchanges) later) : UsesRunning past (exchanges ++ later) := by
  induction exchanges generalizing past with
  | nil => simpa using rest
  | cons exchange exchanges ih =>
    refine UsesRunning.cons ?_ (ih ?_ ?_)
    · intro op uses
      simpa using first op [] exchange exchanges rfl uses
    · intro op before used others heq uses
      simpa using first op (exchange :: before) used others (by rw [heq]; rfl) uses
    · simpa using rest

/-- Along a dialogue the tracker stays with the history, and the exchanges use what runs. -/
theorem Dialogue.tracks (dialogue : session.Dialogue exchanges after) (tracks : session.Tracks past) :
    after.Tracks (past ++ exchanges) ∧ UsesRunning past exchanges := by
  induction dialogue generalizing past with
  | nil => exact ⟨by simpa using tracks, usesRunning_nil past⟩
  | @cons session after handle command reply exchanges isOpen admits _ ih =>
    have hanswered : (session.answered command reply.result).Tracks
        (past ++ [⟨.inSession handle command, reply⟩]) := by
      intro op
      rw [runsAfter_concat, ← tracks op, active, tracker_answered]
      exact Tracker.active_answered
    obtain ⟨hafter, huses⟩ := ih hanswered
    refine ⟨by simpa using hafter, huses.cons ?_⟩
    intro op uses
    exact (tracks op).1 (admits.active uses)

/-- The same of a request. -/
theorem tracks_perform {request : Request} {answer : request.Answer}
    (plays : (session.perform request).Plays exchanges (answer, after)) (tracks : session.Tracks past) :
    after.Tracks (past ++ exchanges) ∧ UsesRunning past exchanges := by
  obtain dialogue | ⟨dialogue, -, known, rfl⟩ | ⟨rfl, step, -, -, rfl⟩ := perform_dialogue plays
  · exact dialogue.tracks tracks
  · exact dialogue.tracks tracks
  · refine ⟨?_, usesRunning_nil past⟩
    intro op
    simpa [Session.afterMessage, active] using tracks op

/-- The exchanges of a sequence of events, one after the other. -/
def history (events : List Event) : List Exchange := events.flatMap Event.exchanges

/-- Along a whole run the tracker stays with the history, by induction over its events. -/
theorem Run.tracks (run : session.Run events after) (tracks : session.Tracks past) :
    after.Tracks (past ++ history events) ∧ UsesRunning past (history events) := by
  induction run generalizing past with
  | nil => exact ⟨by simpa [history] using tracks, usesRunning_nil past⟩
  | cons plays _ ih =>
    obtain ⟨hmiddle, hfirst⟩ := tracks_perform plays tracks
    obtain ⟨hafter, hrest⟩ := ih hmiddle
    exact ⟨by simpa [history] using hafter, hfirst.append hrest⟩

/-! ## The main result -/

/-- The requests that start an operation. -/
def Initiates : Request → Prop
  | .start _ _ | .startFind _ => True
  | _ => False

/-- A start that fails leaves no trace in the session. -/
theorem eq_of_failed_start {request : Request} {answer : request.Answer} {e : Error}
    (initiates : Initiates request)
    (plays : (session.perform request).Plays exchanges (answer, after))
    (failed : answer.result = .error e) : after = session := by
  unfold perform at plays
  cases request with
  | start start mechanism =>
    obtain ⟨result, hplays, rfl⟩ := plays_plainly.1 plays
    obtain ⟨-, rfl⟩ | ⟨handle, reply, -, -, -, rfl, rfl⟩ :=
      relays_start session start mechanism _ _ _ hplays
    · rfl
    · rw [show reply.result = .error e from failed]
      rfl
  | startFind template =>
    obtain ⟨result, hplays, rfl⟩ := plays_plainly.1 plays
    obtain ⟨-, rfl⟩ | ⟨handle, reply, -, -, -, rfl, rfl⟩ :=
      relays_startFind session template _ _ _ hplays
    · rfl
    · rw [show reply.result = .error e from failed]
      rfl
  | _ => exact initiates.elim

/-- The end of a search reaches the module, whatever the tracker knows. -/
theorem plays_endFind {handle : Code} (isOpen : session.handle = some handle)
    {answer : Request.endFind.Answer}
    (plays : (session.perform .endFind).Plays exchanges (answer, after)) :
    ∃ reply, exchanges = [⟨.inSession handle .findObjectsFinal, reply⟩] := by
  unfold perform at plays
  obtain ⟨result, hplays, -⟩ := plays_plainly.1 plays
  rw [endFind, openHandle_of_open isOpen] at hplays
  obtain ⟨_, hrequest, -⟩ := Program.plays_map.1 hplays
  obtain ⟨reply, rfl, -⟩ := Program.plays_request.1 hrequest
  exact ⟨reply, rfl⟩

/-- After any run the tracker lists an operation exactly if it has been started in the run and nothing has
ended it since. Only operations that ran have been used; the end of a search alone is passed on in any
case. A start that fails changes nothing. -/
theorem active_iff_history {token : Token} {handle : Code}
    (run : (opened token handle).Run events session) :
    (∀ op, session.active.contains op = true ↔ RunsAfter (history events) op) ∧
    (∀ op before exchange later, history events = before ++ exchange :: later → exchange.Uses op →
      RunsAfter before op) ∧
    (∀ handle exchanges (answer : Request.endFind.Answer) after, session.handle = some handle →
      (session.perform .endFind).Plays exchanges (answer, after) →
        ∃ reply, exchanges = [⟨.inSession handle .findObjectsFinal, reply⟩]) ∧
    ∀ request exchanges (answer : request.Answer) after e, Initiates request →
      (session.perform request).Plays exchanges (answer, after) → answer.result = .error e →
        after = session := by
  have fresh : (opened token handle).Tracks [] := by
    intro op
    simp [opened, active, Tracker.idle, not_runsAfter_nil]
  obtain ⟨tracks, uses⟩ := run.tracks fresh
  refine ⟨tracks, ?_, ?_, ?_⟩
  · intro op before exchange later heq used
    exact uses op before exchange later heq used
  · intro handle exchanges answer after isOpen plays
    exact plays_endFind isOpen plays
  · intro request exchanges answer after e initiates plays failed
    exact eq_of_failed_start initiates plays failed

/-- A digest and an encryption are started and fed together, then the end of the encryption fails. -/
def pairedEvents (handle : Code) (data : Bytes) (e : Error) : List Event :=
  [⟨.start .digest ⟨0, .none⟩,
      [⟨.inSession handle (.start .digest ⟨0, .none⟩), ⟨.ok (), ()⟩⟩], ⟨.ok (), ()⟩⟩,
    ⟨.start (.encrypt 5) ⟨0, .none⟩,
      [⟨.inSession handle (.start (.encrypt 5) ⟨0, .none⟩), ⟨.ok (), ()⟩⟩], ⟨.ok (), ()⟩⟩,
    ⟨.step (.digestEncryptUpdate data),
      [⟨.inSession handle (.step (.digestEncryptUpdate data)), ⟨.ok data, ()⟩⟩], ⟨.ok data, ()⟩⟩,
    ⟨.step .encryptFinal,
      [⟨.inSession handle (.step .encryptFinal), ⟨.error e, ()⟩⟩], ⟨.error e, ()⟩⟩]

private theorem run_pairedEvents (slot handle : Code) (data : Bytes) (e : Error) :
    (opened (.bare slot) handle).Run (pairedEvents handle data e)
      { opened (.bare slot) handle with
        tracker := ((Tracker.idle.start .digest).start .encrypt).finish (.ofList [.encrypt]) } :=
  .cons (.ask _ (.done _)) (.cons (.ask _ (.done _)) (.cons (.ask _ (.done _))
    (.cons (.ask _ (.done _)) (.nil _))))

/-- Of the two operations only the encryption has ended. -/
theorem active_iff_history_paired :
    RunsAfter (history (pairedEvents 7 [1, 2] .sessionClosed)) .digest ∧
      ¬ RunsAfter (history (pairedEvents 7 [1, 2] .sessionClosed)) .encrypt := by
  obtain ⟨tracks, -⟩ := active_iff_history (run_pairedEvents 1 7 [1, 2] .sessionClosed)
  refine ⟨(tracks .digest).1 (by decide), ?_⟩
  rw [← tracks .encrypt]
  decide

end Session

end TokenClient
