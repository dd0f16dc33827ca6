import TokenClient.Proofs.Session.Dialogue

/-!
# What always holds of a session

The tracker keeps three things, and they have to fit each other at all times: the operations that run,
whether a message has begun, and the cursor of a search (`Tracker.Sound`). The sets of operations that can
run together are few (`OperationSet.Compatible`), and searches and message operations are always alone.

Each exchange that the tracker lets through keeps this, whatever the module replies
(`Tracker.Sound.answered`), and so do dialogues, refused message steps and hence all requests. A closed
session has an idle tracker besides (`Session.Sound`). The main result puts this together for all reachable
sessions, and adds that a search never fails for want of a cursor.
-/

namespace TokenClient

/-! ## Operations that can run together -/

namespace OperationSet

/-- The sets of operations that run at the same time: none, a single one, or a dual pair. -/
def Compatible (s : OperationSet) : Prop := s = .empty ∨ (∃ op, s = .single op) ∨ s ∈ dualPairs

/-- Sets of operations are determined by their members. -/
private theorem ofPred_congr {p q : Operation → Bool} (h : ∀ op, p op = true ↔ q op = true) :
    ofPred p = ofPred q :=
  congrArg ofPred (funext fun op => Bool.eq_iff_iff.2 (h op))

/-- A set is reported as empty iff it is the empty one. -/
theorem isEmpty_iff {s : OperationSet} : s.isEmpty = true ↔ s = .empty := by
  cases s
  simp [isEmpty, empty]

/-- A property holds of some member iff it is found. -/
theorem any_eq_true_iff {s : OperationSet} {p : Operation → Bool} :
    s.any p = true ↔ ∃ op, s.contains op = true ∧ p op = true := by
  simp [any, contains]

/-- Among the members of a dual pair there is neither a search nor a message operation. -/
theorem not_exclusive_of_mem_dualPairs {s : OperationSet} (h : s ∈ dualPairs) {op : Operation}
    (hop : s.contains op = true) : op.isExclusive = false := by
  have all : ∀ s ∈ dualPairs, ∀ op ∈ Operation.all, s.contains op = true → op.isExclusive = false := by
    decide
  exact all s h op op.mem_all hop

/-- Searches and message operations run alone. -/
theorem Compatible.alone {s : OperationSet} (h : s.Compatible) {op : Operation}
    (hop : s.contains op = true) (exclusive : op.isExclusive = true) : s = .single op := by
  obtain rfl | ⟨other, rfl⟩ | hpair := h
  · simp at hop
  · obtain rfl : op = other := by simpa using hop
    rfl
  · rw [not_exclusive_of_mem_dualPairs hpair hop] at exclusive
    cases exclusive

private theorem empty_diff (t : OperationSet) : empty.diff t = .empty := by
  have h : empty.diff t = ofPred fun _ => false := ofPred_congr fun op => by simp
  rw [h]
  decide

private theorem single_diff (op : Operation) (t : OperationSet) :
    (single op).diff t = if t.contains op then .empty else .single op := by
  split
  next h =>
    rw [← empty_diff t]
    apply ofPred_congr
    intro o
    by_cases ho : o = op
    · simp [ho, h]
    · simp [ho]
  next h =>
    apply ofPred_congr
    intro o
    by_cases ho : o = op
    · simp [ho, h]
    · simp [ho]

/-- Of a pair, the operations that are not taken away remain. -/
theorem pair_diff (a b : Operation) (t : OperationSet) :
    (ofList [a, b]).diff t =
      if t.contains a then (single b).diff t
      else if t.contains b then (single a).diff t
      else ofList [a, b] := by
  -- One operation less at a time: the sets are compared member by member.
  split
  next ha =>
    apply ofPred_congr
    intro o
    by_cases ho : o = a
    · simp [ho, ha]
    · simp [ho]
  next ha =>
    split
    next hb =>
      apply ofPred_congr
      intro o
      by_cases ho : o = b
      · simp [ho, hb]
      · simp [ho]
    next hb =>
      apply ofPred_congr
      intro o
      by_cases ho : o = a ∨ o = b
      · obtain rfl | rfl := ho
        · simp [ha]
        · simp [hb]
      · simp [not_or.1 ho]

/-- What is left of a single operation is compatible. -/
private theorem Compatible.single_diff (op : Operation) (t : OperationSet) :
    ((OperationSet.single op).diff t).Compatible := by
  rw [OperationSet.single_diff]
  split
  next => exact .inl rfl
  next => exact .inr (.inl ⟨op, rfl⟩)

/-- What remains of operations that run together can run together. -/
theorem Compatible.diff {s : OperationSet} (h : s.Compatible) (t : OperationSet) :
    (s.diff t).Compatible := by
  obtain rfl | ⟨op, rfl⟩ | hpair := h
  · exact .inl (empty_diff t)
  · exact .single_diff op t
  · obtain ⟨a, b, rfl⟩ : ∃ a b, s = ofList [a, b] := by
      simp only [dualPairs, List.mem_cons, List.not_mem_nil, or_false] at hpair
      obtain rfl | rfl | rfl | rfl := hpair <;> exact ⟨_, _, rfl⟩
    rw [pair_diff]
    split
    next => exact .single_diff b t
    next =>
      split
      next => exact .single_diff a t
      next => exact .inr (.inr hpair)

private theorem empty_insert (op : Operation) : empty.insert op = .single op :=
  ofPred_congr fun o => by simp

end OperationSet

/-! ## The tracker -/

/-- Whether a step stands inside its message, after the beginning. -/
def MessageStep.Place.isPart : Place → Bool
  | whole | begin => false
  | part _ => true

/-- A message step is of a message operation. -/
theorem MessageStep.isMessage_operation (step : MessageStep) : step.operation.isMessage = true := by
  cases step <;> rfl

/-- A message operation shares the session with no other. -/
theorem Operation.isExclusive_of_isMessage {op : Operation} (h : op.isMessage = true) :
    op.isExclusive = true := by
  simp [isExclusive, h]

namespace Tracker

variable {tracker later : Tracker} {op : Operation}

/-- What a tracker keeps fits together. -/
structure Sound (tracker : Tracker) : Prop where
  compatible : tracker.active.Compatible
  cursor_iff : tracker.cursor.isSome = true ↔ tracker.active.contains .find = true
  message : tracker.messageBegun = true → ∃ op, op.isMessage = true ∧ tracker.active = .single op

/-- A fresh tracker is sound. -/
theorem sound_idle : idle.Sound where
  compatible := .inl rfl
  cursor_iff := by simp [idle]
  message := by simp [idle]

/-- A start that passes finds nothing active, or makes one of the dual pairs with what is. -/
private theorem checkStart_ok (h : tracker.checkStart op = .ok ()) :
    tracker.active = .empty ∨
      tracker.active.any Operation.isExclusive = false ∧
        tracker.active.insert op ∈ OperationSet.dualPairs := by
  unfold checkStart at h
  split at h
  next hempty => exact .inl (OperationSet.isEmpty_iff.1 hempty)
  next =>
    split at h
    next => cases h
    next =>
      split at h
      next => cases h
      next hbusy =>
        split at h
        next hpair =>
          simp only [Bool.or_eq_true, not_or, Bool.not_eq_true] at hbusy
          exact .inr ⟨hbusy.1, List.contains_iff_mem.1 hpair⟩
        next => cases h

/-- A search may start only where any operation may. -/
theorem checkStart_of_checkSearch (h : tracker.checkSearch = .ok ()) (op : Operation) :
    tracker.checkStart op = .ok () := by
  unfold checkSearch at h
  split at h
  next hempty => simp [checkStart, hempty]
  next => cases h

/-- A message step passes iff its operation is active and the message stands where the step takes it up. -/
theorem checkMessage_eq_ok_iff {place : MessageStep.Place} :
    tracker.checkMessage op place = .ok () ↔
      tracker.active.contains op = true ∧ tracker.messageBegun = place.isPart := by
  unfold checkMessage checkActive
  by_cases hactive : tracker.active.contains op = true
  · cases place <;> cases hbegun : tracker.messageBegun <;> simp [hactive, MessageStep.Place.isPart]
  · simp [hactive]

/-- Starting an operation that passed the check keeps a tracker sound. -/
theorem Sound.start (sound : tracker.Sound) (check : tracker.checkStart op = .ok ()) :
    (tracker.start op).Sound where
  compatible := by
    obtain hempty | ⟨-, hpair⟩ := checkStart_ok check
    · rw [active_start, hempty, OperationSet.empty_insert]
      exact .inr (.inl ⟨op, rfl⟩)
    · exact .inr (.inr hpair)
  cursor_iff := by
    by_cases hop : op = .find
    · simp [Tracker.start, hop]
    · have hne : ¬ Operation.find = op := fun h => hop h.symm
      simpa [Tracker.start, hop, hne] using sound.cursor_iff
  message := by
    intro hbegun
    obtain ⟨running, hmessage, hactive⟩ := sound.message hbegun
    have hrunning : tracker.active.contains running = true := by simp [hactive]
    -- While a message operation runs nothing starts.
    obtain hempty | ⟨hbusy, -⟩ := checkStart_ok check
    · simp [hempty] at hrunning
    · have hexclusive : tracker.active.any Operation.isExclusive = true :=
        OperationSet.any_eq_true_iff.2
          ⟨running, hrunning, Operation.isExclusive_of_isMessage hmessage⟩
      rw [hbusy] at hexclusive
      cases hexclusive

/-- Where nothing runs, no message has begun. -/
theorem Sound.messageBegun_of_idle (sound : tracker.Sound) (idle : tracker.active = .empty) :
    tracker.messageBegun = false := by
  cases begun : tracker.messageBegun with
  | false => rfl
  | true =>
    obtain ⟨op, -, alone⟩ := sound.message begun
    have running : tracker.active.contains op = true := by simp [alone]
    rw [idle, OperationSet.contains_empty] at running
    cases running

/-- Ending operations, whichever they are, keeps a tracker sound. -/
theorem Sound.finish (sound : tracker.Sound) (ops : OperationSet) : (tracker.finish ops).Sound where
  compatible := sound.compatible.diff ops
  cursor_iff := by
    by_cases hfind : ops.contains .find = true
    · simp [Tracker.finish, hfind]
    · simpa [Tracker.finish, hfind] using sound.cursor_iff
  message := by
    intro hbegun
    simp only [Tracker.finish, Bool.and_eq_true, Bool.not_eq_true'] at hbegun
    obtain ⟨running, hmessage, hactive⟩ := sound.message hbegun.1
    refine ⟨running, hmessage, ?_⟩
    have hkept : ops.contains running ≠ true := by
      intro h
      have hany : ops.any Operation.isMessage = true :=
        OperationSet.any_eq_true_iff.2 ⟨running, h, hmessage⟩
      rw [hbegun.2] at hany
      cases hany
    rw [active_finish, hactive, OperationSet.single_diff, if_neg hkept]

/-- Only whether a message has begun differs, and it has not begun where it had not before. -/
theorem Sound.of_message_ended (sound : tracker.Sound) (active : later.active = tracker.active)
    (cursor : later.cursor = tracker.cursor)
    (message : later.messageBegun = true → tracker.messageBegun = true) : later.Sound where
  compatible := active ▸ sound.compatible
  cursor_iff := by rw [active, cursor]; exact sound.cursor_iff
  message := fun h => active ▸ sound.message (message h)

/-- A failed message step keeps a tracker sound. -/
private theorem Sound.afterMessage_failed (sound : tracker.Sound) (place : MessageStep.Place) :
    (tracker.afterMessage place false).Sound := by
  apply sound.of_message_ended (active_afterMessage ..) (cursor_afterMessage ..)
  cases place <;> simp [afterMessage]

/-- So does one that passed the check, whatever the token answered. -/
theorem Sound.afterMessage (sound : tracker.Sound) {place : MessageStep.Place}
    (message : op.isMessage = true) (check : tracker.checkMessage op place = .ok ())
    (succeeded : Bool) : (tracker.afterMessage place succeeded).Sound where
  compatible := active_afterMessage tracker place succeeded ▸ sound.compatible
  cursor_iff := by simpa using sound.cursor_iff
  message := by
    intro _
    rw [active_afterMessage]
    have hactive := (checkMessage_eq_ok_iff.1 check).1
    exact ⟨op, message, sound.compatible.alone hactive (Operation.isExclusive_of_isMessage message)⟩

/-- An exchange that is let through keeps a tracker sound, whatever the module replies. -/
theorem Sound.answered (sound : tracker.Sound) {command : Command} (admits : tracker.Admits command)
    (result : Except Error command.Result) : (tracker.answered command result).Sound := by
  cases command with
  | closeSession => exact sound_idle
  | setOperationState _ _ _ =>
    cases result with
    | error e => exact sound
    | ok value => exact sound_idle
  | start start mechanism =>
    cases result with
    | error e => exact sound
    | ok value => exact sound.start admits
  | step step =>
    simp only [Tracker.answered]
    split
    next => exact sound.finish _
    next => exact sound
  | message step => exact sound.afterMessage step.isMessage_operation admits _
  | sessionCancel flags =>
    cases result with
    | error e => exact sound
    | ok value => exact sound.finish _
  | findObjectsInit template =>
    cases result with
    | error e => exact sound
    | ok value => exact sound.start (checkStart_of_checkSearch admits .find)
  | findObjects max =>
    cases result with
    | error e => exact sound
    | ok batch =>
      exact ⟨sound.compatible, by simpa [Tracker.answered] using sound.cursor_iff, sound.message⟩
  | findObjectsFinal => exact sound.finish _
  | _ => exact sound

end Tracker

/-! ## Sessions -/

namespace Session

variable {session after : Session} {exchanges : List Exchange}

/-- The tracker of a session is sound, and idle once the session is closed. -/
structure Sound (session : Session) : Prop where
  tracker : session.tracker.Sound
  idle_of_closed : session.handle = none → session.tracker = .idle

/-- An admitted command keeps a session sound. -/
theorem Sound.answered (sound : session.Sound) {handle : Code} (isOpen : session.handle = some handle)
    {command : Command} (admits : session.tracker.Admits command)
    (result : Except Error command.Result) : (session.answered command result).Sound := by
  have htracker := sound.tracker.answered admits result
  cases command with
  | closeSession => exact ⟨Tracker.sound_idle, fun _ => rfl⟩
  | _ =>
    refine ⟨htracker, ?_⟩
    intro closed
    rw [show session.handle = none from closed] at isOpen
    cases isOpen

/-- A dialogue keeps a session sound, by induction over its exchanges. -/
theorem Sound.dialogue (sound : session.Sound) (dialogue : session.Dialogue exchanges after) :
    after.Sound := by
  induction dialogue with
  | nil => exact sound
  | cons isOpen admits _ ih => exact ih (sound.answered isOpen admits _)

/-- Every request keeps a session sound, whatever the module replies. -/
theorem Sound.perform (sound : session.Sound) {request : Request} {answer : request.Answer}
    (plays : (session.perform request).Plays exchanges (answer, after)) : after.Sound := by
  obtain dialogue | ⟨-, -, known, rfl⟩ | ⟨-, step, -, -, rfl⟩ := perform_dialogue plays
  · exact sound.dialogue dialogue
  · exact ⟨sound.tracker, sound.idle_of_closed⟩
  · refine ⟨sound.tracker.afterMessage_failed step.place, ?_⟩
    intro closed
    simp only [Session.afterMessage, sound.idle_of_closed closed]
    cases step.place <;> rfl

/-- Every reachable session is sound. -/
theorem Reachable.sound (reachable : session.Reachable) : session.Sound :=
  reachable.of_kept (fun _ _ => ⟨Tracker.sound_idle, fun _ => rfl⟩) fun sound plays => sound.perform plays

/-- The message of an operation has begun and is not yet complete. -/
def InMessage (session : Session) (op : Operation) : Prop :=
  op.isMessage = true ∧ session.active.contains op = true ∧ session.tracker.messageBegun = true

/-- In a sound session the flag is set iff some operation is in a message. -/
theorem Sound.messageBegun_iff (sound : session.Sound) :
    session.tracker.messageBegun = true ↔ ∃ op, session.InMessage op := by
  constructor
  · intro hbegun
    obtain ⟨op, hmessage, hactive⟩ := sound.tracker.message hbegun
    exact ⟨op, hmessage, by simp [active, hactive], hbegun⟩
  · rintro ⟨op, -, -, hbegun⟩
    exact hbegun

/-- The operation whose message has begun is the only one that runs. -/
theorem Sound.active_of_inMessage (sound : session.Sound) {op : Operation}
    (inMessage : session.InMessage op) : session.active = .single op :=
  sound.tracker.compatible.alone inMessage.2.1 (Operation.isExclusive_of_isMessage inMessage.1)

/-- A sound session that is in a message is open. -/
theorem Sound.open_of_inMessage (sound : session.Sound) {op : Operation}
    (inMessage : session.InMessage op) : ∃ handle, session.handle = some handle := by
  cases hhandle : session.handle with
  | some handle => exact ⟨handle, rfl⟩
  | none =>
    have hbegun := inMessage.2.2
    rw [sound.idle_of_closed hhandle] at hbegun
    cases hbegun

/-- A part of a message in progress is let through. -/
theorem Sound.admitMessage_part (sound : session.Sound) {step : MessageStep}
    (part : step.place.isPart = true) (inMessage : session.InMessage step.operation) :
    ∃ handle, session.admitMessage step = .ok handle := by
  obtain ⟨handle, isOpen⟩ := sound.open_of_inMessage inMessage
  refine ⟨handle, admitMessage_eq_ok_iff.2 ⟨isOpen, Tracker.checkMessage_eq_ok_iff.2 ?_⟩⟩
  exact ⟨inMessage.2.1, inMessage.2.2.trans part.symm⟩

/-- Each message operation has a last part. -/
theorem exists_lastPart {op : Operation} (message : op.isMessage = true) :
    ∃ step : MessageStep, step.operation = op ∧ step.place = .part true := by
  cases op with
  | messageEncrypt => exact ⟨.encryptNext (.chaCha20Poly1305 [] []) [] true, rfl, rfl⟩
  | messageDecrypt => exact ⟨.decryptNext (.chaCha20Poly1305 [] []) [] true, rfl, rfl⟩
  | messageSign => exact ⟨.signNext none [] true, rfl, rfl⟩
  | messageVerify => exact ⟨.verifyNext none [] (some []), rfl, rfl⟩
  | _ => cases message

/-- A session in which an operation has just started. -/
def started (token : Token) (handle : Code) (op : Operation) : Session :=
  { opened token handle with tracker := ⟨.single op, false, none⟩ }

/-- A session in which a message operation has started and its message has begun. -/
def begun (token : Token) (handle : Code) (op : Operation) : Session :=
  { opened token handle with tracker := ⟨.single op, true, none⟩ }

/-- The session of a begun message is in that message. -/
theorem inMessage_begun (token : Token) (handle : Code) {op : Operation} (message : op.isMessage = true) :
    (begun token handle op).InMessage op :=
  ⟨message, by simp [begun, Session.active], rfl⟩

/-- The session of a started operation is reachable. -/
private theorem reachable_started (token : Token) (handle : Code) (start : Start) :
    (started token handle start.operation).Reachable := by
  have plays : ((opened token handle).perform (.start start ⟨0, .none⟩)).Plays
      [⟨.inSession handle (.start start _), ⟨.ok (), ()⟩⟩]
      (⟨.ok (), ()⟩, { opened token handle with tracker := Tracker.idle.start start.operation }) :=
    .ask _ (.done _)
  have htracker : Tracker.idle.start start.operation = ⟨.single start.operation, false, none⟩ := by
    have hfind : start.operation ≠ .find := by cases start <;> simp [Start.operation]
    simp [Tracker.start, Tracker.idle, hfind, OperationSet.empty_insert]
  rw [htracker] at plays
  exact (reachable_opened token handle).perform plays

/-- The session of a begun message is reachable by starting the operation and beginning the message. -/
private theorem reachable_begun_of_steps (token : Token) (handle : Code) (start : Start) (step : MessageStep)
    (value : step.Result) (same : step.operation = start.operation) (begins : step.place = .begin) :
    (begun token handle start.operation).Reachable := by
  have admitted : (started token handle start.operation).admitMessage step = .ok handle :=
    admitMessage_eq_ok_iff.2
      ⟨rfl, Tracker.checkMessage_eq_ok_iff.2 ⟨by simp [started, same], by rw [begins]; rfl⟩⟩
  have hbegun := (reachable_started token handle start).perform
    (plays_message_of_admitted admitted ⟨.ok value, step.untouched⟩)
  rw [Session.afterMessage, begins] at hbegun
  exact hbegun

/-- The session of a begun message is reachable. -/
theorem reachable_begun (token : Token) (handle : Code) {op : Operation} (message : op.isMessage = true) :
    (begun token handle op).Reachable := by
  cases op with
  | messageEncrypt =>
    exact reachable_begun_of_steps token handle (.messageEncrypt 0)
      (.encryptBegin (.chaCha20Poly1305 [] []) []) () rfl rfl
  | messageDecrypt =>
    exact reachable_begun_of_steps token handle (.messageDecrypt 0)
      (.decryptBegin (.chaCha20Poly1305 [] []) []) () rfl rfl
  | messageSign =>
    exact reachable_begun_of_steps token handle (.messageSign 0) (.signBegin none) () rfl rfl
  | messageVerify =>
    exact reachable_begun_of_steps token handle (.messageVerify 0) (.verifyBegin none) () rfl rfl
  | _ => cases message

/-- On a sound session a search reports a general error only if the module did. -/
theorem Sound.generalError_of_find (sound : session.Sound) {max : UInt64}
    {answer : (Request.find max).Answer}
    (plays : (session.perform (.find max)).Plays exchanges (answer, after))
    (failed : answer.result = .error (.token Rv.generalError)) :
    ∃ handle reply, exchanges = [⟨.inSession handle (.findObjects max), reply⟩] ∧
      reply.result = .error (.token Rv.generalError) := by
  unfold Session.perform at plays
  obtain ⟨result, hfind, rfl⟩ := plays_plainly.1 plays
  obtain rfl : result = .error (.token Rv.generalError) := failed
  unfold find at hfind
  split at hfind
  next e hclosed =>
    cases (Program.plays_done.1 hfind).2
    cases openHandle_error hclosed
  next handle _ =>
    split at hfind
    next refusal _ => cases (Program.plays_done.1 hfind).2
    next hcheck =>
      split at hfind
      next _ => cases (Program.plays_done.1 hfind).2
      next _ =>
        split at hfind
        next hcursor =>
          -- The search runs, so it has a cursor.
          have hsome := sound.tracker.cursor_iff.2 ((Tracker.checkActive_eq_ok_iff _ _).1 hcheck)
          rw [hcursor] at hsome
          cases hsome
        next cursor _ =>
          split at hfind
          next _ => cases (Program.plays_done.1 hfind).2
          next _ =>
            obtain ⟨_, hplays, heq⟩ := Program.plays_map.1 hfind
            obtain ⟨reply, rfl, rfl⟩ := Program.plays_request.1 hplays
            refine ⟨handle, reply, rfl, ?_⟩
            split at heq
            next => split at heq <;> cases heq
            next e he =>
              cases heq
              exact he

/-- What a reachable session keeps fits together: which operations run, the cursor of a search, and whether
a message has begun. Once it is closed nothing is left of them. A search that runs always has a cursor, so
its general errors are the module's. -/
theorem reachable_consistent (reachable : session.Reachable) :
    (session.active = .empty ∨ (∃ op, session.active = .single op) ∨
      session.active ∈ OperationSet.dualPairs) ∧
    (∀ op, op.isExclusive = true → session.active.contains op = true → session.active = .single op) ∧
    (session.tracker.cursor.isSome = true ↔ session.active.contains .find = true) ∧
    (session.tracker.messageBegun = true → ∃ op, op.isMessage = true ∧ session.active = .single op) ∧
    (session.isClosed = true →
      session.active = .empty ∧ session.tracker.cursor = none ∧ session.tracker.messageBegun = false) ∧
    ∀ max exchanges (answer : (Request.find max).Answer) after,
      (session.perform (.find max)).Plays exchanges (answer, after) →
        answer.result = .error (.token Rv.generalError) →
          ∃ handle reply, exchanges = [⟨.inSession handle (.findObjects max), reply⟩] ∧
            reply.result = .error (.token Rv.generalError) := by
  have sound := reachable.sound
  refine ⟨sound.tracker.compatible, ?_, sound.tracker.cursor_iff, sound.tracker.message, ?_, ?_⟩
  · intro op exclusive runs
    exact sound.tracker.compatible.alone runs exclusive
  · intro closed
    have hidle := sound.idle_of_closed (Option.isNone_iff_eq_none.1 closed)
    rw [Session.active, hidle]
    exact ⟨rfl, rfl, rfl⟩
  · intro max exchanges answer after plays failed
    exact sound.generalError_of_find plays failed

/-- In the middle of the message of a signature. -/
theorem reachable_consistent_signature :
    (begun (.bare 1) 7 .messageSign).Reachable ∧
      ∃ op, op.isMessage = true ∧ (begun (.bare 1) 7 .messageSign).active = .single op := by
  have reachable : (begun (.bare 1) 7 .messageSign).Reachable := reachable_begun _ _ rfl
  obtain ⟨-, -, -, message, -, -⟩ := reachable_consistent reachable
  exact ⟨reachable, message rfl⟩

end Session

end TokenClient
