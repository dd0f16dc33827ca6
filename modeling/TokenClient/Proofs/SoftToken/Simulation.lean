import TokenClient.Proofs.Session.Cancel
import TokenClient.Proofs.Session.Origin
import TokenClient.Proofs.SoftToken.Contexts

/-!
# The tracker and the token

The tracker of a session and the contexts of the same session on the token are kept apart from each other, and
each follows its own rules. They agree all the same: what the tracker lists has its context on the token, and a
search is listed exactly if one is open there (`OperationSet.Matches`). The token may hold more: of an
operation that has failed its context is still there, and the next start replaces it.

One lemma says that a command which the tracker lets through keeps the two in agreement
(`Matches.answered`), and one that the token then does not complain about the operations that run
(`Matches.not_contradicts`). Induction over dialogues carries both to requests (`Mirrors.perform`) and to all
runs (`SoftToken.tracker_simulates`).

Two requests are left out. After the restoration of a saved state the tracker does not know what runs. And a
cancellation that names a message operation ends whatever message operation the token runs, so it has to name
the one that the tracker lists.
-/

namespace TokenClient

open SoftToken

/-! ## Agreement -/

/-- The operations that are listed have their contexts, and an open search is listed. -/
structure OperationSet.Matches (active : OperationSet) (opened : OpenSession) : Prop where
  holds : ∀ op, active.contains op = true → opened.holds op = true
  finds : opened.holds .find = true → active.contains .find = true

/-- The commands that the tracker may refuse. The end of a search is always let through, and so is the question
for the state of the operations. -/
def Command.Guarded : Command → Prop
  | .start _ _ | .step _ | .message _ | .findObjectsInit _ | .findObjects _ => True
  | _ => False

/-- The tracker can follow what a command does on the token. -/
def Tracker.Follows (tracker : Tracker) : Command → Prop
  | .setOperationState _ _ _ => False
  | .sessionCancel flags => Session.NamesMessage flags →
    ∀ op, op.isMessage = true → tracker.active.contains op = true → Session.Names flags op
  | _ => True

private theorem Tracker.active_of_checkSearch {tracker : Tracker} (check : tracker.checkSearch = .ok ()) :
    tracker.active = .empty := by
  unfold checkSearch at check
  split at check
  next h => exact OperationSet.isEmpty_iff.1 h
  next => cases check

private theorem Step.find_not_mem_operations (step : Step) : Operation.find ∉ step.operations := by
  cases step <;> simp [Step.operations]

namespace OperationSet.Matches

variable {tracker : Tracker} {opened later : OpenSession} {failure : Option Code} {command : Command}
  {result : Except Error command.Result}

/-- Whether a step has failed or was the last one, the operations that remain have their contexts. -/
theorem answered_step {step : Step} {result : Except Error step.Result}
    (matched : tracker.active.Matches opened) (sound : tracker.Sound) (admits : tracker.Admits (.step step))
    (serves : opened.Serves failure (.step step) result later) :
    (tracker.answered (.step step) result).active.Matches later := by
  have hfind : later.find = opened.find := by
    obtain ⟨-, rfl⟩ | ⟨keyValue, -, rfl⟩ := serves
    · rfl
    · exact OpenSession.find_step keyValue step
  have running (op : Operation) (h : op ∈ step.operations) : tracker.active.contains op = true :=
    (Tracker.checkAll_eq_ok_iff _ _).1 admits op h
  -- the contexts of the operations that the step is not about are still there
  have kept (op : Operation) (listed : tracker.active.contains op = true)
      (stays : step.isLast = true → op ∉ step.operations) : later.holds op = true := by
    obtain ⟨-, rfl⟩ | ⟨keyValue, -, rfl⟩ := serves
    · exact matched.holds op listed
    · rcases OpenSession.holds_step (matched.holds op listed) with held | ⟨last, other, hother, hends⟩
      · exact held
      · -- Only a last step of its own ends a context: a message operation runs alone, so the step is one of it.
        refine absurd ?_ (stays last)
        rcases hends with rfl | ⟨message, hmessage⟩
        · exact hother
        · have alone := sound.compatible.alone (running other hother)
            (Operation.isExclusive_of_isMessage message)
          rw [alone, OperationSet.contains_single, beq_iff_eq] at listed
          rwa [listed]
  simp only [Tracker.answered]
  split
  next ended =>
    constructor
    · intro op listed
      simp only [Tracker.active_finish, OperationSet.contains_diff, OperationSet.contains_ofList,
        Bool.and_eq_true, Bool.not_eq_true', List.contains_eq_mem, decide_eq_false_iff_not] at listed
      exact kept op listed.1 fun _ => listed.2
    · intro held
      simp only [OpenSession.holds, hfind] at held
      simp [matched.finds held, Step.find_not_mem_operations]
  next goesOn =>
    constructor
    · intro op listed
      refine kept op listed ?_
      intro last
      simp [last] at goesOn
    · intro held
      simp only [OpenSession.holds, hfind] at held
      exact matched.finds held

/-- A start keeps the active set and the contexts matched. -/
private theorem answered_start {start : Start} {mechanism : Mechanism} {result : Except Error Unit}
    (matched : tracker.active.Matches opened)
    (serves : opened.Serves failure (.start start mechanism) result later) :
    (tracker.answered (.start start mechanism) result).active.Matches later := by
  obtain ⟨⟨⟨e, rfl⟩, -⟩, rfl⟩ | ⟨rfl, served, key, rfl⟩ := serves
  · exact matched
  · constructor
    · intro op listed
      simp only [Tracker.answered, Tracker.active_start, OperationSet.contains_insert, Bool.or_eq_true,
        beq_iff_eq] at listed
      rcases listed with rfl | listed
      · exact OpenSession.holds_start_self served
      · exact OpenSession.holds_start_of_holds (matched.holds op listed)
    · intro held
      simp only [OpenSession.holds, OpenSession.find_start] at held
      simp [Tracker.answered, matched.finds held]

/-- So does a cancellation. -/
private theorem answered_cancel {flags : Code} {result : Except Error Unit} (matched : tracker.active.Matches opened)
    (follows : tracker.Follows (.sessionCancel flags))
    (serves : opened.Serves failure (.sessionCancel flags) result later) :
    (tracker.answered (.sessionCancel flags) result).active.Matches later := by
  obtain ⟨rfl, rfl⟩ := serves
  constructor
  · intro op listed
    simp only [Tracker.answered, Tracker.active_finish, OperationSet.contains_diff,
      OperationSet.contains_ofCancelFlags, Bool.and_eq_true, Bool.not_eq_true'] at listed
    refine OpenSession.holds_cancel_of_holds (matched.holds op listed.1) listed.2 ?_
    intro message other hother
    -- a flag for another message operation would have to come with the flag for this one
    by_contra named
    have hnames : Session.Names flags op :=
      follows ⟨other, hother, by simpa [Session.Names] using named⟩ op message listed.1
    rw [Session.Names, OperationSet.contains_ofCancelFlags, listed.2] at hnames
    cases hnames
  · intro held
    rw [OpenSession.holds_find_cancel, Bool.and_eq_true, Bool.not_eq_true'] at held
    simp [Tracker.answered, matched.finds held.1, Operation.cancelFlag, held.2]

/-- So does the start of a search. -/
private theorem answered_startFind {template : List WireAttribute} {result : Except Error Unit}
    (matched : tracker.active.Matches opened) (admits : tracker.Admits (.findObjectsInit template))
    (serves : opened.Serves failure (.findObjectsInit template) result later) :
    (tracker.answered (.findObjectsInit template) result).active.Matches later := by
  have idle := Tracker.active_of_checkSearch admits
  obtain ⟨held, -⟩ | ⟨-, rfl, found, rfl⟩ := serves
  · have listed := matched.finds held
    rw [idle] at listed
    cases listed
  · constructor
    · intro op listed
      simp only [Tracker.answered, Tracker.active_start, idle, OperationSet.contains_insert,
        OperationSet.contains_empty, Bool.or_false, beq_iff_eq] at listed
      rw [listed]
      rfl
    · intro _
      simp [Tracker.answered]

/-- So does its end. -/
private theorem answered_endFind {result : Except Error Unit} (matched : tracker.active.Matches opened)
    (serves : opened.Serves failure .findObjectsFinal result later) :
    (tracker.answered .findObjectsFinal result).active.Matches later := by
  obtain rfl := serves
  constructor
  · intro op listed
    simp only [Tracker.answered, Tracker.active_finish, OperationSet.contains_diff,
      OperationSet.contains_single, Bool.and_eq_true, Bool.not_eq_true', beq_eq_false_iff_ne] at listed
    have held := matched.holds op listed.1
    cases op with
    | find => exact absurd rfl listed.2
    | _ => exact held
  · intro held
    cases held

/-- A command that the tracker lets through and can follow keeps the two in agreement. -/
theorem answered (matched : tracker.active.Matches opened) (sound : tracker.Sound)
    (admits : tracker.Admits command) (follows : tracker.Follows command) (other : command ≠ .closeSession)
    (serves : opened.Serves failure command result later) :
    (tracker.answered command result).active.Matches later := by
  cases command with
  | closeSession => exact absurd rfl other
  -- A restored state may hold operations the tracker has not seen start.
  | setOperationState _ _ _ => exact follows.elim
  | start start mechanism => exact matched.answered_start serves
  | step step => exact matched.answered_step sound admits serves
  | sessionCancel flags => exact matched.answered_cancel follows serves
  | findObjectsInit template => exact matched.answered_startFind admits serves
  | findObjectsFinal => exact matched.answered_endFind serves
  | message step =>
    obtain ⟨-, rfl⟩ := serves
    simp only [Tracker.answered, Tracker.active_afterMessage]
    refine ⟨fun op listed => ?_, fun held => ?_⟩
    · rw [OpenSession.holds_messageStep]
      exact matched.holds op listed
    · rw [OpenSession.holds_messageStep] at held
      exact matched.finds held
  | findObjects max =>
    have hactive : (tracker.answered (.findObjects max) result).active = tracker.active := by
      cases result <;> rfl
    rw [hactive]
    refine ⟨fun op listed => ?_, fun held => ?_⟩
    · rw [serves.1]
      exact matched.holds op listed
    · rw [serves.1] at held
      exact matched.finds held
  | _ =>
    obtain rfl := serves
    exact matched

/-- Of a command that the tracker lets through the token does not say that an operation does not run, or that
one runs already. -/
theorem not_contradicts (matched : tracker.active.Matches opened) (admits : tracker.Admits command)
    (guarded : command.Guarded) (serves : opened.Serves none command result later) :
    ¬ Contradicts result := by
  cases command with
  | start start mechanism =>
    obtain ⟨rejects, -⟩ | ⟨rfl, -⟩ := serves
    · exact rejects.2
    · exact not_contradicts_ok ()
  | step step =>
    obtain ⟨rejects, -⟩ | ⟨keyValue, rfl, -⟩ := serves
    · exact rejects.2
    · apply OpenSession.not_contradicts_step
      intro op hop
      exact matched.holds op ((Tracker.checkAll_eq_ok_iff _ _).1 admits op hop)
  | message step =>
    obtain ⟨rfl, -⟩ := serves
    have held := matched.holds _ (Tracker.checkMessage_eq_ok_iff.1 admits).1
    apply OpenSession.not_contradicts_messageStep
    cases step <;> exact held
  | findObjectsInit template =>
    obtain ⟨held, -⟩ | ⟨-, rfl, -⟩ := serves
    · have listed := matched.finds held
      rw [Tracker.active_of_checkSearch admits] at listed
      cases listed
    · exact not_contradicts_ok ()
  | findObjects max =>
    obtain ⟨batch, rfl⟩ :=
      serves.2 (matched.holds _ ((Tracker.checkActive_eq_ok_iff _ _).1 admits.1)) rfl
    exact not_contradicts_ok batch
  | _ => exact guarded.elim

end OperationSet.Matches

/-! ## Sessions -/

/-- Whether a session of the token has the context of an operation. -/
def SoftToken.Holds (token : SoftToken) (handle : Code) (op : Operation) : Prop :=
  ∃ opened, token.sessions.get? handle = some opened ∧ opened.holds op = true

/-- In this exchange the token says nothing about the operations that run to a command which the tracker has
let through. -/
def Exchange.Agrees : Exchange → Prop
  | ⟨.inSession _ command, reply⟩ => command.Guarded → ¬ Contradicts reply.result
  | _ => True

/-- The tracker can follow what a request does on the token. -/
def Session.Permits (session : Session) : Request → Prop
  | .setOperationState _ _ _ => False
  | .cancel flags => NamesMessage flags →
    ∀ op, op.isMessage = true → session.active.contains op = true → Names flags op
  | _ => True

/-- Apart from cancellations, a request that is permitted leads to no command that the tracker cannot follow. -/
theorem Session.Permits.follows {session : Session} {request : Request} {command : Command} {own : Code}
    (permits : session.Permits request) (other : ∀ flags, request ≠ .cancel flags)
    (comes : (Call.inSession own command).From request) (tracker : Tracker) : tracker.Follows command := by
  cases command with
  | setOperationState state encryptionKey authenticationKey =>
    rw [show request = .setOperationState state encryptionKey authenticationKey from comes] at permits
    exact permits.elim
  | sessionCancel flags => exact absurd comes (other flags)
  | _ => trivial

/-- A session and the token agree on what runs under the handle of the session. -/
inductive Mirrors (handle : Code) (session : Session) (token : SoftToken) : Prop
  | opened {opened : OpenSession} : session.handle = some handle →
      token.sessions.get? handle = some opened → session.active.Matches opened → Mirrors handle session token
  | closed : session.handle = none → session.active = .empty → token.sessions.get? handle = none →
      Mirrors handle session token

namespace Mirrors

variable {handle : Code} {session after : Session} {token later : SoftToken} {command : Command}
  {exchanges : List Exchange} {request : Request}

/-- What the session takes for active, the token holds. -/
private theorem holds_of_active (mirrors : Mirrors handle session token) {op : Operation}
    (active : session.active.contains op = true) : token.Holds handle op := by
  cases mirrors with
  | opened _ known matched => exact ⟨_, known, matched.holds op active⟩
  | closed _ idle _ =>
    rw [idle] at active
    cases active

/-- Of searches the converse holds as well. -/
private theorem find_iff (mirrors : Mirrors handle session token) :
    session.active.contains .find = true ↔ token.Holds handle .find := by
  refine ⟨mirrors.holds_of_active, ?_⟩
  rintro ⟨opened, hopened, held⟩
  cases mirrors with
  | opened _ known matched =>
    cases known.symm.trans hopened
    exact matched.finds held
  | closed _ _ unknown =>
    rw [unknown] at hopened
    cases hopened

/-- What is not about the handle and the operations has no part in the agreement. -/
theorem congr {other : Session} (mirrors : Mirrors handle session token)
    (sameHandle : other.handle = session.handle) (sameActive : other.active = session.active) :
    Mirrors handle other token := by
  cases mirrors with
  | opened isOpen known matched => exact .opened (sameHandle.trans isOpen) known (sameActive ▸ matched)
  | closed closed idle unknown => exact .closed (sameHandle.trans closed) (sameActive.trans idle) unknown

/-- An exchange keeps the agreement. -/
theorem answered (mirrors : Mirrors handle session token) (sound : session.Sound) {own : Code}
    (isOpen : session.handle = some own) (admits : session.tracker.Admits command)
    (follows : session.tracker.Follows command) :
    Mirrors handle (session.answered command (token.answer (.inSession own command)).1.result)
        (token.answer (.inSession own command)).2 ∧
      (token.findError = none → Exchange.Agrees ⟨_, (token.answer (.inSession own command)).1⟩) := by
  cases mirrors with
  | closed closed _ _ =>
    rw [closed] at isOpen
    cases isOpen
  | @opened opened hopen known matched =>
    cases hopen.symm.trans isOpen
    -- Closing takes the session off the token; any other command is served in its record.
    by_cases hclose : command = .closeSession
    · subst hclose
      refine ⟨.closed rfl rfl ?_, fun _ guarded => guarded.elim⟩
      exact (Registry.get?_erase _ handle handle).trans (if_pos rfl)
    · obtain ⟨last, hlast, serves⟩ := serves_answer known hclose
      refine ⟨.opened ?_ hlast ?_, ?_⟩
      · rw [Session.handle_answered session hclose]
        exact hopen
      · rw [Session.active, Session.tracker_answered]
        exact matched.answered sound.tracker admits follows hclose serves
      · intro unset guarded
        rw [unset] at serves
        exact matched.not_contradicts admits guarded serves

/-- So does a dialogue without commands that the tracker cannot always follow. -/
theorem dialogue (mirrors : Mirrors handle session token) (sound : session.Sound)
    (dialogue : session.Dialogue exchanges after) (replies : SoftToken.module.Replies token exchanges later)
    (follows : ∀ exchange ∈ exchanges, ∀ own command, exchange.call = .inSession own command →
      ∀ tracker : Tracker, tracker.Follows command) :
    Mirrors handle after later ∧ (token.findError = none → ∀ exchange ∈ exchanges, exchange.Agrees) := by
  induction dialogue generalizing token with
  | nil =>
    cases replies
    exact ⟨mirrors, fun _ _ h => nomatch h⟩
  | @cons session after own command reply exchanges isOpen admits _ ih =>
    cases replies with
    | cons _ replies =>
      obtain ⟨hfirst, hrest⟩ := List.forall_mem_cons.1 follows
      obtain ⟨hmirrors, hagrees⟩ := mirrors.answered sound isOpen admits (hfirst own command rfl _)
      obtain ⟨hlast, hothers⟩ := ih hmirrors (sound.answered isOpen admits _) replies hrest
      refine ⟨hlast, fun unset => List.forall_mem_cons.2 ⟨hagrees unset, ?_⟩⟩
      exact hothers (findError_answer unset own command)

/-- A cancellation is one exchange at most. -/
theorem cancel {flags : Code} {result : Except Error Unit} (mirrors : Mirrors handle session token)
    (sound : session.Sound) (permits : session.Permits (.cancel flags))
    (plays : (session.cancel flags).Plays exchanges (result, after))
    (replies : SoftToken.module.Replies token exchanges later) :
    Mirrors handle after later ∧ (token.findError = none → ∀ exchange ∈ exchanges, exchange.Agrees) := by
  obtain ⟨rfl, rfl⟩ | ⟨own, reply, isOpen, admits, rfl, -, rfl⟩ :=
    Session.relays_cancel session flags _ _ _ plays
  · cases replies
    exact ⟨mirrors, fun _ _ h => nomatch h⟩
  · cases replies with
    | cons _ replies =>
      cases replies
      obtain ⟨hmirrors, hagrees⟩ := mirrors.answered sound isOpen admits permits
      exact ⟨hmirrors, fun unset => List.forall_mem_singleton.2 (hagrees unset)⟩

/-- A request that is permitted keeps the agreement. -/
theorem perform {answer : request.Answer} (mirrors : Mirrors handle session token) (sound : session.Sound)
    (permits : session.Permits request)
    (plays : (session.perform request).Plays exchanges (answer, after))
    (replies : SoftToken.module.Replies token exchanges later) :
    Mirrors handle after later ∧ (token.findError = none → ∀ exchange ∈ exchanges, exchange.Agrees) := by
  by_cases hcancel : ∃ flags, request = .cancel flags
  · obtain ⟨flags, rfl⟩ := hcancel
    unfold Session.perform at plays
    obtain ⟨result, hplays, -⟩ := Session.plays_plainly.1 plays
    exact mirrors.cancel sound permits hplays replies
  have follows : ∀ exchange ∈ exchanges, ∀ own command, exchange.call = .inSession own command →
      ∀ tracker : Tracker, tracker.Follows command := by
    intro exchange hmem own command hcall
    have comes := (Session.calls_perform session request).of_plays plays exchange hmem
    rw [hcall] at comes
    exact permits.follows (fun flags h => hcancel ⟨flags, h⟩) comes
  obtain dialogue | ⟨dialogue, -, known, rfl⟩ | ⟨rfl, step, -, -, rfl⟩ := Session.perform_dialogue plays
  · exact mirrors.dialogue sound dialogue replies follows
  · obtain ⟨hlast, hagrees⟩ := mirrors.dialogue sound dialogue replies follows
    exact ⟨hlast.congr rfl rfl, hagrees⟩
  · cases replies
    refine ⟨mirrors.congr rfl ?_, fun _ _ h => nomatch h⟩
    exact Tracker.active_afterMessage ..

end Mirrors

/-! ## Runs -/

namespace SoftToken

variable {handle : Code} {session : Session} {token : SoftToken}

/-- A session and the token, as they are after a session is opened and any requests are made of it that the
tracker can follow. What else happens to the token in the meantime leaves the session on it alone. -/
inductive Paired (handle : Code) : Session → SoftToken → Prop
  | opened {owner : Token} {rw : Bool} {session : Session} {token later : SoftToken} :
      (owner.openSession rw).run SoftToken.module token = (.ok session, later) →
        session.handle = some handle → Paired handle session later
  | perform {session : Session} {token : SoftToken} {request : Request} :
      Paired handle session token → session.Permits request →
        Paired handle ((session.perform request).run SoftToken.module token).1.2
          ((session.perform request).run SoftToken.module token).2
  | elsewhere {session : Session} {token later : SoftToken} :
      Paired handle session token → later.sessions.get? handle = token.sessions.get? handle →
        Paired handle session later

/-- A session paired with the token is sound. -/
theorem Paired.sound (paired : Paired handle session token) : session.Sound := by
  induction paired with
  | @opened owner rw session token later ran isOpen =>
    have plays := Program.plays_run SoftToken.module (owner.openSession rw) token
    rw [ran] at plays
    obtain ⟨own, -, -, -, -, rfl⟩ := Session.plays_openSession plays
    exact (Session.reachable_opened owner own).sound
  | perform _ _ ih => exact ih.perform (Program.plays_run SoftToken.module _ _)
  | elsewhere _ _ ih => exact ih

/-- Nothing runs on a session that the token has just opened. -/
theorem get?_of_openSession {slot flags : Code}
    (granted : (token.answer (.openSession slot flags)).1.result = .ok handle) :
    ∃ isRw, (token.answer (.openSession slot flags)).2.sessions.get? handle = some (.fresh isRw) := by
  have hanswer : token.answer (.openSession slot flags) = plainly (⟨·, ()⟩)
      ((token.count (Call.name (.openSession slot flags))).openSession slot flags) := rfl
  rw [hanswer] at granted ⊢
  simp only [plainly, SoftToken.openSession] at granted ⊢
  split at granted
  next => cases granted
  next hslot =>
    split at granted
    next => cases granted
    next hflags =>
      cases granted
      rw [if_neg hslot, if_neg hflags]
      refine ⟨flags.meets Flag.rwSession, ?_⟩
      simp [enterSession]

/-- A session mirrors the token it was just opened on. -/
theorem mirrors_of_openSession {owner : Token} {rw : Bool} {later : SoftToken}
    (ran : (owner.openSession rw).run SoftToken.module token = (.ok session, later))
    (isOpen : session.handle = some handle) : Mirrors handle session later := by
  have hrun : (owner.openSession rw).run SoftToken.module token =
      ((token.answer (.openSession owner.slot _)).1.result.map fun handle => Session.opened owner handle,
        (token.answer (.openSession owner.slot _)).2) := rfl
  rw [hrun] at ran
  obtain ⟨hresult, rfl⟩ := Prod.mk.inj ran
  cases hgranted : (token.answer (.openSession owner.slot
      (if rw then Flag.serialSession ||| Flag.rwSession else Flag.serialSession))).1.result with
  | error e =>
    rw [hgranted] at hresult
    cases hresult
  | ok own =>
    rw [hgranted] at hresult
    cases hresult
    cases isOpen
    obtain ⟨isRw, known⟩ := get?_of_openSession hgranted
    refine .opened rfl known ⟨?_, ?_⟩
    · intro op listed
      cases listed
    · intro held
      cases held

/-- A session paired with the token mirrors it, by induction over how the two came to be paired. -/
theorem Paired.mirrors (paired : Paired handle session token) : Mirrors handle session token := by
  induction paired with
  | opened ran isOpen => exact mirrors_of_openSession ran isOpen
  | perform paired permits ih =>
    exact (ih.perform paired.sound permits (Program.plays_run _ _ _) (Program.replies_run _ _ _)).1
  | elsewhere _ same ih =>
    cases ih with
    | opened isOpen known matched => exact .opened isOpen (same.trans known) matched
    | closed closed idle unknown => exact .closed closed idle (same.trans unknown)

/-- Whatever is asked of a session on the token, its tracker and the contexts that the token keeps for it
agree. An operation that is listed has its context, and a search is listed exactly if one is open. So of a
command that the tracker lets through the token never says that an operation does not run, or that one runs
already, unless it has been told to fail a search with that. -/
theorem tracker_simulates (paired : Paired handle session token) :
    (∀ op, session.active.contains op = true → token.Holds handle op) ∧
      (session.active.contains .find = true ↔ token.Holds handle .find) ∧
      ∀ request, session.Permits request → token.findError = none →
        ∀ exchange ∈ (session.perform request).exchanges SoftToken.module token, exchange.Agrees := by
  have mirrors := paired.mirrors
  refine ⟨fun op => mirrors.holds_of_active, mirrors.find_iff, ?_⟩
  intro request permits
  exact (mirrors.perform paired.sound permits (Program.plays_run _ _ _) (Program.replies_run _ _ _)).2

/-- A token with a session open for reading, under handle 1. -/
def withReader : SoftToken := (SoftToken.new.answer (.openSession tokenSlot Flag.serialSession)).2

/-- The token after a digest has started in the session. -/
def withDigest : SoftToken :=
  (withReader.answer (.inSession 1 (.start .digest ⟨MechanismType.sha256, .none⟩))).2

private theorem paired_withDigest : Paired 1 (Session.started (.bare tokenSlot) 1 .digest) withDigest := by
  have opened : Paired 1 (Session.opened (.bare tokenSlot) 1) withReader :=
    @Paired.opened 1 (.bare tokenSlot) false _ .new _ rfl rfl
  exact @Paired.perform 1 _ _ (.start .digest ⟨MechanismType.sha256, .none⟩) opened trivial

/-- The digest has its context, and nothing is amiss when it is fed. -/
theorem tracker_simulates_withDigest :
    withDigest.Holds 1 .digest ∧
      ∃ reply : Reply (.inSession 1 (.step (.digestUpdate [7]))),
        ((Session.started (.bare tokenSlot) 1 .digest).perform (.step (.digestUpdate [7]))).exchanges
          SoftToken.module withDigest = [⟨.inSession 1 (.step (.digestUpdate [7])), reply⟩] ∧
        ¬ Contradicts reply.result := by
  obtain ⟨holds, -, agrees⟩ := tracker_simulates paired_withDigest
  refine ⟨holds .digest rfl, _, rfl, ?_⟩
  exact agrees (.step (.digestUpdate [7])) trivial rfl _ List.mem_cons_self trivial

end SoftToken

end TokenClient
