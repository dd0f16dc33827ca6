import Mathlib.Logic.Function.Basic
import TokenClient.Proofs.SoftToken.View

/-!
# Sessions do not disturb each other

Several sessions are open on one token, and operations run on all of them, one step here and one step there
(`SoftToken.interleaved`). What comes of the requests to one of the sessions is what comes of them if they are
made alone, from the same token (`SoftToken.sessions_isolated`): the results, the parameters of messages and
the session with its tracker after each request.

A session sees of the token only what lies under its handle, and the objects. Its own requests go the same way
wherever these are the same, and those to the other sessions leave them alone. Calls that change neither
sessions nor objects may come in between.
-/

namespace TokenClient

/-- The requests that carry operations on: starts, steps, steps of messages and cancellations. -/
def Request.IsCryptographic : Request → Prop
  | .start _ _ | .step _ | .message _ | .cancel _ => True
  | _ => False

/-- What has come of a request: the answer, and the session after it. -/
structure Outcome where
  request : Request
  answer : request.Answer
  after : Session

/-- What happens on a token with several sessions: a request to one of them, or some other call. -/
inductive Happening (ι : Type) where
  | asked (i : ι) (request : Request)
  | called (call : Call)

namespace Session

variable {session after : Session} {request : Request} {handle : Code}

/-- A cryptographic request calls cryptographic functions of its own session only. -/
private theorem calls_perform_of_cryptographic (isOpen : session.handle = some handle)
    (crypto : request.IsCryptographic) :
    (session.perform request).AllCalls (Call.IsCryptographic handle) := by
  unfold perform
  cases request with
  | start start mechanism =>
    unfold Session.start
    rw [openHandle_of_open isOpen]
    dsimp only
    split
    next => trivial
    next => exact ((Program.allCalls_request ⟨rfl, trivial⟩).map _).map _
  | step step =>
    unfold Session.step
    rw [openHandle_of_open isOpen]
    dsimp only
    split
    next => trivial
    next => exact ((Program.allCalls_request ⟨rfl, trivial⟩).map _).map _
  | message step =>
    refine Program.AllCalls.map ?_ _
    unfold Session.message
    split
    next => trivial
    next own hadmitted =>
      have hown := (admitMessage_eq_ok_iff.1 hadmitted).1
      rw [isOpen] at hown
      cases hown
      exact ⟨⟨rfl, trivial⟩, fun _ => trivial⟩
  | cancel flags =>
    unfold Session.cancel forward
    rw [openHandle_of_open isOpen]
    exact (((Program.allCalls_request ⟨rfl, trivial⟩).map _).map _).map _
  | _ => exact crypto.elim

/-- An operation leaves a session its handle. -/
theorem handle_of_cryptographic {exchanges : List Exchange} {answer : request.Answer}
    (crypto : request.IsCryptographic)
    (plays : (session.perform request).Plays exchanges (answer, after)) :
    after.handle = session.handle := by
  unfold perform at plays
  cases request with
  | start start mechanism =>
    obtain ⟨result, hplays, -⟩ := plays_plainly.1 plays
    obtain ⟨-, rfl⟩ | ⟨_, reply, -, -, -, -, rfl⟩ := relays_start session start mechanism _ _ _ hplays
    all_goals rfl
  | step step =>
    obtain ⟨result, hplays, -⟩ := plays_plainly.1 plays
    obtain ⟨-, rfl⟩ | ⟨_, reply, -, -, -, -, rfl⟩ := relays_step session step _ _ _ hplays
    all_goals rfl
  | cancel flags =>
    obtain ⟨result, hplays, -⟩ := plays_plainly.1 plays
    obtain ⟨-, rfl⟩ | ⟨_, reply, -, -, -, -, rfl⟩ := relays_cancel session flags _ _ _ hplays
    all_goals rfl
  | message step =>
    obtain ⟨⟨value, middle⟩, hplays, heq⟩ := Program.plays_map.1 plays
    cases heq
    unfold Session.message at hplays
    split at hplays
    next => exact congrArg (·.2.handle) (Program.plays_done.1 hplays).2
    next =>
      obtain ⟨reply, rest, -, hrest⟩ := Program.plays_ask.1 hplays
      exact congrArg (·.2.handle) (Program.plays_done.1 hrest).2
  | _ => exact crypto.elim

end Session

namespace SoftToken

variable {ι : Type} {session : Session} {token : SoftToken} {handle : Code}

/-- What comes of requests to a session that are made one after the other. -/
def alone (session : Session) (token : SoftToken) : List Request → List Outcome
  | [] => []
  | request :: requests =>
    let done := (session.perform request).run SoftToken.module token
    ⟨request, done.1.1, done.1.2⟩ :: alone done.1.2 done.2 requests

/-- What comes of the requests to several sessions, with the session that each is made of. -/
def interleaved [DecidableEq ι] (sessions : ι → Session) (token : SoftToken) :
    List (Happening ι) → List (ι × Outcome)
  | [] => []
  | .asked i request :: happenings =>
    let done := ((sessions i).perform request).run SoftToken.module token
    (i, ⟨request, done.1.1, done.1.2⟩) ::
      interleaved (Function.update sessions i done.1.2) done.2 happenings
  | .called call :: happenings => interleaved sessions (token.answer call).2 happenings

/-- The outcome of a request, if it was made of a given session. -/
def outcomeOf [DecidableEq ι] (i : ι) (entry : ι × Outcome) : Option Outcome :=
  if entry.1 = i then some entry.2 else none

/-- A call that leaves the sessions and the objects alone. -/
def Spares (call : Call) : Prop :=
  ∀ token : SoftToken, (token.answer call).2.sessions = token.sessions ∧
    (token.answer call).2.objects = token.objects

end SoftToken

namespace Happening

variable {ι : Type}

/-- An operation is carried on, or a call leaves the sessions and the objects alone. -/
def IsCryptographic : Happening ι → Prop
  | asked _ request => request.IsCryptographic
  | called call => SoftToken.Spares call

/-- The request, if it is one to a given session. -/
def requestTo [DecidableEq ι] (i : ι) : Happening ι → Option Request
  | asked j request => if j = i then some request else none
  | called _ => none

end Happening

namespace SoftToken

variable {ι : Type} [DecidableEq ι] {sessions : ι → Session} {handles : ι → Code} {token solo : SoftToken}
  {happenings : List (Happening ι)}

/-- What happens to several sessions is, for one of them, what happens to it alone on a token that looks the
same to it. -/
theorem filterMap_interleaved (isOpen : ∀ i, (sessions i).handle = some (handles i))
    (distinct : Function.Injective handles)
    (crypto : ∀ happening ∈ happenings, happening.IsCryptographic) (i : ι)
    (same : token.view (handles i) = solo.view (handles i)) :
    (interleaved sessions token happenings).filterMap (outcomeOf i) =
      alone (sessions i) solo (happenings.filterMap (Happening.requestTo i)) := by
  -- The two tokens need not be equal: it is enough that they look the same to this session.
  induction happenings generalizing sessions token solo with
  | nil => rfl
  | cons happening happenings ih =>
    obtain ⟨hfirst, hrest⟩ := List.forall_mem_cons.1 crypto
    cases happening with
    | called call =>
      obtain ⟨hsessions, hobjects⟩ := hfirst token
      refine ih isOpen hrest ?_
      rw [← same, view, view, hsessions, hobjects]
    | asked j request =>
      have calls := Session.calls_perform_of_cryptographic (isOpen j) hfirst
      have kept := Session.handle_of_cryptographic hfirst
        (Program.plays_run SoftToken.module ((sessions j).perform request) token)
      have isOpen' (k : ι) : (Function.update sessions j
          (((sessions j).perform request).run SoftToken.module token).1.2 k).handle = some (handles k) := by
        rw [Function.update_apply]
        split
        next h => rw [kept, isOpen, h]
        next => exact isOpen k
      rw [interleaved]
      -- A request of the session itself is carried out on both tokens, and one of another session on one of them.
      by_cases h : j = i
      · subst h
        obtain ⟨hvalue, hview⟩ := run_sameFor calls same
        have hothers := ih isOpen' hrest hview
        rw [Function.update_self] at hothers
        have hown : Happening.requestTo j (.asked j request) = some request := if_pos rfl
        rw [List.filterMap_cons_some hown, alone, List.filterMap_cons, outcomeOf, if_pos rfl]
        dsimp only
        rw [hothers, hvalue]
      · have apart : handles j ≠ handles i := fun heq => h (distinct heq)
        have hothers := ih isOpen' hrest ((view_run_other calls apart token).trans same)
        rw [Function.update_of_ne (Ne.symm h)] at hothers
        have hother : Happening.requestTo i (.asked j request) = none := if_neg h
        rw [List.filterMap_cons_none hother, List.filterMap_cons, outcomeOf, if_neg h]
        exact hothers

/-- Operations on several open sessions do not disturb each other. Whatever order the requests come in, what
comes of those to one session is what comes of them alone. -/
theorem sessions_isolated (isOpen : ∀ i, (sessions i).handle = some (handles i))
    (distinct : Function.Injective handles)
    (crypto : ∀ happening ∈ happenings, happening.IsCryptographic) (i : ι) :
    (interleaved sessions token happenings).filterMap (outcomeOf i) =
      alone (sessions i) token (happenings.filterMap (Happening.requestTo i)) :=
  filterMap_interleaved isOpen distinct crypto i rfl

/-- A token with two sessions open for reading, under handles 1 and 2. -/
def withPair : SoftToken :=
  ((SoftToken.new.answer (.openSession tokenSlot Flag.serialSession)).2.answer
    (.openSession tokenSlot Flag.serialSession)).2

/-- The two sessions. -/
def pair (second : Bool) : Session := .opened (.bare tokenSlot) (if second then 2 else 1)

/-- Two digests at the same time, and a look at the first session. -/
def twoDigests (first second : Bytes) : List (Happening Bool) :=
  [.asked false (.start .digest ⟨MechanismType.sha256, .none⟩),
    .asked true (.start .digest ⟨MechanismType.sha256, .none⟩), .asked true (.step (.digestUpdate second)),
    .called (.inSession 1 .getSessionInfo), .asked false (.step (.digestUpdate first)),
    .asked true (.step .digestFinal), .asked false (.step .digestFinal)]

/-- Two digests, step by step in turn on two sessions of one token. -/
theorem sessions_isolated_twoDigests :
    (interleaved pair withPair (twoDigests [7] [8])).filterMap (outcomeOf true) =
      alone (pair true) withPair
        [.start .digest ⟨MechanismType.sha256, .none⟩, .step (.digestUpdate [8]), .step .digestFinal] := by
  have distinct : Function.Injective fun second : Bool => if second then (2 : Code) else 1 := by
    unfold Function.Injective
    decide
  have crypto : ∀ happening ∈ twoDigests [7] [8], happening.IsCryptographic := by
    simp only [twoDigests, List.forall_mem_cons]
    exact ⟨trivial, trivial, trivial, fun _ => ⟨rfl, rfl⟩, trivial, trivial, trivial, fun _ h => nomatch h⟩
  exact sessions_isolated (fun _ => rfl) distinct crypto true

end SoftToken

end TokenClient
