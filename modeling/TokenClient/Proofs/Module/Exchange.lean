import TokenClient.Module.Program

/-!
# Exchanges with a module

What a program does depends on the replies it gets, and a module may reply anything. So a program is
looked at through the exchanges it can have: the calls it makes, each with the reply to it, and the value
it ends with (`Program.Plays`). Nothing is assumed of the replies. Every run of a program against a module
is such a play (`Program.plays_run`), so what holds of all plays holds against every module.

The replies leave a program no choice: the exchanges determine its value (`Program.Plays.unique`). A module
may change its state with each reply (`Module.Replies`). Which calls a program can make at all can be told
from the program alone (`Program.AllCalls`).
-/

namespace TokenClient

/-- A call and the reply to it. -/
structure Exchange where
  call : Call
  reply : Reply call

namespace Program

variable {α β σ : Type}

/-- The program makes exactly these calls if it gets these replies, and ends with this value. -/
inductive Plays : Program α → List Exchange → α → Prop
  | done (a : α) : Plays (.done a) [] a
  | ask {call : Call} {next : Reply call → Program α} {exchanges : List Exchange} {a : α}
      (reply : Reply call) :
      Plays (next reply) exchanges a → Plays (.ask call next) (⟨call, reply⟩ :: exchanges) a

/-- A program that is done plays no exchange. -/
@[simp]
theorem plays_done {a b : α} {exchanges : List Exchange} :
    (done a).Plays exchanges b ↔ exchanges = [] ∧ b = a := by
  constructor
  · intro h
    cases h
    exact ⟨rfl, rfl⟩
  · rintro ⟨rfl, rfl⟩
    exact .done _

/-- A program that asks plays the exchange of its call and goes on with the reply. -/
@[simp]
theorem plays_ask {call : Call} {next : Reply call → Program α} {exchanges : List Exchange} {a : α} :
    (ask call next).Plays exchanges a ↔
      ∃ reply rest, exchanges = ⟨call, reply⟩ :: rest ∧ (next reply).Plays rest a := by
  constructor
  · intro h
    cases h with
    | ask reply h => exact ⟨reply, _, rfl, h⟩
  · rintro ⟨reply, rest, rfl, h⟩
    exact .ask reply h

-- The type of the results unfolds once the call is known, so it is no key for finding this lemma.
/-- A single request plays one exchange. -/
@[simp]
theorem plays_request {call : Call} {exchanges : List Exchange} {result : Except Error call.Result} :
    @Plays (no_index _) (request call) exchanges result ↔
      ∃ reply, exchanges = [⟨call, reply⟩] ∧ result = reply.result := by
  simp only [request, plays_ask, plays_done]
  constructor
  · rintro ⟨reply, rest, rfl, rfl, rfl⟩
    exact ⟨reply, rfl, rfl⟩
  · rintro ⟨reply, rfl, rfl⟩
    exact ⟨reply, [], rfl, rfl, rfl⟩

/-- The exchanges of a program come before those of what goes on with its value. -/
@[simp]
theorem plays_bind {p : Program α} {f : α → Program β} {exchanges : List Exchange} {b : β} :
    (p.bind f).Plays exchanges b ↔
      ∃ first rest a, exchanges = first ++ rest ∧ p.Plays first a ∧ (f a).Plays rest b := by
  induction p generalizing exchanges with
  | done a =>
    constructor
    · intro h
      exact ⟨[], exchanges, a, rfl, .done a, h⟩
    · rintro ⟨first, rest, a', rfl, hp, hf⟩
      obtain ⟨rfl, rfl⟩ := plays_done.1 hp
      exact hf
  | ask call next ih =>
    constructor
    · intro h
      obtain ⟨reply, others, rfl, hothers⟩ := plays_ask.1 h
      obtain ⟨first, rest, a, rfl, hp, hf⟩ := (ih reply).1 hothers
      exact ⟨⟨call, reply⟩ :: first, rest, a, rfl, .ask reply hp, hf⟩
    · rintro ⟨first, rest, a, rfl, hp, hf⟩
      obtain ⟨reply, others, rfl, hothers⟩ := plays_ask.1 hp
      exact .ask reply ((ih reply).2 ⟨others, rest, a, rfl, hothers, hf⟩)

/-- Mapping the result of a program changes no exchange. -/
@[simp]
theorem plays_map {p : Program α} {f : α → β} {exchanges : List Exchange} {b : β} :
    (p.map f).Plays exchanges b ↔ ∃ a, p.Plays exchanges a ∧ b = f a := by
  induction p generalizing exchanges with
  | done a =>
    constructor
    · intro h
      obtain ⟨rfl, rfl⟩ := plays_done.1 h
      exact ⟨a, .done a, rfl⟩
    · rintro ⟨a', hp, rfl⟩
      obtain ⟨rfl, rfl⟩ := plays_done.1 hp
      exact .done _
  | ask call next ih =>
    constructor
    · intro h
      obtain ⟨reply, rest, rfl, hrest⟩ := plays_ask.1 h
      obtain ⟨a, hp, rfl⟩ := (ih reply).1 hrest
      exact ⟨a, .ask reply hp, rfl⟩
    · rintro ⟨a, hp, rfl⟩
      obtain ⟨reply, rest, rfl, hrest⟩ := plays_ask.1 hp
      exact .ask reply ((ih reply).2 ⟨a, hrest, rfl⟩)

/-- The same exchanges lead to the same value. -/
theorem Plays.unique {p : Program α} {exchanges : List Exchange} {a b : α}
    (ha : p.Plays exchanges a) (hb : p.Plays exchanges b) : b = a := by
  induction ha with
  | done a => exact (plays_done.1 hb).2
  | ask reply _ ih =>
    obtain ⟨reply', rest, heq, hb⟩ := plays_ask.1 hb
    cases heq
    exact ih hb

/-- The exchanges of a program that is run against a module. -/
def exchanges (module : Module σ) : Program α → σ → List Exchange
  | done _, _ => []
  | ask call next, s =>
    ⟨call, (module.answer call s).1⟩ ::
      exchanges module (next (module.answer call s).1) (module.answer call s).2

/-- A run against a module is a play. -/
theorem plays_run (module : Module σ) (p : Program α) (s : σ) :
    p.Plays (p.exchanges module s) (p.run module s).1 := by
  induction p generalizing s with
  | done a => exact .done a
  | ask call next ih => exact .ask _ (ih _ _)

end Program

/-- A module gives the replies of some exchanges one after the other, and goes from one state to another. -/
inductive Module.Replies {σ : Type} (module : Module σ) : σ → List Exchange → σ → Prop
  | nil (s : σ) : Replies module s [] s
  | cons {s later : σ} {exchanges : List Exchange} (call : Call) :
      Replies module (module.answer call s).2 exchanges later →
        Replies module s (⟨call, (module.answer call s).1⟩ :: exchanges) later

namespace Program

variable {α β σ : Type}

/-- The exchanges of a run lead the module to the state after the run. -/
theorem replies_run (module : Module σ) (p : Program α) (s : σ) :
    module.Replies s (p.exchanges module s) (p.run module s).2 := by
  induction p generalizing s with
  | done a => exact .nil s
  | ask call next ih => exact .cons call (ih _ _)

/-! ## The calls that a program can make -/

/-- Every call that a program can make has a property, whatever the replies are. -/
def AllCalls (P : Call → Prop) : Program α → Prop
  | done _ => True
  | ask call next => P call ∧ ∀ reply, (next reply).AllCalls P

variable {P : Call → Prop} {p : Program α}

/-- A single request makes its one call. -/
theorem allCalls_request {call : Call} (h : P call) : (request call).AllCalls P :=
  ⟨h, fun _ => trivial⟩

/-- What two programs call has a property when what each calls has it. -/
theorem AllCalls.bind {f : α → Program β} (first : p.AllCalls P) (rest : ∀ a, (f a).AllCalls P) :
    (p.bind f).AllCalls P := by
  induction p with
  | done a => exact rest a
  | ask call next ih => exact ⟨first.1, fun reply => ih reply (first.2 reply)⟩

/-- Mapping the result of a program changes no call. -/
theorem AllCalls.map (all : p.AllCalls P) (f : α → β) : (p.map f).AllCalls P := by
  induction p with
  | done a => trivial
  | ask call next ih => exact ⟨all.1, fun reply => ih reply (all.2 reply)⟩

/-- Every exchange played is of a call the program can make. -/
theorem AllCalls.of_plays {exchanges : List Exchange} {a : α} (all : p.AllCalls P)
    (plays : p.Plays exchanges a) : ∀ exchange ∈ exchanges, P exchange.call := by
  induction plays with
  | done a => exact fun _ h => nomatch h
  | ask reply _ ih => exact List.forall_mem_cons.2 ⟨all.1, ih (all.2 reply)⟩

end Program

end TokenClient
