import TokenClient.Module.Call

/-!
# Programs that talk to a module

A module is foreign: nothing is known of its state or of how it answers. What a client does with it is
therefore written down as a program — the calls it makes and how it goes on after each reply — and a
module is anything that answers calls and changes its state on the way. Running a program against a module
puts the two together. Statements about programs hold for every module.
-/

namespace TokenClient

/-- A computation that may call a module. -/
inductive Program (α : Type) : Type where
  | done (value : α)
  | ask (call : Call) (next : Reply call → Program α)

namespace Program

variable {α β σ : Type}

/-- The program that goes on with the value of another one. -/
def bind : Program α → (α → Program β) → Program β
  | done a, f => f a
  | ask call next, f => ask call fun reply => (next reply).bind f

/-- The program with its value changed. -/
def map (f : α → β) : Program α → Program β
  | done a => done (f a)
  | ask call next => ask call fun reply => (next reply).map f

instance : Monad Program where
  pure := done
  bind := bind

/-- One call and its result; what the module writes back is not looked at. -/
def request (call : Call) : Program (Except Error call.Result) :=
  ask call fun reply => done reply.result

/-- The program that goes on with a result, or ends with the failure. -/
def andThen (p : Program (Except Error α)) (f : α → Program (Except Error β)) :
    Program (Except Error β) :=
  p.bind fun
    | .ok a => f a
    | .error e => done (.error e)

/-! ## Programs with their values changed -/

/-- Changing the value of a program twice is changing it once, by both changes. -/
theorem map_map {γ : Type} (p : Program α) (f : α → β) (g : β → γ) : (p.map f).map g = p.map (g ∘ f) := by
  induction p with
  | done a => rfl
  | ask call next ih => exact congrArg (ask call) (funext ih)

/-- Only the last value of a program in two parts is changed. -/
theorem map_bind {γ : Type} (p : Program α) (f : α → Program β) (g : β → γ) :
    (p.bind f).map g = p.bind fun a => (f a).map g := by
  induction p with
  | done a => rfl
  | ask call next ih => exact congrArg (ask call) (funext ih)

/-- A value that is changed goes on as the changed value does. -/
theorem bind_map {γ : Type} (p : Program α) (f : α → β) (g : β → Program γ) : (p.map f).bind g = p.bind (g ∘ f) := by
  induction p with
  | done a => rfl
  | ask call next ih => exact congrArg (ask call) (funext ih)

end Program

/-- A module: how it answers each call, and its state afterwards. -/
structure Module (σ : Type) where
  answer : (call : Call) → σ → Reply call × σ

namespace Program

variable {α β σ : Type}

/-- The value of a program run against a module, and the module's state afterwards. -/
def run (module : Module σ) : Program α → σ → α × σ
  | done a, s => (a, s)
  | ask call next, s => run module (next (module.answer call s).1) (module.answer call s).2

/-- A program that is done makes no calls. -/
@[simp]
theorem run_done (module : Module σ) (a : α) (s : σ) : (done a).run module s = (a, s) := rfl

/-- A request is one call. -/
@[simp]
theorem run_request (module : Module σ) (call : Call) (s : σ) :
    (request call).run module s = ((module.answer call s).1.result, (module.answer call s).2) := rfl

/-- A program and what goes on with its value run one after the other. -/
@[simp]
theorem run_bind (module : Module σ) (p : Program α) (f : α → Program β) (s : σ) :
    (p.bind f).run module s = (f (p.run module s).1).run module (p.run module s).2 := by
  induction p generalizing s with
  | done a => rfl
  | ask call next ih => exact ih _ _

/-- Changing the value of a program leaves the module's state alone. -/
@[simp]
theorem run_map (module : Module σ) (f : α → β) (p : Program α) (s : σ) :
    (p.map f).run module s = (f (p.run module s).1, (p.run module s).2) := by
  induction p generalizing s with
  | done a => rfl
  | ask call next ih => exact ih _ _

end Program

end TokenClient
