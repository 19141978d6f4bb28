import ScopedBuilder.Builder.Error

/-!
The session of a thread: the builder in use there, for hosts that cannot pass a builder along. While a
closure works on the builder, the session is borrowed and can be neither begun, ended nor entered.
-/

namespace ScopedBuilder

inductive Session (β : Type) where
  | idle
  | active (builder : β)
  | borrowed

namespace Session

variable {α β : Type}

/-- Makes a builder the current one. -/
def start (builder : β) : Session β → Except BuildError (Session β)
  | idle => .ok (active builder)
  | active _ => .error (.builderAlreadyActive .beginSession)
  | borrowed => .error (.builderInUse .beginSession)

/-- Hands the current builder back. -/
def finish : Session β → Except BuildError (β × Session β)
  | idle => .error (.noActiveBuilder .endSession)
  | active builder => .ok (builder, idle)
  | borrowed => .error (.builderInUse .endSession)

/-- A borrowed session does not count as active. -/
def isActive : Session β → Bool
  | active _ => true
  | idle | borrowed => false

/-- The builder for a closure to work on. -/
def borrow : Session β → Except BuildError β
  | idle => .error (.noActiveBuilder .useSession)
  | active builder => .ok builder
  | borrowed => .error (.builderInUse .useSession)

/-- Runs a closure on the current builder. What it made of the builder stays, whatever its outcome. -/
def withCurrent {m : Type → Type} [Monad m] [MonadStateOf (Session β) m]
    (body : β → m (Except BuildError α × β)) : m (Except BuildError α) := do
  match (← getThe (Session β)).borrow with
  | .error e => return .error e
  | .ok builder =>
    set (borrowed : Session β)
    let (outcome, builder) ← body builder
    set (active builder)
    return outcome

end Session

end ScopedBuilder
