import ScopedBuilder.Builder.Scope

/-!
Scopes around a computation. The computation may do more than build, so it runs in any monad that
building lifts to; an error of it leaves the scope open.
-/

namespace ScopedBuilder.Builder

variable {σ α : Type} {m : Type → Type}

/-- Opens a scope, runs the body, and closes the scope if the body succeeds. -/
def withScope [Emitter σ] [Monad m] [MonadLiftT (BuildM σ) m] (opening : BuildM σ Scope)
    (body : m α) : m α := do
  let handle ← opening
  let a ← body
  (close handle : BuildM σ Unit)
  return a

variable (σ) [Emitter σ] [Monad m] [MonadLiftT (BuildM σ) m]

def inModule (body : m α) : m α := withScope (openModule : BuildM σ Scope) body

def inFunction (body : m α) : m α := withScope (openFunction : BuildM σ Scope) body

def inBlock (kind : BlockKind) (body : m α) : m α :=
  withScope (openBlock kind : BuildM σ Scope) body

end ScopedBuilder.Builder
