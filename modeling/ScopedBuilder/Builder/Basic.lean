import ScopedBuilder.Builder.Frame
import ScopedBuilder.Naming.Renamers

/-!
The builder: a stack of open frames and the result of the construction. Operations run in a monad whose
errors keep the state, since a failed operation may leave its traces in the builder.
-/

namespace ScopedBuilder

structure Builder (σ : Type) where
  frames : Frames σ
  result : Option Artifact
  config : Config
  renamers : Renamers
  /-- Makes the emitter of a new function. -/
  newEmitter : Config → σ
  /-- After the first error nothing but giving up is possible. -/
  failed : Bool

namespace Builder

variable {σ : Type}

def new (config : Config) (newEmitter : Config → σ) : Builder σ :=
  ⟨[], none, config, .standard, newEmitter, false⟩

def depth (b : Builder σ) : Nat := b.frames.length

/-- The kinds of the open frames, outermost first. -/
def frameKinds (b : Builder σ) : List ScopeKind := (b.frames.map Frame.kind).reverse

/-- The result type of the innermost function, if it is set. -/
def resultTy? (b : Builder σ) : Option Ty := b.frames.nearestFunction?.bind (·.result)

end Builder

/-- A builder at work and the identities it can still give to variables. -/
structure Workspace (σ : Type) where
  builder : Builder σ
  supply : VarSupply

namespace Workspace

variable {σ : Type}

def withFrames (w : Workspace σ) (frames : Frames σ) : Workspace σ :=
  { w with builder := { w.builder with frames := frames } }

def withResult (w : Workspace σ) (result : Option Artifact) : Workspace σ :=
  { w with builder := { w.builder with result := result } }

def withRenamers (w : Workspace σ) (renamers : Renamers) : Workspace σ :=
  { w with builder := { w.builder with renamers := renamers } }

def markFailed (w : Workspace σ) : Workspace σ :=
  { w with builder := { w.builder with failed := true } }

end Workspace

/-- An operation on a builder. -/
abbrev BuildM (σ : Type) := EStateM BuildError (Workspace σ)

namespace BuildM

variable {σ α : Type}

instance : MonadLift (Except BuildError) (BuildM σ) := ⟨MonadExcept.ofExcept⟩

def getBuilder : BuildM σ (Builder σ) := fun w => .ok w.builder w

def setFrames (frames : Frames σ) : BuildM σ Unit := fun w => .ok () (w.withFrames frames)

/-- Runs an operation of a session that has not failed; an error ends the session. -/
def guarded (op : Operation) (act : BuildM σ α) : BuildM σ α := fun w =>
  if w.builder.failed then .error (.sessionFailed op) w
  else
    match act w with
    | .ok a w => .ok a w
    | .error e w => .error e w.markFailed

/-- Fills the result, which must be empty. -/
def fillResult (op : Operation) (artifact : Artifact) : BuildM σ Unit := fun w =>
  if w.builder.result.isSome then .error (.resultAlreadySet op) w
  else .ok () (w.withResult (some artifact))

/-- Works on the innermost function, however many frames are above it. -/
def onNearestFunction (op : Operation) (act : EStateM BuildError (FuncDraft σ × VarSupply) α) :
    BuildM σ α := fun w =>
  match w.builder.frames.splitFunction? with
  | none => .error (.notInFunction op) w
  | some (above, f, below) =>
    match act (f, w.supply) with
    | .ok a (f, supply) =>
      .ok a { w.withFrames (above ++ .function f :: below) with supply := supply }
    | .error e (f, supply) =>
      .error e { w.withFrames (above ++ .function f :: below) with supply := supply }

/-- Works on the function whose scope is the innermost one. -/
def inFunctionScope (op : Operation) (act : FuncDraft σ → Except BuildError (α × FuncDraft σ)) :
    BuildM σ α := fun w =>
  match w.builder.frames.functionScope? with
  | some (kind, f, below) =>
    match act f with
    | .ok (a, f) => .ok a (w.withFrames (.block kind :: .function f :: below))
    | .error e => .error e w
  | none =>
    if w.builder.frames.any Frame.isFunction then .error (.notImmediatelyInFunction op) w
    else .error (.notInFunction op) w

/-- Works on the module whose scope is the innermost one. -/
def inModuleScope (op : Operation) (act : ModuleDraft → Except BuildError (α × ModuleDraft)) :
    BuildM σ α := fun w =>
  match w.builder.frames.moduleScope? with
  | some (m, below) =>
    match act m with
    | .ok (a, m) => .ok a (w.withFrames (.module m :: below))
    | .error e => .error e w
  | none =>
    if w.builder.frames.any Frame.isModule then .error (.notImmediatelyInModule op) w
    else .error (.moduleNotFound op) w

end BuildM

end ScopedBuilder
