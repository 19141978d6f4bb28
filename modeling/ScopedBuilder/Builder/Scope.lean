import ScopedBuilder.Builder.Basic

/-!
Opening and closing scopes. A block that is opened inside another one suspends it, so that the blocks of
a function are recorded in the order in which their bindings were emitted.
-/

namespace ScopedBuilder

namespace FuncDraft

variable {σ : Type} [Emitter σ]

/-- Begins a block; the block directly around it, if there is one, is ended and recorded first. -/
def enterBlock (kind : BlockKind) (enclosing : Option BlockKind) :
    EStateM BuildError (FuncDraft σ) Unit := do
  if enclosing.isSome then endBlock
  modify (·.beginBlock kind)

/-- Ends and records a block; the block directly around it, if there is one, goes on. -/
def leaveBlock (enclosing : Option BlockKind) : EStateM BuildError (FuncDraft σ) Unit := do
  endBlock
  match enclosing with
  | some kind => modify (·.beginBlock kind)
  | none => pure ()

end FuncDraft

namespace BuildM

variable {σ : Type}

/-- Arranges the blocks of the innermost function. -/
def arrangeBlocks (kind : BlockKind) (act : EStateM BuildError (FuncDraft σ) Unit) :
    BuildM σ Unit :=
  onNearestFunction (.arrangeBlock kind) fun (f, supply) =>
    match act f with
    | .ok () f => .ok () (f, supply)
    | .error e f => .error e (f, supply)

variable [Emitter σ]

/-- Pushes a block and begins its bindings. -/
def enterBlock (kind : BlockKind) : BuildM σ Unit := do
  let frames := (← getBuilder).frames
  setFrames (.block kind :: frames)
  arrangeBlocks kind (FuncDraft.enterBlock kind frames.topBlock?)

/-- Pushes a frame and runs its entry. A function is entered together with its default block. -/
def enter (frame : Frame σ) : BuildM σ Scope := do
  let frames := (← getBuilder).frames
  match frame with
  | .module _ => setFrames (frame :: frames)
  | .function _ =>
    setFrames (frame :: frames)
    enterBlock .ordinary
  | .block kind => enterBlock kind
  return ⟨frames.length, frame.kind⟩

/-- Records the bindings of a block that was popped. -/
def leaveBlock (kind : BlockKind) : BuildM σ Unit := do
  let frames := (← getBuilder).frames
  arrangeBlocks kind (FuncDraft.leaveBlock frames.topBlock?)

/-- Assembles a function that was popped and hands it to the module directly below. A function with
nothing below is the result. -/
def leaveFunction (f : FuncDraft σ) : BuildM σ Unit := do
  let b ← getBuilder
  let func ← f.assemble b.config
  if b.frames.isEmpty then
    fillResult .finishFunction (.function func)
  else if b.frames.any Frame.isModule then
    inModuleScope .finishFunction fun m =>
      (m.define f.nameOrEmpty func .finishFunction).map ((), ·)
  else throw (.noInsertionTarget f.nameOrEmpty)

/-- Assembles a module that was popped; it is the result. -/
def leaveModule (m : ModuleDraft) : BuildM σ Unit := do
  let module ← m.assemble
  fillResult .finishModule (.module module)

/-- Pops the innermost frame and runs its exit. -/
def exitTop (op : Operation) : BuildM σ Unit := do
  match (← getBuilder).frames with
  | [] => throw (.emptyStack op)
  | frame :: below =>
    setFrames below
    match frame with
    | .module m => leaveModule m
    | .function f => leaveFunction f
    | .block kind => leaveBlock kind

/-- Closes the scope that a handle names, which must be the innermost one. The default block of a
function is closed before the function. -/
def closeHandle (op : Operation) (handle : Scope) : BuildM σ Unit := do
  match (← getBuilder).frames.innermostScope? with
  | none => throw (.emptyStack op)
  | some scope =>
    if scope ≠ handle then throw (.unbalancedScope op handle scope.depth)
    if handle.kind = .function then exitTop op
    exitTop op

end BuildM

open BuildM

namespace Builder

variable {σ : Type} [Emitter σ]

/-- Pushes a block without asking for a function first. -/
def pushBlock (kind : BlockKind) : BuildM σ Scope :=
  guarded .pushFrame (enter (.block kind))

def openModule : BuildM σ Scope :=
  guarded .openModule do
    let b ← getBuilder
    if b.frames.any Frame.isModule then throw (.nestedModule .openModule)
    enter (.module (.new b.config.nameScheme))

def openFunction : BuildM σ Scope :=
  guarded .openFunction do
    let b ← getBuilder
    enter (.function (.new (b.newEmitter b.config)))

def openBlock (kind : BlockKind) : BuildM σ Scope :=
  guarded .openBlock do
    if !(← getBuilder).frames.any Frame.isFunction then throw (.notInFunction .openBlock)
    enter (.block kind)

def close (handle : Scope) : BuildM σ Unit :=
  guarded .close (closeHandle .close handle)

/-- Closes the innermost scope. -/
def closeScope : BuildM σ Unit :=
  guarded .closeScope do
    match (← getBuilder).frames.innermostScope? with
    | none => throw (.emptyStack .closeScope)
    | some scope => closeHandle .closeScope scope

/-- Drops every open frame and returns their number. A session with open frames ends as failed. -/
def abort : BuildM σ Nat := fun w =>
  let frames := w.builder.frames
  .ok frames.length (if frames.isEmpty then w else (w.withFrames []).markFailed)

end Builder

end ScopedBuilder
