import ScopedBuilder.Builder.Scope

/-!
The operations that fill the open scopes: names and definitions in a module, the parts of a function,
bindings, and the result of the construction.
-/

namespace ScopedBuilder

open BuildM

namespace Builder

variable {σ : Type}

/-! ### In a module -/

/-- Reserves a name in the innermost module, with or without a definition. -/
def register (name : String) (f : Option Func) (rename : Bool) : BuildM σ Global :=
  guarded .register <| inModuleScope .register fun m => m.register name f rename .register

/-- Defines a registered name of the innermost module, for the first time if that is required. -/
def update (name : String) (f : Func) (first : Bool) : BuildM σ Unit :=
  guarded .update <| inModuleScope .update fun m => (m.update name f first .update).map ((), ·)

/-! ### In a function -/

/-- The node under a new name; it must be of a kind that can be renamed. -/
def renamed (renamers : Renamers) (e : Expr) (name : String) : Except BuildError Expr :=
  match renamers.rename? e name with
  | some e => .ok e
  | none => .error (.noRenamer e.kind name)

/-- Names a variable and makes it the next parameter. A renamer that makes something else of it is no
renamer for variables. -/
def addParam (name : String) (v : Var) : BuildM σ Var :=
  guarded .addParam do
    let renamers := (← getBuilder).renamers
    inFunctionScope .addParam fun f => do
      match ← renamed renamers (.var v) name with
      | .var v => .ok (v, { f with params := f.params ++ [v] })
      | e => .error (.noRenamer e.kind name)

def setName (name : String) : BuildM σ Unit :=
  guarded .setName <| inFunctionScope .setName fun f => (f.setName name).map ((), ·)

def setAttrs (attrs : Attrs) : BuildM σ Unit :=
  guarded .setAttrs <| inFunctionScope .setAttrs fun f => (f.setAttrs attrs).map ((), ·)

def setResultTy (ty : Ty) : BuildM σ Ty :=
  guarded .setResultTy <| inFunctionScope .setResultTy fun f => (f.setResult ty).map (ty, ·)

/-- Adds a value to return. -/
def addOutput (e : Expr) : BuildM σ Unit :=
  guarded .addOutput <| inFunctionScope .addOutput fun f =>
    .ok ((), { f with outputs := f.outputs ++ [e] })

/-- Binds an expression to a new variable in the innermost open block. -/
def emit [Emitter σ] (e : Expr) : BuildM σ Var :=
  guarded .emit (onNearestFunction .emit (FuncDraft.emit e))

/-- Emits the call of a kernel. -/
def emitKernelCall [Emitter σ] (kernel : Expr) (args : List Expr) (dims : List Dim)
    (element : String) (packed : Option Expr) : BuildM σ Var :=
  emit (.kernelCall kernel args dims element packed)

/-- Puts another block in place of the nearest one. This is no operation of a builder, which takes no part
in it: a lookup hands out the block itself, and a client may write into it at any time, also after the
session has failed. The function around the block is not told, and its emitter goes on as before. -/
def replaceBlock (kind : BlockKind) : BuildM σ Unit := fun w =>
  .ok () (w.withFrames (w.builder.frames.replaceBlock kind))

/-! ### The result -/

def setResult (artifact : Artifact) : BuildM σ Unit :=
  guarded .setResult (fillResult .setResult artifact)

/-- Takes the result out once every scope is closed. -/
def takeResult : BuildM σ (Option Artifact) := fun w =>
  if w.builder.frames.isEmpty then .ok w.builder.result (w.withResult none) else .ok none w

/-! ### Naming -/

def setRenamers (renamers : Renamers) : BuildM σ Unit := fun w => .ok () (w.withRenamers renamers)

/-- Puts a renamer in force, and returns the one it replaces. -/
def registerRenamer (kind : ExprKind) (renamer : Renamer) : BuildM σ (Option Renamer) := fun w =>
  let (previous, renamers) := w.builder.renamers.register kind renamer
  .ok previous (w.withRenamers renamers)

/-- Renames an expression by the renamers in force; a failure does not end the session. -/
def rename (e : Expr) (name : String) : BuildM σ Expr := do
  renamed (← getBuilder).renamers e name

end Builder

end ScopedBuilder
