import ScopedBuilder.Emitter.Basic
import ScopedBuilder.Builder.Error
import ScopedBuilder.Config.Basic
import ScopedBuilder.Func

/-!
A function under construction: what is known of it, the blocks finished so far, and the emitter that
holds its open blocks.
-/

namespace ScopedBuilder

structure FuncDraft (σ : Type) where
  name : Option String
  params : List Var
  result : Option Ty
  attrs : Attrs
  blocks : List (Block Expr)
  outputs : List Expr
  emitter : σ

namespace FuncDraft

variable {σ : Type}

def new (emitter : σ) : FuncDraft σ := ⟨none, [], none, .empty, [], [], emitter⟩

def setName (f : FuncDraft σ) (name : String) : Except BuildError (FuncDraft σ) :=
  match f.name with
  | some previous => .error (.duplicateName previous .setName)
  | none => .ok { f with name := some name }

/-- Attributes can be set again as long as there are none. -/
def setAttrs (f : FuncDraft σ) (attrs : Attrs) : Except BuildError (FuncDraft σ) :=
  if f.attrs.isEmpty then .ok { f with attrs := attrs }
  else .error (.duplicateAttrs f.attrs.size .setAttrs)

def setResult (f : FuncDraft σ) (ty : Ty) : Except BuildError (FuncDraft σ) :=
  match f.result with
  | some previous => .error (.duplicateResultTy previous .setResultTy)
  | none => .ok { f with result := some ty }

/-- Keeps a finished block unless it has no bindings. -/
def record (f : FuncDraft σ) (block : Block Expr) : FuncDraft σ :=
  if block.bindings.isEmpty then f else { f with blocks := f.blocks ++ [block] }

variable [Emitter σ]

def beginBlock (f : FuncDraft σ) (kind : BlockKind) : FuncDraft σ :=
  { f with emitter := Emitter.beginBlock kind f.emitter }

/-- Closes the innermost open block and keeps it. -/
def endBlock : EStateM BuildError (FuncDraft σ) Unit := fun f =>
  match Emitter.endBlock f.emitter with
  | .ok block emitter => .ok () ({ f with emitter := emitter }.record block)
  | .error cause emitter => .error (.emitter cause) { f with emitter := emitter }

/-- Binds an expression in the innermost open block. -/
def emit (e : Expr) : EStateM BuildError (FuncDraft σ × VarSupply) Var := fun (f, supply) =>
  match Emitter.emit e (f.emitter, supply) with
  | .ok v (emitter, supply) => .ok v ({ f with emitter := emitter }, supply)
  | .error cause (emitter, supply) =>
    .error (.emitter cause) ({ f with emitter := emitter }, supply)

/-- The name under which a module takes the function in; a function without a name has the empty one. -/
def nameOrEmpty (f : FuncDraft σ) : String := f.name.getD ""

/-- The value of the function, several outputs being returned as a tuple. -/
def output? (f : FuncDraft σ) : Option Expr :=
  match f.outputs with
  | [] => none
  | [e] => some e
  | es => some (.tuple es none)

/-- The attributes of the finished function: a name is recorded if the settings ask for it. -/
def finalAttrs (f : FuncDraft σ) (config : Config) : Attrs :=
  match config.recordSymbol, f.name with
  | true, some name => f.attrs.insert Func.symbolKey (.str name)
  | _, _ => f.attrs

/-- The finished function: its body holds the recorded blocks and the output, and is normalized. -/
def assemble (f : FuncDraft σ) (config : Config) : Except BuildError Func :=
  match f.output? with
  | none => .error (.missingOutput f.nameOrEmpty)
  | some output =>
    let (output, emitter) := Emitter.normalize output f.emitter
    let (body, _) := Emitter.normalize (.seq f.blocks output none) emitter
    match f.result with
    | none => .error (.missingResultTy f.nameOrEmpty)
    | some result => .ok ⟨f.params, body, result, f.finalAttrs config⟩

end FuncDraft

end ScopedBuilder
