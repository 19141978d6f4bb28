import ScopedBuilder.Builder.Definition

/-!
The operations of a builder as data, so that a run of a builder is a list of them. What a client does by
itself to a frame that a lookup hands out is no operation. A block can be overwritten there with one of the
client's own making, see `Builder.replaceBlock`; that a client exchanges the frames of two builders, or gets
at the stack by a lookup of its own making, is not modelled.
-/

namespace ScopedBuilder

/-- An operation with its arguments. -/
inductive Action where
  | openModule
  | openFunction
  | openBlock (kind : BlockKind)
  | pushBlock (kind : BlockKind)
  | close (handle : Scope)
  | closeScope
  | abort
  | register (name : String) (f : Option Func) (rename : Bool)
  | update (name : String) (f : Func) (first : Bool)
  | addParam (name : String) (v : Var)
  | setName (name : String)
  | setAttrs (attrs : Attrs)
  | setResultTy (ty : Ty)
  | addOutput (e : Expr)
  | emit (e : Expr)
  | emitKernelCall (kernel : Expr) (args : List Expr) (dims : List Dim) (element : String)
      (packed : Option Expr)
  | setResult (artifact : Artifact)
  | takeResult
  | setRenamers (renamers : Renamers)
  | registerRenamer (kind : ExprKind) (renamer : Renamer)
  | rename (e : Expr) (name : String)

/-- What an operation that succeeds returns. -/
inductive Reply where
  | done
  | scope (handle : Scope)
  | dropped (frames : Nat)
  | global (g : Global)
  | var (v : Var)
  | ty (ty : Ty)
  | artifact (artifact : Option Artifact)
  | replaced (previous : Option Renamer)
  | expr (e : Expr)

/-- Carries out an operation. -/
def Action.run {σ : Type} [Emitter σ] : Action → BuildM σ Reply
  | openModule => return .scope (← Builder.openModule)
  | openFunction => return .scope (← Builder.openFunction)
  | openBlock kind => return .scope (← Builder.openBlock kind)
  | pushBlock kind => return .scope (← Builder.pushBlock kind)
  | close handle => do Builder.close handle; return .done
  | closeScope => do Builder.closeScope; return .done
  | abort => return .dropped (← Builder.abort)
  | register name f allowRename => return .global (← Builder.register name f allowRename)
  | update name f first => do Builder.update name f first; return .done
  | addParam name v => return .var (← Builder.addParam name v)
  | setName name => do Builder.setName name; return .done
  | setAttrs attrs => do Builder.setAttrs attrs; return .done
  | setResultTy ty => return .ty (← Builder.setResultTy ty)
  | addOutput e => do Builder.addOutput e; return .done
  | emit e => return .var (← Builder.emit e)
  | emitKernelCall kernel args dims element packed =>
    return .var (← Builder.emitKernelCall kernel args dims element packed)
  | setResult artifact => do Builder.setResult artifact; return .done
  | takeResult => return .artifact (← Builder.takeResult)
  | setRenamers renamers => do Builder.setRenamers renamers; return .done
  | registerRenamer kind renamer => return .replaced (← Builder.registerRenamer kind renamer)
  | rename e name => return .expr (← Builder.rename e name)

end ScopedBuilder
