import ScopedBuilder.Expr.Basic

/-!
What a function under construction needs of the thing that collects its bindings.
-/

namespace ScopedBuilder

/-- An operation that needs an open block. -/
inductive BlockOperation where
  | emit
  | endBlock
  deriving DecidableEq

def BlockOperation.text : BlockOperation → String
  | emit => "emit"
  | endBlock => "end_block"

inductive EmitterError where
  | noOpenBlock (operation : BlockOperation)
  deriving DecidableEq

def EmitterError.message : EmitterError → String
  | noOpenBlock operation => "no binding block is open for " ++ operation.text

/-- Collects bindings into blocks that nest, and normalizes expressions. An operation may change the
state also when it fails. -/
class Emitter (σ : Type) where
  beginBlock : BlockKind → σ → σ
  /-- Binds an expression to a new variable in the innermost open block. -/
  emit : Expr → EStateM EmitterError (σ × VarSupply) Var
  /-- Closes the innermost open block. -/
  endBlock : EStateM EmitterError σ (Block Expr)
  normalize : Expr → StateM σ Expr

end ScopedBuilder
