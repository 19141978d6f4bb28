import ScopedBuilder.Expr.Basic

/-!
The operations of a builder as errors name them, and the scopes they open and close.
-/

namespace ScopedBuilder

inductive Operation where
  | beginSession
  | endSession
  | useSession
  | pushFrame
  | close
  | closeScope
  | setResult
  | openModule
  | register
  | update
  | openFunction
  | addParam
  | setName
  | setAttrs
  | setResultTy
  | addOutput
  | openBlock
  | emit
  /-- Beginning, suspending or ending the bindings of a block. -/
  | arrangeBlock (kind : BlockKind)
  | finishModule
  | finishFunction
  deriving DecidableEq

def Operation.text : Operation → String
  | beginSession => "begin"
  | endSession => "end"
  | useSession => "current"
  | pushFrame => "push"
  | close => "close"
  | closeScope => "close_scope"
  | setResult => "set_result"
  | openModule => "open_module"
  | register => "add_function"
  | update => "update_function"
  | openFunction => "function"
  | addParam => "arg"
  | setName => "func_name"
  | setAttrs => "func_attr"
  | setResultTy => "ret_type"
  | addOutput => "return"
  | openBlock => "block"
  | emit => "emit"
  | arrangeBlock .ordinary => "binding_block"
  | arrangeBlock .dataflow => "dataflow"
  | finishModule => "close module"
  | finishFunction => "close function"

inductive ScopeKind where
  | module
  | function
  | block
  deriving DecidableEq

def ScopeKind.text : ScopeKind → String
  | module => "Module"
  | function => "Function"
  | block => "Block"

/-- Names an open scope by the number of frames below it and its kind. -/
structure Scope where
  depth : Nat
  kind : ScopeKind
  deriving DecidableEq

end ScopedBuilder
