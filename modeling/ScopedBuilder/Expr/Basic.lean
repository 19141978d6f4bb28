import ScopedBuilder.Attr
import ScopedBuilder.Variable

/-!
Expressions of the intermediate representation. A sequence holds blocks of bindings and the value they
compute; tuples, calls and sequences carry the type found for them by normalization.
-/

namespace ScopedBuilder

/-- Whether the bindings of a block are free of side effects and local to it. -/
inductive BlockKind where
  | ordinary
  | dataflow
  deriving DecidableEq

namespace BlockKind

def isDataflow : BlockKind → Bool
  | ordinary => false
  | dataflow => true

end BlockKind

structure Binding (ε : Type) where
  var : Var
  value : ε

/-- A straight line of bindings of one kind. -/
structure Block (ε : Type) where
  kind : BlockKind
  bindings : List (Binding ε)

inductive Expr where
  | var (v : Var)
  | global (g : Global)
  /-- A function provided outside the module, by its symbol. -/
  | external (symbol : String)
  /-- A built-in operator. -/
  | op (name : String)
  | shape (dims : List Dim)
  | tuple (fields : List Expr) (ty : Option Ty)
  | call (callee : Expr) (args : List Expr) (attrs : Attrs) (typeArgs : List Ty) (ty : Option Ty)
  | seq (blocks : List (Block Expr)) (body : Expr) (ty : Option Ty)

/-- What a node is, as far as renaming is concerned. -/
inductive ExprKind where
  | var
  | dataflowVar
  | global
  | external
  | op
  | shape
  | tuple
  | call
  | seq
  deriving DecidableEq

def ExprKind.text : ExprKind → String
  | var => "Var"
  | dataflowVar => "DataflowVar"
  | global => "GlobalVar"
  | external => "ExternFunc"
  | op => "Op"
  | shape => "Shape"
  | tuple => "Tuple"
  | call => "Call"
  | seq => "Seq"

namespace Expr

def kind : Expr → ExprKind
  | var v => if v.dataflow then .dataflowVar else .var
  | global _ => .global
  | external _ => .external
  | op _ => .op
  | shape _ => .shape
  | tuple .. => .tuple
  | call .. => .call
  | seq .. => .seq

/-- The type recorded for an expression: a variable's annotation, or what normalization found. -/
def checkedTy : Expr → Option Ty
  | var v => v.ty
  | shape _ => some .shape
  | tuple _ ty | call _ _ _ _ ty | seq _ _ ty => ty
  | global _ | external _ | op _ => none

def asVar? : Expr → Option Var
  | var v => some v
  | _ => none

/-- The operator that calls a low-level kernel. -/
def kernelCallOp : String := "relax.call_tir"

/-- A call of a kernel on a tuple of arguments. The shape of the result follows the arguments, then the
packed integers, if any; the type of the result is the only type argument. -/
def kernelCall (kernel : Expr) (args : List Expr) (dims : List Dim) (element : String)
    (packed : Option Expr) : Expr :=
  .call (.op kernelCallOp) ([kernel, .tuple args none, .shape dims] ++ packed.toList) .empty
    [.ofShape dims element] none

mutual

/-- The text of an expression. A call shows no attributes, a sequence only counts its bindings. -/
def text : Expr → String
  | .var v => v.text
  | .global g => g.text
  | .external symbol => Text.quote symbol
  | .op name => name
  | .shape dims => "shape(" ++ ", ".intercalate (dims.map Dim.text) ++ ")"
  | .tuple fields _ => "(" ++ ", ".intercalate (texts fields) ++ ")"
  | .call callee args _ _ _ => text callee ++ "(" ++ ", ".intercalate (texts args) ++ ")"
  | .seq blocks body _ =>
    let count := (blocks.map fun b => b.bindings.length).sum
    "\x7b " ++ toString count ++ " bindings; " ++ text body ++ " \x7d"

def texts : List Expr → List String
  | [] => []
  | e :: es => text e :: texts es

end

end Expr

/-- An unnamed tensor variable of a shape, to be named as a parameter. -/
def VarSupply.tensor (s : VarSupply) (dims : List Dim) (element : String) : Var × VarSupply :=
  let (v, s) := s.fresh "" false (some (.ofShape dims element))
  ({ v with shape := some dims }, s)

end ScopedBuilder
