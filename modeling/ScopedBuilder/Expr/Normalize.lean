import ScopedBuilder.Expr.Basic

/-!
Normalization: the types of tuples, calls and sequences are worked out from their parts. The blocks of
a sequence and the callee of a call are left as they are.
-/

namespace ScopedBuilder

namespace Expr

/-- A call keeps the type it has; otherwise a single type argument is its type. -/
def callTy (ty : Option Ty) (typeArgs : List Ty) : Option Ty :=
  match ty, typeArgs with
  | some ty, _ => some ty
  | none, [ty] => some ty
  | none, _ => none

mutual

/-- Fills in the types of an expression. A tuple has a type when all its fields have one. -/
def normalize : Expr → Expr
  | .tuple fields _ =>
    let fields := normalizeAll fields
    .tuple fields ((fields.mapM checkedTy).map .tuple)
  | .call callee args attrs typeArgs ty =>
    .call callee (normalizeAll args) attrs typeArgs (callTy ty typeArgs)
  | .seq blocks body _ =>
    let body := normalize body
    .seq blocks body body.checkedTy
  | .var v => .var v
  | .global g => .global g
  | .external symbol => .external symbol
  | .op name => .op name
  | .shape dims => .shape dims

def normalizeAll : List Expr → List Expr
  | [] => []
  | e :: es => normalize e :: normalizeAll es

end

end Expr

end ScopedBuilder
