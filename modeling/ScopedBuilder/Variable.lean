import ScopedBuilder.Ty

/-!
Local variables, and names of module functions. A variable is its identity: the name is a hint that
may change, and comparison ignores everything but the identity.
-/

namespace ScopedBuilder

/-- A local variable; one that belongs to a dataflow block is not visible outside of it. -/
structure Var where
  id : Nat
  name : String
  dataflow : Bool
  shape : Option (List Dim)
  ty : Option Ty

instance : BEq Var := ⟨fun v w => v.id == w.id⟩

/-- An unnamed variable shows its identity. -/
def Var.text (v : Var) : String :=
  if v.name = "" then "%" ++ toString v.id else v.name

/-- The source of identities: every identity below the next one is in use. -/
structure VarSupply where
  next : Nat
  deriving DecidableEq

/-- A new variable, and the supply without its identity. -/
def VarSupply.fresh (s : VarSupply) (name : String) (dataflow : Bool) (ty : Option Ty) :
    Var × VarSupply :=
  (⟨s.next, name, dataflow, none, ty⟩, ⟨s.next + 1⟩)

/-- A function of a module by name, with the slot its definition has there. -/
structure Global where
  name : String
  index : Nat
  deriving DecidableEq

def Global.text (g : Global) : String :=
  "@" ++ g.name

end ScopedBuilder
