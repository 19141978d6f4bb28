import ScopedBuilder.Expr.Equality

/-!
Finished functions and modules.
-/

namespace ScopedBuilder

structure Func where
  params : List Var
  body : Expr
  result : Ty
  attrs : Attrs

instance : BEq Func :=
  ⟨fun f g => f.params == g.params && f.body == g.body && f.result == g.result && f.attrs == g.attrs⟩

namespace Func

/-- The attribute that records the name of a function. -/
def symbolKey : String := "global_symbol"

/-- The name recorded in the attributes, if it is a text. -/
def symbol? (f : Func) : Option String :=
  match f.attrs.find? symbolKey with
  | some (.str name) => some name
  | _ => none

def blocks (f : Func) : List (Block Expr) :=
  match f.body with
  | .seq blocks _ _ => blocks
  | _ => []

/-- The value a function returns. -/
def output (f : Func) : Expr :=
  match f.body with
  | .seq _ body _ => body
  | body => body

end Func

/-- The functions of a module, in the order in which their names were registered. -/
structure Module where
  functions : List (Global × Func)

namespace Module

def empty : Module := ⟨[]⟩

/-- Adds a function at the end, or replaces the one under the same name and index. -/
def insert (m : Module) (g : Global) (f : Func) : Module :=
  if m.functions.any (·.1 == g) then
    ⟨m.functions.map fun entry => if entry.1 = g then (g, f) else entry⟩
  else ⟨m.functions ++ [(g, f)]⟩

def ofList (functions : List (Global × Func)) : Module :=
  functions.foldl (fun m (g, f) => m.insert g f) empty

def entry? (m : Module) (name : String) : Option (Global × Func) :=
  m.functions.find? (·.1.name == name)

def global? (m : Module) (name : String) : Option Global :=
  (m.entry? name).map (·.1)

def func? (m : Module) (name : String) : Option Func :=
  (m.entry? name).map (·.2)

def names (m : Module) : List String :=
  m.functions.map (·.1.name)

def size (m : Module) : Nat := m.functions.length

def isEmpty (m : Module) : Bool := m.functions.isEmpty

end Module

/-- What a construction produces. -/
inductive Artifact where
  | module (m : Module)
  | function (f : Func)

end ScopedBuilder
