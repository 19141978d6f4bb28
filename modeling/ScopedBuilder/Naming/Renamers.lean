import ScopedBuilder.Expr.Basic

/-!
Renaming of expression nodes, by a rule for each kind of node.
-/

namespace ScopedBuilder

/-- Gives a node a name; it may as well replace the node. What it makes depends on the node and the name alone:
a renamer that makes variables itself, and so takes identities from the supply, is not modelled. -/
abbrev Renamer := String → Expr → Expr

namespace Renamer

def renameVar : Renamer
  | name, .var v => .var { v with name := name }
  | _, e => e

def renameGlobal : Renamer
  | name, .global g => .global { g with name := name }
  | _, e => e

end Renamer

/-- The renamers in force, at most one for each kind of node. -/
structure Renamers where
  renamer? : ExprKind → Option Renamer

namespace Renamers

def empty : Renamers := ⟨fun _ => none⟩

/-- Puts a renamer in force, and returns the one it replaces. -/
def register (r : Renamers) (kind : ExprKind) (renamer : Renamer) : Option Renamer × Renamers :=
  (r.renamer? kind, ⟨fun k => if k = kind then some renamer else r.renamer? k⟩)

/-- Renames variables of both sorts and the names of functions. -/
def standard : Renamers where
  renamer?
    | .var | .dataflowVar => some .renameVar
    | .global => some .renameGlobal
    | _ => none

/-- The node renamed by the renamer for its kind, if there is one. -/
def rename? (r : Renamers) (e : Expr) (name : String) : Option Expr :=
  (r.renamer? e.kind).map fun renamer => renamer name e

end Renamers

end ScopedBuilder
