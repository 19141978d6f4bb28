import ScopedBuilder.Expr.Basic

/-!
Equality of expressions: the same structure over the same variables. Variables compare by identity and
attribute numbers numerically; types, names of functions and stored types compare in full.
-/

namespace ScopedBuilder

namespace Expr

mutual

def same : Expr → Expr → Bool
  | .var v, .var w => v == w
  | .global g, .global h => g == h
  | .external s, .external t => s == t
  | .op s, .op t => s == t
  | .shape ds, .shape es => ds == es
  | .tuple fs t, .tuple gs u => sameAll fs gs && t == u
  | .call f as ps ts t, .call g bs qs us u =>
    same f g && sameAll as bs && ps == qs && ts == us && t == u
  | .seq bs e t, .seq cs f u => sameBlocks bs cs && same e f && t == u
  | _, _ => false

def sameAll : List Expr → List Expr → Bool
  | [], [] => true
  | e :: es, f :: fs => same e f && sameAll es fs
  | _, _ => false

def sameBlocks : List (Block Expr) → List (Block Expr) → Bool
  | [], [] => true
  | b :: bs, c :: cs => sameBlock b c && sameBlocks bs cs
  | _, _ => false

def sameBlock : Block Expr → Block Expr → Bool
  | ⟨k, bs⟩, ⟨l, cs⟩ => sameBindings bs cs && k == l

def sameBindings : List (Binding Expr) → List (Binding Expr) → Bool
  | [], [] => true
  | b :: bs, c :: cs => sameBinding b c && sameBindings bs cs
  | _, _ => false

def sameBinding : Binding Expr → Binding Expr → Bool
  | ⟨v, e⟩, ⟨w, f⟩ => v == w && same e f

end

instance : BEq Expr := ⟨same⟩

end Expr

end ScopedBuilder
