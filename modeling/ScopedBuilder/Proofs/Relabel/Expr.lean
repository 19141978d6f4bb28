import ScopedBuilder.Expr.Normalize
import ScopedBuilder.Func

/-!
# Relabelling the variables of an expression

A map of identities is carried to expressions, functions and modules; names, types and the structure stay.
Normalization commutes with it, since it never looks at an identity.
-/

namespace ScopedBuilder

/-! ## Expressions -/

def Var.relabel (π : Nat → Nat) (v : Var) : Var := { v with id := π v.id }

namespace Expr

mutual

/-- The expression with other identities for its variables. -/
def relabel (π : Nat → Nat) : Expr → Expr
  | .var v => .var (v.relabel π)
  | .global g => .global g
  | .external symbol => .external symbol
  | .op name => .op name
  | .shape dims => .shape dims
  | .tuple fields ty => .tuple (relabelAll π fields) ty
  | .call callee args attrs typeArgs ty =>
    .call (relabel π callee) (relabelAll π args) attrs typeArgs ty
  | .seq blocks body ty => .seq (relabelBlocks π blocks) (relabel π body) ty

def relabelAll (π : Nat → Nat) : List Expr → List Expr
  | [] => []
  | e :: es => relabel π e :: relabelAll π es

def relabelBlocks (π : Nat → Nat) : List (Block Expr) → List (Block Expr)
  | [] => []
  | ⟨kind, bindings⟩ :: blocks => ⟨kind, relabelBindings π bindings⟩ :: relabelBlocks π blocks

def relabelBindings (π : Nat → Nat) : List (Binding Expr) → List (Binding Expr)
  | [] => []
  | ⟨v, e⟩ :: bindings => ⟨v.relabel π, relabel π e⟩ :: relabelBindings π bindings

end

end Expr

def Binding.relabel (π : Nat → Nat) (b : Binding Expr) : Binding Expr :=
  ⟨b.var.relabel π, b.value.relabel π⟩

def Block.relabel (π : Nat → Nat) (b : Block Expr) : Block Expr :=
  ⟨b.kind, b.bindings.map (·.relabel π)⟩

namespace Expr

variable (π : Nat → Nat)

theorem relabelAll_eq (es : List Expr) : relabelAll π es = es.map (·.relabel π) := by
  induction es with
  | nil => rfl
  | cons e es ih => rw [relabelAll, ih, List.map_cons]

theorem relabelBindings_eq (bindings : List (Binding Expr)) :
    relabelBindings π bindings = bindings.map (·.relabel π) := by
  induction bindings with
  | nil => rfl
  | cons b bindings ih => rw [relabelBindings, ih, List.map_cons, Binding.relabel]

theorem relabelBlocks_eq (blocks : List (Block Expr)) :
    relabelBlocks π blocks = blocks.map (·.relabel π) := by
  induction blocks with
  | nil => rfl
  | cons b blocks ih => rw [relabelBlocks, ih, relabelBindings_eq, List.map_cons, Block.relabel]

@[simp] theorem relabel_tuple (fields : List Expr) (ty : Option Ty) :
    (tuple fields ty).relabel π = .tuple (fields.map (·.relabel π)) ty := by
  rw [relabel, relabelAll_eq]

@[simp] theorem relabel_call (callee : Expr) (args : List Expr) (attrs : Attrs) (typeArgs : List Ty)
    (ty : Option Ty) :
    (call callee args attrs typeArgs ty).relabel π =
      .call (callee.relabel π) (args.map (·.relabel π)) attrs typeArgs ty := by
  rw [relabel, relabelAll_eq]

@[simp] theorem relabel_seq (blocks : List (Block Expr)) (body : Expr) (ty : Option Ty) :
    (seq blocks body ty).relabel π = .seq (blocks.map (·.relabel π)) (body.relabel π) ty := by
  rw [relabel, relabelBlocks_eq]

@[simp] theorem checkedTy_relabel (e : Expr) : (e.relabel π).checkedTy = e.checkedTy := by
  cases e <;> rfl

@[simp] theorem kind_relabel (e : Expr) : (e.relabel π).kind = e.kind := by
  cases e <;> rfl

theorem mapM_checkedTy_relabelAll (es : List Expr) :
    (relabelAll π es).mapM checkedTy = es.mapM checkedTy := by
  rw [relabelAll_eq, List.mapM_map]
  simp [Function.comp_def]

mutual

/-- Normalization does not look at identities. -/
@[simp] theorem normalize_relabel : ∀ e : Expr, (e.relabel π).normalize = e.normalize.relabel π
  | .tuple fields _ => by
      simp only [relabel, normalize, normalizeAll_relabelAll fields, mapM_checkedTy_relabelAll]
  | .call _ args _ _ _ => by
      simp only [relabel, normalize, normalizeAll_relabelAll args]
  | .seq _ body _ => by
      simp only [relabel, normalize, normalize_relabel body, checkedTy_relabel]
  | .var _ | .global _ | .external _ | .op _ | .shape _ => by
      simp only [relabel, normalize]

theorem normalizeAll_relabelAll :
    ∀ es : List Expr, normalizeAll (relabelAll π es) = relabelAll π (normalizeAll es)
  | [] => by simp only [relabelAll, normalizeAll]
  | e :: es => by
      simp only [relabelAll, normalizeAll, normalize_relabel e, normalizeAll_relabelAll es]

end

@[simp] theorem kernelCall_relabel (kernel : Expr) (args : List Expr) (dims : List Dim)
    (element : String) (packed : Option Expr) :
    kernelCall (kernel.relabel π) (args.map (·.relabel π)) dims element
        (packed.map (·.relabel π)) =
      (kernelCall kernel args dims element packed).relabel π := by
  have hop : (op kernelCallOp).relabel π = .op kernelCallOp := by rw [relabel]
  have hshape : (shape dims).relabel π = .shape dims := by rw [relabel]
  cases packed <;> simp [kernelCall, hop, hshape]

end Expr

/-! ## Functions and modules -/

def Func.relabel (π : Nat → Nat) (f : Func) : Func :=
  { f with params := f.params.map (·.relabel π), body := f.body.relabel π }

def Module.relabel (π : Nat → Nat) (m : Module) : Module :=
  ⟨m.functions.map fun x => (x.1, x.2.relabel π)⟩

/-! ## Relabelling twice -/

section Twice

variable (π ρ : Nat → Nat)

@[simp] theorem Var.relabel_relabel (v : Var) : (v.relabel π).relabel ρ = v.relabel (ρ ∘ π) := rfl

namespace Expr

mutual

@[simp] theorem relabel_relabel : ∀ e : Expr, (e.relabel π).relabel ρ = e.relabel (ρ ∘ π)
  | .tuple fields _ => by
      simp only [relabel, relabelAll_relabelAll fields]
  | .call callee args _ _ _ => by
      simp only [relabel, relabel_relabel callee, relabelAll_relabelAll args]
  | .seq blocks body _ => by
      simp only [relabel, relabelBlocks_relabelBlocks blocks, relabel_relabel body]
  | .var v => by
      simp only [relabel, Var.relabel_relabel]
  | .global _ | .external _ | .op _ | .shape _ => by
      simp only [relabel]

theorem relabelAll_relabelAll :
    ∀ es : List Expr, relabelAll ρ (relabelAll π es) = relabelAll (ρ ∘ π) es
  | [] => rfl
  | e :: es => by
      simp only [relabelAll, relabel_relabel e, relabelAll_relabelAll es]

theorem relabelBlocks_relabelBlocks : ∀ blocks : List (Block Expr),
    relabelBlocks ρ (relabelBlocks π blocks) = relabelBlocks (ρ ∘ π) blocks
  | [] => rfl
  | ⟨_, bindings⟩ :: blocks => by
      simp only [relabelBlocks, relabelBindings_relabelBindings bindings,
        relabelBlocks_relabelBlocks blocks]

theorem relabelBindings_relabelBindings : ∀ bindings : List (Binding Expr),
    relabelBindings ρ (relabelBindings π bindings) = relabelBindings (ρ ∘ π) bindings
  | [] => rfl
  | ⟨v, e⟩ :: bindings => by
      simp only [relabelBindings, Var.relabel_relabel, relabel_relabel e,
        relabelBindings_relabelBindings bindings]

end

end Expr

@[simp] theorem Binding.relabel_relabel (b : Binding Expr) :
    (b.relabel π).relabel ρ = b.relabel (ρ ∘ π) := by
  simp [Binding.relabel]

@[simp] theorem Block.relabel_relabel (b : Block Expr) :
    (b.relabel π).relabel ρ = b.relabel (ρ ∘ π) := by
  simp [Block.relabel, Function.comp_def]

@[simp] theorem Func.relabel_relabel (f : Func) : (f.relabel π).relabel ρ = f.relabel (ρ ∘ π) := by
  simp [Func.relabel, Function.comp_def]

@[simp] theorem Module.relabel_relabel (m : Module) :
    (m.relabel π).relabel ρ = m.relabel (ρ ∘ π) := by
  simp [Module.relabel, Function.comp_def]

end Twice

end ScopedBuilder
