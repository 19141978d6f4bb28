import ScopedBuilder.Proofs.Normalize

/-!
# Inferred types

The type of an expression is inferred from its parts, whatever has been stored for its tuples and sequences.
Normalization stores the inferred type at every node that it comes to, and the nodes that it comes to are the
same before and after.
-/

namespace ScopedBuilder.Expr

/-! ## Inference -/

mutual

/-- The type of an expression by what is known of variables and calls. A tuple has one if each of its fields
has. -/
def inferredTy : Expr → Option Ty
  | .var v => v.ty
  | .shape _ => some .shape
  | .global _ | .external _ | .op _ => none
  | .tuple fields _ => (inferredTys fields).map .tuple
  | .call _ _ _ _ (some ty) => some ty
  | .call _ _ _ [ty] none => some ty
  | .call _ _ _ _ none => none
  | .seq _ body _ => inferredTy body

/-- The types of some expressions, if they all have one. -/
def inferredTys : List Expr → Option (List Ty)
  | [] => some []
  | e :: es =>
    match inferredTy e, inferredTys es with
    | some ty, some tys => some (ty :: tys)
    | _, _ => none

end

theorem inferredTy_call (callee : Expr) (args : List Expr) (attrs : Attrs) (typeArgs : List Ty)
    (ty : Option Ty) : inferredTy (.call callee args attrs typeArgs ty) = callTy ty typeArgs := by
  cases ty with
  | some ty => simp only [inferredTy, callTy]
  | none => rcases typeArgs with _ | ⟨ty, _ | _⟩ <;> simp only [inferredTy, callTy]

mutual

theorem checkedTy_normalize : ∀ e : Expr, e.normalize.checkedTy = e.inferredTy
  | .tuple fields _ => by
      simp only [normalize, checkedTy, inferredTy, mapM_checkedTy_normalizeAll fields]
  | .call .. => by
      simp only [normalize, checkedTy, inferredTy_call]
  | .seq _ body _ => by
      rw [normalize, inferredTy, ← checkedTy_normalize body, checkedTy]
  | .var _ | .global _ | .external _ | .op _ | .shape _ => by
      simp only [normalize, checkedTy, inferredTy]

theorem mapM_checkedTy_normalizeAll :
    ∀ es : List Expr, (normalizeAll es).mapM checkedTy = inferredTys es
  | [] => by simp only [normalizeAll, inferredTys, List.mapM_nil, Option.pure_def]
  | e :: es => by
      rw [normalizeAll, List.mapM_cons, checkedTy_normalize e, mapM_checkedTy_normalizeAll es,
        inferredTys]
      cases e.inferredTy <;> cases inferredTys es <;> rfl

end

/-! ## Nodes -/

/-- The nodes right below a node that normalization goes on with: the fields of a tuple, the arguments of a
call, the body of a sequence. -/
def parts : Expr → List Expr
  | .tuple fields _ => fields
  | .call _ args _ _ _ => args
  | .seq _ body _ => [body]
  | .var _ | .global _ | .external _ | .op _ | .shape _ => []

/-- The node at the end of a path from the root, which is given by positions among the parts. -/
def node? : List Nat → Expr → Option Expr
  | [], e => some e
  | i :: path, e => e.parts[i]?.bind (node? path)

theorem normalizeAll_eq_map (es : List Expr) : normalizeAll es = es.map normalize := by
  induction es with
  | nil => rw [normalizeAll, List.map_nil]
  | cons e es ih => rw [normalizeAll, ih, List.map_cons]

theorem parts_normalize (e : Expr) : e.normalize.parts = e.parts.map normalize := by
  cases e with
  | tuple fields ty => rw [normalize, parts, parts, normalizeAll_eq_map]
  | call callee args attrs typeArgs ty => rw [normalize, parts, parts, normalizeAll_eq_map]
  | seq blocks body ty => rw [normalize, parts, parts, List.map_singleton]
  | var | global | external | op | shape => rw [normalize, parts, List.map_nil]

/-- The nodes of a normal form are the normal forms of the nodes. -/
theorem node?_normalize (path : List Nat) (e : Expr) :
    node? path e.normalize = (node? path e).map normalize := by
  induction path generalizing e with
  | nil => rfl
  | cons i path ih =>
      rw [node?, node?, parts_normalize, List.getElem?_map, Option.map_bind, Option.bind_map]
      exact congrArg _ (funext ih)

/-! ## Types that do not count -/

/-- The expression with only those types that are stored for its calls. -/
def callsTyped (e : Expr) : Expr := e.strip fun ty _ => ty

theorem normalize_callsTyped (e : Expr) : e.callsTyped.normalize = e.normalize :=
  normalize_strip (fun _ _ => rfl) e

/-- At every node that is reached through fields, arguments and bodies, normalization stores the type that is
inferred for that node. Types stored there before for tuples and sequences do not count: expressions that
differ only in those have the same normal form. -/
theorem normalize_infers (e : Expr) :
    (∀ path, (node? path e.normalize).map checkedTy = (node? path e).map inferredTy) ∧
      ∀ e' : Expr, e'.callsTyped = e.callsTyped → e'.normalize = e.normalize := by
  refine ⟨fun path => ?_, fun e' h => ?_⟩
  · rw [node?_normalize, Option.map_map]
    exact congrArg (Option.map · _) (funext checkedTy_normalize)
  · calc e'.normalize
        = e'.callsTyped.normalize := (normalize_callsTyped e').symm
      _ = e.callsTyped.normalize := by rw [h]
      _ = e.normalize := normalize_callsTyped e

/-- A tuple among the arguments of a call, below a sequence, both with types that no longer hold. -/
theorem normalize_infers_stale :
    let expr (tupleTy seqTy : Option Ty) : Expr :=
      .seq [] (.call (.op "f") [.tuple [.shape [], .var ⟨0, "x", false, none, some .object⟩] tupleTy] .empty
        [.shape] none) seqTy
    let stale := expr (some .object) (some .object)
    stale.callsTyped = (expr none none).callsTyped ∧ stale.normalize = (expr none none).normalize ∧
      (node? [0, 0] stale.normalize).map checkedTy = some (some (.tuple [.shape, .object])) ∧
      stale.normalize.checkedTy = some .shape := by
  intro expr stale
  have hsame : stale.callsTyped = (expr none none).callsTyped := rfl
  obtain ⟨htypes, hnormal⟩ := normalize_infers (expr none none)
  refine ⟨hsame, hnormal stale hsame, ?_, ?_⟩
  · rw [hnormal stale hsame, htypes]
    rfl
  · rw [hnormal stale hsame]
    exact Option.some.inj (htypes [])

/-- Normalization does not go into blocks: what is stored for a tuple that is bound there stays. -/
theorem normalize_keeps_types_in_blocks :
    let expr (tupleTy : Option Ty) : Expr :=
      .seq [⟨.ordinary, [⟨⟨0, "x", false, none, none⟩, .tuple [.op "a"] tupleTy⟩]⟩] (.shape []) none
    (expr (some .object)).normalize ≠ (expr none).normalize := by
  intro expr h
  simp only [expr, normalize, seq.injEq, List.cons.injEq, Block.mk.injEq, Binding.mk.injEq,
    tuple.injEq, reduceCtorEq, and_false, false_and] at h

end ScopedBuilder.Expr
