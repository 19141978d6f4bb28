import ScopedBuilder.Expr.Normalize

/-!
# Normal forms

Normalization is done once: a normal form is its own normal form. It writes the types of tuples, calls and
sequences and nothing else, so an expression and its normal form are the same once those are taken away.
-/

namespace ScopedBuilder.Expr

theorem callTy_callTy (ty : Option Ty) (typeArgs : List Ty) :
    callTy (callTy ty typeArgs) typeArgs = callTy ty typeArgs := by
  cases ty with
  | some ty => rfl
  | none => rcases typeArgs with _ | ⟨ty, _ | _⟩ <;> rfl

mutual

theorem normalize_normalize : ∀ e : Expr, e.normalize.normalize = e.normalize
  | .tuple fields _ => by
      simp only [normalize, normalizeAll_normalizeAll fields]
  | .call _ args _ _ _ => by
      simp only [normalize, normalizeAll_normalizeAll args, callTy_callTy]
  | .seq _ body _ => by
      simp only [normalize, normalize_normalize body]
  | .var _ | .global _ | .external _ | .op _ | .shape _ => by
      simp only [normalize]

theorem normalizeAll_normalizeAll :
    ∀ es : List Expr, normalizeAll (normalizeAll es) = normalizeAll es
  | [] => by simp only [normalizeAll]
  | e :: es => by
      simp only [normalizeAll, normalize_normalize e, normalizeAll_normalizeAll es]

end

/-! ## Stored types -/

variable {keep : Option Ty → List Ty → Option Ty}

mutual

/-- The expression without the types that are stored for its tuples and sequences; those of its calls are left
as `keep` has them. This goes where normalization goes, into fields, arguments and bodies. Callees and blocks
stay as they are, with all the types in them. -/
def strip (keep : Option Ty → List Ty → Option Ty) : Expr → Expr
  | .tuple fields _ => .tuple (stripAll keep fields) none
  | .call callee args attrs typeArgs ty =>
    .call callee (stripAll keep args) attrs typeArgs (keep ty typeArgs)
  | .seq blocks body _ => .seq blocks (strip keep body) none
  | .var v => .var v
  | .global g => .global g
  | .external symbol => .external symbol
  | .op name => .op name
  | .shape dims => .shape dims

def stripAll (keep : Option Ty → List Ty → Option Ty) : List Expr → List Expr
  | [] => []
  | e :: es => strip keep e :: stripAll keep es

end

/-- The expression without any stored type of a tuple, a call or a sequence. -/
def untyped (e : Expr) : Expr := e.strip fun _ _ => none

mutual

/-- Normalization settles the types of calls and writes those of tuples and sequences. -/
theorem strip_normalize : ∀ e : Expr,
    e.normalize.strip keep = e.strip fun ty typeArgs => keep (callTy ty typeArgs) typeArgs
  | .tuple fields _ => by
      simp only [normalize, strip, stripAll_normalizeAll fields]
  | .call _ args _ _ _ => by
      simp only [normalize, strip, stripAll_normalizeAll args]
  | .seq _ body _ => by
      simp only [normalize, strip, strip_normalize body]
  | .var _ | .global _ | .external _ | .op _ | .shape _ => by
      simp only [normalize, strip]

theorem stripAll_normalizeAll : ∀ es : List Expr,
    stripAll keep (normalizeAll es) = stripAll (fun ty typeArgs => keep (callTy ty typeArgs) typeArgs) es
  | [] => by simp only [normalizeAll, stripAll]
  | e :: es => by
      simp only [normalizeAll, stripAll, strip_normalize e, stripAll_normalizeAll es]

end

mutual

/-- Only what the type of a call is settled from counts. -/
theorem normalize_strip
    (hkeep : ∀ ty typeArgs, callTy (keep ty typeArgs) typeArgs = callTy ty typeArgs) :
    ∀ e : Expr, (e.strip keep).normalize = e.normalize
  | .tuple fields _ => by
      simp only [strip, normalize, normalizeAll_stripAll hkeep fields]
  | .call _ args _ _ _ => by
      simp only [strip, normalize, normalizeAll_stripAll hkeep args, hkeep]
  | .seq _ body _ => by
      simp only [strip, normalize, normalize_strip hkeep body]
  | .var _ | .global _ | .external _ | .op _ | .shape _ => by
      simp only [strip]

theorem normalizeAll_stripAll
    (hkeep : ∀ ty typeArgs, callTy (keep ty typeArgs) typeArgs = callTy ty typeArgs) :
    ∀ es : List Expr, normalizeAll (stripAll keep es) = normalizeAll es
  | [] => by simp only [stripAll]
  | e :: es => by
      simp only [stripAll, normalizeAll, normalize_strip hkeep e, normalizeAll_stripAll hkeep es]

end

theorem untyped_normalize (e : Expr) : e.normalize.untyped = e.untyped :=
  strip_normalize e

mutual

/-- Stored types are not shown. -/
theorem text_strip : ∀ e : Expr, (e.strip keep).text = e.text
  | .tuple fields _ =>
      congrArg (fun shown => "(" ++ ", ".intercalate shown ++ ")") (texts_stripAll fields)
  | .call callee args _ _ _ =>
      congrArg (fun shown => callee.text ++ "(" ++ ", ".intercalate shown ++ ")") (texts_stripAll args)
  | .seq blocks body _ =>
      congrArg (fun shown => "\x7b " ++ toString (blocks.map fun b => b.bindings.length).sum ++
        " bindings; " ++ shown ++ " \x7d") (text_strip body)
  | .var _ | .global _ | .external _ | .op _ | .shape _ => rfl

theorem texts_stripAll : ∀ es : List Expr, texts (stripAll keep es) = texts es
  | [] => rfl
  | e :: es =>
      (congrArg (· :: texts (stripAll keep es)) (text_strip e)).trans
        (congrArg (e.text :: ·) (texts_stripAll es))

end

theorem kind_strip (e : Expr) : (e.strip keep).kind = e.kind := by
  cases e <;> rw [strip] <;> rfl

/-- Normalization is idempotent and writes types only: an expression and its normal form are the same without
the types stored in them, in particular of the same kind, and they are shown as the same text. -/
theorem normalize_writes_types (e : Expr) :
    e.normalize.normalize = e.normalize ∧ e.normalize.untyped = e.untyped ∧
      e.normalize.kind = e.kind ∧ e.normalize.text = e.text := by
  have huntyped : e.normalize.untyped = e.untyped := untyped_normalize e
  refine ⟨normalize_normalize e, huntyped, ?_, ?_⟩
  · calc e.normalize.kind
        = e.normalize.untyped.kind := (kind_strip _).symm
      _ = e.untyped.kind := by rw [huntyped]
      _ = e.kind := kind_strip e
  · calc e.normalize.text
        = e.normalize.untyped.text := (text_strip _).symm
      _ = e.untyped.text := by rw [huntyped]
      _ = e.text := text_strip e

end ScopedBuilder.Expr
