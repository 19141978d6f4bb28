import ScopedBuilder.Proofs.Relabel.Builder
import ScopedBuilder.Proofs.Translation

/-!
# Operations on a relabelled builder

An operation on a relabelled builder does what the operation does to the builder itself, up to the
relabelling: it succeeds or fails alike, with the same error. The two may take their identities from different
supplies.
-/

namespace ScopedBuilder

variable {α : Type} {π : Nat → Nat} {r : α → α} {s s' : VarSupply}

/-- A builder with the standard emitter and the standard renamers. -/
structure Builder.Standard (b : Builder BlockWriter) : Prop where
  newEmitter_eq : b.newEmitter = .ofConfig
  renamers_eq : b.renamers = .standard

theorem Builder.Standard.withFrames {b : Builder BlockWriter} (h : b.Standard)
    (frames : Frames BlockWriter) : Builder.Standard { b with frames := frames } :=
  ⟨h.newEmitter_eq, h.renamers_eq⟩

theorem Builder.Standard.withResult {b : Builder BlockWriter} (h : b.Standard)
    (result : Option Artifact) : Builder.Standard { b with result := result } :=
  ⟨h.newEmitter_eq, h.renamers_eq⟩

theorem Builder.Standard.markFailed {b : Builder BlockWriter} (h : b.Standard) :
    Builder.Standard { b with failed := true } :=
  ⟨h.newEmitter_eq, h.renamers_eq⟩

theorem FuncDraft.endBlock_relabel (f : FuncDraft BlockWriter) :
    endBlock (f.relabel π) = mapOutcome (·.relabel π) (endBlock f) := by
  have hemitter : (f.relabel π).emitter = f.emitter.relabel π := rfl
  simp only [endBlock, Emitter.endBlock, hemitter, BlockWriter.endBlock_relabel]
  cases f.emitter.endBlock with
  | error => rfl
  | ok x => exact congrArg (EStateM.Result.ok ()) (record_relabel π { f with emitter := x.2 } x.1)

/-- A builder and the relabelled one, each beside a supply of its own from which neither takes anything. -/
def relabelling (π : Nat → Nat) (s s' : VarSupply) : Translation BlockWriter where
  module := (·.relabel π)
  function := (·.relabel π)
  finished := (·.relabel π)
  func := (·.relabel π)
  Related w w' := ∃ b : Builder BlockWriter, b.Standard ∧ w = ⟨b, s⟩ ∧ w' = ⟨b.relabel π, s'⟩
  frames_eq := by
    rintro _ _ ⟨b, -, rfl, rfl⟩
    rfl
  result_eq := by
    rintro _ _ ⟨b, -, rfl, rfl⟩
    rfl
  failed_eq := by
    rintro _ _ ⟨b, -, rfl, rfl⟩
    rfl
  withFrames := by
    rintro _ _ frames ⟨b, hb, rfl, rfl⟩
    exact ⟨_, hb.withFrames frames, rfl, rfl⟩
  withResult := by
    rintro _ _ result ⟨b, hb, rfl, rfl⟩
    exact ⟨_, hb.withResult result, rfl, rfl⟩
  markFailed := by
    rintro _ _ ⟨b, hb, rfl, rfl⟩
    exact ⟨_, hb.markFailed, rfl, rfl⟩
  newModule_eq := by
    rintro _ _ ⟨b, -, rfl, rfl⟩
    rfl
  newFunction_eq := by
    rintro _ _ ⟨b, hb, rfl, rfl⟩
    have hnew : (b.relabel π).newEmitter (b.relabel π).config = .ofConfig b.config :=
      congrFun hb.newEmitter_eq b.config
    rw [hnew, hb.newEmitter_eq]
    rfl
  nameOrEmpty_eq f := f.nameOrEmpty_relabel π
  beginBlock_eq f kind := f.beginBlock_relabel π kind
  endBlock_eq f := f.endBlock_relabel
  assemble_eq := by
    rintro _ _ f ⟨b, -, rfl, rfl⟩
    exact f.assemble_relabel π b.config
  finish_eq m := m.assemble_relabel π
  define_eq m name f op := m.define_relabel π name op f
  update_eq m name f first op := m.update_relabel π name op f first

theorem Builder.Standard.related {b : Builder BlockWriter} (h : b.Standard) :
    (relabelling π s s').Related ⟨b, s⟩ ⟨b.relabel π, s'⟩ :=
  ⟨b, h, rfl, rfl⟩

/-- Two outcomes that are the same up to the identities of variables, with the supplies `s` and `s'`. -/
abbrev Alike (π : Nat → Nat) (r : α → α) (s s' : VarSupply) :
    EStateM.Result BuildError (Workspace BlockWriter) α →
    EStateM.Result BuildError (Workspace BlockWriter) α → Prop :=
  (relabelling π s s').Agree r

/-! ## The standard renamers -/

namespace Builder

theorem renamed_standard_var (v : Var) (name : String) :
    renamed .standard (.var v) name = .ok (.var { v with name := name }) := by
  obtain ⟨_, _, _ | _, _, _⟩ := v <;> rfl

theorem renamed_standard_relabel (e : Expr) (name : String) :
    renamed .standard (e.relabel π) name = (renamed .standard e name).map (·.relabel π) := by
  cases e with
  | var v =>
      rw [Expr.relabel, renamed_standard_var, renamed_standard_var]
      rfl
  | _ => rfl

end Builder

/-! ## Operations that take no identity -/

/-- The second computation does to a relabelled builder what the first one does to the builder, and
neither takes an identity. -/
abbrev Blind (π : Nat → Nat) (r : α → α) (x y : BuildM BlockWriter α) : Prop :=
  ∀ s s', (relabelling π s s').Translates r x y

namespace Blind

open Translation.Translates

theorem register (name : String) (f : Option Func) (allowRename : Bool) :
    Blind π id (Builder.register name f allowRename)
      (Builder.register name (f.map (·.relabel π)) allowRename) :=
  fun _ _ => (inModuleScope fun m => m.register_relabel π name .register f allowRename).guarded

theorem setName (name : String) : Blind π id (Builder.setName name) (Builder.setName name) := by
  refine fun _ _ => (inFunctionScope fun f => ?_).guarded
  have hname : (f.relabel π).setName name = _ := f.setName_relabel π name
  dsimp only [relabelling]
  rw [hname]
  cases f.setName name <;> rfl

theorem setAttrs (attrs : Attrs) : Blind π id (Builder.setAttrs attrs) (Builder.setAttrs attrs) := by
  refine fun _ _ => (inFunctionScope fun f => ?_).guarded
  have hattrs : (f.relabel π).setAttrs attrs = _ := f.setAttrs_relabel π attrs
  dsimp only [relabelling]
  rw [hattrs]
  cases f.setAttrs attrs <;> rfl

theorem setResultTy (ty : Ty) : Blind π id (Builder.setResultTy ty) (Builder.setResultTy ty) := by
  refine fun _ _ => (inFunctionScope fun f => ?_).guarded
  have hresult : (f.relabel π).setResult ty = _ := f.setResult_relabel π ty
  dsimp only [relabelling]
  rw [hresult]
  cases f.setResult ty <;> rfl

theorem addOutput (e : Expr) :
    Blind π id (Builder.addOutput e) (Builder.addOutput (e.relabel π)) := by
  refine fun _ _ => (inFunctionScope fun f => ?_).guarded
  have houtputs : (f.outputs ++ [e]).map (Expr.relabel π) = (f.relabel π).outputs ++ [e.relabel π] :=
    List.map_append
  exact congrArg (fun outputs => Except.ok ((), { f.relabel π with outputs := outputs }))
    houtputs.symm

theorem addParam (name : String) (v : Var) :
    Blind π (·.relabel π) (Builder.addParam name v) (Builder.addParam name (v.relabel π)) := by
  refine fun _ _ => (getBuilder_bind ?_).guarded
  rintro _ _ ⟨b, hb, rfl, rfl⟩
  have hrenamers : (b.relabel π).renamers = .standard := hb.renamers_eq
  dsimp only
  rw [hb.renamers_eq, hrenamers]
  refine inFunctionScope fun f => ?_
  rw [Builder.renamed_standard_var, Builder.renamed_standard_var]
  have hparams : (f.params ++ [{ v with name := name }]).map (Var.relabel π) =
      (f.relabel π).params ++ [{ v.relabel π with name := name }] := List.map_append
  exact congrArg (fun params => Except.ok (_, { f.relabel π with params := params })) hparams.symm

theorem rename (e : Expr) (name : String) :
    Blind π (·.relabel π) (Builder.rename e name) (Builder.rename (e.relabel π) name) := by
  refine fun _ _ => getBuilder_bind ?_
  rintro _ _ ⟨b, hb, rfl, rfl⟩
  refine lift ?_
  have hrenamers : (b.relabel π).renamers = .standard := hb.renamers_eq
  rw [hb.renamers_eq, hrenamers, Builder.renamed_standard_relabel]

end Blind

end ScopedBuilder
