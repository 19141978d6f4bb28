import ScopedBuilder.Proofs.ModuleScope
import ScopedBuilder.Proofs.Program.Body

/-!
# Building a function

The scope of a function is opened, filled and closed, and the module below takes in what the tree of the
function denotes.
-/

namespace ScopedBuilder

open BuildM Frames

/-- A function with more outputs. -/
def FuncDraft.withOutputs (f : FuncDraft BlockWriter) (outputs : List Expr) :
    FuncDraft BlockWriter :=
  { f with outputs := f.outputs ++ outputs }

namespace FuncDraft

variable (f : FuncDraft BlockWriter) (outputs outputs' : List Expr)

@[simp] theorem withOutputs_nil : f.withOutputs [] = f := by
  simp [withOutputs]

@[simp] theorem withOutputs_withOutputs :
    (f.withOutputs outputs).withOutputs outputs' = f.withOutputs (outputs ++ outputs') := by
  simp [withOutputs]

end FuncDraft

/-- A session that has only been used to build: its settings are those it was made with. -/
structure Workspace.Ready (w : Workspace BlockWriter) (c : Config) : Prop where
  not_failed : w.builder.failed = false
  config_eq : w.builder.config = c
  renamers_eq : w.builder.renamers = .standard
  newEmitter_eq : w.builder.newEmitter = .ofConfig

namespace Workspace

/-- A session directly in a function. -/
def inScope (w : Workspace BlockWriter) (f : FuncDraft BlockWriter) (below : Frames BlockWriter)
    (supply : VarSupply) : Workspace BlockWriter :=
  w.arrange (.block .ordinary :: .function f :: below) supply

namespace Ready

variable {w : Workspace BlockWriter} {c : Config} {f f' : FuncDraft BlockWriter}
  {below : Frames BlockWriter} {supply : VarSupply}

theorem arrange (h : w.Ready c) (frames : Frames BlockWriter) (supply : VarSupply) :
    (w.arrange frames supply).Ready c :=
  ⟨h.not_failed, h.config_eq, h.renamers_eq, h.newEmitter_eq⟩

theorem openFunction_eq_ok (h : w.Ready c) :
    Builder.openFunction w = .ok ⟨w.builder.depth, .function⟩
      (w.inScope ((FuncDraft.new (.ofConfig c)).beginBlock .ordinary) w.builder.frames w.supply) := by
  have hopened := Builder.openFunction_eq_ok.mpr ⟨h.not_failed, rfl, rfl⟩
  rw [h.newEmitter_eq, h.config_eq] at hopened
  exact hopened

/-- An operation on the parts of the function. -/
theorem inFunctionScope_eq_ok (h : w.Ready c) {α : Type} {op : Operation} {a : α}
    {act : FuncDraft BlockWriter → Except BuildError (α × FuncDraft BlockWriter)}
    (hact : act f = .ok (a, f')) :
    guarded op (inFunctionScope op act) (w.inScope f below supply) =
      .ok a (w.inScope f' below supply) :=
  guarded_eq_ok.mpr ⟨h.not_failed,
    BuildM.inFunctionScope_eq_ok.mpr ⟨.ordinary, f, below, f', rfl, hact, rfl⟩⟩

theorem setName_eq_ok (h : w.Ready c) (name : Option String) (hname : f.name = none) :
    name.forM Builder.setName (w.inScope f below supply) =
      .ok () (w.inScope { f with name := name } below supply) := by
  cases name with
  | none =>
      have hf : { f with name := none } = f := by
        rw [← hname]
      rw [hf]
      rfl
  | some name => exact h.inFunctionScope_eq_ok (by simp [FuncDraft.setName, hname])

theorem setAttrs_eq_ok (h : w.Ready c) (attrs : Option Attrs) (hattrs : f.attrs = .empty) :
    attrs.forM Builder.setAttrs (w.inScope f below supply) =
      .ok () (w.inScope { f with attrs := attrs.getD .empty } below supply) := by
  cases attrs with
  | none =>
      have hf : { f with attrs := .empty } = f := by
        rw [← hattrs]
      rw [Option.getD_none, hf]
      rfl
  | some attrs =>
      have hempty : f.attrs.isEmpty = true := by
        rw [hattrs]
        rfl
      exact h.inFunctionScope_eq_ok (by simp [FuncDraft.setAttrs, hempty])

theorem setResultTy_eq_ok (h : w.Ready c) (ty : Ty) (hresult : f.result = none) :
    Builder.setResultTy ty (w.inScope f below supply) =
      .ok ty (w.inScope { f with result := some ty } below supply) :=
  h.inFunctionScope_eq_ok (by simp [FuncDraft.setResult, hresult])

theorem addParam_eq_ok (h : w.Ready c) (name : String) (v : Var) :
    Builder.addParam name v (w.inScope f below supply) =
      .ok { v with name := name }
        (w.inScope { f with params := f.params ++ [{ v with name := name }] } below supply) := by
  have hrenamed : Builder.renamed w.builder.renamers (.var v) name =
      .ok (.var { v with name := name }) := by
    rw [h.renamers_eq]
    cases hdataflow : v.dataflow <;>
      simp [Builder.renamed, Renamers.rename?, Renamers.standard, Expr.kind, hdataflow,
        Renamer.renameVar]
  refine guarded_eq_ok.mpr ⟨h.not_failed, ?_⟩
  rw [getBuilder_bind]
  refine BuildM.inFunctionScope_eq_ok.mpr ⟨.ordinary, f, below, _, rfl, ?_, rfl⟩
  rw [except_bind_eq_ok]
  exact ⟨_, hrenamed, rfl⟩

theorem addParams_eq_ok (h : w.Ready c) (params : List (String × Var)) :
    (params.forM fun (name, v) => do let _ ← Builder.addParam name v)
        (w.inScope f below supply) =
      .ok () (w.inScope
        { f with params := f.params ++ params.map fun (name, v) => { v with name := name } }
        below supply) := by
  induction params generalizing f with
  | nil => simp
  | cons param params ih =>
      rw [List.forM_eq_forM, List.forM_cons, bind_eq_ok]
      refine ⟨(), _, bind_eq_ok.mpr ⟨_, _, h.addParam_eq_ok param.1 param.2, rfl⟩, ?_⟩
      simpa using ih (f := { f with params := f.params ++ [{ param.2 with name := param.1 }] })

theorem addOutputs_eq_ok (h : w.Ready c) (outputs : List Expr) :
    outputs.forM Builder.addOutput (w.inScope f below supply) =
      .ok () (w.inScope (f.withOutputs outputs) below supply) := by
  induction outputs generalizing f with
  | nil => simp
  | cons e outputs ih =>
      rw [List.forM_eq_forM, List.forM_cons, bind_eq_ok]
      have hadd : Builder.addOutput e (w.inScope f below supply) =
          .ok () (w.inScope (f.withOutputs [e]) below supply) :=
        h.inFunctionScope_eq_ok rfl
      refine ⟨(), _, hadd, ?_⟩
      simpa using ih (f := f.withOutputs [e])

end Ready

end Workspace

namespace FuncTree

variable {c : Config} {w : Workspace BlockWriter} {m m' : ModuleDraft}
  {below : Frames BlockWriter}

/-- The draft of a function before its body is built. -/
def draft (f : FuncTree) (c : Config) : FuncDraft BlockWriter :=
  { (FuncDraft.new (.ofConfig c)).beginBlock .ordinary with
    name := f.name
    params := f.params.map fun (name, v) => { v with name := name }
    attrs := f.attrs.getD .empty
    result := some f.result }

theorem stage_draft (f : FuncTree) (c : Config) (supply : VarSupply) :
    (f.draft c).Stage c (f.draft c) .ordinary [] (.new supply) where
  logged := (FuncDraft.Logged.start (w := .ofConfig c) rfl .ordinary).of_eq rfl rfl
  writer_eq := rfl
  parts_eq := rfl

/-- What is made of the draft when its body is built and its outputs are added. -/
theorem finished?_eq (f : FuncTree) {g : FuncDraft BlockWriter} {supply : VarSupply}
    (h : g.Stage c (f.draft c) .ordinary (Stmt.logAll c .ordinary (.new supply) f.body).1
      (Stmt.logAll c .ordinary (.new supply) f.body).2) :
    (g.withOutputs f.outputs).finished? c =
      some (f.denote c supply).1 := by
  have hparts := h.parts_eq
  simp only [FuncDraft.parts, draft, Prod.mk.injEq] at hparts
  obtain ⟨hname, hparams, hresult, hattrs, houtputs⟩ := hparts
  obtain ⟨block, hopen, -⟩ := h.logged.openBlocks_eq
  have hblocks : g.blocks ++ [block].filter (!·.bindings.isEmpty) =
      (Stmt.logAll c .ordinary (.new supply) f.body).1.blocks := by
    rw [← FuncDraft.blocks_finishBlock]
    exact EmissionLog.blocks_eq (h.logged.finish hopen)
  have houtput : (g.withOutputs f.outputs).output? = some f.output := by
    have hnil : (g.withOutputs f.outputs).outputs = f.outputs := by
      rw [FuncDraft.withOutputs, houtputs]
      rfl
    rw [FuncDraft.output?, hnil, output]
    cases houtputs' : f.outputs with
    | nil => exact absurd houtputs' f.outputs_ne_nil
    | cons e es => cases es <;> rfl
  have hfinal : (g.withOutputs f.outputs).finalAttrs c = f.finalAttrs c := by
    cases hrecord : c.recordSymbol <;> cases hname' : f.name <;>
      simp [FuncDraft.finalAttrs, FuncDraft.withOutputs, finalAttrs, hname, hattrs, hrecord, hname']
  rw [FuncDraft.finished?, houtput, hfinal]
  simp only [FuncDraft.withOutputs, hresult, hparams, hopen, hblocks]
  rfl

/-- The scope of a function closes after its body is built and its outputs are added. -/
theorem close_eq_ok (f : FuncTree) {g : FuncDraft BlockWriter} (hready : w.Ready c)
    (hstage : g.Stage c (f.draft c) .ordinary (Stmt.logAll c .ordinary (.new w.supply) f.body).1
      (Stmt.logAll c .ordinary (.new w.supply) f.body).2)
    (hdefine : m.define f.nameOrEmpty (f.denote c w.supply).1 .finishFunction = .ok m')
    (below : Frames BlockWriter) (supply : VarSupply) :
    Builder.close ⟨below.length + 1, .function⟩
        (w.inScope (g.withOutputs f.outputs) (.module m :: below) supply) =
      .ok () (w.arrange (.module m' :: below) supply) := by
  obtain ⟨block, hopen, -⟩ := hstage.logged.openBlocks_eq
  have hopen' : (g.withOutputs f.outputs).emitter.openBlocks = [block] := hopen
  have hfinished : (g.withOutputs f.outputs).finished? w.builder.config =
        some (f.denote c w.supply).1 := by
    rw [hready.config_eq]
    exact f.finished?_eq hstage
  have hname : (g.withOutputs f.outputs).nameOrEmpty = f.nameOrEmpty := by
    have hg : (g.withOutputs f.outputs).name = f.name := congrArg (·.1) hstage.parts_eq
    rw [FuncDraft.nameOrEmpty, hg, nameOrEmpty]
  have hexit : exitScope .close .function
      (w.inScope (g.withOutputs f.outputs) (.module m :: below) supply) =
        .ok () (w.arrange (.module m' :: below) supply) :=
    exitScope_definition_ok (w := w.inScope (g.withOutputs f.outputs) (.module m :: below) supply)
      rfl hopen' hfinished (hname ▸ hdefine)
  exact Builder.close_eq_ok hready.not_failed (closeHandle_eq_ok.mpr ⟨rfl, hexit⟩)

theorem build_eq_ok (f : FuncTree) (hready : w.Ready c)
    (hframes : w.builder.frames = .module m :: below)
    (hdefine : m.define f.nameOrEmpty (f.denote c w.supply).1 .finishFunction = .ok m') :
    f.build w = .ok () (w.arrange (.module m' :: below) (f.denote c w.supply).2) := by
  have hinside : (w.inScope (f.draft c) w.builder.frames w.supply).Inside
      [.block .ordinary] (f.draft c) w.builder.frames .ordinary :=
    ⟨hready.not_failed, rfl, by simp [Frame.isFunction], rfl⟩
  obtain ⟨g, hbody, hstage⟩ := Stmt.buildAll_eq_ok f.body hinside
    (n := .new w.supply) rfl (f.stage_draft c w.supply)
  rw [List.nil_append] at hstage
  have hclose := f.close_eq_ok hready hstage hdefine below (f.denote c w.supply).2
  rw [build, Builder.inFunction]
  have hopen := hready.openFunction_eq_ok
  rw [Builder.depth, hframes] at hopen
  refine Builder.withScope_eq_ok hopen ?_ hclose
  rw [hframes] at hbody
  simp only [bind_eq_ok]
  exact ⟨(), _, hready.setName_eq_ok f.name rfl, (), _, hready.addParams_eq_ok f.params, (), _,
    hready.setAttrs_eq_ok f.attrs rfl, f.result, _, hready.setResultTy_eq_ok f.result rfl, (), _,
    hbody, hready.addOutputs_eq_ok f.outputs⟩

end FuncTree

end ScopedBuilder
