import ScopedBuilder.Proofs.Change
import ScopedBuilder.Proofs.Program.Denotation

/-!
# Building the body of a function

Statements are built inside a function whose parts they do not touch: each adds its log to the blocks of
the function and numbers its variables.
-/

namespace ScopedBuilder

open BuildM Frames

/-- A workspace whose stack and supply have been replaced. -/
def Workspace.arrange (w : Workspace BlockWriter) (frames : Frames BlockWriter)
    (supply : VarSupply) : Workspace BlockWriter :=
  { w.withFrames frames with supply := supply }

namespace Workspace

variable (w : Workspace BlockWriter)

@[simp] theorem arrange_frames (frames : Frames BlockWriter) (supply : VarSupply) :
    (w.arrange frames supply).builder.frames = frames := rfl

@[simp] theorem arrange_supply (frames : Frames BlockWriter) (supply : VarSupply) :
    (w.arrange frames supply).supply = supply := rfl

theorem arrange_self : w.arrange w.builder.frames w.supply = w := rfl

end Workspace

/-! ## Scopes -/

namespace Builder

variable {α : Type} {w w₁ w₂ w' : Workspace BlockWriter} {handle : Scope} {a : α}
  {opening : BuildM BlockWriter Scope} {body : BuildM BlockWriter α}

theorem withScope_eq_ok (hopen : opening w = .ok handle w₁) (hbody : body w₁ = .ok a w₂)
    (hclose : close handle w₂ = .ok () w') : withScope opening body w = .ok a w' :=
  withScope_eq_ok_iff.mpr ⟨handle, w₁, w₂, hopen, hbody, hclose⟩

theorem close_eq_ok (hfailed : w.builder.failed = false)
    (hclose : closeHandle .close handle w = .ok () w') : close handle w = .ok () w' :=
  guarded_eq_ok.mpr ⟨hfailed, hclose⟩

end Builder

/-! ## Statements -/

/-- A session at work in a function, with a block of some kind on top of the stack. -/
structure Workspace.Inside (w : Workspace BlockWriter) (above : Frames BlockWriter)
    (f : FuncDraft BlockWriter) (below : Frames BlockWriter) (kind : BlockKind) : Prop where
  not_failed : w.builder.failed = false
  frames_eq : w.builder.frames = above ++ .function f :: below
  above_blocks : ∀ x ∈ above, x.isFunction = false
  top_eq : above.topBlock? = some kind

namespace Workspace.Inside

variable {w : Workspace BlockWriter} {above below : Frames BlockWriter}
  {f f' : FuncDraft BlockWriter} {kind : BlockKind}

theorem above_ne_nil (h : w.Inside above f below kind) : above ≠ [] := by
  rintro rfl
  cases h.top_eq

theorem split (h : w.Inside above f below kind) :
    w.builder.frames.splitFunction? = some (above, f, below) := by
  rw [h.frames_eq]
  exact splitFunction?_append h.above_blocks

theorem topBlock?_eq (h : w.Inside above f below kind) :
    w.builder.frames.topBlock? = some kind := by
  rw [h.frames_eq, topBlock?_append h.above_ne_nil, h.top_eq]

theorem arrange (h : w.Inside above f below kind) (f' : FuncDraft BlockWriter)
    (supply : VarSupply) :
    (w.arrange (above ++ .function f' :: below) supply).Inside above f' below kind :=
  ⟨h.not_failed, rfl, h.above_blocks, h.top_eq⟩

/-- A block that is opened ends the one that was on top. -/
theorem openBlock_eq_ok (h : w.Inside above f below kind) (inner : BlockKind)
    (henter : FuncDraft.enterBlock inner (some kind) f = .ok () f') :
    Builder.openBlock inner w = .ok ⟨w.builder.depth, .block⟩
      (w.arrange (.block inner :: (above ++ .function f' :: below)) w.supply) := by
  have hentered : enter (.block inner) w = .ok ⟨w.builder.depth, .block⟩
      (w.withFrames (.block inner :: (above ++ .function f' :: below))) :=
    enter_block_eq_ok.mpr
      ⟨rfl, above, f, below, f', h.split, h.topBlock?_eq ▸ henter, rfl⟩
  exact Builder.openBlock_eq_ok.mpr ⟨h.not_failed, hentered⟩

theorem closeBlock_eq_ok (h : w.Inside above f below kind)
    {inner : BlockKind} {f₁ f₂ : FuncDraft BlockWriter} {supply : VarSupply}
    (hleave : FuncDraft.leaveBlock (some kind) f₁ = .ok () f₂) :
    Builder.close ⟨w.builder.depth, .block⟩
        (w.arrange (.block inner :: (above ++ .function f₁ :: below)) supply) =
      .ok () (w.arrange (above ++ .function f₂ :: below) supply) := by
  have hsplit : splitFunction? (above ++ .function f₁ :: below) = some (above, f₁, below) :=
    splitFunction?_append h.above_blocks
  have htop : topBlock? (above ++ .function f₁ :: below) = some kind := by
    rw [topBlock?_append h.above_ne_nil, h.top_eq]
  have hdepth : w.builder.depth = (above ++ .function f₁ :: below : Frames BlockWriter).length := by
    simp [Builder.depth, h.frames_eq]
  refine Builder.close_eq_ok h.not_failed (closeHandle_eq_ok.mpr ⟨?_, ?_⟩)
  · rw [Workspace.arrange_frames, innermostScope?_block hsplit h.above_ne_nil, hdepth]
  · exact (exitTop_block rfl).mpr ⟨above, f₁, below, f₂, hsplit, htop ▸ hleave, rfl⟩

theorem emit_eq_ok (h : w.Inside above f below kind) {e : Expr} {v : Var} {supply : VarSupply}
    (hemit : FuncDraft.emit e (f, w.supply) = .ok v (f', supply)) :
    Builder.emit e w = .ok v (w.arrange (above ++ .function f' :: below) supply) :=
  Builder.emit_eq_ok.mpr ⟨h.not_failed, above, f, below, f', supply, h.split, hemit, rfl⟩

end Workspace.Inside

/-- All of a function that building its body does not touch. -/
def FuncDraft.parts (f : FuncDraft BlockWriter) :
    Option String × List Var × Option Ty × Attrs × List Expr :=
  (f.name, f.params, f.result, f.attrs, f.outputs)

/-- A function after a part of its body: it follows its log, it has numbered its variables so far, and
nothing else of it has changed. -/
structure FuncDraft.Stage (c : Config) (f start : FuncDraft BlockWriter) (kind : BlockKind)
    (log : EmissionLog) (n : Numbering) : Prop where
  logged : f.Logged kind log
  writer_eq : { f.emitter with openBlocks := [] } =
    (⟨[], c.ordinaryStem, c.dataflowStem, n.ordinary, n.dataflow⟩ : BlockWriter)
  parts_eq : f.parts = start.parts

namespace FuncDraft.Stage

variable {c : Config} {start f f' : FuncDraft BlockWriter} {kind inner : BlockKind}
  {log : EmissionLog} {n : Numbering}

theorem restart (h : f.Stage c start kind log n) {block : Block Expr}
    (hopen : f.emitter.openBlocks = [block]) :
    ((f.finishBlock block []).beginBlock inner).Stage c start inner (log ++ [.cut]) n where
  logged := h.logged.restart hopen inner
  writer_eq := by
    rw [← h.writer_eq, finishBlock_eq]
    rfl
  parts_eq := by
    rw [← h.parts_eq, finishBlock_eq]
    rfl

theorem enter (h : f.Stage c start kind log n) (inner : BlockKind) :
    ∃ f', enterBlock inner (some kind) f = .ok () f' ∧
      f'.Stage c start inner (log ++ [.cut]) n := by
  obtain ⟨block, hopen, -⟩ := h.logged.openBlocks_eq
  exact ⟨_, enterBlock_some hopen, h.restart hopen⟩

theorem leave (h : f.Stage c start inner log n) (kind : BlockKind) :
    ∃ f', leaveBlock (some kind) f = .ok () f' ∧
      f'.Stage c start kind (log ++ [.cut]) n := by
  obtain ⟨block, hopen, -⟩ := h.logged.openBlocks_eq
  exact ⟨_, leaveBlock_some hopen, h.restart hopen⟩

theorem emit (h : f.Stage c start kind log n) (e : Expr) :
    ∃ f', FuncDraft.emit e (f, n.supply) =
        .ok (n.var c kind e.normalize.checkedTy) (f', (n.next kind).supply) ∧
      f'.Stage c start kind
        (log ++ [.bound kind ⟨n.var c kind e.normalize.checkedTy, e.normalize⟩]) (n.next kind) := by
  obtain ⟨block, hopen, rfl, -⟩ := h.logged.openBlocks_eq
  have hname : f.emitter.nextName block.kind = n.nextName c block.kind := by
    have hstem := congrArg BlockWriter.ordinaryStem h.writer_eq
    have hstem' := congrArg BlockWriter.dataflowStem h.writer_eq
    have hcount := congrArg BlockWriter.ordinaryCount h.writer_eq
    have hcount' := congrArg BlockWriter.dataflowCount h.writer_eq
    simp only at hstem hstem' hcount hcount'
    cases block.kind <;> simp [BlockWriter.nextName, Numbering.nextName, *]
  have hemit : FuncDraft.emit e (f, n.supply) = _ := emit_of_open hopen
  have hvar : f.freshVar block.kind e n.supply =
      n.var c block.kind e.normalize.checkedTy := by
    simp [freshVar, VarSupply.fresh, Numbering.var, hname]
  rw [hvar] at hemit
  have hsupply : (n.next block.kind).supply = ⟨n.supply.next + 1⟩ := by
    cases block.kind <;> rfl
  refine ⟨_, hsupply ▸ hemit, h.logged.emit hemit, ?_, h.parts_eq⟩
  have hcountUp (kind : BlockKind) :
      { f.emitter.countUp kind with openBlocks := [] } =
        ({ f.emitter with openBlocks := [] } : BlockWriter).countUp kind := by
    cases kind <;> rfl
  have hwriter := hcountUp block.kind
  rw [h.writer_eq] at hwriter
  refine hwriter.trans ?_
  cases block.kind <;> rfl

end FuncDraft.Stage

mutual

/-- A statement adds its log to the function that is being built. -/
theorem Stmt.build_eq_ok {c : Config} {below : Frames BlockWriter} {start : FuncDraft BlockWriter} :
    ∀ (s : Stmt) {w : Workspace BlockWriter} {above : Frames BlockWriter}
      {f : FuncDraft BlockWriter} {kind : BlockKind} {log : EmissionLog} {n : Numbering},
      w.Inside above f below kind → w.supply = n.supply → f.Stage c start kind log n →
      ∃ f', s.build w =
          .ok () (w.arrange (above ++ .function f' :: below) (s.log c kind n).2.supply) ∧
        f'.Stage c start kind (log ++ (s.log c kind n).1) (s.log c kind n).2
  | .emit e, w, above, f, kind, log, n, hinside, hsupply, hstage => by
      obtain ⟨f', hemit, hstage'⟩ := hstage.emit e
      refine ⟨f', ?_, hstage'⟩
      rw [Stmt.build, bind_eq_ok]
      exact ⟨_, _, hinside.emit_eq_ok (hsupply ▸ hemit), rfl⟩
  | .block inner body, w, above, f, kind, log, n, hinside, hsupply, hstage => by
      obtain ⟨f₁, henter, hstage₁⟩ := hstage.enter inner
      have hinside₁ :
          (w.arrange (.block inner :: (above ++ .function f₁ :: below)) w.supply).Inside
            (.block inner :: above) f₁ below inner :=
        ⟨hinside.not_failed, rfl, by simpa [Frame.isFunction] using hinside.above_blocks, rfl⟩
      obtain ⟨f₂, hbody, hstage₂⟩ := Stmt.buildAll_eq_ok body hinside₁ hsupply hstage₁
      obtain ⟨f₃, hleave, hstage₃⟩ := hstage₂.leave kind
      refine ⟨f₃, ?_, ?_⟩
      · rw [Stmt.build, Builder.inBlock]
        exact Builder.withScope_eq_ok (hinside.openBlock_eq_ok inner henter) hbody
          (hinside.closeBlock_eq_ok hleave)
      · simpa [Stmt.log] using hstage₃

theorem Stmt.buildAll_eq_ok {c : Config} {below : Frames BlockWriter}
    {start : FuncDraft BlockWriter} :
    ∀ (body : List Stmt) {w : Workspace BlockWriter} {above : Frames BlockWriter}
      {f : FuncDraft BlockWriter} {kind : BlockKind} {log : EmissionLog} {n : Numbering},
      w.Inside above f below kind → w.supply = n.supply → f.Stage c start kind log n →
      ∃ f', Stmt.buildAll body w =
          .ok () (w.arrange (above ++ .function f' :: below)
            (Stmt.logAll c kind n body).2.supply) ∧
        f'.Stage c start kind (log ++ (Stmt.logAll c kind n body).1) (Stmt.logAll c kind n body).2
  | [], w, above, f, kind, log, n, hinside, hsupply, hstage => by
      refine ⟨f, ?_, by simpa [Stmt.logAll] using hstage⟩
      rw [Stmt.buildAll, pure_eq_ok, Stmt.logAll, ← hinside.frames_eq, ← hsupply]
      exact ⟨rfl, rfl⟩
  | s :: body, w, above, f, kind, log, n, hinside, hsupply, hstage => by
      obtain ⟨f₁, hs, hstage₁⟩ := Stmt.build_eq_ok s hinside hsupply hstage
      obtain ⟨f₂, hbody, hstage₂⟩ := Stmt.buildAll_eq_ok body (hinside.arrange f₁ _) rfl hstage₁
      refine ⟨f₂, ?_, by simpa [Stmt.logAll] using hstage₂⟩
      rw [Stmt.buildAll, bind_eq_ok]
      exact ⟨(), _, hs, hbody⟩

end

end ScopedBuilder
