import ScopedBuilder.Proofs.FuncWork
import ScopedBuilder.Proofs.FunctionScope

/-!
# Annotations

The values in the blocks of a function are normal forms, and the variables that they are bound to have their
types. The standard emitter sees to it when a value is bound; a finished function has a normal body besides,
although the normal form of a body does not look into its blocks.
-/

namespace ScopedBuilder

/-! ## Blocks -/

/-- A value in a block is its own normal form, and its variable has the type of the value and belongs to a
block of that kind. -/
structure Binding.Annotated (kind : BlockKind) (b : Binding Expr) : Prop where
  normal : b.value.normalize = b.value
  ty : b.var.ty = b.value.checkedTy
  dataflow : b.var.dataflow = kind.isDataflow

def Block.Annotated (block : Block Expr) : Prop :=
  ∀ b ∈ block.bindings, b.Annotated block.kind

namespace FuncDraft

variable {f f' : FuncDraft BlockWriter}

/-- All values in the blocks of a function are annotated, also in those that are still open. -/
def Annotated (f : FuncDraft BlockWriter) : Prop :=
  ∀ block ∈ f.blocks ++ f.emitter.openBlocks, block.Annotated

namespace Annotated

theorem beginBlock (h : f.Annotated) (kind : BlockKind) : (f.beginBlock kind).Annotated := by
  intro block hblock
  rw [blocks_beginBlock, openBlocks_beginBlock, List.mem_append, List.mem_cons] at hblock
  rcases hblock with hblock | rfl | hblock
  · exact h block (List.mem_append_left _ hblock)
  · exact nofun
  · exact h block (List.mem_append_right _ hblock)

theorem finishBlock {block : Block Expr} {outer : List (Block Expr)} (h : f.Annotated)
    (hopen : f.emitter.openBlocks = block :: outer) : (f.finishBlock block outer).Annotated := by
  intro other hother
  refine h other ?_
  rw [blocks_finishBlock, openBlocks_finishBlock] at hother
  rw [hopen]
  simp only [List.mem_append, List.mem_filter, List.mem_cons, List.not_mem_nil, or_false] at hother ⊢
  rcases hother with (hother | ⟨rfl, -⟩) | hother
  · exact .inl hother
  · exact .inr (.inl rfl)
  · exact .inr (.inr hother)

/-- A binding that is added is annotated. -/
theorem addBinding {block : Block Expr} {outer : List (Block Expr)} {b : Binding Expr}
    (h : f.Annotated) (hopen : f.emitter.openBlocks = block :: outer) (hb : b.Annotated block.kind) :
    (f.addBinding block outer b).Annotated := by
  rw [Annotated, hopen] at h
  intro other hother
  have hother : other ∈ f.blocks ++ { block with bindings := block.bindings ++ [b] } :: outer := hother
  rw [List.mem_append, List.mem_cons] at hother
  rcases hother with hother | rfl | hother
  · exact h other (List.mem_append_left _ hother)
  · intro c hc
    rcases List.mem_append.mp hc with hc | hc
    · exact h block (List.mem_append_right _ List.mem_cons_self) c hc
    · rw [List.mem_singleton.mp hc]
      exact hb
  · exact h other (List.mem_append_right _ (List.mem_cons_of_mem _ hother))

theorem emit {e : Expr} {v : Var} {supply supply' : VarSupply} (h : f.Annotated)
    (hemit : FuncDraft.emit e (f, supply) = .ok v (f', supply')) : f'.Annotated := by
  cases hopen : f.emitter.openBlocks with
  | nil => simp [FuncDraft.emit, Emitter.emit, BlockWriter.emit, hopen] at hemit
  | cons block outer =>
      cases hemit.symm.trans (emit_of_open hopen)
      exact h.addBinding hopen ⟨e.normalize_normalize, rfl, rfl⟩

theorem work (hwork : Work f f') (h : f.Annotated) : f'.Annotated := by
  cases hwork with
  | beginBlock kind => exact h.beginBlock kind
  | endBlock hend =>
      obtain ⟨block, outer, hopen, rfl⟩ := endBlock_eq_ok.mp hend
      exact h.finishBlock hopen
  | emit hemit => exact h.emit hemit
  | edit ha hedit =>
      obtain ⟨hemitter, hblocks⟩ := Action.functionEdit_blocks ha hedit
      rwa [Annotated, hemitter, hblocks]

/-- A new function has nothing in its default block. -/
theorem start {w : BlockWriter} (h : w.openBlocks = []) (kind : BlockKind) :
    ((FuncDraft.new w).beginBlock kind).Annotated :=
  beginBlock (fun block hblock => by simp [FuncDraft.new, h] at hblock) kind

end Annotated

end FuncDraft

/-! ## Functions that are finished -/

namespace FuncDraft.Annotated

variable {f f' : FuncDraft BlockWriter} {config : Config} {func : Func}

/-- The body of a finished function is a sequence in normal form, of the type of the value of the
function. -/
theorem body_of_assemble (hfunc : f.assemble config = .ok func) :
    (∃ blocks body ty, func.body = .seq blocks body ty) ∧ func.body.normalize = func.body ∧
      func.body.checkedTy = func.output.checkedTy := by
  obtain ⟨output, result, -, -, rfl⟩ := assemble_eq_ok.mp hfunc
  exact ⟨⟨_, _, _, rfl⟩, normalize_seq f.blocks output _, rfl⟩

theorem blocks_of_assemble (h : f.Annotated) (hfunc : f.assemble config = .ok func) :
    ∀ block ∈ func.blocks, block.Annotated := by
  obtain ⟨output, result, -, -, rfl⟩ := assemble_eq_ok.mp hfunc
  exact fun block hblock => h block (List.mem_append_left _ hblock)

end FuncDraft.Annotated

/-! ## Sessions -/

open Frames

/-- All functions on the stack are annotated, as long as the session has not failed. -/
theorem Workspace.annotated_after (config : Config) (supply : VarSupply) {events : List Event}
    (hfailed : ((new config supply).after events).builder.failed = false) :
    ((new config supply).after events).builder.frames.AllFunctions FuncDraft.Annotated := by
  refine (holds_after (fun _ w => w.Sound config ∧ w.builder.frames.AllFunctions FuncDraft.Annotated)
    ?_ .nil ⟨sound_new config supply, .nil⟩ events hfailed).2.2
  rintro _ w e w' - - - ⟨hsound, hall⟩ hquiet
  refine ⟨hsound.quiet hquiet, ?_⟩
  cases hquiet with
  | change _ hchange =>
      refine hchange.allFunctions ?_ (fun _ _ => FuncDraft.Annotated.work) hall
      rw [hsound.newEmitter_eq]
      exact .start rfl .ordinary
  | replaced kind => exact hall.replaceBlock kind
  | drawn | refused => exact hall

/-- Whenever the scope of a function closes successfully, in any session with the standard emitter, the body
of the function is a sequence in normal form, of the type of the value of the function. Each value in its
blocks is its own normal form, and is bound to a variable that has its type and is marked for dataflow
exactly in the blocks of that kind. -/
theorem closed_function_annotated (config : Config) (supply : VarSupply) (events : List Event)
    (a : Action) (depth : Nat) (reply : Reply) (w' : Workspace BlockWriter) :
    let w := (Workspace.new config supply).after events
    w.builder.frames.innermostScope? = some ⟨depth, .function⟩ →
    a.closes ⟨depth, .function⟩ = true → a.run w = .ok reply w' →
      ∃ f func, w.builder.frames.nearestFunction? = some f ∧ w'.HandedOver f.nameOrEmpty func ∧
        (∃ blocks body ty, func.body = .seq blocks body ty) ∧ func.body.normalize = func.body ∧
        func.body.checkedTy = func.output.checkedTy ∧
        ∀ block ∈ func.blocks, ∀ b ∈ block.bindings, b.value.normalize = b.value ∧
          b.var.ty = b.value.checkedTy ∧ b.var.dataflow = block.kind.isDataflow := by
  intro w hscope ha hrun
  have hfailed : w.builder.failed = false := Action.not_failed_of_closes ha hrun
  have hsound : w.Sound config := Workspace.sound_after config supply hfailed
  have hmirrors : Mirrors _ w := Workspace.mirrors_after config supply hfailed
  have hall : w.builder.frames.AllFunctions FuncDraft.Annotated :=
    Workspace.annotated_after config supply hfailed
  obtain ⟨-, -, hclosing⟩ := (Action.run_closes_eq_ok hsound.shaped hscope ha).mp hrun
  obtain ⟨kind, f, f', func, below, hframes, -, hleave, hfunc, hover⟩ :=
    hclosing.exists_handedOver hmirrors hscope
  have hf : f.Annotated := hall f (by simp [hframes])
  have hf' : f'.Annotated := (FuncDraft.worked_leaveBlock hleave).keeps (fun _ _ => .work) hf
  obtain ⟨hseq, hnormal, hty⟩ := FuncDraft.Annotated.body_of_assemble hfunc
  refine ⟨f, func, hframes ▸ rfl, hover, hseq, hnormal, hty, fun block hblock b hb => ?_⟩
  obtain ⟨hvalue, hvar, hdataflow⟩ := hf'.blocks_of_assemble hfunc block hblock b hb
  exact ⟨hvalue, hvar, hdataflow⟩

/-- A dataflow block between two bindings of the default block. -/
theorem closed_function_annotated_around_dataflow :
    let events : List Event :=
      [.action .openFunction, .action (.emit (.tuple [.shape []] none)),
        .action (.openBlock .dataflow), .action (.emit (.op "a")), .action .closeScope,
        .action (.setResultTy .shape), .action (.addOutput (.shape []))]
    let w := (Workspace.new {} ⟨0⟩).after events
    w.builder.frames.innermostScope? = some ⟨0, .function⟩ ∧
      ∃ w', Action.closeScope.run w = .ok .done w' ∧
        ∃ f func, w.builder.frames.nearestFunction? = some f ∧ w'.HandedOver f.nameOrEmpty func ∧
          (∃ blocks body ty, func.body = .seq blocks body ty) ∧ func.body.normalize = func.body ∧
          func.body.checkedTy = func.output.checkedTy ∧
          ∀ block ∈ func.blocks, ∀ b ∈ block.bindings, b.value.normalize = b.value ∧
            b.var.ty = b.value.checkedTy ∧ b.var.dataflow = block.kind.isDataflow :=
  ⟨rfl, _, rfl, closed_function_annotated {} ⟨0⟩ _ .closeScope 0 .done _ rfl rfl rfl⟩

end ScopedBuilder
