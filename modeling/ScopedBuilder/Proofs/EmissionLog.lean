import Mathlib.Data.List.Induction
import ScopedBuilder.Proofs.FuncBlocks

/-!
# The log of a function

The bindings of a function in the order in which they were made, with a cut wherever one of its blocks
was opened or closed. The blocks of the function are the pieces between the cuts, except for the empty
ones.
-/

namespace ScopedBuilder

/-- A binding, with the kind of the blocks where it was made, or a boundary of blocks. -/
inductive LogEntry where
  | bound (kind : BlockKind) (binding : Binding Expr)
  | cut

abbrev EmissionLog := List LogEntry

/-- Bindings between two cuts. -/
abbrev Piece := List (BlockKind × Binding Expr)

/-- The bindings of a block, each with the kind of the block. -/
def Block.tagged (block : Block Expr) : Piece := block.bindings.map (block.kind, ·)

namespace EmissionLog

/-- A log that has been cut: the pieces before the last cut, and the one after it. -/
structure Pieces where
  complete : List Piece
  current : Piece

def Pieces.add (p : Pieces) : LogEntry → Pieces
  | .bound kind binding => { p with current := p.current ++ [(kind, binding)] }
  | .cut => ⟨p.complete ++ [p.current], []⟩

def cutUp (log : EmissionLog) : Pieces := log.foldl Pieces.add ⟨[], []⟩

/-- The pieces of a log, empty ones included. -/
def pieces (log : EmissionLog) : List Piece := log.cutUp.complete ++ [log.cutUp.current]

/-- The bindings of a log, in the order in which they were made. -/
def bindings (log : EmissionLog) : List (Binding Expr) :=
  log.filterMap fun
    | .bound _ binding => some binding
    | .cut => none

@[simp] theorem bindings_append_cut (log : EmissionLog) : bindings (log ++ [.cut]) = log.bindings := by
  simp [bindings]

@[simp] theorem bindings_append_bound (log : EmissionLog) (kind : BlockKind) (b : Binding Expr) :
    bindings (log ++ [.bound kind b]) = log.bindings ++ [b] := by
  simp [bindings]

@[simp] theorem cutUp_bound (log : EmissionLog) (kind : BlockKind) (binding : Binding Expr) :
    cutUp (log ++ [.bound kind binding]) =
      ⟨log.cutUp.complete, log.cutUp.current ++ [(kind, binding)]⟩ := by
  simp [cutUp, Pieces.add]

@[simp] theorem cutUp_cut (log : EmissionLog) :
    cutUp (log ++ [.cut]) = ⟨log.cutUp.complete ++ [log.cutUp.current], []⟩ := by
  simp [cutUp, Pieces.add]

/-- The bindings of a log with the kinds of their blocks. -/
def tagged (log : EmissionLog) : Piece :=
  log.filterMap fun
    | .bound kind binding => some (kind, binding)
    | .cut => none

@[simp] theorem tagged_bound (log : EmissionLog) (kind : BlockKind) (binding : Binding Expr) :
    tagged (log ++ [.bound kind binding]) = log.tagged ++ [(kind, binding)] := by
  simp [tagged]

@[simp] theorem tagged_cut (log : EmissionLog) : tagged (log ++ [.cut]) = log.tagged := by
  simp [tagged]

theorem map_tagged (log : EmissionLog) : log.tagged.map (·.2) = log.bindings := by
  rw [tagged, bindings, List.map_filterMap]
  congr 1
  funext entry
  cases entry <;> rfl

/-- Cutting loses no binding and keeps the order. -/
theorem flatten_pieces (log : EmissionLog) : log.pieces.flatten = log.tagged := by
  induction log using List.reverseRecOn with
  | nil => rfl
  | append_singleton log entry ih =>
      cases entry with
      | bound kind binding =>
          simp only [pieces, cutUp_bound, tagged_bound] at ih ⊢
          simp [← ih]
      | cut =>
          simp only [pieces, cutUp_cut, tagged_cut] at ih ⊢
          simp [← ih]

end EmissionLog

/-! ## Blocks and pieces -/

theorem Block.tagged_isEmpty (block : Block Expr) :
    block.tagged.isEmpty = block.bindings.isEmpty := by
  simp [tagged]

theorem Block.map_tagged_filter (blocks : List (Block Expr)) :
    (blocks.filter (!·.bindings.isEmpty)).map tagged =
      (blocks.map tagged).filter (!·.isEmpty) := by
  rw [List.filter_map]
  simp [Function.comp_def, tagged_isEmpty]

/-- The pieces of a log that are not empty hold all of its bindings. -/
theorem Block.flatMap_tagged {blocks : List (Block Expr)} {log : EmissionLog}
    (h : blocks.map tagged = log.pieces.filter (!·.isEmpty)) : blocks.flatMap tagged = log.tagged := by
  calc blocks.flatMap tagged
      = (blocks.map tagged).flatten := List.flatMap_def
    _ = log.pieces.flatten := by rw [h, List.flatten_filter_not_isEmpty]
    _ = log.tagged := log.flatten_pieces

theorem Block.flatMap_bindings {blocks : List (Block Expr)} {log : EmissionLog}
    (h : blocks.map tagged = log.pieces.filter (!·.isEmpty)) :
    blocks.flatMap (·.bindings) = log.bindings := by
  calc blocks.flatMap (·.bindings)
      = (blocks.flatMap tagged).map (·.2) := by
        simp [tagged, List.flatMap, Function.comp_def]
    _ = log.tagged.map (·.2) := by rw [flatMap_tagged h]
    _ = log.bindings := log.map_tagged

theorem Block.bindings_ne_nil {blocks : List (Block Expr)} {pieces : List Piece}
    (h : blocks.map tagged = pieces.filter (!·.isEmpty)) {block : Block Expr}
    (hmem : block ∈ blocks) : block.bindings ≠ [] := by
  have htagged : block.tagged ∈ pieces.filter (!·.isEmpty) := h ▸ List.mem_map_of_mem hmem
  simpa [tagged_isEmpty] using (List.mem_filter.mp htagged).2

namespace FuncDraft

/-- A function whose only open block, of a given kind, holds the last piece of a log, and whose finished
blocks are the pieces before it. -/
structure Logged (f : FuncDraft BlockWriter) (kind : BlockKind) (log : EmissionLog) : Prop where
  openBlocks_eq : ∃ block, f.emitter.openBlocks = [block] ∧ block.kind = kind ∧
    block.tagged = log.cutUp.current
  blocks_eq : f.blocks.map Block.tagged = log.cutUp.complete.filter (!·.isEmpty)

namespace Logged

variable {f f' : FuncDraft BlockWriter} {kind : BlockKind} {log : EmissionLog}

theorem start {w : BlockWriter} (h : w.openBlocks = []) (kind : BlockKind) :
    ((FuncDraft.new w).beginBlock kind).Logged kind [] where
  openBlocks_eq := ⟨⟨kind, []⟩, by simp [FuncDraft.new, h], rfl, rfl⟩
  blocks_eq := rfl

/-- The parts of a function that are not its blocks do not matter. -/
theorem of_eq (h : f.Logged kind log) (hemitter : f'.emitter = f.emitter)
    (hblocks : f'.blocks = f.blocks) : f'.Logged kind log :=
  ⟨hemitter ▸ h.openBlocks_eq, hblocks ▸ h.blocks_eq⟩

/-- All blocks, once the open one is finished. -/
theorem finish (h : f.Logged kind log) {block : Block Expr}
    (hopen : f.emitter.openBlocks = [block]) :
    (f.finishBlock block []).blocks.map Block.tagged = log.pieces.filter (!·.isEmpty) := by
  obtain ⟨_, hopen', -, htagged⟩ := h.openBlocks_eq
  rw [hopen] at hopen'
  cases hopen'
  rw [blocks_finishBlock, List.map_append, h.blocks_eq, Block.map_tagged_filter,
    EmissionLog.pieces, List.filter_append, ← htagged]
  rfl

/-- A boundary: the open block is finished and another one begins. -/
theorem restart (h : f.Logged kind log) {block : Block Expr}
    (hopen : f.emitter.openBlocks = [block]) (kind' : BlockKind) :
    ((f.finishBlock block []).beginBlock kind').Logged kind' (log ++ [.cut]) where
  openBlocks_eq := ⟨⟨kind', []⟩, by simp, rfl, by simp [Block.tagged]⟩
  blocks_eq := by
    rw [blocks_beginBlock, h.finish hopen, EmissionLog.cutUp_cut, EmissionLog.pieces]

theorem enter (h : f.Logged kind log) {kind' enclosing : BlockKind}
    (henter : enterBlock kind' (some enclosing) f = .ok () f') : f'.Logged kind' (log ++ [.cut]) := by
  obtain ⟨block, hopen, -⟩ := h.openBlocks_eq
  cases henter.symm.trans (enterBlock_some hopen)
  exact h.restart hopen kind'

theorem leave (h : f.Logged kind log) {enclosing : BlockKind}
    (hleave : leaveBlock (some enclosing) f = .ok () f') :
    f'.Logged enclosing (log ++ [.cut]) := by
  obtain ⟨block, hopen, -⟩ := h.openBlocks_eq
  cases hleave.symm.trans (leaveBlock_some hopen)
  exact h.restart hopen enclosing

theorem emit (h : f.Logged kind log) {e : Expr} {v : Var} {supply supply' : VarSupply}
    (hemit : FuncDraft.emit e (f, supply) = .ok v (f', supply')) :
    f'.Logged kind (log ++ [.bound kind ⟨v, e.normalize⟩]) := by
  obtain ⟨block, hopen, rfl, htagged⟩ := h.openBlocks_eq
  cases hemit.symm.trans (emit_of_open hopen)
  refine ⟨⟨_, rfl, rfl, ?_⟩, ?_⟩
  · rw [EmissionLog.cutUp_bound, ← htagged]
    simp [Block.tagged]
  · rw [EmissionLog.cutUp_bound]
    exact h.blocks_eq

theorem nameOrEmpty_leaveBlock (_ : f.Logged kind log) (hleave : leaveBlock none f = .ok () f') :
    f'.nameOrEmpty = f.nameOrEmpty :=
  FuncDraft.nameOrEmpty_leaveBlock hleave

/-- The blocks of the finished function. -/
theorem func_blocks (h : f.Logged kind log) {config : Config} {func : Func}
    (hleave : leaveBlock none f = .ok () f') (hfunc : f'.assemble config = .ok func) :
    func.blocks.map Block.tagged = log.pieces.filter (!·.isEmpty) := by
  obtain ⟨block, hopen, -⟩ := h.openBlocks_eq
  cases hleave.symm.trans (leaveBlock_none hopen)
  obtain ⟨output, result, -, -, rfl⟩ := assemble_eq_ok.mp hfunc
  exact h.finish hopen

end Logged

end FuncDraft

end ScopedBuilder
