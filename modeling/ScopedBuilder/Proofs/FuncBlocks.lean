import Mathlib.Data.List.Forall2
import ScopedBuilder.Emitter.BlockWriter
import ScopedBuilder.Proofs.Normalize
import ScopedBuilder.Proofs.Outcome

/-!
# The blocks of a function under construction

What entering and leaving a block, and binding an expression, do to a function whose bindings the
standard emitter collects.
-/

namespace ScopedBuilder

namespace FuncDraft

/-! ## Recording -/

/-- A block is kept exactly if it has bindings. -/
theorem record_eq {σ : Type} (f : FuncDraft σ) (block : Block Expr) :
    f.record block =
      { f with blocks := f.blocks ++ [block].filter (!·.bindings.isEmpty) } := by
  unfold record
  cases hempty : block.bindings.isEmpty <;> simp [hempty, -List.isEmpty_iff]

/-! ## Open blocks -/

variable {f f' : FuncDraft BlockWriter} {block : Block Expr} {outer : List (Block Expr)}

def withOpenBlocks (f : FuncDraft BlockWriter) (blocks : List (Block Expr)) :
    FuncDraft BlockWriter :=
  { f with emitter := { f.emitter with openBlocks := blocks } }

/-- The function after its innermost open block has been closed and kept. -/
def finishBlock (f : FuncDraft BlockWriter) (block : Block Expr) (outer : List (Block Expr)) :
    FuncDraft BlockWriter :=
  (f.withOpenBlocks outer).record block

/-- The variable that an expression is bound to in a block. -/
def freshVar (f : FuncDraft BlockWriter) (kind : BlockKind) (e : Expr) (supply : VarSupply) : Var :=
  (supply.fresh (f.emitter.nextName kind) kind.isDataflow e.normalize.checkedTy).1

/-- The function after a binding has been added to its innermost open block. -/
def addBinding (f : FuncDraft BlockWriter) (block : Block Expr) (outer : List (Block Expr))
    (binding : Binding Expr) : FuncDraft BlockWriter :=
  { f with emitter :=
    { f.emitter.countUp block.kind with
      openBlocks := { block with bindings := block.bindings ++ [binding] } :: outer } }

@[simp] theorem openBlocks_beginBlock (kind : BlockKind) :
    (f.beginBlock kind).emitter.openBlocks = ⟨kind, []⟩ :: f.emitter.openBlocks := rfl

@[simp] theorem blocks_beginBlock (kind : BlockKind) : (f.beginBlock kind).blocks = f.blocks := rfl

theorem finishBlock_eq :
    f.finishBlock block outer =
      { f with
        blocks := f.blocks ++ [block].filter (!·.bindings.isEmpty)
        emitter := { f.emitter with openBlocks := outer } } :=
  record_eq _ block

@[simp] theorem openBlocks_finishBlock : (f.finishBlock block outer).emitter.openBlocks = outer := by
  rw [finishBlock_eq]

theorem blocks_finishBlock :
    (f.finishBlock block outer).blocks = f.blocks ++ [block].filter (!·.bindings.isEmpty) := by
  rw [finishBlock_eq]

@[simp] theorem nameOrEmpty_finishBlock :
    (f.finishBlock block outer).nameOrEmpty = f.nameOrEmpty := by
  rw [finishBlock_eq]
  rfl

theorem endBlock_eq_ok {u : Unit} :
    endBlock f = .ok u f' ↔
      ∃ block outer, f.emitter.openBlocks = block :: outer ∧ f' = f.finishBlock block outer := by
  simp only [endBlock, Emitter.endBlock, BlockWriter.endBlock]
  cases hopen : f.emitter.openBlocks with
  | nil => simp
  | cons block outer =>
      constructor
      · rintro h
        cases h
        exact ⟨block, outer, rfl, rfl⟩
      · rintro ⟨_, _, h, rfl⟩
        cases h
        rfl

theorem endBlock_of_open (h : f.emitter.openBlocks = block :: outer) :
    endBlock f = .ok () (f.finishBlock block outer) :=
  endBlock_eq_ok.mpr ⟨block, outer, h, rfl⟩

/-- A block directly inside another one finishes that one first. -/
theorem enterBlock_some {kind enclosing : BlockKind} (h : f.emitter.openBlocks = block :: outer) :
    enterBlock kind (some enclosing) f = .ok () ((f.finishBlock block outer).beginBlock kind) := by
  simp [enterBlock, endBlock_of_open h]

theorem enterBlock_none {kind : BlockKind} : enterBlock kind none f = .ok () (f.beginBlock kind) :=
  rfl

theorem leaveBlock_some {enclosing : BlockKind} (h : f.emitter.openBlocks = block :: outer) :
    leaveBlock (some enclosing) f = .ok () ((f.finishBlock block outer).beginBlock enclosing) := by
  simp [leaveBlock, endBlock_of_open h]

theorem leaveBlock_none (h : f.emitter.openBlocks = block :: outer) :
    leaveBlock none f = .ok () (f.finishBlock block outer) := by
  simp [leaveBlock, endBlock_of_open h]

theorem leaveBlock_none_eq_ok :
    leaveBlock none f = .ok () f' ↔
      ∃ block outer, f.emitter.openBlocks = block :: outer ∧ f' = f.finishBlock block outer := by
  constructor
  · intro h
    obtain ⟨_, hend, -⟩ := bind_pure_eq_ok.mp h
    exact endBlock_eq_ok.mp hend
  · rintro ⟨block, outer, hopen, rfl⟩
    exact leaveBlock_none hopen

/-- The end of the last block leaves the name. -/
theorem nameOrEmpty_leaveBlock (h : leaveBlock none f = .ok () f') : f'.nameOrEmpty = f.nameOrEmpty := by
  obtain ⟨block, outer, -, rfl⟩ := leaveBlock_none_eq_ok.mp h
  exact nameOrEmpty_finishBlock

theorem emit_of_open {e : Expr} {supply : VarSupply} (h : f.emitter.openBlocks = block :: outer) :
    emit e (f, supply) = .ok (f.freshVar block.kind e supply)
      (f.addBinding block outer ⟨f.freshVar block.kind e supply, e.normalize⟩, ⟨supply.next + 1⟩) := by
  simp only [emit, Emitter.emit, BlockWriter.emit, h]
  rfl

/-! ## The kinds of the open blocks -/

/-- The kinds of the blocks that are open in a function, innermost first. -/
def openKinds (f : FuncDraft BlockWriter) : List BlockKind := f.emitter.openBlocks.map (·.kind)

variable {kind : BlockKind} {kinds : List BlockKind} {enclosing : Option BlockKind}

theorem openKinds_eq_cons_iff :
    f.openKinds = kind :: kinds ↔
      ∃ block outer, f.emitter.openBlocks = block :: outer ∧ block.kind = kind ∧
        outer.map (·.kind) = kinds := by
  simp [openKinds, List.map_eq_cons_iff]

section Related

variable {R : BlockKind → BlockKind → Prop} {tops : List BlockKind}

theorem openBlocks_eq_singleton (h : List.Forall₂ R f.openKinds [kind]) :
    ∃ block, f.emitter.openBlocks = [block] := by
  obtain ⟨held, rest, -, hrest, hopen⟩ := List.forall₂_cons_right_iff.mp h
  cases hrest
  obtain ⟨block, outer, hblocks, -, houter⟩ := openKinds_eq_cons_iff.mp hopen
  rw [List.map_eq_nil_iff] at houter
  exact ⟨block, houter ▸ hblocks⟩

/-- Entering a block replaces the entry of the block directly around it, if there is one. -/
theorem enterBlock_of_related (hkind : R kind kind)
    (h : List.Forall₂ R f.openKinds (enclosing.toList ++ tops)) :
    ∃ f', enterBlock kind enclosing f = .ok () f' ∧ List.Forall₂ R f'.openKinds (kind :: tops) := by
  cases enclosing with
  | none => exact ⟨_, enterBlock_none, .cons hkind h⟩
  | some k =>
      obtain ⟨held, kinds, -, hkinds, hopen⟩ := List.forall₂_cons_right_iff.mp h
      obtain ⟨block, outer, hblocks, -, rfl⟩ := openKinds_eq_cons_iff.mp hopen
      exact ⟨_, enterBlock_some hblocks, .cons hkind (by simpa [openKinds] using hkinds)⟩

/-- Leaving a block puts back an entry for the block directly around it, if there is one. -/
theorem leaveBlock_of_related (hrefl : ∀ k, R k k) (h : List.Forall₂ R f.openKinds (kind :: tops)) :
    ∃ f', leaveBlock enclosing f = .ok () f' ∧
      List.Forall₂ R f'.openKinds (enclosing.toList ++ tops) := by
  obtain ⟨held, kinds, -, hkinds, hopen⟩ := List.forall₂_cons_right_iff.mp h
  obtain ⟨block, outer, hblocks, -, rfl⟩ := openKinds_eq_cons_iff.mp hopen
  cases enclosing with
  | none => exact ⟨_, leaveBlock_none hblocks, by simpa [openKinds] using hkinds⟩
  | some k =>
      exact ⟨_, leaveBlock_some hblocks, .cons (hrefl k) (by simpa [openKinds] using hkinds)⟩

end Related

theorem emit_of_openKinds {e : Expr} {supply : VarSupply} (h : f.openKinds = kind :: kinds) :
    ∃ f', emit e (f, supply) = .ok (f.freshVar kind e supply) (f', ⟨supply.next + 1⟩) ∧
      f'.openKinds = kind :: kinds := by
  obtain ⟨block, outer, hopen, rfl, rfl⟩ := openKinds_eq_cons_iff.mp h
  exact ⟨_, emit_of_open hopen, rfl⟩

/-! ## Finishing the function -/

/-- The body of a function with some blocks and a value: the value is normalized, and its type is the
type of the body. -/
def sequence (blocks : List (Block Expr)) (output : Expr) : Expr :=
  .seq blocks output.normalize output.normalize.checkedTy

theorem normalize_seq (blocks : List (Block Expr)) (output : Expr) (ty : Option Ty) :
    (Expr.seq blocks output.normalize ty).normalize = sequence blocks output := by
  rw [Expr.normalize, Expr.normalize_normalize, sequence]

variable {config : Config}

theorem assemble_eq_ok {func : Func} :
    f.assemble config = .ok func ↔
      ∃ output result, f.output? = some output ∧ f.result = some result ∧
        func = ⟨f.params, sequence f.blocks output, result, f.finalAttrs config⟩ := by
  unfold assemble
  cases f.output? with
  | none => simp
  | some output =>
      cases f.result with
      | none => simp [Emitter.normalize]
      | some result => simp [Emitter.normalize, normalize_seq, eq_comm]

theorem assemble_eq_error {e : BuildError} :
    f.assemble config = .error e ↔
      (f.output? = none ∧ e = .missingOutput f.nameOrEmpty) ∨
        (f.output?.isSome ∧ f.result = none ∧ e = .missingResultTy f.nameOrEmpty) := by
  unfold assemble
  cases f.output? with
  | none => simp [eq_comm]
  | some output => cases f.result <;> simp [Emitter.normalize, eq_comm]

/-- The function that closing a scope makes of its draft, if an output and a result type are set: the
block that is still open comes last. -/
def finished? (f : FuncDraft BlockWriter) (config : Config) : Option Func :=
  match f.output?, f.result with
  | some output, some result =>
    some ⟨f.params, sequence (f.blocks ++ f.emitter.openBlocks.filter (!·.bindings.isEmpty)) output,
      result, f.finalAttrs config⟩
  | _, _ => none

theorem assemble_finishBlock_eq_ok {func : Func} (h : f.emitter.openBlocks = [block]) :
    (f.finishBlock block []).assemble config = .ok func ↔ f.finished? config = some func := by
  have houtput : (f.finishBlock block []).output? = f.output? := by
    rw [finishBlock_eq]
    rfl
  have hattrs : (f.finishBlock block []).finalAttrs config = f.finalAttrs config := by
    rw [finishBlock_eq]
    rfl
  rw [assemble_eq_ok, houtput, blocks_finishBlock, hattrs, finished?, h]
  cases f.output? with
  | none => simp
  | some output =>
      have hresult : (f.finishBlock block []).result = f.result := by
        rw [finishBlock_eq]
      have hparams : (f.finishBlock block []).params = f.params := by
        rw [finishBlock_eq]
      rw [hresult, hparams]
      cases f.result with
      | none => simp
      | some result =>
          simp only [Option.some.injEq]
          constructor
          · rintro ⟨_, _, rfl, rfl, rfl⟩
            rfl
          · rintro rfl
            exact ⟨_, _, rfl, rfl, rfl⟩

end FuncDraft

end ScopedBuilder
