import Mathlib.Logic.Relation
import ScopedBuilder.Proofs.Change

/-!
# What is done to a function

Every operation on a function under construction comes down to four steps: a block is begun or ended, an
expression is bound, or one of its parts is given. What the steps keep is kept by every operation, for all
functions on the stack.
-/

namespace ScopedBuilder

variable {σ : Type} [Emitter σ]

namespace FuncDraft

/-- One step of work on a function. -/
inductive Work (f : FuncDraft σ) : FuncDraft σ → Prop where
  | beginBlock (kind : BlockKind) : Work f (f.beginBlock kind)
  | endBlock {f' : FuncDraft σ} : endBlock f = .ok () f' → Work f f'
  | emit {e : Expr} {v : Var} {supply supply' : VarSupply} {f' : FuncDraft σ} :
      emit e (f, supply) = .ok v (f', supply') → Work f f'
  | edit {a : Action} {renamers : Renamers} {reply : Reply} {f' : FuncDraft σ}
      {edit : FuncDraft σ → Except BuildError (Reply × FuncDraft σ)} :
      a.functionEdit? renamers = some edit → edit f = .ok (reply, f') → Work f f'

/-- Any number of steps of work. -/
def Worked : FuncDraft σ → FuncDraft σ → Prop := Relation.ReflTransGen Work

variable {f f' : FuncDraft σ} {kind : BlockKind} {enclosing : Option BlockKind}

theorem Work.worked (h : Work f f') : Worked f f' := .single h

/-- What each step keeps is kept by any number of them. -/
theorem Worked.keeps {holds : FuncDraft σ → Prop} (hwork : ∀ f f', Work f f' → holds f → holds f')
    (h : Worked f f') (hf : holds f) : holds f' := by
  induction h with
  | refl => exact hf
  | tail _ hstep ih => exact hwork _ _ hstep ih

/-- The end of a block goes through the emitter, and the block is kept. -/
theorem exists_of_endBlock (h : endBlock f = .ok () f') :
    ∃ block emitter, f' = { f with emitter := emitter }.record block := by
  unfold endBlock at h
  cases hend : Emitter.endBlock f.emitter with
  | ok block emitter =>
      rw [hend] at h
      cases h
      exact ⟨block, emitter, rfl⟩
  | error cause emitter =>
      rw [hend] at h
      cases h

/-- A binding is up to the emitter. -/
theorem exists_of_emit {e : Expr} {v : Var} {supply supply' : VarSupply}
    (h : emit e (f, supply) = .ok v (f', supply')) : ∃ emitter, f' = { f with emitter := emitter } := by
  unfold emit at h
  dsimp only at h
  cases hemit : Emitter.emit e (f.emitter, supply) with
  | ok v left =>
      rw [hemit] at h
      cases h
      exact ⟨left.1, rfl⟩
  | error cause left =>
      rw [hemit] at h
      cases h

/-- A block that is entered ends the one directly around it. -/
theorem worked_enterBlock (h : enterBlock kind enclosing f = .ok () f') : Worked f f' := by
  cases enclosing with
  | none =>
      cases h
      exact (Work.beginBlock kind).worked
  | some k =>
      obtain ⟨f₁, hend, rfl⟩ := enterBlock_some_eq_ok.mp h
      exact .tail (.single (.endBlock hend)) (.beginBlock kind)

theorem worked_leaveBlock (h : leaveBlock enclosing f = .ok () f') : Worked f f' := by
  cases enclosing with
  | none =>
      rw [leaveBlock_none_eq] at h
      exact (Work.endBlock h).worked
  | some k =>
      rw [leaveBlock_some_eq k k] at h
      exact worked_enterBlock h

end FuncDraft

/-! ## The functions on the stack -/

open Frames

/-- All functions on the stack are of some sort. -/
def Frames.AllFunctions (holds : FuncDraft σ → Prop) (frames : Frames σ) : Prop :=
  ∀ f, .function f ∈ frames → holds f

namespace Frames.AllFunctions

variable {holds : FuncDraft σ → Prop} {frames above below : Frames σ} {f f' : FuncDraft σ} {m : ModuleDraft}
  {kind : BlockKind}

omit [Emitter σ]

theorem nil : AllFunctions holds [] := nofun

@[simp] theorem module_iff : AllFunctions holds (.module m :: frames) ↔ AllFunctions holds frames := by
  simp [AllFunctions]

@[simp] theorem block_iff : AllFunctions holds (.block kind :: frames) ↔ AllFunctions holds frames := by
  simp [AllFunctions]

@[simp] theorem function_iff :
    AllFunctions holds (.function f :: frames) ↔ holds f ∧ AllFunctions holds frames := by
  simp [AllFunctions]

@[simp] theorem append_iff :
    AllFunctions holds (above ++ below) ↔ AllFunctions holds above ∧ AllFunctions holds below := by
  simp only [AllFunctions, List.mem_append, or_imp, forall_and]

/-- Work on one function. -/
theorem replace (h : AllFunctions holds frames) (hframes : frames = above ++ .function f :: below)
    (hf' : holds f → holds f') : AllFunctions holds (above ++ .function f' :: below) := by
  rw [hframes, append_iff, function_iff] at h
  rw [append_iff, function_iff]
  exact ⟨h.1, hf' h.2.1, h.2.2⟩

theorem replaceBlock (h : AllFunctions holds frames) (kind : BlockKind) :
    AllFunctions holds (frames.replaceBlock kind) :=
  fun f hf => h f (function_mem_replaceBlock.mp hf)

end Frames.AllFunctions

variable {w w' : Workspace σ} {a : Action} {reply : Reply} {holds : FuncDraft σ → Prop}

theorem Closing.allFunctions (h : Closing w w') (hwork : ∀ f f', FuncDraft.Work f f' → holds f → holds f')
    (hall : w.builder.frames.AllFunctions holds) : w'.builder.frames.AllFunctions holds := by
  cases h with
  | block hframes hsplit _ hleave =>
      rw [hframes, AllFunctions.block_iff] at hall
      obtain ⟨hrest, -⟩ := splitFunction?_eq_some_iff.mp hsplit
      exact hall.replace hrest ((FuncDraft.worked_leaveBlock hleave).keeps hwork)
  | function => exact .nil
  | definition hframes _ _ _ =>
      rw [hframes, AllFunctions.block_iff, AllFunctions.function_iff, AllFunctions.module_iff] at hall
      exact AllFunctions.module_iff.mpr hall.2
  | module hframes _ _ =>
      rw [hframes, AllFunctions.module_iff] at hall
      exact hall

/-- What a new function is, and what each step of work on a function keeps, all functions on the stack
remain. -/
theorem Change.allFunctions (h : Change w a reply w')
    (hnew : holds ((FuncDraft.new (w.builder.newEmitter w.builder.config)).beginBlock .ordinary))
    (hwork : ∀ f f', FuncDraft.Work f f' → holds f → holds f')
    (hall : w.builder.frames.AllFunctions holds) : w'.builder.frames.AllFunctions holds := by
  cases h with
  | openModule => exact AllFunctions.module_iff.mpr hall
  | openFunction => exact AllFunctions.block_iff.mpr (AllFunctions.function_iff.mpr ⟨hnew, hall⟩)
  | openBlock _ hsplit henter =>
      obtain ⟨hframes, -⟩ := splitFunction?_eq_some_iff.mp hsplit
      refine AllFunctions.block_iff.mpr ?_
      exact hall.replace hframes ((FuncDraft.worked_enterBlock henter).keeps hwork)
  | close _ _ hclosing => exact hclosing.allFunctions hwork hall
  | abort =>
      split
      · exact hall
      · exact .nil
  | editModule _ hframes _ =>
      rw [hframes] at hall
      exact AllFunctions.module_iff.mpr (AllFunctions.module_iff.mp hall)
  | @editFunction _ _ _ kind f f' below ha hframes hedit =>
      have hsplit : w.builder.frames = [.block kind] ++ .function f :: below := hframes
      exact hall.replace hsplit (hwork f f' (.edit ha hedit))
  | emit _ hsplit hemit =>
      obtain ⟨hframes, -⟩ := splitFunction?_eq_some_iff.mp hsplit
      exact hall.replace hframes (hwork _ _ (.emit hemit))
  | takeResult => split <;> exact hall
  | setResult | setRenamers | registerRenamer | rename => exact hall

end ScopedBuilder
