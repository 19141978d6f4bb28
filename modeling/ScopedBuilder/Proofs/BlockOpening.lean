import ScopedBuilder.Proofs.Nesting

/-!
# Two ways to open a block

A block can be opened, which asks for a function first, or pushed, which lets the block look for its function
when it stands on the stack already. In a function the two are the same operation. Where no function is open
both are refused, but the pushed block stays.
-/

namespace ScopedBuilder

open Frames BuildM

variable {σ : Type} {kind : BlockKind}

/-- Outside of every function nothing but a module can be open. -/
theorem Frames.Nested.eq_nil_or_module {frames : Frames σ} (h : frames.Nested)
    (hfunction : frames.any Frame.isFunction = false) :
    frames = [] ∨ ∃ m, frames = [.module m] := by
  induction h with
  | nil => exact .inl rfl
  | @module m below hmodule _ ih =>
      have hbelow : below.any Frame.isFunction = false := hfunction
      rcases ih hbelow with rfl | ⟨m', rfl⟩
      · exact .inr ⟨m, rfl⟩
      · cases hmodule
  | function => cases hfunction
  | block _ hbelow =>
      have hnone := (Bool.or_eq_false_iff.mp hfunction).2
      cases hbelow.symm.trans hnone

namespace Builder

variable [Emitter σ] {w : Workspace σ}

/-- In a function it makes no difference that opening a block asks for the function first. -/
theorem openBlock_eq_pushBlock (hfailed : w.builder.failed = false)
    (hfunction : w.builder.frames.any Frame.isFunction = true) :
    openBlock kind w = pushBlock kind w := by
  simp only [openBlock, pushBlock, guarded, hfailed, getBuilder_bind, hfunction, Bool.not_true,
    Bool.false_eq_true, if_false]

/-- Outside of every function a block is not opened. -/
theorem openBlock_outside (kind : BlockKind) (hfailed : w.builder.failed = false)
    (hfunction : w.builder.frames.any Frame.isFunction = false) :
    openBlock kind w = .error (.notInFunction .openBlock) w.markFailed := by
  apply guarded_eq_error.mpr
  refine .inr ⟨hfailed, w, ?_, rfl⟩
  rw [getBuilder_bind, hfunction]
  rfl

/-- Outside of every function a block that is pushed finds none to work on, and stays on the stack. -/
theorem pushBlock_outside (kind : BlockKind) (hfailed : w.builder.failed = false)
    (hfunction : w.builder.frames.any Frame.isFunction = false) :
    pushBlock kind w = .error (.notInFunction (.arrangeBlock kind))
      (w.withFrames (.block kind :: w.builder.frames)).markFailed := by
  have hsplit := splitFunction?_eq_none_iff.mpr hfunction
  apply guarded_eq_error.mpr
  refine .inr ⟨hfailed, _, ?_, rfl⟩
  apply enter_block_eq_error.mpr
  exact enterBlock_eq_error.mpr (.inl ⟨hsplit, rfl, rfl⟩)

end Builder

open Builder

/-- To open a block and to push one succeed in the same sessions, with the same handle, and leave the same
result of the session. In a function they are the same in every respect, with whatever emitter. Where no
function is open, that is with nothing open or a module alone, both are refused, and they leave different
stacks: opening leaves the frames as they were, pushing leaves the block on top of them. -/
theorem block_openings_agree_iff [Emitter σ] (config : Config) (newEmitter : Config → σ)
    (supply : VarSupply) (events : List Event) (kind : BlockKind) :
    let w := (⟨.new config newEmitter, supply⟩ : Workspace σ).after events
    w.builder.failed = false →
      (∀ handle w', openBlock kind w = .ok handle w' ↔ pushBlock kind w = .ok handle w') ∧
      (final (openBlock kind) w).builder.result = (final (pushBlock kind) w).builder.result ∧
      ((final (openBlock kind) w).builder.frames = (final (pushBlock kind) w).builder.frames ↔
        w.builder.frames.any Frame.isFunction = true) ∧
      (w.builder.frames.any Frame.isFunction = true → openBlock kind w = pushBlock kind w) ∧
      (w.builder.frames.any Frame.isFunction = false →
        (w.builder.frames = [] ∨ ∃ m, w.builder.frames = [.module m]) ∧
        openBlock kind w = .error (.notInFunction .openBlock) w.markFailed ∧
        pushBlock kind w = .error (.notInFunction (.arrangeBlock kind))
          (w.withFrames (.block kind :: w.builder.frames)).markFailed) := by
  intro w hfailed
  obtain ⟨-, hnested⟩ := Workspace.nested_after config newEmitter supply events hfailed
  by_cases hfunction : w.builder.frames.any Frame.isFunction = true
  · have hsame : openBlock kind w = pushBlock kind w := openBlock_eq_pushBlock hfailed hfunction
    have hfinal : final (openBlock kind) w = final (pushBlock kind) w := by
      rw [final, final, hsame]
    refine ⟨?_, ?_, ?_, fun _ => hsame, ?_⟩
    · intro handle w'
      rw [hsame]
    · rw [hfinal]
    · rw [hfinal]
      exact iff_of_true rfl hfunction
    · intro hnone
      cases hfunction.symm.trans hnone
  · have hnone : w.builder.frames.any Frame.isFunction = false := Bool.eq_false_iff.mpr hfunction
    have hopen := openBlock_outside kind hfailed hnone
    have hpush := pushBlock_outside kind hfailed hnone
    refine ⟨?_, ?_, ?_, fun h => absurd h hfunction, fun _ => ⟨?_, hopen, hpush⟩⟩
    · intro handle w'
      rw [hopen, hpush]
      apply iff_of_false
      · intro h
        cases h
      · intro h
        cases h
    · rw [final_of_error hopen, final_of_error hpush]
      rfl
    · rw [final_of_error hopen, final_of_error hpush]
      refine iff_of_false ?_ hfunction
      intro hframes
      exact List.cons_ne_self _ _ hframes.symm
    · exact hnested.eq_nil_or_module hnone

/-- A function whose open block is a dataflow block. -/
theorem block_openings_agree_iff_in_dataflow :
    let w := (Workspace.new {} ⟨0⟩).after
      [.action .openModule, .action .openFunction, .action (.openBlock .dataflow)]
    w.builder.failed = false ∧ w.builder.frames.any Frame.isFunction = true ∧
      openBlock .ordinary w = pushBlock .ordinary w :=
  ⟨rfl, rfl, (block_openings_agree_iff {} BlockWriter.ofConfig ⟨0⟩
    [.action .openModule, .action .openFunction, .action (.openBlock .dataflow)] .ordinary rfl).2.2.2.1 rfl⟩

/-- With nothing open, the push that is refused leaves its block behind, to be seen and dropped. -/
theorem refused_push_leaves_block :
    let w := Workspace.new {} ⟨0⟩
    let opened := final (openBlock .ordinary) w
    let pushed := final (pushBlock .ordinary) w
    w.builder.failed = false ∧ opened.builder.failed = true ∧ pushed.builder.failed = true ∧
      opened.builder.frameKinds = [] ∧ pushed.builder.frameKinds = [.block] ∧
      (∃ w', abort opened = .ok 0 w') ∧ ∃ w', abort pushed = .ok 1 w' :=
  ⟨rfl, rfl, rfl, rfl, rfl, ⟨_, rfl⟩, _, rfl⟩

end ScopedBuilder
