import ScopedBuilder.Proofs.Nesting

/-!
# The shape of the stack

Shape and nesting are relations between a frame and the frames next to it. Read at every frame of a stack
they say where functions, blocks and modules can stand. This holds for every emitter.
-/

namespace ScopedBuilder

variable {σ : Type}

namespace Frames

variable {frames above below : Frames σ}

namespace Nested

theorem of_append (h : Nested (above ++ below)) : Nested below := by
  induction above with
  | nil => exact h
  | cons x above ih => exact ih h.tail

/-- There is one module at most. -/
theorem countP_isModule_le_one (h : frames.Nested) : frames.countP Frame.isModule ≤ 1 := by
  induction h with
  | nil => exact Nat.zero_le 1
  | @module m below hmodule _ _ =>
      have hnone : below.countP Frame.isModule = 0 := by
        simpa [List.countP_eq_zero] using hmodule
      simp [List.countP_cons, hnone, Frame.isModule]
  | function f _ ih | block kind _ _ ih => simpa [Frame.isModule] using ih

/-- A block is never the outermost frame. -/
theorem getLast?_isModule_or_isFunction (h : frames.Nested) :
    ∀ x ∈ frames.getLast?, x.isModule = true ∨ x.isFunction = true := by
  intro x hx
  obtain ⟨above, rfl⟩ := List.getLast?_eq_some_iff.mp hx
  have hbottom : Nested [x] := h.of_append
  cases x with
  | module m => exact .inl rfl
  | function f => exact .inr rfl
  | block kind =>
      cases hbottom with
      | block _ hfunction _ => cases hfunction

theorem any_isFunction_below {kind : BlockKind} (h : frames.Nested)
    (hframes : frames = above ++ .block kind :: below) : below.any Frame.isFunction = true := by
  rw [hframes] at h
  cases h.of_append with
  | block _ hfunction _ => exact hfunction

/-- A module stands at the bottom or on a block: on a function there would have to be a block, and a second
module cannot be open. -/
theorem eq_nil_or_topBlock?_isSome {m : ModuleDraft} (h : frames.Nested) (hshape : frames.Shaped)
    (hframes : frames = above ++ .module m :: below) :
    below = [] ∨ below.topBlock?.isSome = true := by
  rw [hframes] at h
  cases h.of_append with
  | module _ hmodule _ =>
      rcases below with _ | ⟨_ | f | kind, below⟩
      · exact .inl rfl
      · cases hmodule
      · have hfunction : frames = (above ++ [.module m]) ++ .function f :: below := by
          simpa using hframes
        obtain ⟨rest, _, hrest, -⟩ := hshape.exists_block_above hfunction
        have hlast := (List.append_inj' hrest rfl).2
        cases hlast
      · exact .inr rfl

end Nested

end Frames

open Frames

section Runs

variable [Emitter σ]

/-- Along a run, a default block is an ordinary one, or of a kind that a client has written. -/
theorem Workspace.shapedBy_after (config : Config) (newEmitter : Config → σ) (supply : VarSupply)
    (events : List Event) :
    let w := (⟨.new config newEmitter, supply⟩ : Workspace σ).after events
    w.builder.failed = false →
      w.builder.frames.ShapedBy fun kind => kind = .ordinary ∨ .replaced kind ∈ events := by
  intro w hfailed
  refine holds_after_of_forall (·.event ∈ events)
    (fun _ w => w.builder.frames.ShapedBy fun kind => kind = .ordinary ∨ .replaced kind ∈ events)
    ?_ .nil .nil (forall_mem_steps (fun _ => id) _) hfailed
  intro _ w e w' _ _ hmem hshape hquiet
  exact hquiet.shapedBy (.inl rfl) (fun _ he => .inr (he ▸ hmem)) hshape

/-- In every session that has not failed, with whatever emitter: each function has an ordinary block, its
default block, directly above it, so that no function is on top of the stack; at most one module is open;
the outermost frame is a module or a function; below each block there is a function; and a module that is
not the outermost frame stands directly on a block. The operations of the builder never put another kind of
block on a function; only a client can, by writing one into the default block itself. -/
theorem stack_shape (config : Config) (newEmitter : Config → σ) (supply : VarSupply)
    (events : List Event) :
    let w := (⟨.new config newEmitter, supply⟩ : Workspace σ).after events
    w.builder.failed = false →
      (∀ above f below, w.builder.frames = above ++ .function f :: below →
        ∃ rest kind, above = rest ++ [.block kind] ∧
          (kind = .ordinary ∨ .replaced kind ∈ events)) ∧
      (∀ x ∈ w.builder.frames.head?, x.isFunction = false) ∧
      w.builder.frames.countP Frame.isModule ≤ 1 ∧
      (∀ x ∈ w.builder.frames.getLast?, x.isModule = true ∨ x.isFunction = true) ∧
      (∀ above kind below, w.builder.frames = above ++ .block kind :: below →
        below.any Frame.isFunction = true) ∧
      (∀ above m below, w.builder.frames = above ++ .module m :: below →
        below = [] ∨ (topBlock? below).isSome = true) := by
  intro w hfailed
  obtain ⟨hshape, hnested⟩ := Workspace.nested_after config newEmitter supply events hfailed
  have hdefaults := Workspace.shapedBy_after config newEmitter supply events hfailed
  refine ⟨?_, hshape.head?_isFunction, hnested.countP_isModule_le_one,
    hnested.getLast?_isModule_or_isFunction, ?_, ?_⟩
  · intro above f below hframes
    exact hdefaults.exists_block_above hframes
  · intro above kind below hframes
    exact hnested.any_isFunction_below hframes
  · intro above m below hframes
    exact hnested.eq_nil_or_topBlock?_isSome hshape hframes

end Runs

/-- A function in a module that was opened in a dataflow block. -/
theorem stack_shape_of_module_in_function :
    let w := (Workspace.new {} ⟨0⟩).after
      [.action .openFunction, .action (.pushBlock .dataflow), .action .openModule,
        .action .openFunction]
    w.builder.failed = false ∧
      w.builder.frameKinds = [.function, .block, .block, .module, .function, .block] ∧
      ∀ above f below, w.builder.frames = above ++ .function f :: below →
        ∃ rest, above = rest ++ [.block .ordinary] := by
  refine ⟨rfl, rfl, fun above f below hframes => ?_⟩
  obtain ⟨rest, kind, habove, rfl | hwritten⟩ :=
    (stack_shape {} BlockWriter.ofConfig ⟨0⟩ _ rfl).1 above f below hframes
  · exact ⟨rest, habove⟩
  · simp at hwritten

end ScopedBuilder
