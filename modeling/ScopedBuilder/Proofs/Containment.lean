import ScopedBuilder.Proofs.Aftermath
import ScopedBuilder.Proofs.Nesting
import ScopedBuilder.Proofs.Refusal

/-!
# What a failed operation leaves

An operation of a session with the standard emitter that fails ends the session and changes nothing else,
except that a close whose scope could not be assembled has dropped the frames of that scope. Blocks are
opened and closed without failing half-way, since the emitter is in step with the stack.
-/

namespace ScopedBuilder

open Frames BuildM

variable {config : Config} {w w' : Workspace BlockWriter} {op : Operation} {e : BuildError}

/-! ## Bindings and closes -/

namespace Workspace.Sound

variable (h : w.Sound config)

include h

/-- An expression is refused only where there is no function. -/
theorem emit_error {expr : Expr}
    (hemit : onNearestFunction .emit (FuncDraft.emit expr) w = .error e w') : w' = w := by
  rcases onNearestFunction_eq_error.mp hemit with
    ⟨-, -, rfl⟩ | ⟨above, f, below, f', supply, hsplit, hrefused, -⟩
  · rfl
  · obtain ⟨-, held, g, -, -, hemit⟩ := h.inStep.emit_eq_ok h.shaped hsplit expr
    cases hrefused.symm.trans hemit

/-- A scope that could not be assembled is off the stack, and the frames below it are as they were. -/
theorem exitScope_error (hnested : w.builder.frames.Nested) {scope : Scope}
    (hscope : w.builder.frames.innermostScope? = some scope)
    (hexit : exitScope op scope.kind w = .error e w') :
    w' = w.withFrames (w.builder.frames.rtake scope.depth) := by
  have hshape := h.shaped
  have hin := h.inStep
  generalize hframes : w.builder.frames = frames at hnested hshape hscope
  have hrest (above below : Frames BlockWriter) : (above ++ below).rtake below.length = below := by
    simp [List.rtake]
  cases hshape with
  | nil => cases hscope
  | @module m below _ =>
      obtain rfl := Option.some.inj hscope
      obtain ⟨rfl, -⟩ := (exitTop_module_eq_error hframes).mp hexit
      exact congrArg w.withFrames (hrest [.module m] below).symm
  | @block kind below hbelow =>
      rw [hbelow.innermostScope?_block] at hscope
      obtain rfl := Option.some.inj hscope
      cases hnested with
      | block _ hfunction _ =>
          cases hsplit : splitFunction? below with
          | none => simp [splitFunction?_eq_none_iff.mp hsplit] at hfunction
          | some split => exact absurd hexit (exitTop_block_ne_error hframes hin hsplit)
  | @function kind _ f below _ =>
      obtain rfl := Option.some.inj hscope
      rw [exitScope, bind_eq_error] at hexit
      rcases hexit with hexit | ⟨_, w₁, hfirst, hexit⟩
      · exact absurd hexit (exitTop_block_ne_error hframes hin (splitFunction?_function f below))
      · obtain ⟨above, g, below', g', hsplit, -, rfl⟩ := (exitTop_block hframes).mp hfirst
        cases hsplit
        obtain ⟨rfl, -⟩ := leaveFunction_eq_error.mp ((exitTop_function_eq_error rfl).mp hexit)
        exact congrArg w.withFrames (hrest [.block kind, .function f] below).symm

end Workspace.Sound

/-! ## Operations -/

namespace Action

variable {a : Action}

theorem error_of_closes (h : w.Sound config) (hnested : w.builder.frames.Nested)
    (hfailed : w.builder.failed = false) {scope : Scope}
    (hscope : w.builder.frames.innermostScope? = some scope) (hcloses : a.closes scope = true)
    (hrun : a.run w = .error e w') :
    w' = (w.withFrames (w.builder.frames.rtake scope.depth)).markFailed := by
  obtain ⟨op, hok, herror⟩ := run_closes hcloses hfailed hscope
  cases hexit : exitScope op scope.kind w with
  | ok _ w₁ => cases hrun.symm.trans (hok w₁ hexit)
  | error cause w₁ =>
      cases hrun.symm.trans (herror cause w₁ hexit)
      rw [h.exitScope_error hnested hscope hexit]

/-- Only a push and a close have an effect when they fail. -/
theorem error_of_not_closes (h : w.Sound config) (hfailed : w.builder.failed = false)
    (hguard : a.guard? = some op) (hpush : ∀ kind, a ≠ .pushBlock kind)
    (hopen : ∀ scope, w.builder.frames.innermostScope? = some scope → a.closes scope = false)
    (hrun : a.run w = .error e w') : w' = w.markFailed := by
  obtain ⟨w₁, hmishap, rfl⟩ := Mishap.of_guard hguard hfailed hrun
  suffices hclean : w₁ = w by rw [hclean]
  cases hmishap with
  | clean => rfl
  | @block kind _ _ hpushed henter =>
      cases hsplit : splitFunction? w.builder.frames with
      | none => exact absurd (hpushed hsplit) (hpush kind)
      | some split => exact absurd henter (enter_block_ne_error h.shaped h.inStep hsplit)
  | emit _ hemit => exact h.emit_error hemit
  | close hscope hcloses _ => simp [hopen _ hscope] at hcloses

end Action

/-- An operation that fails in a session with the standard emitter ends the session, and changes nothing
else: neither the result, the configuration and the renamers, nor the identities that are left, nor any
frame. Only a close that ended the innermost scope and could not assemble it has dropped the frames of
that scope; those below are as they were. -/
theorem error_contained (config : Config) (supply : VarSupply) (events : List Event) (a : Action)
    (op : Operation) (e : BuildError) (w' : Workspace BlockWriter) :
    let w := (Workspace.new config supply).after events
    w.builder.failed = false → a.guard? = some op → (∀ kind, a ≠ .pushBlock kind) →
    a.run w = .error e w' →
      ∃ frames, w' = (w.withFrames frames).markFailed ∧
        (∀ scope, w.builder.frames.innermostScope? = some scope → a.closes scope = true →
          frames = w.builder.frames.rtake scope.depth) ∧
        ((∀ scope, w.builder.frames.innermostScope? = some scope → a.closes scope = false) →
          frames = w.builder.frames) := by
  intro w hfailed hguard hpush hrun
  have hsound : w.Sound config := Workspace.sound_after config supply hfailed
  obtain ⟨-, hnested⟩ := Workspace.nested_after config BlockWriter.ofConfig supply events hfailed
  by_cases hopen : ∀ scope, w.builder.frames.innermostScope? = some scope → a.closes scope = false
  · refine ⟨w.builder.frames, ?_, ?_, fun _ => rfl⟩
    · exact Action.error_of_not_closes hsound hfailed hguard hpush hopen hrun
    · intro scope hscope hcloses
      simp [hopen scope hscope] at hcloses
  · simp only [not_forall, Bool.not_eq_false] at hopen
    obtain ⟨scope, hscope, hcloses⟩ := hopen
    refine ⟨w.builder.frames.rtake scope.depth, ?_, ?_, ?_⟩
    · exact Action.error_of_closes hsound hnested hfailed hscope hcloses hrun
    · intro scope' hscope' _
      cases hscope.symm.trans hscope'
      rfl
    · intro hclosed
      simp [hclosed scope hscope] at hcloses

/-- A function without outputs cannot be closed; the module below it stays. -/
theorem error_contained_in_module :
    let w := (Workspace.new {} ⟨0⟩).after [.action .openModule, .action .openFunction]
    ∃ e w', Action.closeScope.run w = .error e w' ∧
      w' = (w.withFrames (w.builder.frames.rtake 1)).markFailed ∧ w'.builder.depth = 1 := by
  intro w
  obtain ⟨frames, hframes, hclosed, -⟩ := error_contained {} ⟨0⟩
    [.action .openModule, .action .openFunction] .closeScope .closeScope _ _ rfl rfl nofun rfl
  rw [hclosed ⟨1, .function⟩ rfl rfl] at hframes
  exact ⟨_, _, rfl, hframes, rfl⟩

end ScopedBuilder
