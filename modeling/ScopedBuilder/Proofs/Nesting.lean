import ScopedBuilder.Proofs.Run

/-!
# How scopes nest

Modules are never within each other, and blocks are always within a function, whatever the emitter. So a
module that is not the outermost scope is inside a function, and closing it fills the result although that
function is still open.
-/

namespace ScopedBuilder

variable {σ : Type}

namespace Frames

/-! ## The relation between a frame and those below it -/

/-- Each frame may stand where it does. -/
inductive Nested : Frames σ → Prop where
  | nil : Nested []
  | module (m : ModuleDraft) {below : Frames σ} : below.any Frame.isModule = false → Nested below →
      Nested (.module m :: below)
  | function (f : FuncDraft σ) {below : Frames σ} : Nested below → Nested (.function f :: below)
  | block (kind : BlockKind) {below : Frames σ} : below.any Frame.isFunction = true → Nested below →
      Nested (.block kind :: below)

theorem any_isModule_eq (frames : Frames σ) :
    frames.any Frame.isModule = (frames.map Frame.kind).any (· = .module) := by
  induction frames with
  | nil => rfl
  | cons x below ih => cases x <;> simp [Frame.isModule, Frame.kind, ih]

theorem any_isFunction_eq (frames : Frames σ) :
    frames.any Frame.isFunction = (frames.map Frame.kind).any (· = .function) := by
  induction frames with
  | nil => rfl
  | cons x below ih => cases x <;> simp [Frame.isFunction, Frame.kind, ih]

namespace Nested

variable {frames frames' below : Frames σ}

theorem tail {x : Frame σ} (h : Nested (x :: below)) : Nested below := by
  cases h <;> assumption

/-- Only the kinds of the frames matter. -/
theorem of_kinds (h : frames.Nested) (hkinds : frames'.map Frame.kind = frames.map Frame.kind) :
    frames'.Nested := by
  induction h generalizing frames' with
  | nil =>
      rw [List.map_nil, List.map_eq_nil_iff] at hkinds
      exact hkinds ▸ .nil
  | module m hmodule _ ih =>
      obtain ⟨x, below', rfl, hx, hbelow⟩ := List.map_eq_cons_iff.mp hkinds
      rw [any_isModule_eq, ← hbelow, ← any_isModule_eq] at hmodule
      cases x with
      | module m' => exact .module m' hmodule (ih hbelow)
      | function | block => cases hx
  | function f _ ih =>
      obtain ⟨x, below', rfl, hx, hbelow⟩ := List.map_eq_cons_iff.mp hkinds
      cases x with
      | function f' => exact .function f' (ih hbelow)
      | module | block => cases hx
  | block kind hfunction _ ih =>
      obtain ⟨x, below', rfl, hx, hbelow⟩ := List.map_eq_cons_iff.mp hkinds
      rw [any_isFunction_eq, ← hbelow, ← any_isFunction_eq] at hfunction
      cases x with
      | block kind' => exact .block kind' hfunction (ih hbelow)
      | module | function => cases hx

/-- Work on a function leaves the nesting as it is. -/
theorem replace_split {above : Frames σ} {f f' : FuncDraft σ} (h : frames.Nested)
    (hsplit : splitFunction? frames = some (above, f, below)) :
    Nested (above ++ .function f' :: below) := by
  obtain ⟨rfl, -⟩ := splitFunction?_eq_some_iff.mp hsplit
  exact h.of_kinds (by simp [Frame.kind])

theorem replaceBlock (h : frames.Nested) (kind : BlockKind) : (frames.replaceBlock kind).Nested :=
  h.of_kinds (map_kind_replaceBlock kind frames)

/-- Outside of every module the outermost scope is a function. -/
theorem any_isFunction_iff (h : frames.Nested) (hmodule : frames.any Frame.isModule = false) :
    frames.any Frame.isFunction = true ↔ frames ≠ [] := by
  cases h with
  | nil => simp
  | module => cases hmodule
  | function => simp [Frame.isFunction]
  | block _ hfunction _ => simpa [Frame.isFunction] using hfunction

end Nested

end Frames

/-! ## Nesting is kept -/

variable [Emitter σ] {w w' : Workspace σ} {a : Action} {reply : Reply}

theorem Closing.nested (h : Closing w w') (hnested : w.builder.frames.Nested) :
    w'.builder.frames.Nested := by
  cases h with
  | block hframes hsplit _ _ =>
      rw [hframes] at hnested
      exact hnested.tail.replace_split hsplit
  | function => exact .nil
  | definition hframes _ _ _ =>
      rw [hframes] at hnested
      exact hnested.tail.tail.of_kinds rfl
  | module hframes _ _ =>
      rw [hframes] at hnested
      exact hnested.tail

theorem Change.nested (h : Change w a reply w') (hnested : w.builder.frames.Nested) :
    w'.builder.frames.Nested := by
  cases h with
  | openModule hmodule => exact .module _ hmodule hnested
  | openFunction => exact .block _ rfl (.function _ hnested)
  | openBlock _ hsplit _ => exact .block _ (by simp [Frame.isFunction]) (hnested.replace_split hsplit)
  | close _ _ hclosing => exact hclosing.nested hnested
  | abort =>
      split
      · exact hnested
      · exact .nil
  | editModule _ hframes _ | editFunction _ hframes _ =>
      rw [hframes] at hnested
      exact hnested.of_kinds rfl
  | emit _ hsplit _ => exact hnested.replace_split hsplit
  | takeResult => split <;> exact hnested
  | setResult | setRenamers | registerRenamer | rename => exact hnested

theorem Workspace.Quiet.nested {e : Event} (h : Quiet w e w') (hnested : w.builder.frames.Nested) :
    w'.builder.frames.Nested := by
  cases h with
  | change _ hchange => exact hchange.nested hnested
  | replaced kind => exact hnested.replaceBlock kind
  | drawn | refused => exact hnested

/-- In every session that has not failed the frames on the stack have their shape and nest. -/
theorem Workspace.nested_after (config : Config) (newEmitter : Config → σ) (supply : VarSupply)
    (events : List Event) :
    let w := (⟨.new config newEmitter, supply⟩ : Workspace σ).after events
    w.builder.failed = false → w.builder.frames.Shaped ∧ w.builder.frames.Nested := by
  intro w hfailed
  refine holds_after (fun _ w => w.builder.frames.Nested) ?_ .nil .nil events hfailed
  intro _ w e w' _ _ _ hnested hquiet
  exact hquiet.nested hnested

/-! ## Which scopes fill the result -/

/-- Nothing but a close fills the result, unless it is set. -/
theorem Change.fills (h : Change w a reply w') (hnone : w.builder.result = none)
    (hsome : w'.builder.result.isSome = true) :
    (∃ artifact, a = .setResult artifact) ∨
      ∃ scope, w.builder.frames.innermostScope? = some scope ∧ a.closes scope = true ∧
        Closing w w' := by
  cases h with
  | setResult artifact => exact .inl ⟨artifact, rfl⟩
  | close hcloses hscope hclosing => exact .inr ⟨_, hscope, hcloses, hclosing⟩
  | abort => split at hsome <;> simp [hnone] at hsome
  | takeResult => split at hsome <;> simp [hnone] at hsome
  | _ => cases hsome.symm.trans (congrArg Option.isSome hnone)

/-- A close that fills the result closes the outermost scope, or a module inside a function. -/
theorem Closing.frames_eq_nil_iff (h : Closing w w') (hnested : w.builder.frames.Nested)
    (hnone : w.builder.result = none) (hsome : w'.builder.result.isSome = true) :
    w'.builder.frames = [] ↔
      ¬ ∃ m below, w.builder.frames = .module m :: below ∧ below.any Frame.isFunction = true := by
  cases h with
  | block | definition => simp [hnone] at hsome
  | function hframes _ _ _ => simp [hframes]
  | @module m _ below hframes _ _ =>
      rw [hframes] at hnested ⊢
      cases hnested with
      | module _ hmodule hbelow =>
          have hfunction := hbelow.any_isFunction_iff hmodule
          constructor
          · rintro hnil ⟨_, _, heq, hopen⟩
            cases heq
            exact hfunction.mp hopen hnil
          · intro hnot
            refine Classical.byContradiction fun hne => ?_
            exact hnot ⟨m, below, rfl, hfunction.mpr hne⟩

/-- An operation fills the empty result of a session that has not failed only by setting it, or by closing
a scope. The stack is then empty exactly if that scope was not a module inside a function: the close of
such a module fills the result as well, and the function stays open. -/
theorem filled_by_outermost_iff (config : Config) (newEmitter : Config → σ) (supply : VarSupply)
    (events : List Event) (a : Action) (reply : Reply) (w' : Workspace σ) :
    let w := (⟨.new config newEmitter, supply⟩ : Workspace σ).after events
    w.builder.failed = false → a.run w = .ok reply w' →
    w.builder.result = none → w'.builder.result.isSome = true →
      (∃ artifact, a = .setResult artifact) ∨
      ((∃ scope, w.builder.frames.innermostScope? = some scope ∧ a.closes scope = true) ∧
        (w'.builder.frames = [] ↔
          ¬ ∃ m below, w.builder.frames = .module m :: below ∧
            below.any Frame.isFunction = true)) := by
  intro w hfailed hrun hnone hsome
  obtain ⟨hshape, hnested⟩ := Workspace.nested_after config newEmitter supply events hfailed
  rcases (Change.of_run hshape hrun).fills hnone hsome with hset | ⟨scope, hscope, hcloses, hclosing⟩
  · exact .inl hset
  · exact .inr ⟨⟨scope, hscope, hcloses⟩, hclosing.frames_eq_nil_iff hnested hnone hsome⟩

/-- An outermost module. -/
theorem filled_by_outermost_iff_module :
    let w := (Workspace.new {} ⟨0⟩).after [.action .openModule]
    ∃ w', Action.closeScope.run w = .ok .done w' ∧ w'.builder.frames = [] ∧
      ∃ module, w'.builder.result = some (.module module) := by
  refine ⟨_, rfl, ?_, _, rfl⟩
  have h := filled_by_outermost_iff {} BlockWriter.ofConfig ⟨0⟩ [.action .openModule] .closeScope .done _
    rfl rfl rfl rfl
  obtain ⟨_, hset⟩ | ⟨-, hempty⟩ := h
  · cases hset
  · refine hempty.mpr ?_
    rintro ⟨m, below, hframes, hopen⟩
    cases hframes
    cases hopen

/-- The close of a module inside a function fills the result before the outermost scope is closed. -/
theorem module_in_function_fills_result :
    let w := (Workspace.new {} ⟨0⟩).after [.action .openFunction, .action .openModule]
    w.builder.failed = false ∧ w.builder.result = none ∧
      ∃ w', Builder.closeScope w = .ok () w' ∧ w'.builder.failed = false ∧
        w'.builder.result.isSome = true ∧ w'.builder.frameKinds = [.function, .block] :=
  ⟨rfl, rfl, _, rfl, rfl, rfl, rfl⟩

end ScopedBuilder
