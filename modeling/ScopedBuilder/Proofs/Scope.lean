import ScopedBuilder.Builder.Scoped
import ScopedBuilder.Proofs.Outcome
import ScopedBuilder.Proofs.Stack

/-!
# Opening and closing scopes

When a scope can be opened or closed, and what that leaves of the stack, the functions and the result.
-/

namespace ScopedBuilder

variable {σ : Type} [Emitter σ] {w w' : Workspace σ} {op : Operation}

/-! ## Blocks of a function -/

namespace FuncDraft

variable {f f' : FuncDraft σ} {kind enclosing : BlockKind}

theorem enterBlock_some_eq_ok :
    enterBlock kind (some enclosing) f = .ok () f' ↔
      ∃ f₁, endBlock f = .ok () f₁ ∧ f' = f₁.beginBlock kind := by
  simp only [enterBlock, Option.isSome_some, if_true, bind_eq_ok, modify_eq_ok]
  constructor
  · rintro ⟨_, f₁, hend, hf'⟩
    exact ⟨f₁, hend, hf'⟩
  · rintro ⟨f₁, hend, hf'⟩
    exact ⟨(), f₁, hend, hf'⟩

/-- The block around goes on like one that is entered. -/
theorem leaveBlock_some_eq (kind enclosing : BlockKind) :
    leaveBlock (some kind) f = enterBlock kind (some enclosing) f := rfl

theorem leaveBlock_none_eq : leaveBlock none f = endBlock f := by
  simp only [leaveBlock, bind_pure_unit]

end FuncDraft

/-! ## Blocks of the innermost function -/

namespace BuildM

section Arrange

omit [Emitter σ]

variable {kind : BlockKind} {act : EStateM BuildError (FuncDraft σ) Unit}

@[simp] theorem arrangeBlocks_eq_ok {u : Unit} :
    arrangeBlocks kind act w = .ok u w' ↔
      ∃ above f below f',
        w.builder.frames.splitFunction? = some (above, f, below) ∧ act f = .ok () f' ∧
        w' = w.withFrames (above ++ .function f' :: below) := by
  unfold arrangeBlocks onNearestFunction
  cases hsplit : w.builder.frames.splitFunction? with
  | none => simp
  | some split =>
      obtain ⟨above, f, below⟩ := split
      dsimp only
      rcases hact : act f with ⟨_, f'⟩ | ⟨cause, f'⟩
      · constructor
        · intro h
          cases h
          exact ⟨above, f, below, f', rfl, hact, rfl⟩
        · rintro ⟨_, _, _, _, hsome, hok, rfl⟩
          cases hsome
          cases hact.symm.trans hok
          rfl
      · simp [hact]

@[simp] theorem arrangeBlocks_eq_error {e : BuildError} :
    arrangeBlocks kind act w = .error e w' ↔
      (w.builder.frames.splitFunction? = none ∧ e = .notInFunction (.arrangeBlock kind) ∧
          w' = w) ∨
        ∃ above f below f',
          w.builder.frames.splitFunction? = some (above, f, below) ∧ act f = .error e f' ∧
          w' = w.withFrames (above ++ .function f' :: below) := by
  unfold arrangeBlocks onNearestFunction
  cases hsplit : w.builder.frames.splitFunction? with
  | none => simp [eq_comm]
  | some split =>
      obtain ⟨above, f, below⟩ := split
      dsimp only
      rcases hact : act f with ⟨_, f'⟩ | ⟨cause, f'⟩
      · simp [hact]
      · constructor
        · intro h
          cases h
          exact .inr ⟨above, f, below, f', rfl, hact, rfl⟩
        · rintro (⟨hnone, -⟩ | ⟨_, _, _, _, hsome, herror, rfl⟩)
          · cases hnone
          · cases hsome
            cases hact.symm.trans herror
            rfl

end Arrange

/-- A block is pushed above the functions, and the innermost one enters it. -/
theorem enterBlock_eq_ok {kind : BlockKind} {u : Unit} :
    enterBlock kind w = .ok u w' ↔
      ∃ above f below f',
        w.builder.frames.splitFunction? = some (above, f, below) ∧
        FuncDraft.enterBlock kind w.builder.frames.topBlock? f = .ok () f' ∧
        w' = w.withFrames (.block kind :: (above ++ .function f' :: below)) := by
  simp only [enterBlock, getBuilder_bind, setFrames_bind, arrangeBlocks_eq_ok,
    Workspace.withFrames_frames, Frames.splitFunction?_block, Option.map_eq_some_iff, Prod.exists,
    Prod.mk.injEq]
  constructor
  · rintro ⟨_, _, _, f', ⟨above, f, below, hsplit, rfl, rfl, rfl⟩, henter, rfl⟩
    exact ⟨above, f, below, f', hsplit, henter, rfl⟩
  · rintro ⟨above, f, below, f', hsplit, henter, rfl⟩
    exact ⟨_, _, _, f', ⟨above, f, below, hsplit, rfl, rfl, rfl⟩, henter, rfl⟩

theorem enterBlock_eq_error {kind : BlockKind} {e : BuildError} :
    enterBlock kind w = .error e w' ↔
      (w.builder.frames.splitFunction? = none ∧ e = .notInFunction (.arrangeBlock kind) ∧
          w' = w.withFrames (.block kind :: w.builder.frames)) ∨
        ∃ above f below f',
          w.builder.frames.splitFunction? = some (above, f, below) ∧
          FuncDraft.enterBlock kind w.builder.frames.topBlock? f = .error e f' ∧
          w' = w.withFrames (.block kind :: (above ++ .function f' :: below)) := by
  simp only [enterBlock, getBuilder_bind, setFrames_bind, arrangeBlocks_eq_error,
    Workspace.withFrames_frames, Frames.splitFunction?_block, Option.map_eq_some_iff,
    Option.map_eq_none_iff, Prod.exists, Prod.mk.injEq]
  refine or_congr_right ?_
  constructor
  · rintro ⟨_, _, _, f', ⟨above, f, below, hsplit, rfl, rfl, rfl⟩, henter, rfl⟩
    exact ⟨above, f, below, f', hsplit, henter, rfl⟩
  · rintro ⟨above, f, below, f', hsplit, henter, rfl⟩
    exact ⟨_, _, _, f', ⟨above, f, below, hsplit, rfl, rfl, rfl⟩, henter, rfl⟩

/-! ## Entering a frame -/

theorem enter_module (m : ModuleDraft) :
    enter (.module m) w =
      .ok ⟨w.builder.depth, .module⟩ (w.withFrames (.module m :: w.builder.frames)) := rfl

/-- A function is entered together with its default block. -/
theorem enter_function (f : FuncDraft σ) :
    enter (.function f) w =
      .ok ⟨w.builder.depth, .function⟩ (w.withFrames
        (.block .ordinary :: .function (f.beginBlock .ordinary) :: w.builder.frames)) := rfl

theorem enter_block_eq_ok {kind : BlockKind} {handle : Scope} :
    enter (.block kind) w = .ok handle w' ↔
      handle = ⟨w.builder.depth, .block⟩ ∧ ∃ above f below f',
        w.builder.frames.splitFunction? = some (above, f, below) ∧
        FuncDraft.enterBlock kind w.builder.frames.topBlock? f = .ok () f' ∧
        w' = w.withFrames (.block kind :: (above ++ .function f' :: below)) := by
  simp only [enter, getBuilder_bind, bind_eq_ok, pure_eq_ok]
  constructor
  · rintro ⟨_, _, henter, rfl, rfl⟩
    exact ⟨rfl, enterBlock_eq_ok.mp henter⟩
  · rintro ⟨rfl, henter⟩
    exact ⟨(), w', enterBlock_eq_ok.mpr henter, rfl, rfl⟩

theorem enter_block_eq_error {kind : BlockKind} {e : BuildError} :
    enter (.block kind) w = .error e w' ↔ enterBlock kind w = .error e w' := by
  simp only [enter, getBuilder_bind, bind_eq_error, pure_eq_error, and_false, exists_false, or_false]

/-! ## Leaving the frame on top -/

theorem exitTop_module {m : ModuleDraft} {below : Frames σ}
    (h : w.builder.frames = .module m :: below) :
    exitTop op w = .ok () w' ↔
      ∃ module, m.assemble = .ok module ∧ w.builder.result = none ∧
        w' = (w.withFrames below).withResult (some (.module module)) := by
  simp [exitTop, h, leaveModule, and_assoc]

theorem exitTop_block {kind : BlockKind} {rest : Frames σ}
    (h : w.builder.frames = .block kind :: rest) :
    exitTop op w = .ok () w' ↔
      ∃ above f below f', rest.splitFunction? = some (above, f, below) ∧
        FuncDraft.leaveBlock rest.topBlock? f = .ok () f' ∧
        w' = w.withFrames (above ++ .function f' :: below) := by
  simp [exitTop, h, leaveBlock]

/-- A popped function goes to the module directly below, or is the result if nothing is below. -/
theorem exitTop_function {f : FuncDraft σ} {below : Frames σ}
    (h : w.builder.frames = .function f :: below) :
    exitTop op w = .ok () w' ↔
      ∃ func, f.assemble w.builder.config = .ok func ∧
        ((below = [] ∧ w.builder.result = none ∧
            w' = (w.withFrames []).withResult (some (.function func))) ∨
          ∃ m m' rest, below = .module m :: rest ∧
            m.define f.nameOrEmpty func .finishFunction = .ok m' ∧
            w' = w.withFrames (.module m' :: rest)) := by
  simp only [exitTop, h, leaveFunction, getBuilder_bind, setFrames_bind, bind_eq_ok, lift_eq_ok,
    Workspace.withFrames_frames, Workspace.withFrames_config, and_assoc, exists_and_left,
    exists_eq_left]
  refine exists_congr fun func => and_congr_right fun _ => ?_
  cases below with
  | nil => simp
  | cons x rest =>
      cases x with
      | module m => simp [Frame.isModule, and_assoc]
      | function g => by_cases hm : rest.any Frame.isModule <;> simp [Frame.isModule, hm]
      | block k => by_cases hm : rest.any Frame.isModule <;> simp [Frame.isModule, hm]

theorem exitTop_module_eq_error {m : ModuleDraft} {below : Frames σ} {e : BuildError}
    (h : w.builder.frames = .module m :: below) :
    exitTop op w = .error e w' ↔
      w' = w.withFrames below ∧
        (m.assemble = .error e ∨
          ((∃ module, m.assemble = .ok module) ∧ w.builder.result.isSome ∧
            e = .resultAlreadySet .finishModule)) := by
  simp only [exitTop, h, leaveModule, getBuilder_bind, setFrames_bind, bind_eq_error, lift_eq_error,
    lift_eq_ok, fillResult_eq_error]
  constructor
  · rintro (⟨herror, rfl⟩ | ⟨module, _, ⟨hok, rfl⟩, hresult, rfl, rfl⟩)
    · exact ⟨rfl, .inl herror⟩
    · exact ⟨rfl, .inr ⟨⟨module, hok⟩, hresult, rfl⟩⟩
  · rintro ⟨rfl, herror | ⟨⟨module, hok⟩, hresult, rfl⟩⟩
    · exact .inl ⟨herror, rfl⟩
    · exact .inr ⟨module, _, ⟨hok, rfl⟩, hresult, rfl, rfl⟩

theorem exitTop_block_eq_error {kind : BlockKind} {rest : Frames σ} {e : BuildError}
    (h : w.builder.frames = .block kind :: rest) :
    exitTop op w = .error e w' ↔
      (rest.splitFunction? = none ∧ e = .notInFunction (.arrangeBlock kind) ∧
          w' = w.withFrames rest) ∨
        ∃ above f below f', rest.splitFunction? = some (above, f, below) ∧
          FuncDraft.leaveBlock rest.topBlock? f = .error e f' ∧
          w' = w.withFrames (above ++ .function f' :: below) := by
  simp only [exitTop, h, leaveBlock, getBuilder_bind, setFrames_bind, arrangeBlocks_eq_error,
    Workspace.withFrames_frames, Workspace.withFrames_withFrames]

/-- A function is refused if it is not finished, or if nothing can take it in. -/
theorem leaveFunction_eq_error {f : FuncDraft σ} {e : BuildError} :
    leaveFunction f w = .error e w' ↔
      w' = w ∧
        (f.assemble w.builder.config = .error e ∨
          ∃ func, f.assemble w.builder.config = .ok func ∧
            ((w.builder.frames = [] ∧ w.builder.result.isSome ∧
                e = .resultAlreadySet .finishFunction) ∨
              (w.builder.frames ≠ [] ∧ w.builder.frames.any Frame.isModule = false ∧
                e = .noInsertionTarget f.nameOrEmpty) ∨
              (w.builder.frames.any Frame.isModule = true ∧
                w.builder.frames.moduleScope? = none ∧
                e = .notImmediatelyInModule .finishFunction) ∨
              ∃ m below, w.builder.frames = .module m :: below ∧
                m.define f.nameOrEmpty func .finishFunction = .error e)) := by
  rw [leaveFunction, getBuilder_bind]
  cases f.assemble w.builder.config with
  | error cause =>
      rw [lift_error_bind]
      constructor
      · intro h
        cases h
        exact ⟨rfl, .inl rfl⟩
      · rintro ⟨rfl, h | ⟨_, h, -⟩⟩
        · cases h
          rfl
        · cases h
  | ok func =>
      rw [lift_ok_bind]
      cases hmodule : w.builder.frames.any Frame.isModule with
      | false =>
          have hnone : ∀ m below, w.builder.frames ≠ .module m :: below := by
            intro m below hframes
            rw [hframes] at hmodule
            cases hmodule
          cases hframes : w.builder.frames with
          | nil =>
              rw [List.isEmpty_nil, if_pos rfl, fillResult_eq_error]
              simp only [ne_eq, not_true_eq_false, reduceCtorEq, false_and, exists_false, or_false,
                true_and, Except.ok.injEq, false_or, exists_eq_left']
              constructor
              · rintro ⟨hset, rfl, rfl⟩
                exact ⟨rfl, hset, rfl⟩
              · rintro ⟨rfl, hset, rfl⟩
                exact ⟨hset, rfl, rfl⟩
          | cons x below =>
              rw [hframes] at hnone
              simp [hnone, and_comm]
      | true =>
          have hne : w.builder.frames ≠ [] := by
            intro hframes
            rw [hframes] at hmodule
            cases hmodule
          have hempty : w.builder.frames.isEmpty = false := by simpa using hne
          simp [hempty, hne, hmodule, -List.any_eq_true, -List.isEmpty_eq_false_iff]

theorem exitTop_function_eq_error {f : FuncDraft σ} {below : Frames σ} {e : BuildError}
    (h : w.builder.frames = .function f :: below) :
    exitTop op w = .error e w' ↔ leaveFunction f (w.withFrames below) = .error e w' := by
  simp only [exitTop, h, getBuilder_bind, setFrames_bind]

end BuildM

/-! ## Closing the innermost scope -/

/-- What a close of the innermost scope does. -/
inductive Closing (w : Workspace σ) : Workspace σ → Prop where
  | block {kind : BlockKind} {rest above below : Frames σ} {f f' : FuncDraft σ} :
      w.builder.frames = .block kind :: rest →
      rest.splitFunction? = some (above, f, below) → above ≠ [] →
      FuncDraft.leaveBlock rest.topBlock? f = .ok () f' →
      Closing w (w.withFrames (above ++ .function f' :: below))
  | function {kind : BlockKind} {f f' : FuncDraft σ} {func : Func} :
      w.builder.frames = [.block kind, .function f] →
      FuncDraft.leaveBlock none f = .ok () f' → f'.assemble w.builder.config = .ok func →
      w.builder.result = none →
      Closing w ((w.withFrames []).withResult (some (.function func)))
  | definition {kind : BlockKind} {f f' : FuncDraft σ} {func : Func} {m m' : ModuleDraft}
      {below : Frames σ} :
      w.builder.frames = .block kind :: .function f :: .module m :: below →
      FuncDraft.leaveBlock none f = .ok () f' → f'.assemble w.builder.config = .ok func →
      m.define f'.nameOrEmpty func .finishFunction = .ok m' →
      Closing w (w.withFrames (.module m' :: below))
  | module {m : ModuleDraft} {module : Module} {below : Frames σ} :
      w.builder.frames = .module m :: below → m.assemble = .ok module →
      w.builder.result = none →
      Closing w ((w.withFrames below).withResult (some (.module module)))

namespace BuildM

/-- Leaves the frames of a scope: a function has its default block above it. -/
def exitScope (op : Operation) : ScopeKind → BuildM σ Unit
  | .function => exitTop op >>= fun _ => exitTop op
  | .module | .block => exitTop op

theorem closeHandle_eq_ok {handle : Scope} :
    closeHandle op handle w = .ok () w' ↔
      w.builder.frames.innermostScope? = some handle ∧
        exitScope op handle.kind w = .ok () w' := by
  simp only [closeHandle, getBuilder_bind]
  cases w.builder.frames.innermostScope? with
  | none => simp
  | some scope =>
      by_cases hscope : scope = handle
      · subst hscope
        cases hkind : scope.kind <;> simp [exitScope]
      · simp [hscope]

theorem closeHandle_eq_error {handle : Scope} {e : BuildError} :
    closeHandle op handle w = .error e w' ↔
      (w.builder.frames.innermostScope? = none ∧ e = .emptyStack op ∧ w' = w) ∨
      (∃ scope, w.builder.frames.innermostScope? = some scope ∧ scope ≠ handle ∧
        e = .unbalancedScope op handle scope.depth ∧ w' = w) ∨
      (w.builder.frames.innermostScope? = some handle ∧
        exitScope op handle.kind w = .error e w') := by
  simp only [closeHandle, getBuilder_bind]
  cases w.builder.frames.innermostScope? with
  | none => simp
  | some scope =>
      by_cases hscope : scope = handle
      · subst hscope
        cases hkind : scope.kind <;> simp [exitScope]
      · simp [hscope]

theorem exitScope_module_iff {m : ModuleDraft} {below : Frames σ}
    (hframes : w.builder.frames = .module m :: below) :
    exitScope op .module w = .ok () w' ↔ Closing w w' := by
  rw [exitScope, exitTop_module hframes]
  constructor
  · rintro ⟨module, hm, hresult, rfl⟩
    exact .module hframes hm hresult
  · rintro (⟨h, -⟩ | ⟨h, -⟩ | ⟨h, -⟩ | ⟨h, hm, hresult⟩) <;> rw [hframes] at h <;> cases h
    exact ⟨_, hm, hresult, rfl⟩

theorem exitScope_block_iff {kind : BlockKind} {rest : Frames σ}
    (hframes : w.builder.frames = .block kind :: rest) (hshape : rest.Shaped) :
    exitScope op .block w = .ok () w' ↔ Closing w w' := by
  rw [exitScope, exitTop_block hframes]
  constructor
  · rintro ⟨above, f, below, f', hsplit, hleave, rfl⟩
    exact .block hframes hsplit (hshape.above_ne_nil hsplit) hleave
  · rintro (⟨h, hsplit, -, hleave⟩ | ⟨h, -⟩ | ⟨h, -⟩ | ⟨h, -⟩) <;> rw [hframes] at h <;> cases h
    · exact ⟨_, _, _, _, hsplit, hleave, rfl⟩
    · exact absurd hshape Frames.ShapedBy.not_function
    · exact absurd hshape Frames.ShapedBy.not_function

theorem exitScope_function_iff {kind : BlockKind} {f : FuncDraft σ} {below : Frames σ}
    (hframes : w.builder.frames = .block kind :: .function f :: below) :
    exitScope op .function w = .ok () w' ↔ Closing w w' := by
  simp only [exitScope, bind_eq_ok, exitTop_block hframes, Frames.splitFunction?_function,
    Option.some.injEq, Prod.mk.injEq]
  constructor
  · rintro ⟨-, w₁, ⟨_, _, _, f', ⟨rfl, rfl, rfl⟩, hleave, rfl⟩, hexit⟩
    obtain ⟨func, hfunc, ⟨rfl, hresult, rfl⟩ | ⟨m, m', rest, rfl, hm, rfl⟩⟩ :=
      (exitTop_function rfl).mp hexit
    · exact .function hframes hleave hfunc hresult
    · exact .definition hframes hleave hfunc hm
  · rintro (⟨h, hsplit, hne, -⟩ | ⟨h, hleave, hfunc, hresult⟩ | ⟨h, hleave, hfunc, hm⟩ | ⟨h, -⟩)
      <;> rw [hframes] at h <;> cases h
    · simp only [Frames.splitFunction?_function, Option.some.injEq, Prod.mk.injEq] at hsplit
      exact absurd hsplit.1.symm hne
    · exact ⟨(), _, ⟨_, _, _, _, ⟨rfl, rfl, rfl⟩, hleave, rfl⟩,
        (exitTop_function rfl).mpr ⟨_, hfunc, .inl ⟨rfl, hresult, rfl⟩⟩⟩
    · exact ⟨(), _, ⟨_, _, _, _, ⟨rfl, rfl, rfl⟩, hleave, rfl⟩,
        (exitTop_function rfl).mpr ⟨_, hfunc, .inr ⟨_, _, _, rfl, hm, rfl⟩⟩⟩

/-- A close ends the innermost scope, which its handle must name. -/
theorem closeHandle_eq_ok_iff (hshape : w.builder.frames.Shaped) {handle : Scope} :
    closeHandle op handle w = .ok () w' ↔
      w.builder.frames.innermostScope? = some handle ∧ Closing w w' := by
  rw [closeHandle_eq_ok]
  refine and_congr_right fun hscope => ?_
  generalize hframes : w.builder.frames = frames at hshape hscope
  cases hshape with
  | nil => cases hscope
  | module m hbelow =>
      obtain rfl := Option.some.inj hscope
      exact exitScope_module_iff hframes
  | block kind hbelow =>
      rw [hbelow.innermostScope?_block] at hscope
      obtain rfl := Option.some.inj hscope
      exact exitScope_block_iff hframes hbelow
  | function f hbelow =>
      obtain rfl := Option.some.inj hscope
      exact exitScope_function_iff hframes

end BuildM

theorem Closing.shapedBy {allowed : BlockKind → Prop} (h : Closing w w')
    (hshape : w.builder.frames.ShapedBy allowed) : w'.builder.frames.ShapedBy allowed := by
  cases h with
  | block hframes hsplit hne _ =>
      rw [hframes] at hshape
      cases hshape with
      | block _ hrest => exact hrest.replace_split hsplit
      | function _ g _ =>
          simp only [Frames.splitFunction?_function, Option.some.injEq, Prod.mk.injEq] at hsplit
          exact absurd hsplit.1.symm hne
  | function => exact .nil
  | definition hframes _ _ _ =>
      rw [hframes] at hshape
      cases hshape with
      | block _ hrest => exact absurd hrest Frames.ShapedBy.not_function
      | function _ _ hbelow =>
          cases hbelow with
          | module _ hbelow => exact .module _ hbelow
  | module hframes _ _ =>
      rw [hframes] at hshape
      cases hshape with
      | module _ hbelow => exact hbelow

/-! ## Operations on scopes -/

open BuildM

namespace Builder

variable {handle : Scope}

theorem openModule_eq_ok :
    openModule w = .ok handle w' ↔
      w.builder.failed = false ∧ w.builder.frames.any Frame.isModule = false ∧
      handle = ⟨w.builder.depth, .module⟩ ∧
      w' = w.withFrames (.module (.new w.builder.config.nameScheme) :: w.builder.frames) := by
  rw [openModule, guarded_eq_ok, getBuilder_bind]
  refine and_congr_right fun _ => ?_
  cases hmodule : w.builder.frames.any Frame.isModule with
  | true => simp
  | false =>
      simp only [Bool.false_eq_true, if_false, enter_module, true_and]
      constructor
      · intro h
        cases h
        exact ⟨rfl, rfl⟩
      · rintro ⟨rfl, rfl⟩
        rfl

theorem openFunction_eq_ok :
    openFunction w = .ok handle w' ↔
      w.builder.failed = false ∧ handle = ⟨w.builder.depth, .function⟩ ∧
      w' = w.withFrames (.block .ordinary ::
        .function ((FuncDraft.new (w.builder.newEmitter w.builder.config)).beginBlock .ordinary) ::
        w.builder.frames) := by
  rw [openFunction, guarded_eq_ok, getBuilder_bind, enter_function]
  refine and_congr_right fun _ => ?_
  constructor
  · intro h
    cases h
    exact ⟨rfl, rfl⟩
  · rintro ⟨rfl, rfl⟩
    rfl

theorem pushBlock_eq_ok {kind : BlockKind} :
    pushBlock kind w = .ok handle w' ↔
      w.builder.failed = false ∧ enter (.block kind) w = .ok handle w' :=
  guarded_eq_ok

/-- To open a block is to push one, since that needs a function as well. -/
theorem openBlock_eq_ok {kind : BlockKind} :
    openBlock kind w = .ok handle w' ↔
      w.builder.failed = false ∧ enter (.block kind) w = .ok handle w' := by
  rw [openBlock, guarded_eq_ok, getBuilder_bind]
  refine and_congr_right fun _ => ?_
  cases hfunction : w.builder.frames.any Frame.isFunction with
  | true => simp
  | false =>
      have hsplit := Frames.splitFunction?_eq_none_iff.mpr hfunction
      simp [enter_block_eq_ok, hsplit]

theorem close_eq_ok_iff (hshape : w.builder.frames.Shaped) :
    close handle w = .ok () w' ↔
      w.builder.failed = false ∧ w.builder.frames.innermostScope? = some handle ∧ Closing w w' := by
  rw [close, guarded_eq_ok, closeHandle_eq_ok_iff hshape]

theorem closeScope_eq_ok_iff (hshape : w.builder.frames.Shaped) :
    closeScope w = .ok () w' ↔
      w.builder.failed = false ∧
      ∃ scope, w.builder.frames.innermostScope? = some scope ∧ Closing w w' := by
  rw [closeScope, guarded_eq_ok, getBuilder_bind]
  refine and_congr_right fun _ => ?_
  cases hscope : w.builder.frames.innermostScope? with
  | none => simp
  | some scope => simp [closeHandle_eq_ok_iff hshape, hscope]

omit [Emitter σ] in
theorem abort_eq_ok {dropped : Nat} :
    abort w = .ok dropped w' ↔
      dropped = w.builder.depth ∧
      w' = if w.builder.frames.isEmpty then w else (w.withFrames []).markFailed := by
  constructor
  · intro h
    cases h
    exact ⟨rfl, rfl⟩
  · rintro ⟨rfl, rfl⟩
    rfl

/-! ## Scopes around a computation -/

section Around

variable {α : Type} {opening : BuildM σ Scope} {body : BuildM σ α}

theorem withScope_eq_ok_iff {a : α} :
    withScope opening body w = .ok a w' ↔
      ∃ handle w₁ w₂, opening w = .ok handle w₁ ∧ body w₁ = .ok a w₂ ∧
        close handle w₂ = .ok () w' := by
  simp only [withScope, lift_self, bind_eq_ok, pure_eq_ok]
  constructor
  · rintro ⟨handle, w₁, hopen, _, w₂, hbody, _, _, hclose, rfl, rfl⟩
    exact ⟨handle, w₁, w₂, hopen, hbody, hclose⟩
  · rintro ⟨handle, w₁, w₂, hopen, hbody, hclose⟩
    exact ⟨handle, w₁, hopen, a, w₂, hbody, (), w', hclose, rfl, rfl⟩

/-- The scope is not opened, or the computation in it fails, or the scope is not closed after it. -/
theorem withScope_eq_error_iff {e : BuildError} :
    withScope opening body w = .error e w' ↔
      opening w = .error e w' ∨ ∃ handle w₁, opening w = .ok handle w₁ ∧
        (body w₁ = .error e w' ∨ ∃ a w₂, body w₁ = .ok a w₂ ∧ close handle w₂ = .error e w') := by
  simp only [withScope, lift_self, bind_eq_error, pure_eq_error, and_false, exists_false, or_false]

end Around

end Builder

end ScopedBuilder
