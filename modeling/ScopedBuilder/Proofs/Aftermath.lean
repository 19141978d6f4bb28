import ScopedBuilder.Proofs.Run

/-!
# After an error

An operation that fails may leave a block that was just pushed, or a function whose emitter refused. But
whatever the emitter, it leaves the result as it was, and no frame is gone, except that a close has dropped
the frames of the scope that it could not finish.
-/

namespace ScopedBuilder

variable {σ : Type}

/-! ## The kinds of the frames -/

namespace Frames

/-- The kinds of the frames, outermost first. -/
def kinds (frames : Frames σ) : List ScopeKind := (frames.map Frame.kind).reverse

@[simp] theorem kinds_nil : kinds ([] : Frames σ) = [] := rfl

@[simp] theorem kinds_cons (x : Frame σ) (below : Frames σ) :
    kinds (x :: below) = below.kinds ++ [x.kind] := by
  simp [kinds]

@[simp] theorem kinds_append (above below : Frames σ) :
    kinds (above ++ below) = below.kinds ++ above.kinds := by
  simp [kinds]

@[simp] theorem length_kinds (frames : Frames σ) : frames.kinds.length = frames.length := by
  simp [kinds]

/-- Work on a function leaves the kinds as they are. -/
theorem kinds_replace_split {frames above below : Frames σ} {f f' : FuncDraft σ}
    (hsplit : splitFunction? frames = some (above, f, below)) :
    kinds (above ++ .function f' :: below) = frames.kinds := by
  obtain ⟨rfl, -⟩ := splitFunction?_eq_some_iff.mp hsplit
  simp [Frame.kind]

/-- The frames below a scope are the first ones. -/
theorem take_kinds_append (above below : Frames σ) :
    (kinds (above ++ below)).take below.length = below.kinds := by
  rw [kinds_append, List.take_left' below.length_kinds]

end Frames

/-! ## What an error leaves -/

variable [Emitter σ]

open BuildM

/-- What an operation that fails leaves before the session is marked as failed: everything as it was, or a
block that its function could not enter, or a function whose emitter refused, or a stack without the scope
that could not be finished. Only a push comes as far as the block without any function there. -/
inductive Mishap (w : Workspace σ) (a : Action) (e : BuildError) : Workspace σ → Prop where
  | clean : Mishap w a e w
  | block {kind : BlockKind} {w' : Workspace σ} : a.opens? = some kind →
      (w.builder.frames.splitFunction? = none → a = .pushBlock kind) →
      enter (.block kind) w = .error e w' → Mishap w a e w'
  | emit {expr : Expr} {w' : Workspace σ} : a.binds? = some expr →
      onNearestFunction .emit (FuncDraft.emit expr) w = .error e w' → Mishap w a e w'
  | close {scope : Scope} {op : Operation} {w' : Workspace σ} :
      w.builder.frames.innermostScope? = some scope → a.closes scope = true →
      exitScope op scope.kind w = .error e w' → Mishap w a e w'

namespace Mishap

variable {α : Type} {op : Operation} {w w' : Workspace σ} {a : Action} {e : BuildError}

/-- The guard lets the mishaps of a computation through and marks the session. -/
theorem of_guarded {act : BuildM σ α} (hfailed : w.builder.failed = false)
    (hact : ∀ w', act w = .error e w' → Mishap w a e w') (h : guarded op act w = .error e w') :
    ∃ w₁, Mishap w a e w₁ ∧ w' = w₁.markFailed := by
  rcases guarded_eq_error.mp h with ⟨htrue, -⟩ | ⟨-, w₁, herror, rfl⟩
  · simp [hfailed] at htrue
  · exact ⟨w₁, hact w₁ herror, rfl⟩

theorem of_closeHandle {handle : Scope} (ha : a.closes handle = true)
    (h : closeHandle op handle w = .error e w') : Mishap w a e w' := by
  rcases closeHandle_eq_error.mp h with ⟨-, -, rfl⟩ | ⟨_, -, -, -, rfl⟩ | ⟨hscope, hexit⟩
  · exact .clean
  · exact .clean
  · exact .close hscope ha hexit

/-- Every error of a guarded operation is a mishap, unless the session had failed before. The operations are
gone through one by one. -/
theorem of_guard (hguard : a.guard? = some op) (hfailed : w.builder.failed = false)
    (h : a.run w = .error e w') : ∃ w₁, Mishap w a e w₁ ∧ w' = w₁.markFailed := by
  cases a <;> cases hguard <;>
    simp only [Action.run, bind_eq_error, pure_eq_error, and_false, exists_false, or_false] at h <;>
    refine of_guarded hfailed (fun w' hact => ?_) h
  case openModule =>
    rw [getBuilder_bind] at hact
    cases hany : w.builder.frames.any Frame.isModule <;>
      simp [hany, enter, -List.any_eq_true, -List.any_eq_false] at hact
    exact hact.2 ▸ .clean
  case openFunction =>
    rw [getBuilder_bind, enter_function] at hact
    cases hact
  case openBlock kind =>
    rw [getBuilder_bind] at hact
    cases hsplit : w.builder.frames.splitFunction? with
    | none =>
        rw [Frames.splitFunction?_eq_none_iff.mp hsplit] at hact
        cases hact
        exact .clean
    | some split =>
        have hany : w.builder.frames.any Frame.isFunction = true := by
          rw [← Bool.not_eq_false, ← Frames.splitFunction?_eq_none_iff, hsplit]
          exact Option.some_ne_none split
        rw [hany] at hact
        exact .block rfl (fun hnone => by simp [hsplit] at hnone) hact
  case pushBlock kind => exact .block rfl (fun _ => rfl) hact
  case close handle => exact of_closeHandle (decide_eq_true rfl) hact
  case closeScope =>
    rw [getBuilder_bind] at hact
    cases hscope : w.builder.frames.innermostScope? with
    | none =>
        rw [hscope] at hact
        cases hact
        exact .clean
    | some scope =>
        rw [hscope] at hact
        exact of_closeHandle rfl hact
  case register | update => exact (inModuleScope_eq_error.mp hact).1 ▸ .clean
  case addParam | setName | setAttrs | setResultTy | addOutput =>
    exact (inFunctionScope_eq_error.mp hact).1 ▸ .clean
  case emit | emitKernelCall => exact .emit rfl hact
  case setResult => exact (fillResult_eq_error.mp hact).2.2 ▸ .clean

end Mishap

/-! ## What an error keeps -/

variable {w w' : Workspace σ} {a : Action} {e : BuildError} {op : Operation}

namespace BuildM

/-- A frame that could not be left is off the stack. -/
theorem kept_of_exitTop_error {x : Frame σ} {below : Frames σ} (hframes : w.builder.frames = x :: below)
    (h : exitTop op w = .error e w') :
    w'.builder.result = w.builder.result ∧ w'.builder.frames.kinds = below.kinds := by
  cases x with
  | module m =>
      obtain ⟨rfl, -⟩ := (exitTop_module_eq_error hframes).mp h
      exact ⟨rfl, rfl⟩
  | function f =>
      obtain ⟨rfl, -⟩ := leaveFunction_eq_error.mp ((exitTop_function_eq_error hframes).mp h)
      exact ⟨rfl, rfl⟩
  | block kind =>
      rcases (exitTop_block_eq_error hframes).mp h with ⟨-, -, rfl⟩ | ⟨_, _, _, _, hsplit, -, rfl⟩
      · exact ⟨rfl, rfl⟩
      · exact ⟨rfl, Frames.kinds_replace_split hsplit⟩

/-- The frames below a scope that could not be left are still there. -/
theorem kept_of_exitScope_error (hshape : w.builder.frames.Shaped) {scope : Scope}
    (hscope : w.builder.frames.innermostScope? = some scope)
    (h : exitScope op scope.kind w = .error e w') :
    w'.builder.result = w.builder.result ∧
      w.builder.frames.kinds.take scope.depth <+: w'.builder.frames.kinds := by
  generalize hframes : w.builder.frames = frames at hshape hscope
  cases hshape with
  | nil => cases hscope
  | @module m below _ =>
      obtain rfl := Option.some.inj hscope
      obtain ⟨hresult, hkinds⟩ := kept_of_exitTop_error hframes h
      rw [hkinds]
      exact ⟨hresult, Frames.take_kinds_append [_] below ▸ List.prefix_rfl⟩
  | @block kind below hbelow =>
      rw [hbelow.innermostScope?_block] at hscope
      obtain rfl := Option.some.inj hscope
      obtain ⟨hresult, hkinds⟩ := kept_of_exitTop_error hframes h
      rw [hkinds]
      exact ⟨hresult, Frames.take_kinds_append [_] below ▸ List.prefix_rfl⟩
  | @function kind _ f below _ =>
      obtain rfl := Option.some.inj hscope
      have htake : (Frames.kinds (.block kind :: .function f :: below)).take below.length =
          below.kinds := Frames.take_kinds_append [.block kind, .function f] below
      rcases bind_eq_error.mp h with hexit | ⟨_, w₁, hfirst, hexit⟩
      · -- the default block
        obtain ⟨hresult, hkinds⟩ := kept_of_exitTop_error hframes hexit
        refine ⟨hresult, ?_⟩
        rw [htake, hkinds, Frames.kinds_cons]
        exact List.prefix_append _ _
      · -- the function itself
        obtain ⟨_, _, _, _, hsplit, -, rfl⟩ := (exitTop_block hframes).mp hfirst
        cases hsplit
        obtain ⟨hresult, hkinds⟩ := kept_of_exitTop_error rfl hexit
        rw [hkinds]
        exact ⟨hresult, htake ▸ List.prefix_rfl⟩

end BuildM

/-- The result is as it was, and no frame is gone, unless an operation closes the innermost scope: then the
frames of that scope may be. -/
structure Action.Spares (a : Action) (w w' : Workspace σ) : Prop where
  result : w'.builder.result = w.builder.result
  frames : w.builder.frames.kinds <+: w'.builder.frames.kinds ∨
    ∃ scope, w.builder.frames.innermostScope? = some scope ∧ a.closes scope = true ∧
      w.builder.frames.kinds.take scope.depth <+: w'.builder.frames.kinds

theorem Mishap.spares (h : Mishap w a e w') (hshape : w.builder.frames.Shaped) : a.Spares w w' := by
  cases h with
  | clean => exact ⟨rfl, .inl List.prefix_rfl⟩
  | block _ _ henter =>
      rcases enterBlock_eq_error.mp (enter_block_eq_error.mp henter) with
        ⟨-, -, rfl⟩ | ⟨_, _, _, _, hsplit, -, rfl⟩
      · exact ⟨rfl, .inl (Frames.kinds_cons _ _ ▸ List.prefix_append _ _)⟩
      · refine ⟨rfl, .inl ?_⟩
        rw [Workspace.withFrames_frames, Frames.kinds_cons, Frames.kinds_replace_split hsplit]
        exact List.prefix_append _ _
  | emit _ hemit =>
      rcases onNearestFunction_eq_error.mp hemit with ⟨-, -, rfl⟩ | ⟨_, _, _, _, _, hsplit, -, rfl⟩
      · exact ⟨rfl, .inl List.prefix_rfl⟩
      · exact ⟨rfl, .inl (Frames.kinds_replace_split hsplit ▸ List.prefix_rfl)⟩
  | close hscope hcloses hexit =>
      obtain ⟨hresult, hprefix⟩ := kept_of_exitScope_error hshape hscope hexit
      exact ⟨hresult, .inr ⟨_, hscope, hcloses, hprefix⟩⟩

/-- Every operation that fails spares the result and the frames that it does not close. -/
theorem Action.spares_of_error (hshape : w.builder.frames.Shaped) (hfailed : w.builder.failed = false)
    (h : a.run w = .error e w') : a.Spares w w' := by
  cases hguard : a.guard? with
  | none =>
      obtain ⟨-, rfl⟩ := Workspace.rename_of_unguarded_error hguard h
      exact ⟨rfl, .inl List.prefix_rfl⟩
  | some op =>
      obtain ⟨w₁, hmishap, rfl⟩ := Mishap.of_guard hguard hfailed h
      obtain ⟨hresult, hframes⟩ := hmishap.spares hshape
      exact ⟨hresult, hframes⟩

end ScopedBuilder
