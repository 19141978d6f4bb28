import ScopedBuilder.Builder.Action

/-!
# Outcomes of the steps of an operation

An operation is a sequence of steps in a monad that keeps the state when it fails. Each step comes with
a rule for its success and, where an error can be told apart, one for its failure.
-/

namespace ScopedBuilder

/-! ## The parts of a workspace -/

namespace Workspace

variable {σ : Type} (w : Workspace σ)

@[simp] theorem withFrames_frames (frames : Frames σ) :
    (w.withFrames frames).builder.frames = frames := rfl

@[simp] theorem withFrames_result (frames : Frames σ) :
    (w.withFrames frames).builder.result = w.builder.result := rfl

@[simp] theorem withFrames_config (frames : Frames σ) :
    (w.withFrames frames).builder.config = w.builder.config := rfl

@[simp] theorem withFrames_withFrames (frames frames' : Frames σ) :
    (w.withFrames frames).withFrames frames' = w.withFrames frames' := rfl

@[simp] theorem withResult_frames (result : Option Artifact) :
    (w.withResult result).builder.frames = w.builder.frames := rfl

@[simp] theorem withResult_result (result : Option Artifact) :
    (w.withResult result).builder.result = result := rfl

@[simp] theorem markFailed_frames : w.markFailed.builder.frames = w.builder.frames := rfl

@[simp] theorem markFailed_result : w.markFailed.builder.result = w.builder.result := rfl

end Workspace

/-! ## Sequences -/

section Sequence

variable {ε s α β : Type}

@[simp] theorem bind_eq_ok {x : EStateM ε s α} {f : α → EStateM ε s β} {w w' : s} {b : β} :
    (x >>= f) w = .ok b w' ↔ ∃ a w₁, x w = .ok a w₁ ∧ f a w₁ = .ok b w' := by
  simp only [bind, EStateM.bind]
  cases x w with
  | ok a w₁ => simp [and_assoc]
  | error e w₁ => simp

@[simp] theorem bind_eq_error {x : EStateM ε s α} {f : α → EStateM ε s β} {w w' : s} {e : ε} :
    (x >>= f) w = .error e w' ↔
      x w = .error e w' ∨ ∃ a w₁, x w = .ok a w₁ ∧ f a w₁ = .error e w' := by
  simp only [bind, EStateM.bind]
  cases x w with
  | ok a w₁ => simp [and_assoc]
  | error e w₁ => simp

@[simp] theorem pure_eq_ok {a b : α} {w w' : s} :
    (pure a : EStateM ε s α) w = .ok b w' ↔ b = a ∧ w' = w := by
  simp [pure, EStateM.pure, eq_comm]

@[simp] theorem pure_eq_error {a : α} {w w' : s} {e : ε} :
    (pure a : EStateM ε s α) w = .error e w' ↔ False := by
  simp [pure, EStateM.pure]

theorem bind_pure_eq_ok {x : EStateM ε s α} {f : α → β} {w w' : s} {b : β} :
    (x >>= fun a => pure (f a)) w = .ok b w' ↔ ∃ a, x w = .ok a w' ∧ b = f a := by
  simp only [bind_eq_ok, pure_eq_ok]
  constructor
  · rintro ⟨a, _, ha, rfl, rfl⟩
    exact ⟨a, ha, rfl⟩
  · rintro ⟨a, ha, rfl⟩
    exact ⟨a, w', ha, rfl, rfl⟩

@[simp] theorem functorMap_eq_ok {x : EStateM ε s α} {f : α → β} {w w' : s} {b : β} :
    (f <$> x) w = .ok b w' ↔ ∃ a, x w = .ok a w' ∧ b = f a := by
  simp only [Functor.map, EStateM.map]
  cases x w with
  | ok a w₁ =>
      constructor
      · intro h
        cases h
        exact ⟨a, rfl, rfl⟩
      · rintro ⟨_, h, rfl⟩
        cases h
        rfl
  | error e w₁ => simp

@[simp] theorem functorMap_eq_error {x : EStateM ε s α} {f : α → β} {w w' : s} {e : ε} :
    (f <$> x) w = .error e w' ↔ x w = .error e w' := by
  simp only [Functor.map, EStateM.map]
  cases x w with
  | ok a w₁ => simp
  | error e₁ w₁ => simp

@[simp] theorem throw_eq_ok {a : α} {w w' : s} {e : ε} :
    (throw e : EStateM ε s α) w = .ok a w' ↔ False := by
  have hthrow : (throw e : EStateM ε s α) w = .error e w := rfl
  simp [hthrow]

@[simp] theorem throw_eq_error {w w' : s} {e e' : ε} :
    (throw e : EStateM ε s α) w = .error e' w' ↔ e' = e ∧ w' = w := by
  have hthrow : (throw e : EStateM ε s α) w = .error e w := rfl
  simp [hthrow, eq_comm]

@[simp] theorem modify_eq_ok {f : s → s} {w w' : s} {u : PUnit} :
    (modify f : EStateM ε s PUnit) w = .ok u w' ↔ w' = f w := by
  have hmodify : (modify f : EStateM ε s PUnit) w = .ok ⟨⟩ (f w) := rfl
  simp [hmodify, eq_comm]

@[simp] theorem map_eq_ok {x : Except ε α} {f : α → β} {b : β} :
    x.map f = .ok b ↔ ∃ a, x = .ok a ∧ f a = b := by
  cases x <;> simp [Except.map]

@[simp] theorem map_eq_error {x : Except ε α} {f : α → β} {e : ε} :
    x.map f = .error e ↔ x = .error e := by
  cases x <;> simp [Except.map]

@[simp] theorem map_map {γ : Type} {x : Except ε α} {f : α → β} {g : β → γ} :
    (x.map f).map g = x.map fun a => g (f a) := by
  cases x <;> rfl

@[simp] theorem except_functorMap {x : Except ε α} {f : α → β} : f <$> x = x.map f := rfl

@[simp] theorem except_bind_eq_ok {x : Except ε α} {f : α → Except ε β} {b : β} :
    x >>= f = .ok b ↔ ∃ a, x = .ok a ∧ f a = .ok b := by
  cases x <;> simp [bind, Except.bind]

@[simp] theorem except_bind_eq_error {x : Except ε α} {f : α → Except ε β} {e : ε} :
    x >>= f = .error e ↔ x = .error e ∨ ∃ a, x = .ok a ∧ f a = .error e := by
  cases x <;> simp [bind, Except.bind]

end Sequence

namespace BuildM

variable {σ α : Type} {w w' : Workspace σ} {op : Operation} {e : BuildError} {a : α}

/-! ## The state of a builder -/

@[simp] theorem getBuilder_bind {f : Builder σ → BuildM σ α} :
    (getBuilder >>= f) w = f w.builder w := rfl

@[simp] theorem setFrames_bind {frames : Frames σ} {f : Unit → BuildM σ α} :
    (setFrames frames >>= f) w = f () (w.withFrames frames) := rfl

@[simp] theorem setFrames_eq_error {frames : Frames σ} :
    setFrames frames w = .error e w' ↔ False := by
  simp [setFrames]

@[simp] theorem lift_self {act : BuildM σ α} : (liftM act : BuildM σ α) = act := rfl

@[simp] theorem lift_eq_ok {x : Except BuildError α} :
    (liftM x : BuildM σ α) w = .ok a w' ↔ x = .ok a ∧ w' = w := by
  cases x with
  | ok b => simp [liftM, monadLift, MonadLift.monadLift, MonadExcept.ofExcept, eq_comm]
  | error cause => simp [liftM, monadLift, MonadLift.monadLift, MonadExcept.ofExcept]

@[simp] theorem lift_eq_error {x : Except BuildError α} :
    (liftM x : BuildM σ α) w = .error e w' ↔ x = .error e ∧ w' = w := by
  cases x with
  | ok b => simp [liftM, monadLift, MonadLift.monadLift, MonadExcept.ofExcept]
  | error cause =>
      simp [liftM, monadLift, MonadLift.monadLift, MonadExcept.ofExcept, eq_comm]

@[simp] theorem lift_ok_bind {β : Type} {f : α → BuildM σ β} :
    ((liftM (.ok a : Except BuildError α) : BuildM σ α) >>= f) w = f a w := rfl

@[simp] theorem lift_error_bind {β : Type} {f : α → BuildM σ β} :
    ((liftM (.error e : Except BuildError α) : BuildM σ α) >>= f) w = .error e w := rfl

@[simp] theorem guarded_eq_ok {act : BuildM σ α} :
    guarded op act w = .ok a w' ↔ w.builder.failed = false ∧ act w = .ok a w' := by
  unfold guarded
  cases w.builder.failed with
  | true => simp
  | false => cases act w <;> simp

/-- An error of a guarded operation comes from an earlier failure, or makes one. -/
@[simp] theorem guarded_eq_error {act : BuildM σ α} :
    guarded op act w = .error e w' ↔
      (w.builder.failed = true ∧ e = .sessionFailed op ∧ w' = w) ∨
        (w.builder.failed = false ∧ ∃ w₁, act w = .error e w₁ ∧ w' = w₁.markFailed) := by
  unfold guarded
  cases w.builder.failed with
  | true => simp [eq_comm]
  | false => cases act w <;> simp [eq_comm, and_assoc]

@[simp] theorem fillResult_eq_ok {artifact : Artifact} {u : Unit} :
    fillResult op artifact w = .ok u w' ↔
      w.builder.result = none ∧ w' = w.withResult (some artifact) := by
  unfold fillResult
  cases w.builder.result with
  | none => simp [eq_comm]
  | some previous => simp

@[simp] theorem fillResult_eq_error {artifact : Artifact} :
    fillResult op artifact w = .error e w' ↔
      w.builder.result.isSome = true ∧ e = .resultAlreadySet op ∧ w' = w := by
  unfold fillResult
  cases w.builder.result with
  | none => simp
  | some previous => simp [eq_comm]

/-! ## Work on an open scope -/

section Nearest

variable {act : EStateM BuildError (FuncDraft σ × VarSupply) α}

@[simp] theorem onNearestFunction_eq_ok :
    onNearestFunction op act w = .ok a w' ↔
      ∃ above f below f' supply,
        w.builder.frames.splitFunction? = some (above, f, below) ∧
        act (f, w.supply) = .ok a (f', supply) ∧
        w' = { w.withFrames (above ++ .function f' :: below) with supply := supply } := by
  unfold onNearestFunction
  cases hsplit : w.builder.frames.splitFunction? with
  | none => simp
  | some split =>
      obtain ⟨above, f, below⟩ := split
      dsimp only
      rcases hact : act (f, w.supply) with ⟨b, f', supply⟩ | ⟨cause, f', supply⟩
      · constructor
        · intro h
          cases h
          exact ⟨above, f, below, f', supply, rfl, hact, rfl⟩
        · rintro ⟨_, _, _, _, _, hsome, hok, rfl⟩
          cases hsome
          cases hact.symm.trans hok
          rfl
      · simp [hact]

@[simp] theorem onNearestFunction_eq_error :
    onNearestFunction op act w = .error e w' ↔
      (w.builder.frames.splitFunction? = none ∧ e = .notInFunction op ∧ w' = w) ∨
        ∃ above f below f' supply,
          w.builder.frames.splitFunction? = some (above, f, below) ∧
          act (f, w.supply) = .error e (f', supply) ∧
          w' = { w.withFrames (above ++ .function f' :: below) with supply := supply } := by
  unfold onNearestFunction
  cases hsplit : w.builder.frames.splitFunction? with
  | none => simp [eq_comm]
  | some split =>
      obtain ⟨above, f, below⟩ := split
      dsimp only
      rcases hact : act (f, w.supply) with ⟨b, f', supply⟩ | ⟨cause, f', supply⟩
      · simp [hact]
      · constructor
        · intro h
          cases h
          exact .inr ⟨above, f, below, f', supply, rfl, hact, rfl⟩
        · rintro (⟨hnone, -⟩ | ⟨_, _, _, _, _, hsome, herror, rfl⟩)
          · cases hnone
          · cases hsome
            cases hact.symm.trans herror
            rfl

end Nearest

section InFunction

variable {act : FuncDraft σ → Except BuildError (α × FuncDraft σ)}

@[simp] theorem inFunctionScope_eq_ok :
    inFunctionScope op act w = .ok a w' ↔
      ∃ kind f below f',
        w.builder.frames.functionScope? = some (kind, f, below) ∧ act f = .ok (a, f') ∧
        w' = w.withFrames (.block kind :: .function f' :: below) := by
  unfold inFunctionScope
  cases hscope : w.builder.frames.functionScope? with
  | none => cases hany : w.builder.frames.any Frame.isFunction <;> simp
  | some scope =>
      obtain ⟨kind, f, below⟩ := scope
      dsimp only
      rcases hact : act f with cause | ⟨b, f'⟩
      · simp [hact]
      · constructor
        · intro h
          cases h
          exact ⟨kind, f, below, f', rfl, hact, rfl⟩
        · rintro ⟨_, _, _, _, hsome, hok, rfl⟩
          cases hsome
          cases hact.symm.trans hok
          rfl

@[simp] theorem inFunctionScope_eq_error :
    inFunctionScope op act w = .error e w' ↔
      w' = w ∧
        ((w.builder.frames.functionScope? = none ∧
            e = if w.builder.frames.any Frame.isFunction then .notImmediatelyInFunction op
              else .notInFunction op) ∨
          ∃ kind f below,
            w.builder.frames.functionScope? = some (kind, f, below) ∧ act f = .error e) := by
  unfold inFunctionScope
  cases hscope : w.builder.frames.functionScope? with
  | none =>
      cases hany : w.builder.frames.any Frame.isFunction <;>
        simp [eq_comm, and_comm (a := w = w')]
  | some scope =>
      obtain ⟨kind, f, below⟩ := scope
      dsimp only
      rcases hact : act f with cause | ⟨b, f'⟩
      · constructor
        · intro h
          cases h
          exact ⟨rfl, .inr ⟨kind, f, below, rfl, hact⟩⟩
        · rintro ⟨rfl, ⟨hnone, -⟩ | ⟨_, _, _, hsome, herror⟩⟩
          · cases hnone
          · cases hsome
            cases hact.symm.trans herror
            rfl
      · simp [hact]

end InFunction

section InModule

variable {act : ModuleDraft → Except BuildError (α × ModuleDraft)}

@[simp] theorem inModuleScope_eq_ok :
    inModuleScope op act w = .ok a w' ↔
      ∃ m below m',
        w.builder.frames.moduleScope? = some (m, below) ∧ act m = .ok (a, m') ∧
        w' = w.withFrames (.module m' :: below) := by
  unfold inModuleScope
  cases hscope : w.builder.frames.moduleScope? with
  | none => cases hany : w.builder.frames.any Frame.isModule <;> simp
  | some scope =>
      obtain ⟨m, below⟩ := scope
      dsimp only
      rcases hact : act m with cause | ⟨b, m'⟩
      · simp [hact]
      · constructor
        · intro h
          cases h
          exact ⟨m, below, m', rfl, hact, rfl⟩
        · rintro ⟨_, _, _, hsome, hok, rfl⟩
          cases hsome
          cases hact.symm.trans hok
          rfl

@[simp] theorem inModuleScope_eq_error :
    inModuleScope op act w = .error e w' ↔
      w' = w ∧
        ((w.builder.frames.moduleScope? = none ∧
            e = if w.builder.frames.any Frame.isModule then .notImmediatelyInModule op
              else .moduleNotFound op) ∨
          ∃ m below,
            w.builder.frames.moduleScope? = some (m, below) ∧ act m = .error e) := by
  unfold inModuleScope
  cases hscope : w.builder.frames.moduleScope? with
  | none =>
      cases hany : w.builder.frames.any Frame.isModule <;>
        simp [eq_comm, and_comm (a := w = w')]
  | some scope =>
      obtain ⟨m, below⟩ := scope
      dsimp only
      rcases hact : act m with cause | ⟨b, m'⟩
      · constructor
        · intro h
          cases h
          exact ⟨rfl, .inr ⟨m, below, rfl, hact⟩⟩
        · rintro ⟨rfl, ⟨hnone, -⟩ | ⟨_, _, hsome, herror⟩⟩
          · cases hnone
          · cases hsome
            cases hact.symm.trans herror
            rfl
      · simp [hact]

end InModule

end BuildM

end ScopedBuilder
