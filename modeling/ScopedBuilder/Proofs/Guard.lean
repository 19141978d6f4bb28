import ScopedBuilder.Proofs.Outcome

/-!
# Guarded operations

Most operations ask first whether the session has failed. Each of them is a computation behind the same
guard, and none of the computations touches the mark of a failed session: only the guard sets it.
-/

namespace ScopedBuilder

/-- The name under which a failed session refuses an operation. The operations without one do not ask
whether the session has failed. -/
def Action.guard? : Action → Option Operation
  | openModule => some .openModule
  | openFunction => some .openFunction
  | openBlock _ => some .openBlock
  | pushBlock _ => some .pushFrame
  | close _ => some .close
  | closeScope => some .closeScope
  | register .. => some .register
  | update .. => some .update
  | addParam .. => some .addParam
  | setName _ => some .setName
  | setAttrs _ => some .setAttrs
  | setResultTy _ => some .setResultTy
  | addOutput _ => some .addOutput
  | emit _ | emitKernelCall .. => some .emit
  | setResult _ => some .setResult
  | abort | takeResult | setRenamers _ | registerRenamer .. | rename .. => none

namespace BuildM

variable {σ α β : Type} {op : Operation}

/-! ## Computations that leave the mark alone -/

/-- The workspace that a computation leaves, also when it fails. -/
def final (act : BuildM σ α) (w : Workspace σ) : Workspace σ :=
  match act w with
  | .ok _ w | .error _ w => w

theorem final_of_ok {act : BuildM σ α} {w w' : Workspace σ} {a : α} (h : act w = .ok a w') :
    act.final w = w' := by
  rw [final, h]

theorem final_of_error {act : BuildM σ α} {w w' : Workspace σ} {e : BuildError}
    (h : act w = .error e w') : act.final w = w' := by
  rw [final, h]

/-- A computation that does not touch the mark of a failed session. -/
def Steady (act : BuildM σ α) : Prop :=
  ∀ w, (act.final w).builder.failed = w.builder.failed

namespace Steady

theorem pure (a : α) : Steady (Pure.pure a : BuildM σ α) := fun _ => rfl

theorem throw (e : BuildError) : Steady (MonadExcept.throw e : BuildM σ α) := fun _ => rfl

theorem lift (x : Except BuildError α) : Steady (liftM x : BuildM σ α) := by
  cases x <;> exact fun _ => rfl

theorem getBuilder : Steady (getBuilder : BuildM σ (Builder σ)) := fun _ => rfl

theorem setFrames (frames : Frames σ) : Steady (setFrames frames) := fun _ => rfl

theorem bind {x : BuildM σ α} {f : α → BuildM σ β} (hx : x.Steady) (hf : ∀ a, (f a).Steady) :
    Steady (x >>= f) := by
  intro w
  have hw := hx w
  cases hrun : x w with
  | ok a w₁ =>
      have hbind : (x >>= f) w = f a w₁ := by simp only [Bind.bind, EStateM.bind, hrun]
      rw [final_of_ok hrun] at hw
      rw [final, hbind]
      exact (hf a w₁).trans hw
  | error e w₁ =>
      have hbind : (x >>= f) w = .error e w₁ := by simp only [Bind.bind, EStateM.bind, hrun]
      rw [final_of_error hrun] at hw
      rw [final_of_error hbind]
      exact hw

theorem ite {c : Prop} [Decidable c] {x y : BuildM σ α} (hx : x.Steady) (hy : y.Steady) :
    Steady (if c then x else y) := by
  split
  · exact hx
  · exact hy

/-! ### Steps of the operations -/

theorem fillResult (artifact : Artifact) : Steady (fillResult op artifact : BuildM σ Unit) := by
  intro w
  unfold final BuildM.fillResult
  cases w.builder.result.isSome <;> rfl

theorem onNearestFunction (act : EStateM BuildError (FuncDraft σ × VarSupply) α) :
    Steady (onNearestFunction op act) := by
  intro w
  unfold final BuildM.onNearestFunction
  cases w.builder.frames.splitFunction? with
  | none => rfl
  | some split =>
      dsimp only
      cases act (split.2.1, w.supply) <;> rfl

theorem inFunctionScope (act : FuncDraft σ → Except BuildError (α × FuncDraft σ)) :
    Steady (inFunctionScope op act) := by
  intro w
  unfold final BuildM.inFunctionScope
  cases w.builder.frames.functionScope? with
  | none => cases w.builder.frames.any Frame.isFunction <;> rfl
  | some scope =>
      dsimp only
      cases act scope.2.1 <;> rfl

theorem inModuleScope (act : ModuleDraft → Except BuildError (α × ModuleDraft)) :
    Steady (inModuleScope op act : BuildM σ α) := by
  intro w
  unfold final BuildM.inModuleScope
  cases w.builder.frames.moduleScope? with
  | none => cases w.builder.frames.any Frame.isModule <;> rfl
  | some scope =>
      dsimp only
      cases act scope.1 <;> rfl

variable [Emitter σ]

theorem enterBlock (kind : BlockKind) : Steady (enterBlock kind : BuildM σ Unit) :=
  getBuilder.bind fun _ => (setFrames _).bind fun _ => onNearestFunction _

theorem enter (frame : Frame σ) : Steady (enter frame) := by
  refine getBuilder.bind fun b => ?_
  cases frame with
  | module m => exact (setFrames _).bind fun _ => pure _
  | function f => exact (setFrames _).bind fun _ => (enterBlock _).bind fun _ => pure _
  | block kind => exact (enterBlock _).bind fun _ => pure _

theorem leaveBlock (kind : BlockKind) : Steady (leaveBlock kind : BuildM σ Unit) :=
  getBuilder.bind fun _ => onNearestFunction _

theorem leaveFunction (f : FuncDraft σ) : Steady (leaveFunction f) :=
  getBuilder.bind fun _ => (lift _).bind fun _ =>
    ite (fillResult _) (ite (inModuleScope _) (throw _))

omit [Emitter σ] in
theorem leaveModule (m : ModuleDraft) : Steady (leaveModule m : BuildM σ Unit) :=
  (lift _).bind fun _ => fillResult _

theorem exitTop : Steady (exitTop op : BuildM σ Unit) := by
  refine getBuilder.bind fun b => ?_
  match b.frames with
  | [] => exact throw _
  | .module m :: below => exact (setFrames _).bind fun _ => leaveModule m
  | .function f :: below => exact (setFrames _).bind fun _ => leaveFunction f
  | .block kind :: below => exact (setFrames _).bind fun _ => leaveBlock kind

theorem closeHandle (handle : Scope) : Steady (closeHandle op handle : BuildM σ Unit) := by
  refine getBuilder.bind fun b => ?_
  match b.frames.innermostScope? with
  | none => exact throw _
  | some scope =>
      exact ite ((throw _).bind fun _ => ite (exitTop.bind fun _ => exitTop) exitTop)
        (ite (exitTop.bind fun _ => exitTop) exitTop)

end Steady

/-! ## The guard -/

/-- What is done with the value of a guarded computation may as well be done behind the guard. -/
theorem guarded_bind_pure {act : BuildM σ α} {f : α → β} :
    (guarded op act >>= fun a => pure (f a)) = guarded op (act >>= fun a => pure (f a)) := by
  funext w
  simp only [bind, EStateM.bind, guarded]
  cases w.builder.failed with
  | true => rfl
  | false =>
      simp only [Bool.false_eq_true, if_false]
      cases act w <;> rfl

theorem guarded_of_failed {act : BuildM σ α} {w : Workspace σ} (h : w.builder.failed = true) :
    guarded op act w = .error (.sessionFailed op) w := by
  rw [guarded, if_pos h]

/-- A success behind the guard leaves a session that has not failed. -/
theorem not_failed_of_guarded {act : BuildM σ α} (hact : act.Steady) {w w' : Workspace σ} {a : α}
    (h : guarded op act w = .ok a w') : w'.builder.failed = false := by
  obtain ⟨hfailed, hok⟩ := guarded_eq_ok.mp h
  rw [← final_of_ok hok, hact w, hfailed]

/-- An error behind the guard leaves a failed session. -/
theorem failed_of_guarded {act : BuildM σ α} {w w' : Workspace σ} {e : BuildError}
    (h : guarded op act w = .error e w') : w'.builder.failed = true := by
  rcases guarded_eq_error.mp h with ⟨hfailed, -, rfl⟩ | ⟨-, w₁, -, rfl⟩
  · exact hfailed
  · rfl

end BuildM

namespace Action

open BuildM

variable {σ : Type} [Emitter σ] {a : Action} {op : Operation} {w w' : Workspace σ}

variable (σ) in
/-- Every guarded operation is a computation behind the guard that leaves the mark alone. -/
theorem exists_guarded (h : a.guard? = some op) :
    ∃ act : BuildM σ Reply, act.Steady ∧ a.run = guarded op act := by
  have behind {α : Type} {act : BuildM σ α} {f : α → Reply} (hact : act.Steady) :
      ∃ act' : BuildM σ Reply, act'.Steady ∧
        (guarded op act >>= fun x => pure (f x)) = guarded op act' :=
    ⟨_, hact.bind fun _ => .pure _, guarded_bind_pure⟩
  cases a <;> cases h
  case openModule =>
    exact behind (.bind .getBuilder fun _ => .ite (.bind (.throw _) fun _ => .enter _) (.enter _))
  case openFunction => exact behind (.bind .getBuilder fun _ => .enter _)
  case openBlock =>
    exact behind (.bind .getBuilder fun _ => .ite (.bind (.throw _) fun _ => .enter _) (.enter _))
  case pushBlock => exact behind (.enter _)
  case close => exact behind (.closeHandle _)
  case closeScope =>
    refine behind (.bind .getBuilder fun b => ?_)
    match b.frames.innermostScope? with
    | none => exact .throw _
    | some scope => exact .closeHandle scope
  case register | update => exact behind (.inModuleScope _)
  case addParam => exact behind (.bind .getBuilder fun _ => .inFunctionScope _)
  case setName | setAttrs | setResultTy | addOutput => exact behind (.inFunctionScope _)
  case emit | emitKernelCall => exact behind (.onNearestFunction _)
  case setResult => exact behind (.fillResult _)

/-- A failed session refuses every guarded operation, and nothing changes. -/
theorem run_of_failed (h : a.guard? = some op) (hfailed : w.builder.failed = true) :
    a.run w = .error (.sessionFailed op) w := by
  obtain ⟨act, -, hrun⟩ := a.exists_guarded σ h
  rw [hrun, guarded_of_failed hfailed]

theorem not_failed_of_ok (h : a.guard? = some op) {reply : Reply} (hrun : a.run w = .ok reply w') :
    w.builder.failed = false := by
  refine Bool.of_not_eq_true fun hfailed => ?_
  cases hrun.symm.trans (run_of_failed h hfailed)

theorem not_failed_of_run (h : a.guard? = some op) {reply : Reply} (hrun : a.run w = .ok reply w') :
    w'.builder.failed = false := by
  obtain ⟨act, hact, hguarded⟩ := a.exists_guarded σ h
  rw [hguarded] at hrun
  exact not_failed_of_guarded hact hrun

theorem failed_of_run (h : a.guard? = some op) {e : BuildError} (hrun : a.run w = .error e w') :
    w'.builder.failed = true := by
  obtain ⟨act, -, hguarded⟩ := a.exists_guarded σ h
  rw [hguarded] at hrun
  exact failed_of_guarded hrun

end Action

end ScopedBuilder
