import ScopedBuilder.Proofs.InnermostScope

/-!
# What operations ask of the open scopes

An operation that fills a scope first looks for it: a function or a module that is the innermost scope, or a
function that is open at all. The lookups go by the shape of the stack; by position they ask for the logical
top, the scope that a close would end. Whatever else is wrong with an operation, a scope that is missing is
reported first.
-/

namespace ScopedBuilder

/-! ## Demands and refusals -/

/-- An error that says that a scope is not open, or not the innermost one. -/
def BuildError.isScopeError (e : BuildError) : Bool :=
  e.category = .scopeNotFound || e.category = .scopeNotImmediate

/-- What an operation asks of the open scopes. -/
inductive ScopeDemand where
  /-- The innermost scope is a function. -/
  | functionScope
  /-- The innermost scope is a module. -/
  | moduleScope
  /-- A function is open. -/
  | openFunction

def Action.demand? : Action → Option ScopeDemand
  | addParam .. | setName _ | setAttrs _ | setResultTy _ | addOutput _ => some .functionScope
  | register .. | update .. => some .moduleScope
  | emit _ | emitKernelCall .. | openBlock _ => some .openFunction
  | _ => none

namespace ScopeDemand

/-- Whether a demand is met by a stack whose frames have the given kinds, outermost first. -/
def Met (kinds : List ScopeKind) : ScopeDemand → Prop
  | functionScope => ∃ depth, IsLogicalTop kinds ⟨depth, .function⟩
  | moduleScope => ∃ depth, IsLogicalTop kinds ⟨depth, .module⟩
  | openFunction => .function ∈ kinds

/-- The error of an operation whose demand is not met: a scope of the kind is open further out, or there is
none. -/
def refusal (op : Operation) (kinds : List ScopeKind) : ScopeDemand → BuildError
  | functionScope => if .function ∈ kinds then .notImmediatelyInFunction op else .notInFunction op
  | moduleScope => if .module ∈ kinds then .notImmediatelyInModule op else .moduleNotFound op
  | openFunction => .notInFunction op

theorem isScopeError_refusal (demand : ScopeDemand) (op : Operation) (kinds : List ScopeKind) :
    (demand.refusal op kinds).isScopeError = true := by
  cases demand with
  | functionScope => by_cases hopen : .function ∈ kinds <;> simp only [refusal, hopen] <;> rfl
  | moduleScope => by_cases hopen : .module ∈ kinds <;> simp only [refusal, hopen] <;> rfl
  | openFunction => rfl

end ScopeDemand

/-! ## Scopes by position -/

namespace Frames

variable {σ : Type} {frames : Frames σ} {depth : Nat}

theorem function_mem_kinds : .function ∈ frames.kinds ↔ frames.any Frame.isFunction = true := by
  simp [kinds, any_isFunction_eq]

theorem module_mem_kinds : .module ∈ frames.kinds ↔ frames.any Frame.isModule = true := by
  simp [kinds, any_isModule_eq]

/-- The lookup of a function scope finds the function that is the logical top. -/
theorem Shaped.isLogicalTop_function_iff (h : frames.Shaped) :
    IsLogicalTop frames.kinds ⟨depth, .function⟩ ↔
      ∃ kind f below, frames = .block kind :: .function f :: below ∧ depth = below.length := by
  rw [← innermostScope?_eq_some_iff]
  constructor
  · intro hscope
    obtain ⟨kind, f, below, hframes, -, hdepth⟩ := h.exists_function hscope
    exact ⟨kind, f, below, hframes, hdepth⟩
  · rintro ⟨kind, f, below, rfl, rfl⟩
    rfl

theorem isLogicalTop_module_iff :
    IsLogicalTop frames.kinds ⟨depth, .module⟩ ↔
      ∃ m below, frames = .module m :: below ∧ depth = below.length := by
  rw [← innermostScope?_eq_some_iff]
  constructor
  · intro hscope
    match frames, hscope with
    | .module m :: below, rfl => exact ⟨m, below, rfl, rfl⟩
    | .block _ :: .module _ :: _, hscope | .block _ :: .block _ :: _, hscope => cases hscope
    | .block _ :: [], hscope => cases hscope
  · rintro ⟨m, below, rfl, rfl⟩
    rfl

theorem Shaped.functionScope?_eq_none (h : frames.Shaped)
    (hunmet : ¬ ScopeDemand.functionScope.Met frames.kinds) : frames.functionScope? = none := by
  refine Option.eq_none_iff_forall_ne_some.mpr ?_
  rintro ⟨kind, f, below⟩ hscope
  have hframes := functionScope?_eq_some_iff.mp hscope
  exact hunmet ⟨_, h.isLogicalTop_function_iff.mpr ⟨kind, f, below, hframes, rfl⟩⟩

theorem moduleScope?_eq_none (hunmet : ¬ ScopeDemand.moduleScope.Met frames.kinds) :
    frames.moduleScope? = none := by
  refine Option.eq_none_iff_forall_ne_some.mpr ?_
  rintro ⟨m, below⟩ hscope
  have hframes := moduleScope?_eq_some_iff.mp hscope
  exact hunmet ⟨_, isLogicalTop_module_iff.mpr ⟨m, below, hframes, rfl⟩⟩

end Frames

/-! ## What the emitter refuses -/

variable {σ : Type} [Emitter σ]

theorem FuncDraft.enterBlock_error {kind : BlockKind} {f f' : FuncDraft σ}
    {enclosing : Option BlockKind} {e : BuildError} (h : enterBlock kind enclosing f = .error e f') :
    ∃ cause, e = .emitter cause := by
  cases enclosing with
  | none => cases h
  | some outer =>
      rcases bind_eq_error.mp h with hend | ⟨_, _, -, hbegin⟩
      · exact endBlock_error hend
      · cases hbegin

theorem FuncDraft.emit_error {expr : Expr} {x x' : FuncDraft σ × VarSupply} {e : BuildError}
    (h : emit expr x = .error e x') : ∃ cause, e = .emitter cause := by
  unfold emit at h
  split at h
  split at h <;> cases h
  exact ⟨_, rfl⟩

/-! ## Demands that are not met -/

namespace Action

variable {w w' : Workspace σ} {a : Action} {op : Operation} {e : BuildError}

theorem run_of_no_functionScope (hdemand : a.demand? = some .functionScope) (hop : a.guard? = some op)
    (hfailed : w.builder.failed = false) (hnone : w.builder.frames.functionScope? = none) :
    a.run w = .error (ScopeDemand.functionScope.refusal op w.builder.frames.kinds) w.markFailed := by
  have hscope {α : Type} (act : FuncDraft σ → Except BuildError (α × FuncDraft σ)) :
      BuildM.inFunctionScope op act w =
        .error (ScopeDemand.functionScope.refusal op w.builder.frames.kinds) w := by
    refine BuildM.inFunctionScope_eq_error.mpr ⟨rfl, .inl ⟨hnone, ?_⟩⟩
    simp only [ScopeDemand.refusal, Frames.function_mem_kinds]
  cases a <;> cases hdemand <;> cases hop <;>
    simp [run, Builder.addParam, Builder.setName, Builder.setAttrs, Builder.setResultTy,
      Builder.addOutput, hfailed, hscope]

theorem run_of_no_moduleScope (hdemand : a.demand? = some .moduleScope) (hop : a.guard? = some op)
    (hfailed : w.builder.failed = false) (hnone : w.builder.frames.moduleScope? = none) :
    a.run w = .error (ScopeDemand.moduleScope.refusal op w.builder.frames.kinds) w.markFailed := by
  have hscope {α : Type} (act : ModuleDraft → Except BuildError (α × ModuleDraft)) :
      BuildM.inModuleScope op act w =
        .error (ScopeDemand.moduleScope.refusal op w.builder.frames.kinds) w := by
    refine BuildM.inModuleScope_eq_error.mpr ⟨rfl, .inl ⟨hnone, ?_⟩⟩
    simp only [ScopeDemand.refusal, Frames.module_mem_kinds]
  cases a <;> cases hdemand <;> cases hop <;>
    simp [run, Builder.register, Builder.update, hfailed, hscope]

theorem run_of_no_function (hdemand : a.demand? = some .openFunction) (hop : a.guard? = some op)
    (hfailed : w.builder.failed = false) (hnone : w.builder.frames.any Frame.isFunction = false) :
    a.run w = .error (ScopeDemand.openFunction.refusal op w.builder.frames.kinds) w.markFailed := by
  have hsplit := Frames.splitFunction?_eq_none_iff.mpr hnone
  have hnearest {α : Type} (act : EStateM BuildError (FuncDraft σ × VarSupply) α) :
      BuildM.onNearestFunction op act w = .error (.notInFunction op) w :=
    BuildM.onNearestFunction_eq_error.mpr (.inl ⟨hsplit, rfl, rfl⟩)
  cases a <;> cases hdemand <;> cases hop
  case openBlock =>
    simp [run, Builder.openBlock, hfailed, hnone, ScopeDemand.refusal, -List.any_eq_false]
  case emit | emitKernelCall =>
    simp [run, Builder.emitKernelCall, Builder.emit, hfailed, hnearest, ScopeDemand.refusal]

/-- An operation whose demand is not met fails with its refusal. -/
theorem run_of_not_met {demand : ScopeDemand} (hdemand : a.demand? = some demand)
    (hop : a.guard? = some op) (hfailed : w.builder.failed = false) (hshape : w.builder.frames.Shaped)
    (hunmet : ¬ demand.Met w.builder.frames.kinds) :
    a.run w = .error (demand.refusal op w.builder.frames.kinds) w.markFailed := by
  cases demand with
  | functionScope =>
      exact run_of_no_functionScope hdemand hop hfailed (hshape.functionScope?_eq_none hunmet)
  | moduleScope => exact run_of_no_moduleScope hdemand hop hfailed (Frames.moduleScope?_eq_none hunmet)
  | openFunction =>
      rw [ScopeDemand.Met, Frames.function_mem_kinds, Bool.not_eq_true] at hunmet
      exact run_of_no_function hdemand hop hfailed hunmet

/-! ## Demands that are met -/

omit [Emitter σ] in
theorem exists_functionEdit (h : a.demand? = some .functionScope) (renamers : Renamers) :
    ∃ edit : FuncDraft σ → Except BuildError (Reply × FuncDraft σ),
      a.functionEdit? renamers = some edit := by
  cases a <;> cases h <;> exact ⟨_, rfl⟩

theorem exists_moduleEdit (h : a.demand? = some .moduleScope) :
    ∃ edit, a.moduleEdit? = some edit := by
  cases a <;> cases h <;> exact ⟨_, rfl⟩

omit [Emitter σ] in
/-- No part of a function is refused for a scope. -/
theorem functionEdit_isScopeError {renamers : Renamers}
    {edit : FuncDraft σ → Except BuildError (Reply × FuncDraft σ)} {f : FuncDraft σ}
    (h : a.functionEdit? renamers = some edit) (hedit : edit f = .error e) :
    e.isScopeError = false := by
  cases a <;> simp only [functionEdit?, Option.some.injEq, reduceCtorEq] at h <;> subst h
  case addParam name v =>
    rcases except_bind_eq_error.mp hedit with hrenamed | ⟨named, -, hparam⟩
    · unfold Builder.renamed at hrenamed
      split at hrenamed <;> cases hrenamed
      rfl
    · cases named <;> cases hparam <;> rfl
  case setName =>
    have hname := map_eq_error.mp hedit
    unfold FuncDraft.setName at hname
    split at hname <;> cases hname
    rfl
  case setAttrs =>
    have hattrs := map_eq_error.mp hedit
    unfold FuncDraft.setAttrs at hattrs
    split at hattrs <;> cases hattrs
    rfl
  case setResultTy =>
    have hresult := map_eq_error.mp hedit
    unfold FuncDraft.setResult at hresult
    split at hresult <;> cases hresult
    rfl
  case addOutput => cases hedit

/-- No definition in a module is refused for a scope. -/
theorem moduleEdit_isScopeError {edit : ModuleDraft → Except BuildError (Reply × ModuleDraft)}
    {m : ModuleDraft} (h : a.moduleEdit? = some edit) (hedit : edit m = .error e) :
    e.isScopeError = false := by
  cases a <;> simp only [moduleEdit?, Option.some.injEq, reduceCtorEq] at h <;> subst h
  case register =>
    have hregister := map_eq_error.mp hedit
    unfold ModuleDraft.register at hregister
    split at hregister
    · cases hregister
      rfl
    · dsimp only at hregister
      split at hregister <;> cases hregister
  case update =>
    have hupdate := map_eq_error.mp hedit
    unfold ModuleDraft.update at hupdate
    split at hupdate
    · cases hupdate
      rfl
    · split at hupdate <;> cases hupdate
      rfl

section Edits

omit [Emitter σ]

variable {α : Type} {toReply : α → Reply} {kind : BlockKind} {f : FuncDraft σ} {below : Frames σ}

/-- An edit of the function on top that fails, seen through its reply. -/
theorem inFunctionScope_reply_error {act : FuncDraft σ → Except BuildError (α × FuncDraft σ)}
    (hfailed : w.builder.failed = false)
    (hframes : w.builder.frames = .block kind :: .function f :: below) (hact : act f = .error e) :
    (BuildM.guarded op (BuildM.inFunctionScope op act) >>= fun a => pure (toReply a)) w =
      .error e w.markFailed := by
  have hscope := Frames.functionScope?_eq_some_iff.mpr hframes
  have hin : BuildM.inFunctionScope op act w = .error e w :=
    BuildM.inFunctionScope_eq_error.mpr ⟨rfl, .inr ⟨kind, f, below, hscope, hact⟩⟩
  simp [hfailed, hin]

end Edits

theorem run_functionEdit_error {edit : FuncDraft σ → Except BuildError (Reply × FuncDraft σ)}
    (h : a.functionEdit? w.builder.renamers = some edit) (hfailed : w.builder.failed = false)
    {kind : BlockKind} {f : FuncDraft σ} {below : Frames σ}
    (hframes : w.builder.frames = .block kind :: .function f :: below) (hedit : edit f = .error e) :
    a.run w = .error e w.markFailed := by
  cases a <;> simp only [functionEdit?, Option.some.injEq, reduceCtorEq] at h <;> subst h
  case addParam name v =>
    rw [run_addParam]
    refine inFunctionScope_reply_error hfailed hframes ?_
    cases hrenamed : Builder.renamed w.builder.renamers (.var v) name with
    | error cause =>
        rw [hrenamed] at hedit
        cases hedit
        rfl
    | ok named =>
        rw [hrenamed] at hedit
        cases named <;> cases hedit <;> rfl
  case addOutput => cases hedit
  case setName | setAttrs | setResultTy =>
    exact inFunctionScope_reply_error hfailed hframes (map_eq_error.mpr (map_eq_error.mp hedit))

/-- An operation on a function edits the function that is the logical top, and nothing else. -/
theorem run_functionEdit_eq {edit : FuncDraft σ → Except BuildError (Reply × FuncDraft σ)}
    (h : a.functionEdit? w.builder.renamers = some edit) (hfailed : w.builder.failed = false)
    {kind : BlockKind} {f : FuncDraft σ} {below : Frames σ}
    (hframes : w.builder.frames = .block kind :: .function f :: below) :
    a.run w =
      match edit f with
      | .ok (reply, f') => .ok reply (w.withFrames (.block kind :: .function f' :: below))
      | .error e => .error e w.markFailed := by
  cases hedit : edit f with
  | error e => exact run_functionEdit_error h hfailed hframes hedit
  | ok edited =>
      obtain ⟨reply, f'⟩ := edited
      exact (run_functionEdit h).mpr ⟨hfailed, kind, f, below, f', hframes, hedit, rfl⟩

theorem isScopeError_of_functionScope {w' : Workspace σ} {kind : BlockKind} {f : FuncDraft σ}
    {below : Frames σ} (hdemand : a.demand? = some .functionScope) (hfailed : w.builder.failed = false)
    (hframes : w.builder.frames = .block kind :: .function f :: below)
    (h : a.run w = .error e w') : e.isScopeError = false := by
  obtain ⟨edit, hedit⟩ := exists_functionEdit hdemand w.builder.renamers
  rw [run_functionEdit_eq hedit hfailed hframes] at h
  split at h
  · cases h
  · rename_i hcause
    cases h
    exact functionEdit_isScopeError hedit hcause

theorem isScopeError_of_moduleScope {w' : Workspace σ} {m : ModuleDraft} {below : Frames σ}
    (hdemand : a.demand? = some .moduleScope) (hfailed : w.builder.failed = false)
    (hframes : w.builder.frames = .module m :: below) (h : a.run w = .error e w') :
    e.isScopeError = false := by
  obtain ⟨edit, hedit⟩ := exists_moduleEdit hdemand
  cases hm : edit m with
  | error cause =>
      cases h.symm.trans (run_moduleEdit_error hedit hfailed hframes hm)
      exact moduleEdit_isScopeError hedit hm
  | ok edited =>
      have hok := (run_moduleEdit hedit).mpr ⟨hfailed, m, below, edited.2, hframes, hm, rfl⟩
      cases h.symm.trans hok

/-- Where a function is open, only its emitter can refuse a binding or a block. -/
theorem isScopeError_of_openFunction {w' : Workspace σ} {above below : Frames σ} {f : FuncDraft σ}
    (hdemand : a.demand? = some .openFunction) (hfailed : w.builder.failed = false)
    (hsplit : w.builder.frames.splitFunction? = some (above, f, below))
    (h : a.run w = .error e w') : e.isScopeError = false := by
  have hemit {expr : Expr} {v : Var → Reply}
      (h : (Builder.emit expr >>= fun x => pure (v x)) w = .error e w') : e.isScopeError = false := by
    simp only [bind_eq_error, pure_eq_error, and_false, exists_false, or_false, Builder.emit,
      BuildM.guarded_eq_error, hfailed, Bool.false_eq_true, false_and, false_or, true_and,
      BuildM.onNearestFunction_eq_error, hsplit, reduceCtorEq, Option.some.injEq, Prod.mk.injEq] at h
    obtain ⟨_, ⟨_, f, _, f', supply, -, herror, -⟩, -⟩ := h
    obtain ⟨cause, rfl⟩ := FuncDraft.emit_error herror
    rfl
  have hany : w.builder.frames.any Frame.isFunction = true := by
    rw [← Bool.not_eq_false, ← Frames.splitFunction?_eq_none_iff, hsplit]
    exact Option.some_ne_none _
  cases a <;> cases hdemand
  case emit => exact hemit h
  case emitKernelCall => exact hemit h
  case openBlock kind =>
    simp only [run, bind_eq_error, pure_eq_error, and_false, exists_false, or_false,
      Builder.openBlock, BuildM.guarded_eq_error, hfailed, Bool.false_eq_true, false_and, false_or,
      true_and, BuildM.getBuilder_bind, hany, Bool.not_true, if_false] at h
    obtain ⟨w₁, henter, -⟩ := h
    rcases BuildM.enterBlock_eq_error.mp (BuildM.enter_block_eq_error.mp henter) with
      ⟨hnone, -⟩ | ⟨_, g, _, g', -, herror, -⟩
    · cases hsplit.symm.trans hnone
    · obtain ⟨cause, rfl⟩ := FuncDraft.enterBlock_error herror
      rfl

end Action

/-! ## The checks in a session -/

/-- In every session that has not failed, with whatever emitter, an operation that fills a function or a
module passes its scope check exactly if the logical top, which a close would end, is such a scope, and a
binding or a block exactly if some function is open. An operation that does not pass fails with the refusal
of its demand, whatever else is wrong with it: a scope of the kind is open further out, or none is open. An
operation that fills a function and passes works on the very function that is the logical top. -/
theorem scope_checks_agree (config : Config) (newEmitter : Config → σ) (supply : VarSupply)
    (events : List Event) (a : Action) (demand : ScopeDemand) :
    let w := (⟨.new config newEmitter, supply⟩ : Workspace σ).after events
    w.builder.failed = false → a.demand? = some demand →
      (demand.Met w.builder.frameKinds ↔
        ∀ e w', a.run w = .error e w' → e.isScopeError = false) ∧
      (∃ op, a.guard? = some op ∧ (¬ demand.Met w.builder.frameKinds →
        a.run w = .error (demand.refusal op w.builder.frameKinds) w.markFailed)) ∧
      ∀ edit : FuncDraft σ → Except BuildError (Reply × FuncDraft σ),
        a.functionEdit? w.builder.renamers = some edit →
        ∀ depth, IsLogicalTop w.builder.frameKinds ⟨depth, .function⟩ →
          ∃ kind f below, w.builder.frames = .block kind :: .function f :: below ∧
            below.length = depth ∧
            a.run w =
              match edit f with
              | .ok (reply, f') => .ok reply (w.withFrames (.block kind :: .function f' :: below))
              | .error e => .error e w.markFailed := by
  intro w hfailed hdemand
  obtain ⟨hshape, -⟩ := Workspace.nested_after config newEmitter supply events hfailed
  obtain ⟨op, hop⟩ : ∃ op, a.guard? = some op := by
    clear_value w
    cases a <;> cases hdemand <;> exact ⟨_, rfl⟩
  refine ⟨⟨?_, ?_⟩, ⟨op, hop, Action.run_of_not_met hdemand hop hfailed hshape⟩, ?_⟩
  · intro hmet e w' herror
    cases demand with
    | functionScope =>
        obtain ⟨depth, htop⟩ := hmet
        obtain ⟨kind, f, below, hframes, -⟩ := hshape.isLogicalTop_function_iff.mp htop
        exact Action.isScopeError_of_functionScope hdemand hfailed hframes herror
    | moduleScope =>
        obtain ⟨depth, htop⟩ := hmet
        obtain ⟨m, below, hframes, -⟩ := Frames.isLogicalTop_module_iff.mp htop
        exact Action.isScopeError_of_moduleScope hdemand hfailed hframes herror
    | openFunction =>
        have hopen := Frames.function_mem_kinds.mp hmet
        cases hsplit : w.builder.frames.splitFunction? with
        | none => simp [Frames.splitFunction?_eq_none_iff.mp hsplit] at hopen
        | some split => exact Action.isScopeError_of_openFunction hdemand hfailed hsplit herror
  · intro hpass
    by_contra hunmet
    have hrefusal := hpass _ _ (Action.run_of_not_met hdemand hop hfailed hshape hunmet)
    rw [ScopeDemand.isScopeError_refusal] at hrefusal
    cases hrefusal
  · intro edit hedit depth htop
    obtain ⟨kind, f, below, hframes, hdepth⟩ := hshape.isLogicalTop_function_iff.mp htop
    exact ⟨kind, f, below, hframes, hdepth.symm, Action.run_functionEdit_eq hedit hfailed hframes⟩

/-- In a module inside a function, a second name for the function is refused for the scope and not as a
duplicate. -/
theorem scope_checks_agree_in_module :
    let w := (Workspace.new {} ⟨0⟩).after
      [.action .openFunction, .action (.setName "f"), .action .openModule]
    w.builder.failed = false ∧ (Action.setName "g").demand? = some .functionScope ∧
      (Action.setName "g").run w = .error (.notImmediatelyInFunction .setName) w.markFailed := by
  intro w
  obtain ⟨-, ⟨op, hop, hrefused⟩, -⟩ := scope_checks_agree {} BlockWriter.ofConfig ⟨0⟩
    [.action .openFunction, .action (.setName "f"), .action .openModule] (.setName "g") .functionScope
    rfl rfl
  cases hop
  refine ⟨rfl, rfl, hrefused ?_⟩
  rintro ⟨depth, htop⟩
  have hmodule : IsLogicalTop w.builder.frameKinds ⟨2, .module⟩ := .frame [.function, .block] nofun
  cases htop.unique hmodule

end ScopedBuilder
