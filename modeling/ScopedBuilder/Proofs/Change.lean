import ScopedBuilder.Builder.Action
import ScopedBuilder.Proofs.Scope

/-!
# What a successful operation changes

One rule for each way in which an operation changes the workspace. Operations that work on a scope in
the same way share a rule; the rules say what becomes of the frames, the result and the supply.
-/

namespace ScopedBuilder

namespace Action

variable {σ : Type}

/-- The kind of the block that an operation opens. -/
def opens? : Action → Option BlockKind
  | openBlock kind | pushBlock kind => some kind
  | _ => none

/-- The expression that an operation binds. -/
def binds? : Action → Option Expr
  | emit e => some e
  | emitKernelCall kernel args dims element packed =>
    some (.kernelCall kernel args dims element packed)
  | _ => none

/-- Whether an operation closes a scope, if that is the innermost one. -/
def closes (scope : Scope) : Action → Bool
  | close handle => handle = scope
  | closeScope => true
  | _ => false

/-- What an operation does to the module whose scope is the innermost one. -/
def moduleEdit? : Action → Option (ModuleDraft → Except BuildError (Reply × ModuleDraft))
  | register name f allowRename =>
    some fun m => (m.register name f allowRename .register).map fun (g, m) => (.global g, m)
  | update name f first => some fun m => (m.update name f first .update).map (.done, ·)
  | _ => none

/-- What an operation does to the function whose scope is the innermost one. -/
def functionEdit? (renamers : Renamers) :
    Action → Option (FuncDraft σ → Except BuildError (Reply × FuncDraft σ))
  | addParam name v => some fun f => do
    match ← Builder.renamed renamers (.var v) name with
    | .var v => .ok (.var v, { f with params := f.params ++ [v] })
    | e => .error (.noRenamer e.kind name)
  | setName name => some fun f => (f.setName name).map (.done, ·)
  | setAttrs attrs => some fun f => (f.setAttrs attrs).map (.done, ·)
  | setResultTy ty => some fun f => (f.setResult ty).map (.ty ty, ·)
  | addOutput e => some fun f => .ok (.done, { f with outputs := f.outputs ++ [e] })
  | _ => none

end Action

variable {σ : Type} [Emitter σ]

/-- A success of an operation on a workspace that has not failed, with the reply and what becomes of the
workspace. -/
inductive Change (w : Workspace σ) : Action → Reply → Workspace σ → Prop where
  | openModule : w.builder.frames.any Frame.isModule = false →
      Change w .openModule (.scope ⟨w.builder.depth, .module⟩)
        (w.withFrames (.module (.new w.builder.config.nameScheme) :: w.builder.frames))
  | openFunction :
      Change w .openFunction (.scope ⟨w.builder.depth, .function⟩)
        (w.withFrames (.block .ordinary ::
          .function ((FuncDraft.new (w.builder.newEmitter w.builder.config)).beginBlock .ordinary) ::
          w.builder.frames))
  | openBlock {a : Action} {kind : BlockKind} {above below : Frames σ} {f f' : FuncDraft σ} :
      a.opens? = some kind → w.builder.frames.splitFunction? = some (above, f, below) →
      FuncDraft.enterBlock kind w.builder.frames.topBlock? f = .ok () f' →
      Change w a (.scope ⟨w.builder.depth, .block⟩)
        (w.withFrames (.block kind :: (above ++ .function f' :: below)))
  | close {a : Action} {scope : Scope} {w' : Workspace σ} :
      a.closes scope = true → w.builder.frames.innermostScope? = some scope → Closing w w' →
      Change w a .done w'
  | abort : Change w .abort (.dropped w.builder.depth)
      (if w.builder.frames.isEmpty then w else (w.withFrames []).markFailed)
  | editModule {a : Action} {edit : ModuleDraft → Except BuildError (Reply × ModuleDraft)}
      {reply : Reply} {m m' : ModuleDraft} {below : Frames σ} :
      a.moduleEdit? = some edit → w.builder.frames = .module m :: below →
      edit m = .ok (reply, m') → Change w a reply (w.withFrames (.module m' :: below))
  | editFunction {a : Action} {edit : FuncDraft σ → Except BuildError (Reply × FuncDraft σ)}
      {reply : Reply} {kind : BlockKind} {f f' : FuncDraft σ} {below : Frames σ} :
      a.functionEdit? w.builder.renamers = some edit →
      w.builder.frames = .block kind :: .function f :: below → edit f = .ok (reply, f') →
      Change w a reply (w.withFrames (.block kind :: .function f' :: below))
  | emit {a : Action} {e : Expr} {v : Var} {above below : Frames σ} {f f' : FuncDraft σ}
      {supply : VarSupply} :
      a.binds? = some e → w.builder.frames.splitFunction? = some (above, f, below) →
      FuncDraft.emit e (f, w.supply) = .ok v (f', supply) →
      Change w a (.var v)
        { w.withFrames (above ++ .function f' :: below) with supply := supply }
  | setResult (artifact : Artifact) : w.builder.result = none →
      Change w (.setResult artifact) .done (w.withResult (some artifact))
  | takeResult :
      Change w .takeResult
        (.artifact (if w.builder.frames.isEmpty then w.builder.result else none))
        (if w.builder.frames.isEmpty then w.withResult none else w)
  | setRenamers (renamers : Renamers) :
      Change w (.setRenamers renamers) .done (w.withRenamers renamers)
  | registerRenamer (kind : ExprKind) (renamer : Renamer) :
      Change w (.registerRenamer kind renamer)
        (.replaced (w.builder.renamers.register kind renamer).1)
        (w.withRenamers (w.builder.renamers.register kind renamer).2)
  | rename {e e' : Expr} {name : String} : Builder.renamed w.builder.renamers e name = .ok e' →
      Change w (.rename e name) (.expr e') w

/-! ## Operations that fill the scopes -/

open BuildM

variable {w w' : Workspace σ} {a : Action} {reply : Reply}

namespace Builder

theorem emit_eq_ok {e : Expr} {v : Var} :
    emit e w = .ok v w' ↔
      w.builder.failed = false ∧ ∃ above f below f' supply,
        w.builder.frames.splitFunction? = some (above, f, below) ∧
        FuncDraft.emit e (f, w.supply) = .ok v (f', supply) ∧
        w' = { w.withFrames (above ++ .function f' :: below) with supply := supply } := by
  rw [emit, guarded_eq_ok, onNearestFunction_eq_ok]

omit [Emitter σ]

theorem setResult_eq_ok {artifact : Artifact} :
    setResult artifact w = .ok () w' ↔
      w.builder.failed = false ∧ w.builder.result = none ∧
      w' = w.withResult (some artifact) := by
  rw [setResult, guarded_eq_ok, fillResult_eq_ok]

theorem takeResult_eq_ok {artifact : Option Artifact} :
    takeResult w = .ok artifact w' ↔
      artifact = (if w.builder.frames.isEmpty then w.builder.result else none) ∧
      w' = if w.builder.frames.isEmpty then w.withResult none else w := by
  unfold takeResult
  cases w.builder.frames.isEmpty with
  | true => simp [eq_comm]
  | false => simp [eq_comm]

end Builder

/-! ## Families of operations -/

namespace Action

section Edits

omit [Emitter σ]

variable {α : Type} {op : Operation} {toReply : α → Reply}

/-- An edit of the module on top, seen through its reply. -/
theorem inModuleScope_reply {act : ModuleDraft → Except BuildError (α × ModuleDraft)} :
    (guarded op (inModuleScope op act) >>= fun a => pure (toReply a)) w = .ok reply w' ↔
      w.builder.failed = false ∧ ∃ m below m', w.builder.frames = .module m :: below ∧
        (act m).map (fun (a, m) => (toReply a, m)) = .ok (reply, m') ∧
        w' = w.withFrames (.module m' :: below) := by
  simp only [bind_pure_eq_ok, guarded_eq_ok, inModuleScope_eq_ok, Frames.moduleScope?_eq_some_iff,
    map_eq_ok]
  constructor
  · rintro ⟨a, ⟨hfailed, m, below, m', hframes, hact, rfl⟩, rfl⟩
    exact ⟨hfailed, m, below, m', hframes, ⟨(a, m'), hact, rfl⟩, rfl⟩
  · rintro ⟨hfailed, m, below, _, hframes, ⟨⟨a, m'⟩, hact, heq⟩, rfl⟩
    cases heq
    exact ⟨a, ⟨hfailed, m, below, m', hframes, hact, rfl⟩, rfl⟩

/-- An edit of the function on top, seen through its reply. -/
theorem inFunctionScope_reply {act : FuncDraft σ → Except BuildError (α × FuncDraft σ)} :
    (guarded op (inFunctionScope op act) >>= fun a => pure (toReply a)) w = .ok reply w' ↔
      w.builder.failed = false ∧ ∃ kind f below f',
        w.builder.frames = .block kind :: .function f :: below ∧
        (act f).map (fun (a, f) => (toReply a, f)) = .ok (reply, f') ∧
        w' = w.withFrames (.block kind :: .function f' :: below) := by
  simp only [bind_pure_eq_ok, guarded_eq_ok, inFunctionScope_eq_ok,
    Frames.functionScope?_eq_some_iff, map_eq_ok]
  constructor
  · rintro ⟨a, ⟨hfailed, kind, f, below, f', hframes, hact, rfl⟩, rfl⟩
    exact ⟨hfailed, kind, f, below, f', hframes, ⟨(a, f'), hact, rfl⟩, rfl⟩
  · rintro ⟨hfailed, kind, f, below, _, hframes, ⟨⟨a, f'⟩, hact, heq⟩, rfl⟩
    cases heq
    exact ⟨a, ⟨hfailed, kind, f, below, f', hframes, hact, rfl⟩, rfl⟩

end Edits

theorem run_moduleEdit {edit : ModuleDraft → Except BuildError (Reply × ModuleDraft)}
    (h : a.moduleEdit? = some edit) :
    a.run w = .ok reply w' ↔
      w.builder.failed = false ∧ ∃ m below m', w.builder.frames = .module m :: below ∧
        edit m = .ok (reply, m') ∧ w' = w.withFrames (.module m' :: below) := by
  cases a <;> simp only [moduleEdit?, Option.some.injEq, reduceCtorEq] at h <;> subst h
  case register => exact inModuleScope_reply
  case update =>
    rw [run, Builder.update, inModuleScope_reply]
    simp only [map_map]

theorem run_moduleEdit_error {edit : ModuleDraft → Except BuildError (Reply × ModuleDraft)}
    (h : a.moduleEdit? = some edit) (hfailed : w.builder.failed = false) {m : ModuleDraft}
    {below : Frames σ} (hframes : w.builder.frames = .module m :: below) {e : BuildError}
    (hedit : edit m = .error e) : a.run w = .error e w.markFailed := by
  cases a <;> simp only [moduleEdit?, Option.some.injEq, reduceCtorEq] at h <;> subst h <;>
    simp_all [run, Builder.register, Builder.update]

/-- The renamers are those of the session. -/
theorem run_addParam (name : String) (v : Var) :
    (addParam name v).run w =
      (guarded .addParam (inFunctionScope .addParam fun f => do
        match ← Builder.renamed w.builder.renamers (.var v) name with
        | .var v => .ok (v, { f with params := f.params ++ [v] })
        | e => .error (.noRenamer e.kind name)) >>= fun v => pure (.var v)) w := rfl

theorem run_functionEdit {edit : FuncDraft σ → Except BuildError (Reply × FuncDraft σ)}
    (h : a.functionEdit? w.builder.renamers = some edit) :
    a.run w = .ok reply w' ↔
      w.builder.failed = false ∧ ∃ kind f below f',
        w.builder.frames = .block kind :: .function f :: below ∧ edit f = .ok (reply, f') ∧
        w' = w.withFrames (.block kind :: .function f' :: below) := by
  cases a <;> simp only [functionEdit?, Option.some.injEq, reduceCtorEq] at h <;> subst h
  case addParam name v =>
    rw [run_addParam, inFunctionScope_reply]
    cases Builder.renamed w.builder.renamers (.var v) name with
    | error e => exact Iff.rfl
    | ok e => cases e <;> exact Iff.rfl
  case addOutput => exact inFunctionScope_reply
  case setName =>
    rw [run, Builder.setName, inFunctionScope_reply]
    simp only [map_map]
  case setAttrs =>
    rw [run, Builder.setAttrs, inFunctionScope_reply]
    simp only [map_map]
  case setResultTy =>
    rw [run, Builder.setResultTy, inFunctionScope_reply]
    simp only [map_map]

theorem run_opens {kind : BlockKind} (h : a.opens? = some kind) :
    a.run w = .ok reply w' ↔
      w.builder.failed = false ∧
      ∃ handle, enter (.block kind) w = .ok handle w' ∧ reply = .scope handle := by
  cases a <;> simp only [opens?, Option.some.injEq, reduceCtorEq] at h <;> subst h
  case openBlock =>
    simp only [run, bind_pure_eq_ok, Builder.openBlock_eq_ok, and_assoc, exists_and_left]
  case pushBlock =>
    simp only [run, bind_pure_eq_ok, Builder.pushBlock_eq_ok, and_assoc, exists_and_left]

theorem run_binds {e : Expr} (h : a.binds? = some e) :
    a.run w = .ok reply w' ↔ ∃ v, Builder.emit e w = .ok v w' ∧ reply = .var v := by
  cases a <;> simp only [binds?, Option.some.injEq, reduceCtorEq] at h <;> subst h
  case emit => exact bind_pure_eq_ok
  case emitKernelCall => exact bind_pure_eq_ok

/-- A close ends the innermost scope, whether it names that or not. -/
theorem run_closes_eq_ok (hshape : w.builder.frames.Shaped) {scope : Scope}
    (hscope : w.builder.frames.innermostScope? = some scope) (h : a.closes scope = true) :
    a.run w = .ok reply w' ↔ w.builder.failed = false ∧ reply = .done ∧ Closing w w' := by
  cases a <;> simp only [closes, Bool.false_eq_true, decide_eq_true_eq] at h
  case close handle =>
    subst h
    rw [run, bind_pure_eq_ok]
    constructor
    · rintro ⟨_, hclose, rfl⟩
      obtain ⟨hfailed, -, hclosing⟩ := (Builder.close_eq_ok_iff hshape).mp hclose
      exact ⟨hfailed, rfl, hclosing⟩
    · rintro ⟨hfailed, rfl, hclosing⟩
      exact ⟨(), (Builder.close_eq_ok_iff hshape).mpr ⟨hfailed, hscope, hclosing⟩, rfl⟩
  case closeScope =>
    rw [run, bind_pure_eq_ok]
    constructor
    · rintro ⟨_, hclose, rfl⟩
      obtain ⟨hfailed, _, -, hclosing⟩ := (Builder.closeScope_eq_ok_iff hshape).mp hclose
      exact ⟨hfailed, rfl, hclosing⟩
    · rintro ⟨hfailed, rfl, hclosing⟩
      exact ⟨(), (Builder.closeScope_eq_ok_iff hshape).mpr ⟨hfailed, scope, hscope, hclosing⟩, rfl⟩

theorem not_failed_of_closes {scope : Scope} (h : a.closes scope = true)
    (hrun : a.run w = .ok reply w') : w.builder.failed = false := by
  cases a <;> simp only [closes, Bool.false_eq_true] at h
  case close handle =>
    obtain ⟨_, hclose, -⟩ := bind_pure_eq_ok.mp hrun
    exact (guarded_eq_ok.mp hclose).1
  case closeScope =>
    obtain ⟨_, hclose, -⟩ := bind_pure_eq_ok.mp hrun
    exact (guarded_eq_ok.mp hclose).1

/-- A close succeeds or fails as leaving the frames of the scope does; an error ends the session. -/
theorem run_closes {scope : Scope} (h : a.closes scope = true) (hfailed : w.builder.failed = false)
    (hscope : w.builder.frames.innermostScope? = some scope) :
    ∃ op, (∀ w', exitScope op scope.kind w = .ok () w' → a.run w = .ok .done w') ∧
      ∀ e w', exitScope op scope.kind w = .error e w' → a.run w = .error e w'.markFailed := by
  cases a <;> simp only [closes, Bool.false_eq_true, decide_eq_true_eq] at h
  case close handle =>
    subst h
    refine ⟨.close, ?_, ?_⟩
    · intro w' hexit
      have hclose := closeHandle_eq_ok.mpr ⟨hscope, hexit⟩
      exact bind_pure_eq_ok.mpr ⟨(), guarded_eq_ok.mpr ⟨hfailed, hclose⟩, rfl⟩
    · intro e w' hexit
      have hclose := closeHandle_eq_error.mpr (.inr (.inr ⟨hscope, hexit⟩))
      simp [run, Builder.close, hfailed, hclose]
  case closeScope =>
    refine ⟨.closeScope, ?_, ?_⟩
    · intro w' hexit
      have hclose := closeHandle_eq_ok.mpr ⟨hscope, hexit⟩
      simp [run, Builder.closeScope, hfailed, hscope, hclose]
    · intro e w' hexit
      have hclose := closeHandle_eq_error.mpr (.inr (.inr ⟨hscope, hexit⟩))
      simp [run, Builder.closeScope, hfailed, hscope, hclose]

end Action

/-! ## Successes and changes -/

/-- Every success of an operation is a change. -/
theorem Change.of_run (hshape : w.builder.frames.Shaped) (h : a.run w = .ok reply w') :
    Change w a reply w' := by
  cases a with
  | openModule =>
      obtain ⟨_, hopen, rfl⟩ := bind_pure_eq_ok.mp h
      obtain ⟨-, hmodule, rfl, rfl⟩ := Builder.openModule_eq_ok.mp hopen
      exact .openModule hmodule
  | openFunction =>
      obtain ⟨_, hopen, rfl⟩ := bind_pure_eq_ok.mp h
      obtain ⟨-, rfl, rfl⟩ := Builder.openFunction_eq_ok.mp hopen
      exact .openFunction
  | openBlock | pushBlock =>
      obtain ⟨-, _, hopen, rfl⟩ := (Action.run_opens rfl).mp h
      obtain ⟨rfl, above, f, below, f', hsplit, henter, rfl⟩ := enter_block_eq_ok.mp hopen
      exact .openBlock rfl hsplit henter
  | close handle =>
      obtain ⟨_, hclose, rfl⟩ := bind_pure_eq_ok.mp h
      obtain ⟨-, hscope, hclosing⟩ := (Builder.close_eq_ok_iff hshape).mp hclose
      exact .close (decide_eq_true rfl) hscope hclosing
  | closeScope =>
      obtain ⟨_, hclose, rfl⟩ := bind_pure_eq_ok.mp h
      obtain ⟨-, scope, hscope, hclosing⟩ := (Builder.closeScope_eq_ok_iff hshape).mp hclose
      exact .close rfl hscope hclosing
  | abort =>
      obtain ⟨_, habort, rfl⟩ := bind_pure_eq_ok.mp h
      obtain ⟨rfl, rfl⟩ := Builder.abort_eq_ok.mp habort
      exact .abort
  | register | update =>
      obtain ⟨-, m, below, m', hframes, hedit, rfl⟩ := (Action.run_moduleEdit rfl).mp h
      exact .editModule rfl hframes hedit
  | addParam | setName | setAttrs | setResultTy | addOutput =>
      obtain ⟨-, kind, f, below, f', hframes, hedit, rfl⟩ := (Action.run_functionEdit rfl).mp h
      exact .editFunction rfl hframes hedit
  | emit | emitKernelCall =>
      obtain ⟨v, hrun, rfl⟩ := (Action.run_binds rfl).mp h
      obtain ⟨-, above, f, below, f', supply, hsplit, hemit, rfl⟩ := Builder.emit_eq_ok.mp hrun
      exact .emit rfl hsplit hemit
  | setResult artifact =>
      obtain ⟨_, hset, rfl⟩ := bind_pure_eq_ok.mp h
      obtain ⟨-, hresult, rfl⟩ := Builder.setResult_eq_ok.mp hset
      exact .setResult artifact hresult
  | takeResult =>
      obtain ⟨_, htake, rfl⟩ := bind_pure_eq_ok.mp h
      obtain ⟨rfl, rfl⟩ := Builder.takeResult_eq_ok.mp htake
      exact .takeResult
  | setRenamers renamers =>
      cases h
      exact .setRenamers renamers
  | registerRenamer kind renamer =>
      cases h
      exact .registerRenamer kind renamer
  | rename e name =>
      obtain ⟨_, hrename, rfl⟩ := bind_pure_eq_ok.mp h
      obtain ⟨hrenamed, rfl⟩ := lift_eq_ok.mp hrename
      exact .rename hrenamed

/-- Every change of a workspace that has not failed is the success of an operation. -/
theorem Change.run_eq_ok (h : Change w a reply w') (hshape : w.builder.frames.Shaped)
    (hfailed : w.builder.failed = false) : a.run w = .ok reply w' := by
  cases h with
  | openModule hmodule =>
      exact bind_pure_eq_ok.mpr
        ⟨_, Builder.openModule_eq_ok.mpr ⟨hfailed, hmodule, rfl, rfl⟩, rfl⟩
  | openFunction =>
      exact bind_pure_eq_ok.mpr ⟨_, Builder.openFunction_eq_ok.mpr ⟨hfailed, rfl, rfl⟩, rfl⟩
  | openBlock ha hsplit henter =>
      exact (Action.run_opens ha).mpr ⟨hfailed, _,
        enter_block_eq_ok.mpr ⟨rfl, _, _, _, _, hsplit, henter, rfl⟩, rfl⟩
  | close ha hscope hclosing =>
      exact (Action.run_closes_eq_ok hshape hscope ha).mpr ⟨hfailed, rfl, hclosing⟩
  | abort => exact bind_pure_eq_ok.mpr ⟨_, Builder.abort_eq_ok.mpr ⟨rfl, rfl⟩, rfl⟩
  | editModule ha hframes hedit =>
      exact (Action.run_moduleEdit ha).mpr ⟨hfailed, _, _, _, hframes, hedit, rfl⟩
  | editFunction ha hframes hedit =>
      exact (Action.run_functionEdit ha).mpr ⟨hfailed, _, _, _, _, hframes, hedit, rfl⟩
  | emit ha hsplit hemit =>
      exact (Action.run_binds ha).mpr
        ⟨_, Builder.emit_eq_ok.mpr ⟨hfailed, _, _, _, _, _, hsplit, hemit, rfl⟩, rfl⟩
  | setResult artifact hresult =>
      exact bind_pure_eq_ok.mpr
        ⟨(), Builder.setResult_eq_ok.mpr ⟨hfailed, hresult, rfl⟩, rfl⟩
  | takeResult =>
      exact bind_pure_eq_ok.mpr ⟨_, Builder.takeResult_eq_ok.mpr ⟨rfl, rfl⟩, rfl⟩
  | setRenamers renamers => rfl
  | registerRenamer kind renamer => rfl
  | rename hrenamed =>
      exact bind_pure_eq_ok.mpr ⟨_, lift_eq_ok.mpr ⟨hrenamed, rfl⟩, rfl⟩

/-- The successes of operations on a workspace that has not failed are exactly the changes. -/
theorem Action.run_eq_ok_iff (hshape : w.builder.frames.Shaped)
    (hfailed : w.builder.failed = false) : a.run w = .ok reply w' ↔ Change w a reply w' :=
  ⟨Change.of_run hshape, fun h => h.run_eq_ok hshape hfailed⟩

/-! ## The shape of the stack is kept -/

/-- The operations themselves only make ordinary default blocks. -/
theorem Change.shapedBy {allowed : BlockKind → Prop} (h : Change w a reply w')
    (hordinary : allowed .ordinary) (hshape : w.builder.frames.ShapedBy allowed) :
    w'.builder.frames.ShapedBy allowed := by
  cases h with
  | openModule => exact .module _ hshape
  | openFunction => exact .function hordinary _ hshape
  | openBlock _ hsplit _ => exact .block _ (hshape.replace_split hsplit)
  | close _ _ hclosing => exact hclosing.shapedBy hshape
  | abort =>
      split
      · exact hshape
      · exact .nil
  | editModule _ hframes _ =>
      rw [hframes] at hshape
      cases hshape with
      | module _ hbelow => exact .module _ hbelow
  | @editFunction _ _ _ kind _ f' below _ hframes _ =>
      have hreplaced : Frames.ShapedBy allowed ([.block kind] ++ .function f' :: below) :=
        hshape.replace hframes
      exact hreplaced
  | emit _ hsplit _ => exact hshape.replace_split hsplit
  | takeResult => split <;> exact hshape
  | setResult | setRenamers | registerRenamer | rename => exact hshape

/-! ## What is never changed -/

theorem Change.config_eq (h : Change w a reply w') : w'.builder.config = w.builder.config := by
  cases h with
  | close _ _ hclosing => cases hclosing <;> rfl
  | abort | takeResult => split <;> rfl
  | _ => rfl

theorem Change.newEmitter_eq (h : Change w a reply w') :
    w'.builder.newEmitter = w.builder.newEmitter := by
  cases h with
  | close _ _ hclosing => cases hclosing <;> rfl
  | abort | takeResult => split <;> rfl
  | _ => rfl

omit [Emitter σ] in
/-- The parts of a function are set without touching its blocks. -/
theorem Action.functionEdit_blocks {renamers : Renamers}
    {edit : FuncDraft σ → Except BuildError (Reply × FuncDraft σ)} {f f' : FuncDraft σ}
    (h : a.functionEdit? renamers = some edit) (hedit : edit f = .ok (reply, f')) :
    f'.emitter = f.emitter ∧ f'.blocks = f.blocks := by
  cases a <;> simp only [functionEdit?, Option.some.injEq, reduceCtorEq] at h <;> subst h
  case addParam name v =>
    cases hr : Builder.renamed renamers (.var v) name with
    | error e => simp [hr] at hedit
    | ok e =>
        cases e with
        | var v =>
            rw [hr] at hedit
            cases hedit
            exact ⟨rfl, rfl⟩
        | _ => simp [hr] at hedit
  case setName name =>
    cases hname : f.name <;> simp [FuncDraft.setName, hname] at hedit
    simp [← hedit.2]
  case setAttrs attrs =>
    cases hattrs : f.attrs.isEmpty <;> simp [FuncDraft.setAttrs, hattrs] at hedit
    simp [← hedit.2]
  case setResultTy ty =>
    cases hresult : f.result <;> simp [FuncDraft.setResult, hresult] at hedit
    simp [← hedit.2]
  case addOutput e =>
    cases hedit
    exact ⟨rfl, rfl⟩

end ScopedBuilder
