import ScopedBuilder.Proofs.Acceptance
import ScopedBuilder.Proofs.Barred

/-!
# Which scope a close ends

The balance check of a close looks at the last two frames, and leaving a scope takes one or two frames off
the stack. Both follow the same reading of the stack by position: the innermost scope is the last frame, or
the function that the last frame is the default block of. So exactly one handle closes, whatever the emitter,
and a close without a handle does the same as a close with that one.
-/

namespace ScopedBuilder

/-! ## The logical top of a stack -/

/-- A scope is the logical top of a stack whose frames have the given kinds, outermost first: the function,
if the last frame is its default block, and otherwise the last frame. -/
inductive IsLogicalTop : List ScopeKind → Scope → Prop where
  | function (below : List ScopeKind) :
      IsLogicalTop (below ++ [.function, .block]) ⟨below.length, .function⟩
  | frame (below : List ScopeKind) {kind : ScopeKind} :
      (kind = .block → below.getLast? ≠ some .function) →
      IsLogicalTop (below ++ [kind]) ⟨below.length, kind⟩

namespace IsLogicalTop

variable {kinds : List ScopeKind} {top : Scope}

/-- The position of a logical top is one of the stack, and a frame of its kind is there. -/
theorem getElem?_depth (h : IsLogicalTop kinds top) : kinds[top.depth]? = some top.kind := by
  cases h with
  | function below => simp
  | frame => simp

/-- A stack that ends in a default block does not end in another frame. -/
theorem append_default_block_ne {below below' : List ScopeKind} {kind : ScopeKind}
    (hlast : kind = .block → below'.getLast? ≠ some .function) :
    below ++ [.function, .block] ≠ below' ++ [kind] := by
  intro hkinds
  rw [List.append_cons] at hkinds
  obtain ⟨hbelow, hkind⟩ := List.append_inj' hkinds rfl
  cases hkind
  exact hlast rfl (hbelow ▸ List.getLast?_concat)

theorem unique {top' : Scope} (h : IsLogicalTop kinds top) (h' : IsLogicalTop kinds top') :
    top = top' := by
  generalize hkinds : kinds = kinds' at h'
  cases h with
  | function below =>
      cases h' with
      | function below' => rw [List.append_cancel_right hkinds]
      | frame _ hlast => exact absurd hkinds (append_default_block_ne hlast)
  | frame below hlast =>
      cases h' with
      | function below' => exact absurd hkinds.symm (append_default_block_ne hlast)
      | frame below' _ =>
          obtain ⟨hbelow, hkind⟩ := List.append_inj' hkinds rfl
          cases hkind
          rw [hbelow]

/-- No block directly above a function is a logical top. -/
theorem kind_ne_block (h : IsLogicalTop kinds top) {depth : Nat} (hdepth : top.depth = depth + 1)
    (hfunction : kinds[depth]? = some .function) : top.kind ≠ .block := by
  cases h with
  | function => nofun
  | frame below hlast =>
      intro hkind
      have hlength : below.length = depth + 1 := hdepth
      have hbelow : below[depth]? = some .function := by
        rwa [List.getElem?_append_left (by omega)] at hfunction
      refine hlast hkind ?_
      rwa [List.getLast?_eq_getElem?, hlength, Nat.add_sub_cancel]

end IsLogicalTop

namespace Frames

variable {σ : Type} {frames : Frames σ} {top : Scope}

theorem isLogicalTop_of_innermostScope? (h : frames.innermostScope? = some top) :
    IsLogicalTop frames.kinds top := by
  match frames, h with
  | .block kind :: .function f :: below, rfl =>
      rw [kinds_cons, kinds_cons, List.append_assoc, ← length_kinds]
      exact .function (kinds below)
  | .module m :: below, rfl | .function f :: below, rfl =>
      rw [kinds_cons, ← length_kinds]
      exact .frame (kinds below) nofun
  | .block kind :: [], rfl => exact .frame [] nofun
  | .block kind :: .module m :: below, rfl | .block kind :: .block k :: below, rfl =>
      rw [kinds_cons, ← length_kinds]
      exact .frame _ fun _ => by simp [Frame.kind]

theorem ne_nil_of_innermostScope? (h : frames.innermostScope? = some top) : frames ≠ [] := by
  rintro rfl
  cases h

theorem innermostScope?_isSome (h : frames ≠ []) : ∃ top, frames.innermostScope? = some top := by
  match frames, h with
  | .block _ :: .function _ :: below, _ => exact ⟨_, rfl⟩
  | .module _ :: below, _ | .function _ :: below, _ => exact ⟨_, rfl⟩
  | .block _ :: [], _ => exact ⟨_, rfl⟩
  | .block _ :: .module _ :: below, _ | .block _ :: .block _ :: below, _ => exact ⟨_, rfl⟩

/-- The innermost scope is the logical top by position. -/
theorem innermostScope?_eq_some_iff :
    frames.innermostScope? = some top ↔ IsLogicalTop frames.kinds top := by
  constructor
  · exact isLogicalTop_of_innermostScope?
  · intro htop
    have hne : frames ≠ [] := by
      rintro rfl
      cases htop.getElem?_depth
    obtain ⟨scope, hscope⟩ := innermostScope?_isSome hne
    rw [hscope, (isLogicalTop_of_innermostScope? hscope).unique htop]

end Frames

/-! ## The balance check -/

/-- An error of the balance check: a close has no scope to end, or another one than its handle names. -/
def BuildError.isImbalance : BuildError → Bool
  | emptyStack _ | unbalancedScope .. => true
  | _ => false

theorem ModuleDraft.assemble_balanced {m : ModuleDraft} {e : BuildError} (h : m.assemble = .error e) :
    e.isImbalance = false := by
  have hnames : ∀ names : List (String × Global),
      (names.mapM fun (name, g) => m.entry name g) = .error e → e.isImbalance = false := by
    intro names
    induction names with
    | nil => nofun
    | cons x names ih =>
        obtain ⟨name, g⟩ := x
        rw [List.mapM_cons, except_bind_eq_error]
        rintro (hentry | ⟨_, -, hrest⟩)
        · dsimp only [entry] at hentry
          split at hentry <;> cases hentry
          rfl
        · rcases except_bind_eq_error.mp hrest with hnames | ⟨_, -, hpure⟩
          · exact ih hnames
          · cases hpure
  exact hnames m.names (map_eq_error.mp h)

variable {σ : Type} [Emitter σ]

theorem FuncDraft.assemble_balanced {f : FuncDraft σ} {config : Config} {e : BuildError}
    (h : f.assemble config = .error e) : e.isImbalance = false := by
  unfold assemble at h
  split at h
  · cases h
    rfl
  · split at h
    split at h
    split at h <;> cases h
    rfl

/-- The emitter is the only thing that keeps a block from ending. -/
theorem FuncDraft.endBlock_error {f f' : FuncDraft σ} {e : BuildError} (h : endBlock f = .error e f') :
    ∃ cause, e = .emitter cause := by
  unfold endBlock at h
  split at h <;> cases h
  exact ⟨_, rfl⟩

theorem FuncDraft.leaveBlock_error {f f' : FuncDraft σ} {enclosing : Option BlockKind} {e : BuildError}
    (h : leaveBlock enclosing f = .error e f') : ∃ cause, e = .emitter cause := by
  rcases bind_eq_error.mp h with hend | ⟨_, _, -, hrest⟩
  · exact endBlock_error hend
  · cases enclosing <;> cases hrest

namespace BuildM

variable {w w' : Workspace σ} {op op' : Operation} {e : BuildError} {scope : Scope}

/-- Leaving a frame that is there gives no error of the balance check. -/
theorem exitTop_balanced (hne : w.builder.frames ≠ []) (h : exitTop op w = .error e w') :
    e.isImbalance = false := by
  cases hframes : w.builder.frames with
  | nil => exact absurd hframes hne
  | cons x below =>
      cases x with
      | module m =>
          obtain ⟨-, hassemble | ⟨-, -, rfl⟩⟩ := (exitTop_module_eq_error hframes).mp h
          · exact ModuleDraft.assemble_balanced hassemble
          · rfl
      | block kind =>
          rcases (exitTop_block_eq_error hframes).mp h with ⟨-, rfl, -⟩ | ⟨_, _, _, _, -, hleave, -⟩
          · rfl
          · obtain ⟨cause, rfl⟩ := FuncDraft.leaveBlock_error hleave
            rfl
      | function f =>
          obtain ⟨-, hassemble | ⟨func, -, hplace⟩⟩ :=
            leaveFunction_eq_error.mp ((exitTop_function_eq_error hframes).mp h)
          · exact FuncDraft.assemble_balanced hassemble
          · rcases hplace with ⟨-, -, rfl⟩ | ⟨-, -, rfl⟩ | ⟨-, -, rfl⟩ | ⟨m, rest, -, hdefine⟩
            · rfl
            · rfl
            · rfl
            · obtain ⟨-, rfl⟩ := ModuleDraft.define_eq_error.mp hdefine
              rfl

/-- The operation is named only if no frame is there. -/
theorem exitTop_congr (hne : w.builder.frames ≠ []) : exitTop op w = exitTop op' w := by
  cases hframes : w.builder.frames with
  | nil => exact absurd hframes hne
  | cons x below => simp only [exitTop, getBuilder_bind, hframes]

/-- After the default block of a function the function is there. -/
theorem frames_ne_nil_of_exitTop {kind : BlockKind} {rest : Frames σ}
    (hframes : w.builder.frames = .block kind :: rest) (h : exitTop op w = .ok () w') :
    w'.builder.frames ≠ [] := by
  obtain ⟨above, f, below, f', -, -, rfl⟩ := (exitTop_block hframes).mp h
  simp

theorem exitScope_balanced (hshape : w.builder.frames.Shaped)
    (hscope : w.builder.frames.innermostScope? = some scope)
    (h : exitScope op scope.kind w = .error e w') : e.isImbalance = false := by
  have hne : w.builder.frames ≠ [] := Frames.ne_nil_of_innermostScope? hscope
  obtain ⟨depth, kind⟩ := scope
  cases kind with
  | module | block => exact exitTop_balanced hne h
  | function =>
      obtain ⟨_, f, below, hframes, -⟩ := hshape.exists_function hscope
      rcases bind_eq_error.mp h with hblock | ⟨_, w₁, hblock, hfunction⟩
      · exact exitTop_balanced hne hblock
      · exact exitTop_balanced (frames_ne_nil_of_exitTop hframes hblock) hfunction

theorem exitScope_congr (hshape : w.builder.frames.Shaped)
    (hscope : w.builder.frames.innermostScope? = some scope) :
    exitScope op scope.kind w = exitScope op' scope.kind w := by
  have hne : w.builder.frames ≠ [] := Frames.ne_nil_of_innermostScope? hscope
  obtain ⟨depth, kind⟩ := scope
  cases kind with
  | module | block => exact exitTop_congr hne
  | function =>
      obtain ⟨_, f, below, hframes, -⟩ := hshape.exists_function hscope
      -- The default block is left first; only an empty stack could tell the two operations apart.
      have hsame : exitTop op w = exitTop op' w := exitTop_congr hne
      simp only [exitScope, bind, EStateM.bind, hsame]
      cases hblock : exitTop op' w with
      | error e w₁ => rfl
      | ok _ w₁ => exact exitTop_congr (frames_ne_nil_of_exitTop hframes hblock)

end BuildM

/-- A close leaves the frames below the scope in their order. -/
theorem Closing.kinds_eq {w w' : Workspace σ} {scope : Scope} (h : Closing w w')
    (hscope : w.builder.frames.innermostScope? = some scope) :
    w'.builder.frames.kinds = w.builder.frames.kinds.take scope.depth := by
  cases h with
  | @block kind rest above below f f' hframes hsplit hne _ =>
      rw [hframes, Frames.innermostScope?_block hsplit hne] at hscope
      cases hscope
      rw [hframes, Workspace.withFrames_frames, Frames.kinds_replace_split hsplit]
      exact (Frames.take_kinds_append [.block kind] rest).symm
  | @function kind f _ _ hframes _ _ _ =>
      rw [hframes] at hscope ⊢
      cases hscope
      rfl
  | @definition kind f _ _ m m' below hframes _ _ _ =>
      rw [hframes] at hscope ⊢
      cases hscope
      exact (Frames.take_kinds_append [.block kind, .function f] (.module m :: below)).symm
  | @module m _ below hframes _ _ =>
      rw [hframes] at hscope ⊢
      cases hscope
      exact (Frames.take_kinds_append [.module m] below).symm

/-! ## Closing with and without a handle -/

namespace Action

open BuildM

variable {w w' : Workspace σ} {top handle : Scope}

theorem run_close_of_empty (hfailed : w.builder.failed = false) (hframes : w.builder.frames = []) :
    (close handle).run w = .error (.emptyStack .close) w.markFailed ∧
      closeScope.run w = .error (.emptyStack .closeScope) w.markFailed := by
  have hnone : w.builder.frames.innermostScope? = none := by
    rw [hframes]
    rfl
  have hclose : closeHandle .close handle w = .error (.emptyStack .close) w :=
    closeHandle_eq_error.mpr (.inl ⟨hnone, rfl, rfl⟩)
  constructor
  · simp [run, Builder.close, hfailed, hclose]
  · simp [run, Builder.closeScope, hfailed, hnone]

/-- A handle that does not name the innermost scope is refused, and nothing happens to the frames. -/
theorem run_close_of_ne (hfailed : w.builder.failed = false)
    (hscope : w.builder.frames.innermostScope? = some top) (hne : handle ≠ top) :
    (close handle).run w = .error (.unbalancedScope .close handle top.depth) w.markFailed := by
  have hclose : closeHandle .close handle w = .error (.unbalancedScope .close handle top.depth) w :=
    closeHandle_eq_error.mpr (.inr (.inl ⟨top, hscope, hne.symm, rfl, rfl⟩))
  simp [run, Builder.close, hfailed, hclose]

/-- The innermost scope passes the balance check. -/
theorem run_close_balanced (hshape : w.builder.frames.Shaped) (hfailed : w.builder.failed = false)
    (hscope : w.builder.frames.innermostScope? = some top) {e : BuildError}
    (h : (close top).run w = .error e w') : e.isImbalance = false := by
  obtain ⟨op, hok, herror⟩ := run_closes (a := .close top) (decide_eq_true rfl) hfailed hscope
  cases hexit : exitScope op top.kind w with
  | ok _ w₁ => cases h.symm.trans (hok w₁ hexit)
  | error e' w₁ =>
      cases h.symm.trans (herror e' w₁ hexit)
      exact exitScope_balanced hshape hscope hexit

/-- A close without a handle is a close of the innermost scope. -/
theorem run_closeScope_eq (hshape : w.builder.frames.Shaped) (hfailed : w.builder.failed = false)
    (hscope : w.builder.frames.innermostScope? = some top) :
    closeScope.run w = (close top).run w := by
  obtain ⟨op, hok, herror⟩ := run_closes (a := .closeScope) rfl hfailed hscope
  obtain ⟨op', hok', herror'⟩ := run_closes (a := .close top) (decide_eq_true rfl) hfailed hscope
  have hsame : exitScope op top.kind w = exitScope op' top.kind w := exitScope_congr hshape hscope
  cases hexit : exitScope op top.kind w with
  | ok _ w₁ => rw [hok w₁ hexit, hok' w₁ (hsame ▸ hexit)]
  | error e w₁ => rw [herror e w₁ hexit, herror' e w₁ (hsame ▸ hexit)]

end Action

/-- In every session that has not failed, with whatever emitter: if no frame is open, a close is refused for
that, with and without a handle. Otherwise there is a logical top, and it is a frame on the stack. Every
handle but the one of the logical top is refused as unbalanced, with the depth of the logical top, and so is
the handle of a default block; the handle of the logical top is never refused so. A close without a handle
has the same outcome as a close of the logical top, and if they succeed the frames below it stay. -/
theorem only_logical_top_closes (config : Config) (newEmitter : Config → σ) (supply : VarSupply)
    (events : List Event) :
    let w := (⟨.new config newEmitter, supply⟩ : Workspace σ).after events
    w.builder.failed = false →
      (w.builder.frames = [] → ∀ handle,
        (Action.close handle).run w = .error (.emptyStack .close) w.markFailed ∧
        Action.closeScope.run w = .error (.emptyStack .closeScope) w.markFailed) ∧
      (w.builder.frames ≠ [] → ∃ top, IsLogicalTop w.builder.frameKinds top) ∧
      ∀ top, IsLogicalTop w.builder.frameKinds top →
        w.builder.frameKinds[top.depth]? = some top.kind ∧
        (∀ handle, handle ≠ top →
          (Action.close handle).run w =
            .error (.unbalancedScope .close handle top.depth) w.markFailed) ∧
        (∀ depth, w.builder.frameKinds[depth]? = some .function →
          (Action.close ⟨depth + 1, .block⟩).run w =
            .error (.unbalancedScope .close ⟨depth + 1, .block⟩ top.depth) w.markFailed) ∧
        (∀ e w', (Action.close top).run w = .error e w' → e.isImbalance = false) ∧
        Action.closeScope.run w = (Action.close top).run w ∧
        ∀ reply w', (Action.close top).run w = .ok reply w' →
          w'.builder.frames.length = top.depth ∧
          w'.builder.frameKinds = w.builder.frameKinds.take top.depth := by
  intro w hfailed
  obtain ⟨hshape, -⟩ := Workspace.nested_after config newEmitter supply events hfailed
  refine ⟨fun hframes handle => Action.run_close_of_empty hfailed hframes, ?_, ?_⟩
  · intro hne
    obtain ⟨top, hscope⟩ := Frames.innermostScope?_isSome hne
    exact ⟨top, Frames.isLogicalTop_of_innermostScope? hscope⟩
  · intro top htop
    have hscope : w.builder.frames.innermostScope? = some top :=
      Frames.innermostScope?_eq_some_iff.mpr htop
    refine ⟨htop.getElem?_depth, fun _ => Action.run_close_of_ne hfailed hscope, ?_,
      fun _ _ => Action.run_close_balanced hshape hfailed hscope,
      Action.run_closeScope_eq hshape hfailed hscope, ?_⟩
    · intro depth hfunction
      refine Action.run_close_of_ne hfailed hscope ?_
      rintro rfl
      exact htop.kind_ne_block rfl hfunction rfl
    · intro reply w' hrun
      obtain ⟨-, -, hclosing⟩ :=
        (Action.run_closes_eq_ok (a := .close top) hshape hscope (decide_eq_true rfl)).mp hrun
      exact ⟨hclosing.length_frames hscope, hclosing.kinds_eq hscope⟩

/-- A function on a module: neither its default block nor the module can be closed before it. -/
theorem only_logical_top_closes_function :
    let w := (Workspace.new {} ⟨0⟩).after [.action .openModule, .action .openFunction]
    w.builder.failed = false ∧ IsLogicalTop w.builder.frameKinds ⟨1, .function⟩ ∧
      (Action.close ⟨2, .block⟩).run w = .error (.unbalancedScope .close ⟨2, .block⟩ 1) w.markFailed ∧
      (Action.close ⟨0, .module⟩).run w =
        .error (.unbalancedScope .close ⟨0, .module⟩ 1) w.markFailed := by
  intro w
  have htop : IsLogicalTop w.builder.frameKinds ⟨1, .function⟩ := .function [.module]
  obtain ⟨-, hother, hdefault, -⟩ := (only_logical_top_closes {} BlockWriter.ofConfig ⟨0⟩
    [.action .openModule, .action .openFunction] rfl).2.2 ⟨1, .function⟩ htop
  exact ⟨rfl, htop, hdefault 1 rfl, hother ⟨0, .module⟩ nofun⟩

end ScopedBuilder
