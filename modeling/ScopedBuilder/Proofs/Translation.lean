import ScopedBuilder.Builder.Action
import ScopedBuilder.Proofs.FrameMap

/-!
# Builders that work alike

Two builders may have different parts, each of which does what its counterpart does. Then every operation
does the same to both of them, whatever the difference is: they succeed and fail alike, with the same errors,
and are left with counterparts again. This is shown once, from what a change of parts has to respect.
-/

namespace ScopedBuilder

variable {σ α β : Type}

/-- What is left of a function, with another function in its place. -/
def FuncDraft.mapOutcome (onFunction : FuncDraft σ → FuncDraft σ) :
    EStateM.Result BuildError (FuncDraft σ) Unit → EStateM.Result BuildError (FuncDraft σ) Unit
  | .ok u f => .ok u (onFunction f)
  | .error e f => .error e (onFunction f)

theorem FuncDraft.mapOutcome_id : mapOutcome (id : FuncDraft σ → FuncDraft σ) = id := by
  funext outcome
  cases outcome <;> rfl

variable [Emitter σ]

/-- A change of the parts of a builder, and which workspaces it leads from and to. -/
structure Translation (σ : Type) [Emitter σ] where
  module : ModuleDraft → ModuleDraft
  function : FuncDraft σ → FuncDraft σ
  finished : Module → Module
  func : Func → Func
  Related : Workspace σ → Workspace σ → Prop
  frames_eq {w w' : Workspace σ} : Related w w' →
    w'.builder.frames = w.builder.frames.mapParts module function
  result_eq {w w' : Workspace σ} : Related w w' →
    w'.builder.result = w.builder.result.map (Artifact.map finished func)
  failed_eq {w w' : Workspace σ} : Related w w' → w'.builder.failed = w.builder.failed
  withFrames {w w' : Workspace σ} (frames : Frames σ) : Related w w' →
    Related (w.withFrames frames) (w'.withFrames (frames.mapParts module function))
  withResult {w w' : Workspace σ} (result : Option Artifact) : Related w w' →
    Related (w.withResult result) (w'.withResult (result.map (Artifact.map finished func)))
  markFailed {w w' : Workspace σ} : Related w w' → Related w.markFailed w'.markFailed
  newModule_eq {w w' : Workspace σ} : Related w w' →
    module (.new w.builder.config.nameScheme) = .new w'.builder.config.nameScheme
  newFunction_eq {w w' : Workspace σ} : Related w w' →
    function (.new (w.builder.newEmitter w.builder.config)) =
      .new (w'.builder.newEmitter w'.builder.config)
  nameOrEmpty_eq (f : FuncDraft σ) : (function f).nameOrEmpty = f.nameOrEmpty
  beginBlock_eq (f : FuncDraft σ) (kind : BlockKind) :
    (function f).beginBlock kind = function (f.beginBlock kind)
  endBlock_eq (f : FuncDraft σ) :
    FuncDraft.endBlock (function f) = FuncDraft.mapOutcome function (FuncDraft.endBlock f)
  assemble_eq {w w' : Workspace σ} (f : FuncDraft σ) : Related w w' →
    (function f).assemble w'.builder.config = (f.assemble w.builder.config).map func
  finish_eq (m : ModuleDraft) : (module m).assemble = m.assemble.map finished
  define_eq (m : ModuleDraft) (name : String) (f : Func) (op : Operation) :
    (module m).define name (func f) op = (m.define name f op).map module
  update_eq (m : ModuleDraft) (name : String) (f : Func) (first : Bool) (op : Operation) :
    (module m).update name (func f) first op = (m.update name f first op).map module

namespace Translation

variable {T : Translation σ} {r : α → α} {r' : β → β} {op : Operation} {w w' : Workspace σ}

/-- Two outcomes with counterparts: the same error, or replies that correspond. -/
inductive Agree (T : Translation σ) (r : α → α) : EStateM.Result BuildError (Workspace σ) α →
    EStateM.Result BuildError (Workspace σ) α → Prop where
  | ok (a : α) {w w' : Workspace σ} : T.Related w w' → Agree T r (.ok a w) (.ok (r a) w')
  | error (e : BuildError) {w w' : Workspace σ} : T.Related w w' → Agree T r (.error e w) (.error e w')

/-- The second computation does to the counterpart of a workspace what the first one does to the
workspace. -/
def Translates (T : Translation σ) (r : α → α) (x y : BuildM σ α) : Prop :=
  ∀ w w', T.Related w w' → T.Agree r (x w) (y w')

/-- What is returned may be made into something else. -/
theorem Agree.map_ok {x y : BuildM σ α} {f : α → β} (h : T.Agree r (x w) (y w'))
    (hf : ∀ a, f (r a) = r' (f a)) :
    T.Agree r' ((x >>= fun a => pure (f a)) w) ((y >>= fun a => pure (f a)) w') := by
  simp only [bind, EStateM.bind]
  generalize x w = left, y w' = right at h
  cases h with
  | ok a h =>
      dsimp only
      rw [hf]
      exact .ok (f a) h
  | error e h => exact .error e h

theorem Agree.guarded {x y : BuildM σ α} (h : T.Agree r (x w) (y w'))
    (hfailed : w.builder.failed = false) (hfailed' : w'.builder.failed = false) :
    T.Agree r (BuildM.guarded op x w) (BuildM.guarded op y w') := by
  simp only [BuildM.guarded, hfailed, hfailed', Bool.false_eq_true, if_false]
  generalize x w = left, y w' = right at h
  cases h with
  | ok a h => exact .ok a h
  | error e h => exact .error e (T.markFailed h)

/-! ## Blocks of a function -/

theorem enterBlock_eq (T : Translation σ) (kind : BlockKind) (enclosing : Option BlockKind)
    (f : FuncDraft σ) :
    FuncDraft.enterBlock kind enclosing (T.function f) =
      FuncDraft.mapOutcome T.function (FuncDraft.enterBlock kind enclosing f) := by
  cases enclosing with
  | none => exact congrArg (EStateM.Result.ok ()) (T.beginBlock_eq f kind)
  | some _ =>
      simp only [FuncDraft.enterBlock, Option.isSome_some, if_true, bind, EStateM.bind, T.endBlock_eq]
      cases FuncDraft.endBlock f with
      | error => rfl
      | ok _ f' => exact congrArg (EStateM.Result.ok ()) (T.beginBlock_eq f' kind)

theorem leaveBlock_eq (T : Translation σ) (enclosing : Option BlockKind) (f : FuncDraft σ) :
    FuncDraft.leaveBlock enclosing (T.function f) =
      FuncDraft.mapOutcome T.function (FuncDraft.leaveBlock enclosing f) := by
  simp only [FuncDraft.leaveBlock, bind, EStateM.bind, T.endBlock_eq]
  cases FuncDraft.endBlock f with
  | error => rfl
  | ok _ f' =>
      cases enclosing with
      | none => rfl
      | some kind => exact congrArg (EStateM.Result.ok ()) (T.beginBlock_eq f' kind)

namespace Translates

open BuildM

variable {x x' y y' : BuildM σ α}

/-! ## Sequences -/

theorem pure (a : α) : T.Translates r (Pure.pure a) (Pure.pure (r a)) := fun _ _ h => .ok a h

theorem throw (e : BuildError) : T.Translates r (MonadExcept.throw e) (MonadExcept.throw e) :=
  fun _ _ h => .error e h

theorem lift {x y : Except BuildError α} (h : y = x.map r) :
    T.Translates r (liftM x : BuildM σ α) (liftM y) := by
  subst h
  cases x with
  | error e => exact throw e
  | ok a => exact pure a

theorem getBuilder_bind {f g : Builder σ → BuildM σ α}
    (h : ∀ w w', T.Related w w' → T.Translates r (f w.builder) (g w'.builder)) :
    T.Translates r (getBuilder >>= f) (getBuilder >>= g) :=
  fun w w' hw => h w w' hw w w' hw

theorem bind {f g : α → BuildM σ β} (hx : T.Translates r x y)
    (hf : ∀ a, T.Translates r' (f a) (g (r a))) : T.Translates r' (x >>= f) (y >>= g) := by
  intro w w' hw
  have h := hx w w' hw
  simp only [Bind.bind, EStateM.bind]
  generalize x w = left, y w' = right at h
  cases h with
  | ok a h => exact hf a _ _ h
  | error e h => exact .error e h

theorem ite {c : Prop} [Decidable c] (hx : T.Translates r x x') (hy : T.Translates r y y') :
    T.Translates r (if c then x else y) (if c then x' else y') := by
  split
  · exact hx
  · exact hy

/-- The reply of an operation. -/
theorem reply {toReply : α → Reply} {translate : Reply → Reply} (h : T.Translates r x y)
    (hreply : ∀ a, toReply (r a) = translate (toReply a)) :
    T.Translates translate (x >>= fun a => Pure.pure (toReply a))
      (y >>= fun a => Pure.pure (toReply a)) :=
  fun w w' hw => (h w w' hw).map_ok hreply

theorem guarded (h : T.Translates r x y) : T.Translates r (guarded op x) (guarded op y) := by
  intro w w' hw
  have hsame := T.failed_eq hw
  cases hfailed : w.builder.failed with
  | true =>
      rw [hfailed] at hsame
      simp only [BuildM.guarded, hfailed, hsame, if_true]
      exact .error _ hw
  | false => exact (h w w' hw).guarded hfailed (hsame.trans hfailed)

/-! ## Steps of the operations -/

theorem setFrames (frames : Frames σ) :
    T.Translates id (setFrames frames) (setFrames (frames.mapParts T.module T.function)) :=
  fun _ _ hw => .ok () (T.withFrames frames hw)

theorem fillResult (artifact : Artifact) :
    T.Translates id (fillResult op artifact)
      (fillResult op (artifact.map T.finished T.func)) := by
  intro w w' hw
  unfold BuildM.fillResult
  rw [T.result_eq hw, Option.isSome_map]
  split
  · exact .error _ hw
  · exact .ok () (T.withResult (some artifact) hw)

theorem arrangeBlocks {kind : BlockKind} {act : EStateM BuildError (FuncDraft σ) Unit}
    (hact : ∀ f, act (T.function f) = FuncDraft.mapOutcome T.function (act f)) :
    T.Translates id (arrangeBlocks kind act) (arrangeBlocks kind act) := by
  intro w w' hw
  unfold BuildM.arrangeBlocks onNearestFunction
  rw [T.frames_eq hw, Frames.splitFunction?_mapParts]
  rcases w.builder.frames.splitFunction? with _ | ⟨above, f, below⟩
  · exact .error _ hw
  · have hframes (g : FuncDraft σ) := T.withFrames (above ++ .function g :: below) hw
    simp only [Frames.mapParts_split] at hframes
    simp only [Option.map_some, hact]
    cases act f with
    | ok u g => exact .ok u (hframes g)
    | error e g => exact .error e (hframes g)

theorem inFunctionScope {act act' : FuncDraft σ → Except BuildError (α × FuncDraft σ)}
    (hact : ∀ f, act' (T.function f) = (act f).map fun x => (r x.1, T.function x.2)) :
    T.Translates r (inFunctionScope op act) (inFunctionScope op act') := by
  intro w w' hw
  unfold BuildM.inFunctionScope
  rw [T.frames_eq hw, Frames.functionScope?_mapParts, Frames.any_isFunction_mapParts]
  rcases w.builder.frames.functionScope? with _ | ⟨kind, f, below⟩
  · dsimp only [Option.map_none]
    split
    · exact .error _ hw
    · exact .error _ hw
  · simp only [Option.map_some, hact]
    cases act f with
    | ok x => exact .ok x.1 (T.withFrames (.block kind :: .function x.2 :: below) hw)
    | error e => exact .error e hw

/-- What is done in a module scope need only correspond for the module that is on top. -/
theorem inModuleScope_at {act act' : ModuleDraft → Except BuildError (α × ModuleDraft)}
    (hw : T.Related w w') (hact : ∀ m below, w.builder.frames = .module m :: below →
      act' (T.module m) = (act m).map fun x => (r x.1, T.module x.2)) :
    T.Agree r (inModuleScope op act w) (inModuleScope op act' w') := by
  unfold BuildM.inModuleScope
  rw [T.frames_eq hw, Frames.moduleScope?_mapParts, Frames.any_isModule_mapParts]
  cases htop : w.builder.frames.moduleScope? with
  | none =>
      dsimp only [Option.map_none]
      split
      · exact .error _ hw
      · exact .error _ hw
  | some scope =>
      obtain ⟨m, below⟩ := scope
      simp only [Option.map_some, hact m below (Frames.moduleScope?_eq_some_iff.mp htop)]
      cases act m with
      | ok x => exact .ok x.1 (T.withFrames (.module x.2 :: below) hw)
      | error e => exact .error e hw

theorem inModuleScope {act act' : ModuleDraft → Except BuildError (α × ModuleDraft)}
    (hact : ∀ m, act' (T.module m) = (act m).map fun x => (r x.1, T.module x.2)) :
    T.Translates r (inModuleScope op act) (inModuleScope op act') :=
  fun _ _ hw => inModuleScope_at hw fun m _ _ => hact m

/-! ## Opening and closing scopes -/

theorem enterBlock (kind : BlockKind) : T.Translates id (enterBlock kind) (enterBlock kind) := by
  refine getBuilder_bind fun w w' hw => ?_
  dsimp only
  rw [T.frames_eq hw, Frames.topBlock?_mapParts]
  exact (setFrames (.block kind :: w.builder.frames)).bind fun _ =>
    arrangeBlocks (T.enterBlock_eq kind w.builder.frames.topBlock?)

theorem enter (frame : Frame σ) :
    T.Translates id (enter frame) (enter (frame.map T.module T.function)) := by
  refine getBuilder_bind fun w w' hw => ?_
  dsimp only
  rw [T.frames_eq hw, Frames.length_mapParts, Frame.kind_map]
  cases frame with
  | module m => exact (setFrames (.module m :: w.builder.frames)).bind fun _ => pure _
  | function f =>
      exact (setFrames (.function f :: w.builder.frames)).bind fun _ =>
        (enterBlock .ordinary).bind fun _ => pure _
  | block kind => exact (enterBlock kind).bind fun _ => pure _

theorem leaveBlock (kind : BlockKind) : T.Translates id (leaveBlock kind) (leaveBlock kind) := by
  refine getBuilder_bind fun w w' hw => ?_
  dsimp only
  rw [T.frames_eq hw, Frames.topBlock?_mapParts]
  exact arrangeBlocks (T.leaveBlock_eq w.builder.frames.topBlock?)

theorem leaveFunction (f : FuncDraft σ) :
    T.Translates id (leaveFunction f) (leaveFunction (T.function f)) := by
  refine getBuilder_bind fun w w' hw => ?_
  rw [T.frames_eq hw, Frames.isEmpty_mapParts, Frames.any_isModule_mapParts, T.nameOrEmpty_eq]
  refine (lift (T.assemble_eq f hw)).bind fun func => ?_
  refine ite (fillResult (.function func)) (ite (inModuleScope fun m => ?_) (throw _))
  rw [T.define_eq]
  cases m.define f.nameOrEmpty func .finishFunction <;> rfl

theorem leaveModule (m : ModuleDraft) :
    T.Translates id (leaveModule m) (leaveModule (T.module m)) :=
  (lift (T.finish_eq m)).bind fun module => fillResult (.module module)

theorem exitTop : T.Translates id (exitTop op) (exitTop op) := by
  refine getBuilder_bind fun w w' hw => ?_
  rw [T.frames_eq hw]
  match w.builder.frames with
  | [] => exact throw _
  | .module m :: below => exact (setFrames below).bind fun _ => leaveModule m
  | .function f :: below => exact (setFrames below).bind fun _ => leaveFunction f
  | .block kind :: below => exact (setFrames below).bind fun _ => leaveBlock kind

theorem closeHandle (handle : Scope) :
    T.Translates id (closeHandle op handle) (closeHandle op handle) := by
  refine getBuilder_bind fun w w' hw => ?_
  rw [T.frames_eq hw, Frames.innermostScope?_mapParts]
  match w.builder.frames.innermostScope? with
  | none => exact throw _
  | some scope =>
      exact ite ((throw (r := id) _).bind fun _ => ite (exitTop.bind fun _ => exitTop) exitTop)
        (ite (exitTop.bind fun _ => exitTop) exitTop)

/-! ## Whole operations -/

theorem openModule : T.Translates id Builder.openModule Builder.openModule := by
  refine (getBuilder_bind fun w w' hw => ?_).guarded
  rw [T.frames_eq hw, Frames.any_isModule_mapParts, ← T.newModule_eq hw]
  have henter : T.Translates id _ _ := enter (.module (.new w.builder.config.nameScheme))
  exact ite ((throw (r := id) _).bind fun _ => henter) henter

theorem openFunction : T.Translates id Builder.openFunction Builder.openFunction := by
  refine (getBuilder_bind fun w w' hw => ?_).guarded
  rw [← T.newFunction_eq hw]
  exact enter (.function (.new (w.builder.newEmitter w.builder.config)))

theorem openBlock (kind : BlockKind) :
    T.Translates id (Builder.openBlock kind) (Builder.openBlock kind) := by
  refine (getBuilder_bind fun w w' hw => ?_).guarded
  rw [T.frames_eq hw, Frames.any_isFunction_mapParts]
  have henter : T.Translates id _ _ := enter (.block kind)
  exact ite ((throw (r := id) _).bind fun _ => henter) henter

theorem pushBlock (kind : BlockKind) :
    T.Translates id (Builder.pushBlock kind) (Builder.pushBlock kind) :=
  (enter (.block kind)).guarded

theorem close (handle : Scope) : T.Translates id (Builder.close handle) (Builder.close handle) :=
  (closeHandle handle).guarded

theorem closeScope : T.Translates id Builder.closeScope Builder.closeScope := by
  refine (getBuilder_bind fun w w' hw => ?_).guarded
  rw [T.frames_eq hw, Frames.innermostScope?_mapParts]
  match w.builder.frames.innermostScope? with
  | none => exact throw _
  | some scope => exact closeHandle scope

theorem abort : T.Translates id Builder.abort Builder.abort := by
  intro w w' hw
  unfold Builder.abort
  dsimp only
  rw [T.frames_eq hw, Frames.length_mapParts, Frames.isEmpty_mapParts]
  split
  · exact .ok _ hw
  · exact .ok _ (T.markFailed (T.withFrames [] hw))

theorem update (name : String) (f : Func) (first : Bool) :
    T.Translates id (Builder.update name f first) (Builder.update name (T.func f) first) := by
  refine (inModuleScope fun m => ?_).guarded
  rw [T.update_eq]
  cases m.update name f first .update <;> rfl

theorem setResult (artifact : Artifact) :
    T.Translates id (Builder.setResult artifact)
      (Builder.setResult (artifact.map T.finished T.func)) :=
  (fillResult artifact).guarded

theorem takeResult :
    T.Translates (Option.map (Artifact.map T.finished T.func)) Builder.takeResult
      Builder.takeResult := by
  intro w w' hw
  unfold Builder.takeResult
  rw [T.frames_eq hw, Frames.isEmpty_mapParts]
  split
  · rw [T.result_eq hw]
    exact .ok w.builder.result (T.withResult none hw)
  · exact .ok none hw

theorem replaceBlock (kind : BlockKind) :
    T.Translates id (Builder.replaceBlock kind) (Builder.replaceBlock kind) := by
  intro w w' hw
  unfold Builder.replaceBlock
  rw [T.frames_eq hw, Frames.replaceBlock_mapParts]
  exact .ok () (T.withFrames _ hw)

end Translates

end Translation

end ScopedBuilder
