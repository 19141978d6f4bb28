import ScopedBuilder.Proofs.InStep

/-!
# The emitter never refuses

Since the stacks are in step, an operation of a session that has not failed never meets a function
without an open block. The operations are gone through with the causes of their errors.
-/

namespace ScopedBuilder

open Frames BuildM

section Refusal

variable {cause : EmitterError} {op : Operation}

theorem ModuleDraft.register_ne_emitter {m : ModuleDraft} {name : String} {f : Option Func}
    {rename : Bool} : m.register name f rename op ≠ .error (.emitter cause) := by
  unfold register
  split
  · simp
  · dsimp only
    split <;> simp

theorem ModuleDraft.update_ne_emitter {m : ModuleDraft} {name : String} {f : Func} {first : Bool} :
    m.update name f first op ≠ .error (.emitter cause) := by
  unfold update
  split
  · simp
  · split <;> simp

theorem ModuleDraft.define_ne_emitter {m : ModuleDraft} {name : String} {f : Func} :
    m.define name f op ≠ .error (.emitter cause) := by
  unfold define
  split
  · exact update_ne_emitter
  · simpa using register_ne_emitter

theorem ModuleDraft.entry_ne_emitter {m : ModuleDraft} {name : String} {g : Global} :
    m.entry name g ≠ .error (.emitter cause) := by
  unfold entry
  split <;> simp

theorem ModuleDraft.assemble_ne_emitter {m : ModuleDraft} :
    m.assemble ≠ .error (.emitter cause) := by
  suffices ∀ names : List (String × Global),
      (names.mapM fun (name, g) => m.entry name g) ≠ .error (.emitter cause) by
    simpa [assemble] using this m.names
  intro names
  induction names with
  | nil => simp [pure, Except.pure]
  | cons x names ih =>
      have hentry : m.entry x.1 x.2 ≠ .error (.emitter cause) := m.entry_ne_emitter
      simp [List.mapM_cons, hentry, ih]

theorem FuncDraft.assemble_ne_emitter {f : FuncDraft BlockWriter} {config : Config} :
    f.assemble config ≠ .error (.emitter cause) := by
  simp [assemble_eq_error]

variable {w w' : Workspace BlockWriter} {written : BlockKind → Prop}

/-- A block of an open function can always be left. -/
theorem BuildM.exitTop_block_ne_error {kind : BlockKind} {rest above below : Frames BlockWriter}
    {f : FuncDraft BlockWriter} {e : BuildError} (hframes : w.builder.frames = .block kind :: rest)
    (hin : w.builder.frames.InStep written) (hsplit : rest.splitFunction? = some (above, f, below)) :
    exitTop op w ≠ .error e w' := by
  intro hexit
  rcases (exitTop_block_eq_error hframes).mp hexit with
    ⟨hnone, -⟩ | ⟨above', g, below', f', hsplit', hleave, -⟩
  · cases hsplit.symm.trans hnone
  cases hsplit.symm.trans hsplit'
  rw [hframes] at hin
  have hblock : splitFunction? (.block kind :: rest) = some (.block kind :: above, f, below) := by
    simp [hsplit]
  obtain ⟨g, hleave', -⟩ := FuncDraft.leaveBlock_of_related .refl (hin.of_split hblock).1
  cases hleave.symm.trans hleave'

theorem BuildM.exitTop_block_ne_emitter {kind : BlockKind} {rest : Frames BlockWriter}
    (hframes : w.builder.frames = .block kind :: rest) (hin : w.builder.frames.InStep written) :
    exitTop op w ≠ .error (.emitter cause) w' := by
  intro hexit
  rcases (exitTop_block_eq_error hframes).mp hexit with
    ⟨-, hcause, -⟩ | ⟨above, f, below, f', hsplit, -⟩
  · cases hcause
  · exact exitTop_block_ne_error hframes hin hsplit hexit

theorem BuildM.exitTop_function_ne_emitter {f : FuncDraft BlockWriter} {below : Frames BlockWriter}
    (hframes : w.builder.frames = .function f :: below) :
    exitTop op w ≠ .error (.emitter cause) w' := by
  intro hexit
  obtain ⟨-, herror | ⟨func, -, hcause⟩⟩ :=
    leaveFunction_eq_error.mp ((exitTop_function_eq_error hframes).mp hexit)
  · exact FuncDraft.assemble_ne_emitter herror
  · rcases hcause with ⟨-, -, h⟩ | ⟨-, -, h⟩ | ⟨-, -, h⟩ | ⟨m, rest, -, hdefine⟩
    · cases h
    · cases h
    · cases h
    · exact ModuleDraft.define_ne_emitter hdefine

theorem BuildM.exitTop_module_ne_emitter {m : ModuleDraft} {below : Frames BlockWriter}
    (hframes : w.builder.frames = .module m :: below) :
    exitTop op w ≠ .error (.emitter cause) w' := by
  intro hexit
  obtain ⟨-, herror | ⟨-, -, h⟩⟩ := (exitTop_module_eq_error hframes).mp hexit
  · exact ModuleDraft.assemble_ne_emitter herror
  · cases h

theorem BuildM.closeHandle_ne_emitter {handle : Scope} (hshape : w.builder.frames.Shaped)
    (hin : w.builder.frames.InStep written) : closeHandle op handle w ≠ .error (.emitter cause) w' := by
  intro hclose
  rcases closeHandle_eq_error.mp hclose with ⟨-, h, -⟩ | ⟨_, -, -, h, -⟩ | ⟨hscope, hexit⟩
  · cases h
  · cases h
  generalize hframes : w.builder.frames = frames at hshape hscope
  cases hshape with
  | nil => cases hscope
  | module m hbelow =>
      obtain rfl := Option.some.inj hscope
      exact exitTop_module_ne_emitter hframes hexit
  | block kind hbelow =>
      rw [hbelow.innermostScope?_block] at hscope
      obtain rfl := Option.some.inj hscope
      exact exitTop_block_ne_emitter hframes hin hexit
  | function f hbelow =>
      obtain rfl := Option.some.inj hscope
      rw [exitScope, bind_eq_error] at hexit
      rcases hexit with hexit | ⟨_, w₁, hfirst, hexit⟩
      · exact exitTop_block_ne_emitter hframes hin hexit
      · obtain ⟨above, g, below, g', hsplit, -, rfl⟩ := (exitTop_block hframes).mp hfirst
        cases hsplit
        exact exitTop_function_ne_emitter rfl hexit

theorem BuildM.guarded_ne_emitter {α : Type} {act : BuildM BlockWriter α}
    (h : ∀ w', act w ≠ .error (.emitter cause) w') :
    guarded op act w ≠ .error (.emitter cause) w' := by
  simp [h]

theorem BuildM.inModuleScope_ne_emitter {α : Type}
    {act : ModuleDraft → Except BuildError (α × ModuleDraft)}
    (h : ∀ m, act m ≠ .error (.emitter cause)) :
    inModuleScope op act w ≠ .error (.emitter cause) w' := by
  simp only [ne_eq, inModuleScope_eq_error, h, and_false, exists_false, or_false, not_and]
  intro _ _
  split <;> simp

theorem BuildM.inFunctionScope_ne_emitter {α : Type}
    {act : FuncDraft BlockWriter → Except BuildError (α × FuncDraft BlockWriter)}
    (h : ∀ f, act f ≠ .error (.emitter cause)) :
    inFunctionScope op act w ≠ .error (.emitter cause) w' := by
  simp only [ne_eq, inFunctionScope_eq_error, h, and_false, exists_false, or_false, not_and]
  intro _ _
  split <;> simp

/-- A block can always be opened in an open function. -/
theorem BuildM.enter_block_ne_error {kind : BlockKind} {above below : Frames BlockWriter}
    {f : FuncDraft BlockWriter} {e : BuildError} (hshape : w.builder.frames.Shaped)
    (hin : w.builder.frames.InStep written)
    (hsplit : w.builder.frames.splitFunction? = some (above, f, below)) :
    enter (.block kind) w ≠ .error e w' := by
  intro hopen
  rcases enterBlock_eq_error.mp (enter_block_eq_error.mp hopen) with
    ⟨hnone, -⟩ | ⟨above', g, below', f', hsplit', henter, -⟩
  · cases hsplit.symm.trans hnone
  cases hsplit.symm.trans hsplit'
  have hkinds := (hin.of_split hsplit).1
  obtain ⟨hframes, -⟩ := splitFunction?_eq_some_iff.mp hsplit
  rw [hframes, topBlock?_append (hshape.above_ne_nil hsplit)] at henter
  rw [runTops_eq] at hkinds
  obtain ⟨g, henter', -⟩ := FuncDraft.enterBlock_of_related (.refl kind) hkinds
  cases henter.symm.trans henter'

theorem BuildM.enter_block_ne_emitter {kind : BlockKind} (hshape : w.builder.frames.Shaped)
    (hin : w.builder.frames.InStep written) : enter (.block kind) w ≠ .error (.emitter cause) w' := by
  intro hopen
  rcases enterBlock_eq_error.mp (enter_block_eq_error.mp hopen) with
    ⟨-, hcause, -⟩ | ⟨above, f, below, f', hsplit, -⟩
  · cases hcause
  · exact enter_block_ne_error hshape hin hsplit hopen

/-- An expression can always be bound in an open function. -/
theorem Frames.InStep.emit_eq_ok {above below : Frames BlockWriter} {f : FuncDraft BlockWriter}
    (hin : w.builder.frames.InStep written) (hshape : w.builder.frames.Shaped)
    (hsplit : splitFunction? w.builder.frames = some (above, f, below)) (e : Expr) :
    ∃ kind held f', w.builder.frames.nearestBlock? = some kind ∧ Reflects written held kind ∧
      FuncDraft.emit e (f, w.supply) =
        .ok (f.freshVar held e w.supply) (f', ⟨w.supply.next + 1⟩) := by
  obtain ⟨kind, held, kinds, hnearest, hheld, hkinds⟩ := hin.exists_openKinds hshape hsplit
  obtain ⟨f', hemit, -⟩ := FuncDraft.emit_of_openKinds hkinds
  exact ⟨kind, held, f', hnearest, hheld, hemit⟩

theorem Workspace.Sound.emit_ne_emitter {config : Config} (h : w.Sound config) {e : Expr} :
    Builder.emit e w ≠ .error (.emitter cause) w' := by
  refine guarded_ne_emitter fun w' hact => ?_
  simp only [onNearestFunction_eq_error, reduceCtorEq, false_and, and_false, false_or] at hact
  obtain ⟨above, f, below, f', supply, hsplit, hrefused, -⟩ := hact
  obtain ⟨-, held, g, -, -, hemit⟩ := h.inStep.emit_eq_ok h.shaped hsplit e
  cases hrefused.symm.trans hemit

/-- No operation of a session that has not failed runs into an emitter without an open block. -/
theorem Action.run_ne_emitter {config : Config} (h : w.Sound config) (a : Action) :
    a.run w ≠ .error (.emitter cause) w' := by
  intro hrun
  cases a <;>
    simp only [run, bind_eq_error, pure_eq_error, and_false, exists_false, or_false] at hrun
  case openModule =>
    refine guarded_ne_emitter (fun w' hact => ?_) hrun
    cases hany : w.builder.frames.any Frame.isModule <;>
      simp [hany, enter, -List.any_eq_true, -List.any_eq_false] at hact
  case openFunction =>
    refine guarded_ne_emitter (fun w' hact => ?_) hrun
    rw [getBuilder_bind, enter_function] at hact
    cases hact
  case openBlock kind =>
    refine guarded_ne_emitter (fun w' hact => ?_) hrun
    cases hany : w.builder.frames.any Frame.isFunction <;>
      simp [hany, enter_block_ne_emitter h.shaped h.inStep, -List.any_eq_true,
        -List.any_eq_false] at hact
  case pushBlock kind =>
    exact guarded_ne_emitter (fun w' => enter_block_ne_emitter h.shaped h.inStep) hrun
  case close handle =>
    exact guarded_ne_emitter (fun w' => closeHandle_ne_emitter h.shaped h.inStep) hrun
  case closeScope =>
    refine guarded_ne_emitter (fun w' hact => ?_) hrun
    cases hscope : w.builder.frames.innermostScope? with
    | none => simp [hscope] at hact
    | some scope => simp [hscope, closeHandle_ne_emitter h.shaped h.inStep] at hact
  case register name f rename =>
    exact guarded_ne_emitter
      (fun _ => inModuleScope_ne_emitter fun m => m.register_ne_emitter) hrun
  case update name f first =>
    refine guarded_ne_emitter (fun _ => inModuleScope_ne_emitter fun m => ?_) hrun
    simpa using m.update_ne_emitter
  case addParam name v =>
    refine guarded_ne_emitter (fun _ => inFunctionScope_ne_emitter fun f => ?_) hrun
    unfold Builder.renamed
    cases w.builder.renamers.rename? (.var v) name with
    | none => simp
    | some e => cases e <;> simp
  case setName name =>
    refine guarded_ne_emitter (fun _ => inFunctionScope_ne_emitter fun f => ?_) hrun
    cases hname : f.name <;> simp [FuncDraft.setName, hname]
  case setAttrs attrs =>
    refine guarded_ne_emitter (fun _ => inFunctionScope_ne_emitter fun f => ?_) hrun
    cases hattrs : f.attrs.isEmpty <;> simp [FuncDraft.setAttrs, hattrs]
  case setResultTy ty =>
    refine guarded_ne_emitter (fun _ => inFunctionScope_ne_emitter fun f => ?_) hrun
    cases hresult : f.result <;> simp [FuncDraft.setResult, hresult]
  case addOutput e =>
    exact guarded_ne_emitter (fun _ => inFunctionScope_ne_emitter fun f => by simp) hrun
  case emit e =>
    exact h.emit_ne_emitter hrun
  case emitKernelCall =>
    exact h.emit_ne_emitter hrun
  case setResult artifact =>
    exact guarded_ne_emitter (fun _ => by simp) hrun
  case takeResult =>
    unfold Builder.takeResult at hrun
    split at hrun <;> cases hrun
  case rename e name =>
    unfold Builder.rename Builder.renamed at hrun
    cases hr : w.builder.renamers.rename? e name <;> simp [hr] at hrun
  all_goals cases hrun

end Refusal

/-- In every session with the standard emitter that has not failed, the open blocks of each open function
mirror the runs of blocks above it; so the emitter never refuses, and a binding is always possible in an
open function and belongs to the nearest open block. That holds of whatever operations of the builder have
been carried out. A client that writes into a block changes its kind without the emitter: where it has done
so, an open block may differ from the top of its run, and a binding from the nearest block, but only if the
kind found there is one that the client has written. -/
theorem stacks_in_step (config : Config) (supply : VarSupply) (events : List Event) :
    let w := (Workspace.new config supply).after events
    w.builder.failed = false →
      (∀ above f below, w.builder.frames = above ++ .function f :: below →
        List.Forall₂ (fun held top => held = top ∨ .replaced top ∈ events)
          (f.emitter.openBlocks.map (·.kind)) (runTops false (above.rtakeWhile (!·.isFunction)))) ∧
      (∀ (a : Action) (cause : EmitterError) (w' : Workspace BlockWriter),
        a.run w ≠ .error (.emitter cause) w') ∧
      (∀ e : Expr, w.builder.frames.any Frame.isFunction = true →
        ∃ kind v w', w.builder.frames.nearestBlock? = some kind ∧
          Builder.emit e w = .ok v w' ∧
          (v.dataflow = kind.isDataflow ∨ .replaced kind ∈ events)) := by
  intro w hfailed
  have h : w.Sound config := Workspace.sound_after config supply hfailed
  have hin : w.builder.frames.InStep (.replaced · ∈ events) :=
    Workspace.inStep_after config supply hfailed
  refine ⟨fun above f below hframes => hin.forall₂_openKinds hframes,
    fun a cause w' => a.run_ne_emitter h, fun e hopen => ?_⟩
  cases hsplit : splitFunction? w.builder.frames with
  | none => simp [splitFunction?_eq_none_iff.mp hsplit] at hopen
  | some split =>
      obtain ⟨above, f, below⟩ := split
      obtain ⟨kind, held, f', hkind, hheld, hemit⟩ := hin.emit_eq_ok h.shaped hsplit e
      have hrun := Builder.emit_eq_ok.mpr ⟨hfailed, above, f, below, f', _, hsplit, hemit, rfl⟩
      exact ⟨kind, _, _, hkind, hrun, hheld.imp_left (congrArg BlockKind.isDataflow)⟩

/-- A dataflow block inside a module inside a function: the emitter of the function has two open
blocks. -/
theorem stacks_in_step_across_module :
    let w := (Workspace.new {} ⟨0⟩).after
      [.action .openFunction, .action (.pushBlock .dataflow), .action .openModule,
        .action (.openBlock .dataflow), .action (.pushBlock .ordinary)]
    w.builder.failed = false ∧
      ∀ above f below, w.builder.frames = above ++ .function f :: below →
        f.emitter.openBlocks.map (·.kind) =
          runTops false (above.rtakeWhile (!·.isFunction)) := by
  refine ⟨rfl, fun above f below hframes => ?_⟩
  have hmirrored := (stacks_in_step {} ⟨0⟩ _ rfl).1 above f below hframes
  rw [← List.forall₂_eq_eq_eq]
  exact hmirrored.imp fun held top => by simp

/-- A client has made the default block a dataflow block, and the emitter goes on with an ordinary one. -/
example :
    ((Workspace.new {} ⟨0⟩).after [.action .openFunction, .replaced .dataflow]).builder.frames.map
      (fun | .function f => f.emitter.openBlocks.map (·.kind) | x => x.blockKind?.toList) =
        [[.dataflow], [.ordinary]] := by
  decide

end ScopedBuilder
