import Mathlib.Data.List.DropRight
import ScopedBuilder.Proofs.FuncBlocks
import ScopedBuilder.Proofs.Run

/-!
# Open frames and open blocks in step

An emitter keeps a stack of open blocks of its own. In a session that has not failed it mirrors the
blocks on the stack of frames: of blocks directly upon each other only the topmost one is open in the
emitter, since the others are suspended.
-/

namespace ScopedBuilder

/-! ## Runs of blocks -/

namespace Frames

section Runs

variable {σ : Type}

/-- The kinds of the blocks on top of the maximal runs of blocks, topmost first. A block that is
`covered` by one directly above it goes on with a run. -/
def runTops (covered : Bool) : Frames σ → List BlockKind
  | [] => []
  | .block kind :: below => if covered then runTops true below else kind :: runTops true below
  | .module _ :: below | .function _ :: below => runTops false below

/-- A block on top of the stack is the top of its run. -/
theorem runTops_eq (frames : Frames σ) :
    runTops false frames = frames.topBlock?.toList ++ runTops true frames := by
  cases frames with
  | nil => rfl
  | cons x below => cases x <;> rfl

/-- The nearest block is always the top of a run. -/
theorem head?_runTops (frames : Frames σ) : (runTops false frames).head? = frames.nearestBlock? := by
  induction frames with
  | nil => rfl
  | cons x below ih =>
      cases x with
      | block kind => rfl
      | module m => exact ih
      | function f => exact ih

/-- The block that a client can replace is on top of a run. -/
theorem runTops_replaceBlock (kind : BlockKind) (frames : Frames σ) :
    runTops false (frames.replaceBlock kind) = (runTops false frames).modifyHead fun _ => kind := by
  induction frames with
  | nil => rfl
  | cons x below ih =>
      cases x with
      | block previous => rfl
      | module m => exact ih
      | function f => exact ih

/-- The frames directly above a function end at the next function. -/
theorem rtakeWhile_append_function (outer middle : Frames σ) (g : FuncDraft σ) :
    (outer ++ .function g :: middle).rtakeWhile (!·.isFunction) =
      middle.rtakeWhile (!·.isFunction) := by
  induction middle using List.reverseRecOn with
  | nil => simp [Frame.isFunction]
  | append_singleton middle x ih =>
      have hassoc :
          outer ++ .function g :: (middle ++ [x]) = (outer ++ .function g :: middle) ++ [x] := by
        simp
      rw [hassoc, List.rtakeWhile_concat, List.rtakeWhile_concat, ih]

/-- The nearest block to any frame belongs to the innermost function, if one is open. -/
theorem ShapedBy.nearestBlock?_eq {allowed : BlockKind → Prop} {frames above below : Frames σ}
    {f : FuncDraft σ} (h : ShapedBy allowed frames) (hsplit : splitFunction? frames = some (above, f, below)) :
    frames.nearestBlock? = above.nearestBlock? ∧ above.nearestBlock?.isSome := by
  obtain ⟨hframes, -⟩ := splitFunction?_eq_some_iff.mp hsplit
  obtain ⟨rest, kind, rfl, -⟩ := h.exists_block_above hframes
  have hsome : (nearestBlock? (rest ++ [.block kind]) : Option BlockKind).isSome := by
    simp [nearestBlock?, Frame.blockKind?]
  subst hframes
  refine ⟨?_, hsome⟩
  rw [nearestBlock?, List.findSome?_append]
  exact Option.or_of_isSome hsome

end Runs

/-! ## The relation between the two stacks -/

/-- The emitter holds a block as being of the kind that the top of its run has, unless that kind may have
been written into the frame behind its back. -/
def Reflects (written : BlockKind → Prop) (held top : BlockKind) : Prop := held = top ∨ written top

theorem Reflects.refl {written : BlockKind → Prop} (kind : BlockKind) : Reflects written kind kind :=
  .inl rfl

/-- Every open function has one open block for each run of blocks above it, up to the next function, in
the same order and each reflecting the top of its run. -/
inductive InStep (written : BlockKind → Prop) : Frames BlockWriter → Prop where
  | outside {above : Frames BlockWriter} :
      (∀ x ∈ above, x.isFunction = false) → InStep written above
  | function {above below : Frames BlockWriter} {f : FuncDraft BlockWriter} :
      (∀ x ∈ above, x.isFunction = false) →
      List.Forall₂ (Reflects written) f.openKinds (above.runTops false) → InStep written below →
      InStep written (above ++ .function f :: below)

namespace InStep

variable {written : BlockKind → Prop} {frames above below : Frames BlockWriter}
  {f : FuncDraft BlockWriter}

/-- The relation at the innermost function, and at the functions below it. -/
theorem of_split (h : InStep written frames)
    (hsplit : splitFunction? frames = some (above, f, below)) :
    List.Forall₂ (Reflects written) f.openKinds (above.runTops false) ∧ InStep written below := by
  cases h with
  | outside h =>
      obtain ⟨rfl, -⟩ := splitFunction?_eq_some_iff.mp hsplit
      simpa [Frame.isFunction] using h (.function f) (by simp)
  | function h hkinds hbelow =>
      rw [splitFunction?_append h] at hsplit
      cases hsplit
      exact ⟨hkinds, hbelow⟩

theorem of_split_eq_none (h : splitFunction? frames = none) : InStep written frames := by
  rw [splitFunction?_eq_none_iff] at h
  exact .outside (by simpa using h)

theorem module_iff {m : ModuleDraft} : InStep written (.module m :: frames) ↔ InStep written frames := by
  cases hsplit : splitFunction? frames with
  | none =>
      exact iff_of_true (of_split_eq_none (by simp [hsplit])) (of_split_eq_none hsplit)
  | some split =>
      obtain ⟨above, f, below⟩ := split
      constructor
      · intro h
        obtain ⟨hkinds, hbelow⟩ := h.of_split
          (show splitFunction? _ = some (.module m :: above, f, below) by simp [hsplit])
        obtain ⟨rfl, habove⟩ := splitFunction?_eq_some_iff.mp hsplit
        exact .function habove hkinds hbelow
      · intro h
        obtain ⟨hkinds, hbelow⟩ := h.of_split hsplit
        obtain ⟨rfl, habove⟩ := splitFunction?_eq_some_iff.mp hsplit
        have hpushed : InStep written ((.module m :: above) ++ .function f :: below) :=
          .function (by simpa [Frame.isFunction] using habove) hkinds hbelow
        exact hpushed

/-- The innermost open block mirrors the nearest one on the stack. -/
theorem exists_openKinds (h : InStep written frames) (hshape : frames.Shaped)
    (hsplit : splitFunction? frames = some (above, f, below)) :
    ∃ kind held kinds, frames.nearestBlock? = some kind ∧ Reflects written held kind ∧
      f.openKinds = held :: kinds := by
  obtain ⟨hnearest, hsome⟩ := hshape.nearestBlock?_eq hsplit
  obtain ⟨kind, hkind⟩ := Option.isSome_iff_exists.mp hsome
  obtain ⟨tops, htops⟩ := List.head?_eq_some_iff.mp ((head?_runTops above).trans hkind)
  have hkinds := (h.of_split hsplit).1
  rw [htops] at hkinds
  obtain ⟨held, kinds, hheld, -, hopen⟩ := List.forall₂_cons_right_iff.mp hkinds
  exact ⟨kind, held, kinds, hnearest.trans hkind, hheld, hopen⟩

/-- The innermost function may be replaced by one with the same open blocks. -/
theorem replace {f' : FuncDraft BlockWriter} (h : InStep written frames)
    (hsplit : splitFunction? frames = some (above, f, below)) (hkinds : f'.openKinds = f.openKinds) :
    InStep written (above ++ .function f' :: below) := by
  obtain ⟨habove, hbelow⟩ := h.of_split hsplit
  exact .function (splitFunction?_eq_some_iff.mp hsplit).2 (hkinds ▸ habove) hbelow

/-- A block may be replaced by one of a kind that may have been written. -/
theorem replaceBlock {kind : BlockKind} (h : InStep written frames) (hshape : frames.Shaped)
    (hkind : written kind) : InStep written (frames.replaceBlock kind) := by
  cases hsplit : splitFunction? frames with
  | none => exact of_split_eq_none (splitFunction?_replaceBlock_eq_none hsplit)
  | some split =>
      obtain ⟨above, f, below⟩ := split
      obtain ⟨hkinds, hbelow⟩ := h.of_split hsplit
      have habove := (splitFunction?_eq_some_iff.mp hsplit).2
      rw [hshape.replaceBlock_eq hsplit]
      refine .function (isFunction_of_mem_replaceBlock habove) ?_ hbelow
      rw [runTops_replaceBlock]
      generalize f.openKinds = kinds, above.runTops false = tops at hkinds
      cases hkinds with
      | nil => exact .nil
      | cons _ hkinds => exact .cons (.inr hkind) hkinds

/-- The relation at each open function. -/
theorem forall₂_openKinds (h : InStep written frames)
    (hframes : frames = above ++ .function f :: below) :
    List.Forall₂ (Reflects written) f.openKinds (runTops false (above.rtakeWhile (!·.isFunction))) := by
  induction h generalizing above with
  | outside h =>
      subst hframes
      simpa [Frame.isFunction] using h (.function f) (by simp)
  | @function inner rest g hinner hkinds _ ih =>
      have hself : inner.rtakeWhile (!·.isFunction) = inner :=
        List.rtakeWhile_eq_self_iff.mpr (by simpa using hinner)
      rcases List.append_eq_append_iff.mp hframes with ⟨middle, rfl, hrest⟩ | ⟨middle, rfl, hrest⟩
      · cases middle with
        | nil =>
            cases hrest
            rwa [List.append_nil, hself]
        | cons x middle =>
            cases hrest
            rw [rtakeWhile_append_function]
            exact ih rfl
      · cases middle with
        | nil =>
            cases hrest
            rw [List.append_nil] at hself hkinds
            rwa [hself]
        | cons x middle =>
            cases hrest
            simpa [Frame.isFunction] using hinner (.function f) (by simp)

end InStep

end Frames

/-! ## Changes keep the stacks in step -/

open Frames BuildM

variable {written : BlockKind → Prop} {w w' : Workspace BlockWriter} {a : Action} {reply : Reply}

theorem Closing.inStep (h : Closing w w') (hin : w.builder.frames.InStep written) :
    w'.builder.frames.InStep written := by
  cases h with
  | @block kind rest above below f f' hframes hsplit hne hleave =>
      rw [hframes] at hin
      have hsplit' : splitFunction? (.block kind :: rest) = some (.block kind :: above, f, below) := by
        simp [hsplit]
      obtain ⟨hkinds, hbelow⟩ := hin.of_split hsplit'
      obtain ⟨rfl, habove⟩ := splitFunction?_eq_some_iff.mp hsplit
      rw [topBlock?_append hne] at hleave
      obtain ⟨g, hleave', hg⟩ := FuncDraft.leaveBlock_of_related .refl hkinds
      cases hleave.symm.trans hleave'
      exact .function habove (runTops_eq above ▸ hg) hbelow
  | function => exact .outside (by simp)
  | @definition kind f _ _ m _ below hframes _ _ _ =>
      rw [hframes] at hin
      obtain ⟨-, hbelow⟩ := hin.of_split
        (show splitFunction? _ = some ([.block kind], f, .module m :: below) by simp)
      exact InStep.module_iff.mpr (InStep.module_iff.mp hbelow)
  | module hframes _ _ =>
      rw [hframes] at hin
      exact InStep.module_iff.mp hin

theorem Change.inStep (h : Change w a reply w') (hnew : w.builder.newEmitter = .ofConfig)
    (hshape : w.builder.frames.Shaped) (hin : w.builder.frames.InStep written) :
    w'.builder.frames.InStep written := by
  cases h with
  | openModule => exact InStep.module_iff.mpr hin
  | openFunction =>
      have hopened : InStep written ([.block .ordinary] ++
          .function ((FuncDraft.new (BlockWriter.ofConfig w.builder.config)).beginBlock .ordinary) ::
            w.builder.frames) :=
        .function (by simp [Frame.isFunction]) (.cons (.refl .ordinary) .nil) hin
      rw [hnew]
      exact hopened
  | @openBlock _ kind above below f f' _ hsplit henter =>
      obtain ⟨hkinds, hbelow⟩ := hin.of_split hsplit
      obtain ⟨hframes, habove⟩ := splitFunction?_eq_some_iff.mp hsplit
      rw [hframes, topBlock?_append (hshape.above_ne_nil hsplit)] at henter
      rw [runTops_eq] at hkinds
      obtain ⟨g, henter', hg⟩ := FuncDraft.enterBlock_of_related (.refl kind) hkinds
      cases henter.symm.trans henter'
      have hpushed : InStep written ((.block kind :: above) ++ .function f' :: below) :=
        .function (by simpa [Frame.isFunction] using habove) hg hbelow
      exact hpushed
  | close _ _ hclosing => exact hclosing.inStep hin
  | abort =>
      split
      · exact hin
      · exact .outside (by simp)
  | editModule _ hframes _ =>
      rw [hframes] at hin
      exact InStep.module_iff.mpr (InStep.module_iff.mp hin)
  | @editFunction _ _ _ kind f f' below ha hframes hedit =>
      have hsplit : splitFunction? w.builder.frames = some ([.block kind], f, below) := by
        simp [hframes]
      have hkinds : f'.openKinds = f.openKinds := by
        rw [FuncDraft.openKinds, (Action.functionEdit_blocks ha hedit).1, FuncDraft.openKinds]
      exact hin.replace hsplit hkinds
  | @emit _ _ _ above below f f' _ _ hsplit hemit =>
      obtain ⟨-, held, kinds, -, -, hkinds⟩ := hin.exists_openKinds hshape hsplit
      obtain ⟨g, hemit', hg⟩ := FuncDraft.emit_of_openKinds hkinds
      cases hemit.symm.trans hemit'
      exact hin.replace hsplit (hg.trans hkinds.symm)
  | takeResult => split <;> exact hin
  | setResult | setRenamers | registerRenamer | rename => exact hin

/-! ## Sessions -/

/-- What holds of a session with the standard emitter as long as it has not failed, whatever a client has
written into its blocks. -/
structure Workspace.Sound (config : Config) (w : Workspace BlockWriter) : Prop where
  config_eq : w.builder.config = config
  newEmitter_eq : w.builder.newEmitter = .ofConfig
  shaped : w.builder.frames.Shaped
  inStep : w.builder.frames.InStep fun _ => True

namespace Workspace

variable {config : Config}

theorem inStep_quiet {e : Event} (hnew : w.builder.newEmitter = .ofConfig)
    (hshape : w.builder.frames.Shaped) (hwritten : ∀ kind, e = .replaced kind → written kind)
    (h : w.builder.frames.InStep written) (hquiet : Quiet w e w') :
    w'.builder.frames.InStep written := by
  cases hquiet with
  | change _ hchange => exact hchange.inStep hnew hshape h
  | replaced kind => exact h.replaceBlock hshape (hwritten kind rfl)
  | drawn | refused => exact h

theorem Sound.quiet {e : Event} (h : w.Sound config) (hquiet : Quiet w e w') : w'.Sound config :=
  ⟨hquiet.config_eq.trans h.config_eq, hquiet.newEmitter_eq.trans h.newEmitter_eq,
    hquiet.shaped h.shaped,
    inStep_quiet h.newEmitter_eq h.shaped (fun _ _ => trivial) h.inStep hquiet⟩

theorem sound_new (config : Config) (supply : VarSupply) : (new config supply).Sound config :=
  ⟨rfl, rfl, .nil, .outside (by simp [new, Builder.new])⟩

theorem sound_after (config : Config) (supply : VarSupply) {events : List Event}
    (hfailed : ((new config supply).after events).builder.failed = false) :
    ((new config supply).after events).Sound config := by
  refine (holds_after (fun _ w => w.Sound config) ?_ .nil (sound_new config supply) events
    hfailed).2
  intro _ w e w' _ _ _ hsound hquiet
  exact hsound.quiet hquiet

/-- Along a run, the emitter mirrors every block but those that a client may have written. -/
theorem inStep_after (config : Config) (supply : VarSupply) {events : List Event}
    (hfailed : ((new config supply).after events).builder.failed = false) :
    ((new config supply).after events).builder.frames.InStep (.replaced · ∈ events) := by
  refine (holds_after_of_forall (·.event ∈ events)
    (fun _ w => w.builder.newEmitter = .ofConfig ∧ w.builder.frames.InStep (.replaced · ∈ events))
    ?_ .nil ⟨rfl, .outside (by simp [new, Builder.new])⟩ (forall_mem_steps (fun _ => id) _) hfailed).2
  rintro _ w e w' - hshape hmem ⟨hnew, hin⟩ hquiet
  exact ⟨hquiet.newEmitter_eq.trans hnew, inStep_quiet hnew hshape (fun _ he => he ▸ hmem) hin hquiet⟩

end Workspace

end ScopedBuilder
