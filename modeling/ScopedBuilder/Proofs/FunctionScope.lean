import ScopedBuilder.Proofs.EmissionLog
import ScopedBuilder.Proofs.ModuleScope

/-!
# The blocks of a closed function

Along a run, the log of each open function is kept. A function whose scope closes has the pieces of its
log as blocks. Opening a module or another function inside a function would break the order, but such
a function cannot be closed any more.
-/

namespace ScopedBuilder

/-! ## The logs of a run -/

/-- The log of an open function. A piece is of the kind that the innermost block had when the piece began;
the kinds that the innermost block has at the bindings themselves are noted beside. -/
structure OpenLog where
  kind : BlockKind
  entries : EmissionLog
  met : List BlockKind

namespace OpenLog

/-- A function begins in its default block. -/
def new : OpenLog := ⟨.ordinary, [], []⟩

/-- A boundary: a piece of another kind begins. -/
def cut (log : OpenLog) (kind : BlockKind) : OpenLog :=
  { log with kind := kind, entries := log.entries ++ [.cut] }

def bind (log : OpenLog) (met? : Option BlockKind) (binding : Binding Expr) : OpenLog :=
  { log with entries := log.entries ++ [.bound log.kind binding], met := log.met ++ met?.toList }

/-- Every binding is in a piece of the kind that the innermost block has when it is made, unless that kind
has been written into the block. -/
def Faithful (written : BlockKind → Prop) (log : OpenLog) : Prop :=
  List.Forall₂ (Frames.Reflects written) (log.entries.tagged.map (·.1)) log.met

variable {written : BlockKind → Prop} {log : OpenLog}

theorem Faithful.new : Faithful written new := .nil

theorem Faithful.cut (h : log.Faithful written) (kind : BlockKind) : (log.cut kind).Faithful written := by
  rwa [Faithful, OpenLog.cut, EmissionLog.tagged_cut]

theorem Faithful.bind {met : BlockKind} (h : log.Faithful written)
    (hmet : Frames.Reflects written log.kind met) (binding : Binding Expr) :
    (log.bind (some met) binding).Faithful written := by
  rw [Faithful, OpenLog.bind, EmissionLog.tagged_bound, List.map_append]
  exact List.rel_append h (.cons hmet .nil)

end OpenLog

namespace Step

/-- The logs of the open functions after a step, innermost first. All kinds are read off the stack: that of a
piece at the boundary where it begins, and that of the innermost block at each binding. -/
def writeLogs (s : Step BlockWriter) (logs : List OpenLog) : List OpenLog :=
  match s.event, s.outcome with
  | .action a, .ok reply w' =>
    match a with
    | .openFunction => .new :: logs
    | .close _ | .closeScope =>
      match s.before.builder.frames.innermostScope?.map Scope.kind,
          w'.builder.frames.nearestBlock? with
      | some .function, _ => logs.tail
      | some .block, some kind => logs.modifyHead (·.cut kind)
      | _, _ => logs
    | .abort => []
    | a =>
      match a.opens?, a.binds?, reply with
      | some kind, _, _ => logs.modifyHead (·.cut kind)
      | none, some e, .var v =>
        logs.modifyHead (·.bind s.before.builder.frames.nearestBlock? ⟨v, e.normalize⟩)
      | _, _, _ => logs
  | _, _ => logs

end Step

/-- The logs of the functions that are open at the end of a run. -/
def logs (steps : List (Step BlockWriter)) : List OpenLog :=
  steps.foldl (fun logs s => s.writeLogs logs) []

theorem logs_concat (steps : List (Step BlockWriter)) (s : Step BlockWriter) :
    logs (steps ++ [s]) = s.writeLogs (logs steps) := by
  simp [logs]

/-! ## Functions and their logs -/

namespace Frames

variable {written : BlockKind → Prop}

/-- A function with only blocks above it follows its log. -/
structure Follows (written : BlockKind → Prop) (above : Frames BlockWriter) (f : FuncDraft BlockWriter)
    (log : OpenLog) : Prop where
  modules_eq : above.modules = []
  exists_top : ∃ top, above.topBlock? = some top ∧ Reflects written log.kind top
  logged : f.Logged log.kind log.entries
  faithful : log.Faithful written

/-- A function that nothing can take in: no module is below it, and it is not the outermost scope, or
the result is that of a module. -/
def Stuck (filled : Bool) (above below : Frames BlockWriter) : Prop :=
  below.modules = [] ∧ (below ≠ [] ∨ above.modules ≠ [] ∨ filled = true)

/-- Every open function follows its log or is stuck. -/
inductive Recorded (written : BlockKind → Prop) (filled : Bool) :
    Frames BlockWriter → List OpenLog → Prop where
  | outside {above : Frames BlockWriter} :
      (∀ x ∈ above, x.isFunction = false) → Recorded written filled above []
  | function {above below : Frames BlockWriter} {f : FuncDraft BlockWriter} {log : OpenLog}
      {logs : List OpenLog} : (∀ x ∈ above, x.isFunction = false) →
      Follows written above f log ∨ Stuck filled above below → Recorded written filled below logs →
      Recorded written filled (above ++ .function f :: below) (log :: logs)

namespace Recorded

variable {filled : Bool} {frames above below : Frames BlockWriter} {f f' : FuncDraft BlockWriter}
  {logs : List OpenLog} {m m' : ModuleDraft}

theorem of_none (h : Recorded written filled frames logs) (hsplit : frames.splitFunction? = none) :
    logs = [] := by
  cases h with
  | outside => rfl
  | function h _ _ =>
      rw [splitFunction?_append h] at hsplit
      cases hsplit

theorem of_split (h : Recorded written filled frames logs)
    (hsplit : frames.splitFunction? = some (above, f, below)) :
    ∃ log rest, logs = log :: rest ∧ (Follows written above f log ∨ Stuck filled above below) ∧
      Recorded written filled below rest := by
  cases h with
  | outside h =>
      obtain ⟨rfl, -⟩ := splitFunction?_eq_some_iff.mp hsplit
      simpa [Frame.isFunction] using h (.function f) (by simp)
  | function h hf hbelow =>
      rw [splitFunction?_append h] at hsplit
      cases hsplit
      exact ⟨_, _, rfl, hf, hbelow⟩

theorem isFunction_of_none (hsplit : frames.splitFunction? = none) :
    ∀ x ∈ frames, x.isFunction = false := by
  simpa using splitFunction?_eq_none_iff.mp hsplit

/-- Work on the innermost function writes to its log; a function that is stuck stays so. -/
theorem rework {above' : Frames BlockWriter} {write : OpenLog → OpenLog}
    (h : Recorded written filled frames logs)
    (hsplit : frames.splitFunction? = some (above, f, below))
    (habove : ∀ x ∈ above', x.isFunction = false) (hmodules : above'.modules = above.modules)
    (hfollows : ∀ log, Follows written above f log → Follows written above' f' (write log)) :
    Recorded written filled (above' ++ .function f' :: below) (logs.modifyHead write) := by
  obtain ⟨log, rest, rfl, hf, hbelow⟩ := h.of_split hsplit
  refine .function habove ?_ hbelow
  rcases hf with hf | ⟨hbelow, hcause⟩
  · exact .inl (hfollows log hf)
  · exact .inr ⟨hbelow, hmodules ▸ hcause⟩

/-- What does not concern the blocks of the innermost function writes nothing. -/
theorem rework_unwritten {above' : Frames BlockWriter} (h : Recorded written filled frames logs)
    (hsplit : frames.splitFunction? = some (above, f, below))
    (habove : ∀ x ∈ above', x.isFunction = false) (hmodules : above'.modules = above.modules)
    (hfollows : ∀ log, Follows written above f log → Follows written above' f' log) :
    Recorded written filled (above' ++ .function f' :: below) logs := by
  have hlogs : logs.modifyHead id = logs := by simp
  exact hlogs ▸ h.rework hsplit habove hmodules hfollows

/-- A new function starts with the empty log. -/
theorem openFunction {w : BlockWriter} (h : Recorded written filled frames logs) (hopen : w.openBlocks = []) :
    Recorded written filled
      (.block .ordinary :: .function ((FuncDraft.new w).beginBlock .ordinary) :: frames)
      (.new :: logs) := by
  have hopened : Recorded written filled
      ([.block .ordinary] ++ .function ((FuncDraft.new w).beginBlock .ordinary) :: frames)
      (.new :: logs) :=
    .function (by simp [Frame.isFunction])
      (.inl ⟨rfl, ⟨.ordinary, rfl, .refl _⟩, .start hopen .ordinary, .new⟩) h
  exact hopened

theorem enterBlock {kind : BlockKind} (h : Recorded written filled frames logs)
    (hsplit : frames.splitFunction? = some (above, f, below)) (hne : above ≠ [])
    (henter : FuncDraft.enterBlock kind frames.topBlock? f = .ok () f') :
    Recorded written filled (.block kind :: (above ++ .function f' :: below))
      (logs.modifyHead (·.cut kind)) := by
  obtain ⟨hframes, habove⟩ := splitFunction?_eq_some_iff.mp hsplit
  rw [hframes, topBlock?_append hne] at henter
  have hfollows : ∀ log, Follows written above f log → Follows written (.block kind :: above) f' (log.cut kind) := by
    rintro log ⟨hmodules, ⟨top, htop, -⟩, hlogged, hfaithful⟩
    rw [htop] at henter
    exact ⟨by simpa using hmodules, ⟨kind, rfl, .refl kind⟩, hlogged.enter henter, hfaithful.cut kind⟩
  exact h.rework hsplit (by simpa [Frame.isFunction] using habove) (by simp) hfollows

theorem leaveBlock {kind nearest : BlockKind} {rest : Frames BlockWriter}
    (h : Recorded written filled (.block kind :: rest) logs)
    (hsplit : rest.splitFunction? = some (above, f, below)) (hne : above ≠ [])
    (hnearest : above.nearestBlock? = some nearest)
    (hleave : FuncDraft.leaveBlock rest.topBlock? f = .ok () f') :
    Recorded written filled (above ++ .function f' :: below) (logs.modifyHead (·.cut nearest)) := by
  have hsplit' : splitFunction? (.block kind :: rest) = some (.block kind :: above, f, below) := by
    simp [hsplit]
  obtain ⟨hrest, habove⟩ := splitFunction?_eq_some_iff.mp hsplit
  rw [hrest, topBlock?_append hne] at hleave
  obtain ⟨x, above, rfl⟩ := List.exists_cons_of_ne_nil hne
  refine h.rework hsplit' habove (by simp) ?_
  rintro log ⟨hmodules, -, hlogged, hfaithful⟩
  cases x with
  | function g => simpa [Frame.isFunction] using habove (.function g) (by simp)
  | module m => simp at hmodules
  | block k =>
      obtain rfl := Option.some.inj hnearest
      exact ⟨by simpa using hmodules, ⟨k, rfl, .refl k⟩, hlogged.leave hleave, hfaithful.cut k⟩

theorem emit {e : Expr} {v : Var} {supply supply' : VarSupply}
    (h : Recorded written filled frames logs) (hsplit : frames.splitFunction? = some (above, f, below))
    (hemit : FuncDraft.emit e (f, supply) = .ok v (f', supply')) :
    Recorded written filled (above ++ .function f' :: below)
      (logs.modifyHead (·.bind frames.nearestBlock? ⟨v, e.normalize⟩)) := by
  obtain ⟨hframes, habove⟩ := splitFunction?_eq_some_iff.mp hsplit
  refine h.rework hsplit habove rfl ?_
  rintro log ⟨hmodules, ⟨top, htop, hreflects⟩, hlogged, hfaithful⟩
  have hmet : frames.nearestBlock? = some top := by
    rw [hframes, nearestBlock?, List.findSome?_append]
    exact congrArg (Option.or · _) (nearestBlock?_of_topBlock? htop)
  refine ⟨hmodules, ⟨top, htop, hreflects⟩, hlogged.emit hemit, ?_⟩
  rw [hmet]
  exact hfaithful.bind hreflects _

/-- What a client writes into a block does not touch the piece under way. -/
theorem replaceBlock {kind : BlockKind} (h : Recorded written filled frames logs) (hshape : frames.Shaped)
    (hwritten : written kind) : Recorded written filled (frames.replaceBlock kind) logs := by
  cases hsplit : frames.splitFunction? with
  | none =>
      rw [h.of_none hsplit]
      exact .outside (isFunction_of_none (splitFunction?_replaceBlock_eq_none hsplit))
  | some split =>
      obtain ⟨above, f, below⟩ := split
      rw [hshape.replaceBlock_eq hsplit]
      refine h.rework_unwritten hsplit
        (isFunction_of_mem_replaceBlock (splitFunction?_eq_some_iff.mp hsplit).2) (by simp) ?_
      rintro log ⟨hmodules, ⟨top, htop, -⟩, hlogged, hfaithful⟩
      exact ⟨by simpa using hmodules, ⟨kind, topBlock?_replaceBlock htop, .inr hwritten⟩, hlogged, hfaithful⟩

/-- An edit that leaves the blocks alone writes nothing. -/
theorem editFunction (h : Recorded written filled frames logs)
    (hsplit : frames.splitFunction? = some (above, f, below)) (hemitter : f'.emitter = f.emitter)
    (hblocks : f'.blocks = f.blocks) : Recorded written filled (above ++ .function f' :: below) logs := by
  refine h.rework_unwritten hsplit (splitFunction?_eq_some_iff.mp hsplit).2 rfl ?_
  rintro log ⟨hmodules, htop, hlogged, hfaithful⟩
  exact ⟨hmodules, htop, hlogged.of_eq hemitter hblocks, hfaithful⟩

/-- Filling the result sets no function free. -/
theorem fill (h : Recorded written filled frames logs) : Recorded written true frames logs := by
  induction h with
  | outside h => exact .outside h
  | function h hf _ ih =>
      refine .function h (hf.imp_right fun hstuck => ?_) ih
      exact ⟨hstuck.1, .inr (.inr rfl)⟩

theorem openModule (h : Recorded written filled frames logs) (hmodules : frames.modules = []) :
    Recorded written filled (.module m :: frames) logs := by
  cases hsplit : frames.splitFunction? with
  | none =>
      rw [h.of_none hsplit]
      exact .outside (by simpa [Frame.isFunction] using isFunction_of_none hsplit)
  | some split =>
      obtain ⟨above, f, below⟩ := split
      obtain ⟨log, rest, rfl, -, hbelow⟩ := h.of_split hsplit
      obtain ⟨rfl, habove⟩ := splitFunction?_eq_some_iff.mp hsplit
      simp only [modules_append, modules_function, List.append_eq_nil_iff] at hmodules
      have hpushed : Recorded written filled ((.module m :: above) ++ .function f :: below) (log :: rest) :=
        .function (by simpa [Frame.isFunction] using habove)
          (.inr ⟨hmodules.2, .inr (.inl (by simp))⟩) hbelow
      exact hpushed

/-- The innermost function below an open module is stuck. -/
theorem below_module (h : Recorded written filled (.module m :: frames) logs) :
    ((∀ x ∈ frames, x.isFunction = false) ∧ logs = []) ∨
      ∃ (above : Frames BlockWriter) (f : FuncDraft BlockWriter) (below : Frames BlockWriter)
        (log : OpenLog) (rest : List OpenLog), frames = above ++ .function f :: below ∧
        (∀ x ∈ above, x.isFunction = false) ∧ below.modules = [] ∧
        Recorded written filled below rest ∧ logs = log :: rest := by
  cases hsplit : frames.splitFunction? with
  | none => exact .inl ⟨isFunction_of_none hsplit, h.of_none (by simp [hsplit])⟩
  | some split =>
      obtain ⟨above, f, below⟩ := split
      obtain ⟨log, rest, rfl, hf, hbelow⟩ := h.of_split
        (show splitFunction? _ = some (.module m :: above, f, below) by simp [hsplit])
      obtain ⟨rfl, habove⟩ := splitFunction?_eq_some_iff.mp hsplit
      refine .inr ⟨above, f, below, log, rest, rfl, habove, ?_, hbelow, rfl⟩
      rcases hf with hfollows | hstuck
      · simpa using hfollows.modules_eq
      · exact hstuck.1

theorem editModule (h : Recorded written filled (.module m :: frames) logs) :
    Recorded written filled (.module m' :: frames) logs := by
  rcases h.below_module with ⟨hnone, rfl⟩ | ⟨above, f, below, log, rest, rfl, habove, hmodules,
    hbelow, rfl⟩
  · exact .outside (by simpa [Frame.isFunction] using hnone)
  · have hpushed : Recorded written filled ((.module m' :: above) ++ .function f :: below) (log :: rest) :=
      .function (by simpa [Frame.isFunction] using habove)
        (.inr ⟨hmodules, .inr (.inl (by simp))⟩) hbelow
    exact hpushed

/-- What was below an open module stays stuck when the module becomes the result. -/
theorem closeModule (h : Recorded written filled (.module m :: frames) logs) : Recorded written true frames logs := by
  rcases h.below_module with ⟨hnone, rfl⟩ | ⟨above, f, below, log, rest, rfl, habove, hmodules,
    hbelow, rfl⟩
  · exact .outside hnone
  · exact .function habove (.inr ⟨hmodules, .inr (.inr rfl)⟩) hbelow.fill

end Recorded

end Frames

/-! ## Changes keep the logs -/

open Frames

section Changes

variable {w w' : Workspace BlockWriter} {a : Action} {reply : Reply} {config : Config}
  {logs : List OpenLog} {written : BlockKind → Prop}

theorem Step.writeLogs_openFunction (hrun : Action.openFunction.run w = .ok reply w') :
    Step.writeLogs ⟨w, .action .openFunction⟩ logs = .new :: logs := by
  simp [writeLogs, outcome, Event.run, hrun]

theorem Step.writeLogs_abort (hrun : Action.abort.run w = .ok reply w') :
    Step.writeLogs ⟨w, .action .abort⟩ logs = [] := by
  simp [writeLogs, outcome, Event.run, hrun]

theorem Step.writeLogs_of_error {error : BuildError} (herror : a.run w = .error error w') :
    Step.writeLogs ⟨w, .action a⟩ logs = logs := by
  simp [writeLogs, outcome, Event.run, herror]

theorem Step.writeLogs_of_opens {kind : BlockKind} (ha : a.opens? = some kind)
    (hrun : a.run w = .ok reply w') :
    Step.writeLogs ⟨w, .action a⟩ logs = logs.modifyHead (·.cut kind) := by
  cases a <;> simp only [Action.opens?, Option.some.injEq, reduceCtorEq] at ha <;> subst ha <;>
    simp [writeLogs, outcome, Event.run, hrun, Action.opens?]

theorem Step.writeLogs_of_binds {e : Expr} {v : Var} (ha : a.binds? = some e)
    (hrun : a.run w = .ok (.var v) w') :
    Step.writeLogs ⟨w, .action a⟩ logs =
      logs.modifyHead (·.bind w.builder.frames.nearestBlock? ⟨v, e.normalize⟩) := by
  cases a <;> simp only [Action.binds?, Option.some.injEq, reduceCtorEq] at ha <;> subst ha <;>
    simp [writeLogs, outcome, Event.run, hrun, Action.opens?, Action.binds?]

theorem Step.writeLogs_of_closes {scope : Scope} (ha : a.closes scope = true)
    (hrun : a.run w = .ok reply w') (hscope : w.builder.frames.innermostScope? = some scope) :
    Step.writeLogs ⟨w, .action a⟩ logs =
      match scope.kind, w'.builder.frames.nearestBlock? with
      | .function, _ => logs.tail
      | .block, some kind => logs.modifyHead (·.cut kind)
      | _, _ => logs := by
  cases a <;> simp only [Action.closes, Bool.false_eq_true] at ha <;>
    cases hkind : scope.kind <;> cases hnearest : w'.builder.frames.nearestBlock? <;>
    simp [writeLogs, outcome, Event.run, hrun, hscope, hkind, hnearest]

/-- Where a block of the innermost function closes, a piece begins of the kind of the block around it. -/
theorem Step.exists_writeLogs_of_closes {depth : Nat} {above below : Frames BlockWriter}
    {f : FuncDraft BlockWriter} (ha : a.closes ⟨depth, .block⟩ = true)
    (hrun : a.run w = .ok reply (w.withFrames (above ++ .function f :: below)))
    (hscope : w.builder.frames.innermostScope? = some ⟨depth, .block⟩)
    (habove : ∀ x ∈ above, x.isFunction = false) (hshape : (above ++ .function f :: below).Shaped) :
    ∃ kind, above.nearestBlock? = some kind ∧
      Step.writeLogs ⟨w, .action a⟩ logs = logs.modifyHead (·.cut kind) := by
  obtain ⟨hnearest, hsome⟩ := hshape.nearestBlock?_eq (splitFunction?_append habove)
  obtain ⟨kind, hkind⟩ := Option.isSome_iff_exists.mp hsome
  refine ⟨kind, hkind, ?_⟩
  rw [Step.writeLogs_of_closes ha hrun hscope, Workspace.withFrames_frames, hnearest, hkind]

/-- Whether an operation has nothing to do with the blocks of a function. -/
def Action.isSilent : Action → Bool
  | .openFunction | .openBlock _ | .pushBlock _ | .close _ | .closeScope | .abort | .emit _
  | .emitKernelCall .. => false
  | _ => true

theorem Action.isSilent_of_moduleEdit {edit : ModuleDraft → Except BuildError (Reply × ModuleDraft)}
    (ha : a.moduleEdit? = some edit) : a.isSilent = true := by
  cases a <;> simp only [Action.moduleEdit?, reduceCtorEq] at ha <;> rfl

theorem Action.isSilent_of_functionEdit {σ : Type} [Emitter σ] {renamers : Renamers}
    {edit : FuncDraft σ → Except BuildError (Reply × FuncDraft σ)}
    (ha : a.functionEdit? renamers = some edit) : a.isSilent = true := by
  cases a <;> simp only [Action.functionEdit?, reduceCtorEq] at ha <;> rfl

theorem Step.writeLogs_of_silent (ha : a.isSilent = true) :
    Step.writeLogs ⟨w, .action a⟩ logs = logs := by
  unfold writeLogs
  split
  · rename_i heq _
    cases heq
    cases a <;> simp_all [Action.isSilent, Action.binds?, Action.opens?]
  · rfl

theorem Closing.recorded {scope : Scope} (h : Closing w w') (hshape : w.builder.frames.Shaped)
    (ha : a.closes scope = true) (hrun : a.run w = .ok reply w')
    (hscope : w.builder.frames.innermostScope? = some scope)
    (hrec : Recorded written w.builder.result.isSome w.builder.frames logs) :
    Recorded written w'.builder.result.isSome w'.builder.frames
      (Step.writeLogs ⟨w, .action a⟩ logs) := by
  have hafter := h.shapedBy hshape
  cases h with
  | block hframes hsplit hne hleave =>
      have hblock : w.builder.frames.innermostScope? = some ⟨_, .block⟩ :=
        hframes ▸ innermostScope?_block hsplit hne
      obtain rfl := Option.some.inj (hscope.symm.trans hblock)
      obtain ⟨kind, hkind, hlogs⟩ := Step.exists_writeLogs_of_closes ha hrun hscope
        (splitFunction?_eq_some_iff.mp hsplit).2 hafter
      rw [hframes] at hrec
      rw [hlogs]
      exact hrec.leaveBlock hsplit hne hkind hleave
  | @function kind f f' func hframes _ _ _ =>
      rw [Step.writeLogs_of_closes ha hrun hscope]
      rw [hframes] at hscope hrec
      obtain rfl := Option.some.inj hscope
      obtain ⟨log, logs, rfl, -, hbelow⟩ := hrec.of_split
        (show splitFunction? _ = some ([.block kind], f, []) by simp)
      rw [hbelow.of_none rfl]
      exact .outside (by simp)
  | @definition kind f f' func m m' below hframes _ _ _ =>
      rw [Step.writeLogs_of_closes ha hrun hscope]
      rw [hframes] at hscope hrec
      obtain rfl := Option.some.inj hscope
      obtain ⟨log, logs, rfl, -, hbelow⟩ := hrec.of_split
        (show splitFunction? _ = some ([.block kind], f, .module m :: below) by simp)
      exact hbelow.editModule
  | module hframes _ _ =>
      rw [Step.writeLogs_of_closes ha hrun hscope]
      rw [hframes] at hscope hrec
      obtain rfl := Option.some.inj hscope
      exact hrec.closeModule

theorem Change.recorded (h : Change w a reply w') (hrun : a.run w = .ok reply w')
    (hsound : w.Sound config) (hfailed : w'.builder.failed = false)
    (hrec : Recorded written w.builder.result.isSome w.builder.frames logs) :
    Recorded written w'.builder.result.isSome w'.builder.frames
      (Step.writeLogs ⟨w, .action a⟩ logs) := by
  cases h with
  | openModule hmodules =>
      rw [Step.writeLogs_of_silent rfl]
      exact hrec.openModule (any_isModule_eq_false_iff.mp hmodules)
  | openFunction =>
      rw [Step.writeLogs_openFunction hrun, hsound.newEmitter_eq]
      exact hrec.openFunction rfl
  | openBlock ha hsplit henter =>
      rw [Step.writeLogs_of_opens ha hrun]
      exact hrec.enterBlock hsplit (hsound.shaped.above_ne_nil hsplit) henter
  | close ha hscope hclosing => exact hclosing.recorded hsound.shaped ha hrun hscope hrec
  | abort =>
      rw [Step.writeLogs_abort hrun]
      split at hfailed
      · rename_i hempty
        rw [if_pos hempty, List.isEmpty_iff.mp hempty]
        exact .outside (by simp)
      · cases hfailed
  | editModule ha hframes _ =>
      rw [Step.writeLogs_of_silent (Action.isSilent_of_moduleEdit ha)]
      rw [hframes] at hrec
      exact hrec.editModule
  | @editFunction _ _ _ kind f f' below ha hframes hedit =>
      rw [Step.writeLogs_of_silent (Action.isSilent_of_functionEdit ha)]
      have hsplit : w.builder.frames.splitFunction? = some ([.block kind], f, below) := by
        simp [hframes]
      obtain ⟨hemitter, hblocks⟩ := Action.functionEdit_blocks ha hedit
      exact hrec.editFunction hsplit hemitter hblocks
  | @emit _ e v above below f f' supply ha hsplit hemit =>
      rw [Step.writeLogs_of_binds ha hrun]
      exact hrec.emit hsplit hemit
  | takeResult =>
      rw [Step.writeLogs_of_silent rfl]
      split
      · rename_i hempty
        rw [List.isEmpty_iff.mp hempty] at hrec
        rw [hrec.of_none rfl, Workspace.withResult_frames, List.isEmpty_iff.mp hempty]
        exact .outside (by simp)
      · exact hrec
  | setResult artifact _ =>
      rw [Step.writeLogs_of_silent rfl]
      exact hrec.fill
  | setRenamers | registerRenamer | rename =>
      rw [Step.writeLogs_of_silent rfl]
      exact hrec

end Changes

/-! ## Runs -/

theorem Workspace.recorded_after (config : Config) (supply : VarSupply) {events : List Event}
    (hfailed : ((new config supply).after events).builder.failed = false) :
    Recorded (.replaced · ∈ events) ((new config supply).after events).builder.result.isSome
      ((new config supply).after events).builder.frames (logs ((new config supply).steps events)) := by
  refine (holds_after_of_forall (·.event ∈ events) (fun past w => w.Sound config ∧
      Recorded (.replaced · ∈ events) w.builder.result.isSome w.builder.frames (logs past)) ?_ .nil
    ⟨sound_new config supply, .outside (by simp [new, Builder.new])⟩ (forall_mem_steps (fun _ => id) _)
    hfailed).2
  rintro past w e w' hw' - hmem ⟨hsound, hrec⟩ hquiet
  refine ⟨hsound.quiet hquiet, ?_⟩
  rw [logs_concat]
  cases hquiet with
  | change hrun hchange => exact hchange.recorded hrun hsound hw' hrec
  | drawn => exact hrec
  | replaced kind => exact hrec.replaceBlock hsound.shaped hmem
  | refused herror =>
      rw [Step.writeLogs_of_error herror]
      exact hrec

/-- A finished function has been handed over: it is the result, or the module on top has it under its
name. -/
def Workspace.HandedOver (w : Workspace BlockWriter) (name : String) (func : Func) : Prop :=
  (w.builder.frames = [] ∧ w.builder.result = some (.function func)) ∨
    ∃ m below, w.builder.frames = .module m :: below ∧
      (m.global? name).bind m.definition? = some func

/-- The function of a scope that closes was not stuck. It is finished and handed over. -/
theorem Closing.exists_handedOver {t : Option Table} {w w' : Workspace BlockWriter} {depth : Nat}
    (h : Closing w w') (hmirrors : Mirrors t w)
    (hscope : w.builder.frames.innermostScope? = some ⟨depth, .function⟩) :
    ∃ kind f f' func below, w.builder.frames = .block kind :: .function f :: below ∧
      ¬ Stuck w.builder.result.isSome [.block kind] below ∧
      FuncDraft.leaveBlock none f = .ok () f' ∧ f'.assemble w.builder.config = .ok func ∧
      w'.HandedOver f.nameOrEmpty func := by
  cases h with
  | block hframes hsplit hne _ =>
      rw [hframes, innermostScope?_block hsplit hne] at hscope
      cases hscope
  | module hframes _ _ =>
      rw [hframes] at hscope
      cases hscope
  | @function kind f f' func hframes hleave hfunc hresult =>
      exact ⟨kind, f, f', func, [], hframes, by simp [Stuck, hresult], hleave, hfunc, .inl ⟨rfl, rfl⟩⟩
  | @definition kind f f' func m m' below hframes hleave hfunc hdefine =>
      have hmodules : w.builder.frames.modules = m :: below.modules := by simp [hframes]
      rw [FuncDraft.nameOrEmpty_leaveBlock hleave] at hdefine
      exact ⟨kind, f, f', func, _, hframes, by simp [Stuck], hleave, hfunc,
        .inr ⟨m', below, rfl, hmirrors.definition?_define hmodules hdefine⟩⟩

/-- A function that is not stuck can only close with its log kept. -/
theorem Frames.Recorded.logged {filled : Bool} {kind : BlockKind} {f : FuncDraft BlockWriter}
    {below : Frames BlockWriter} {logs : List OpenLog} {written : BlockKind → Prop}
    (h : Recorded written filled (.block kind :: .function f :: below) logs)
    (hfree : ¬ Stuck filled [.block kind] below) :
    ∃ log, logs.head? = some log ∧ f.Logged log.kind log.entries ∧ log.Faithful written := by
  obtain ⟨log, rest, rfl, hfollows | hstuck, -⟩ := h.of_split
    (show splitFunction? _ = some ([.block kind], f, below) by simp)
  · exact ⟨log, rfl, hfollows.logged, hfollows.faithful⟩
  · exact absurd hstuck hfree

/-- Whenever the scope of a function closes successfully, in any session with the standard emitter, its
blocks are the non-empty pieces of its log, in the order of emission and each of the kind that the innermost
block on the stack had when the piece began. Every binding in a piece is made while the innermost block is of
that kind, unless a client has written another kind into the block; what is written counts from the next
boundary on. -/
theorem closed_function_blocks (config : Config) (supply : VarSupply) (events : List Event)
    (a : Action) (depth : Nat) (reply : Reply) (w' : Workspace BlockWriter) :
    let w := (Workspace.new config supply).after events
    w.builder.frames.innermostScope? = some ⟨depth, .function⟩ →
    a.closes ⟨depth, .function⟩ = true → a.run w = .ok reply w' →
      ∃ f func log, w.builder.frames.nearestFunction? = some f ∧
        (logs ((Workspace.new config supply).steps events)).head? = some log ∧
        w'.HandedOver f.nameOrEmpty func ∧
        func.blocks.map Block.tagged = log.entries.pieces.filter (!·.isEmpty) ∧
        func.blocks.flatMap (·.bindings) = log.entries.bindings ∧
        (∀ block ∈ func.blocks, block.bindings ≠ []) ∧
        List.Forall₂ (fun kind met => kind = met ∨ .replaced met ∈ events)
          (log.entries.tagged.map (·.1)) log.met := by
  intro w hscope ha hrun
  have hfailed : w.builder.failed = false := Action.not_failed_of_closes ha hrun
  have hsound : w.Sound config := Workspace.sound_after config supply hfailed
  have hmirrors : Mirrors _ w := Workspace.mirrors_after config supply hfailed
  have hrec : Recorded _ w.builder.result.isSome w.builder.frames _ :=
    Workspace.recorded_after config supply hfailed
  obtain ⟨-, -, hclosing⟩ := (Action.run_closes_eq_ok hsound.shaped hscope ha).mp hrun
  cases hclosing with
  | block hframes hsplit hne _ =>
      rw [hframes, innermostScope?_block hsplit hne] at hscope
      cases hscope
  | @function kind f f' func hframes hleave hfunc hresult =>
      rw [hframes, hresult] at hrec
      obtain ⟨log, hlog, hlogged, hfaithful⟩ := hrec.logged (by simp [Stuck])
      have hblocks := hlogged.func_blocks hleave hfunc
      exact ⟨f, func, log, by simp [hframes, nearestFunction?], hlog, .inl ⟨rfl, rfl⟩, hblocks,
        Block.flatMap_bindings hblocks, fun block => Block.bindings_ne_nil hblocks, hfaithful⟩
  | @definition kind f f' func m m' below hframes hleave hfunc hdefine =>
      rw [hframes] at hrec
      obtain ⟨log, hlog, hlogged, hfaithful⟩ := hrec.logged (by simp [Stuck])
      have hblocks := hlogged.func_blocks hleave hfunc
      have hmodules : w.builder.frames.modules = m :: below.modules := by simp [hframes]
      rw [hlogged.nameOrEmpty_leaveBlock hleave] at hdefine
      exact ⟨f, func, log, by simp [hframes, nearestFunction?], hlog,
        .inr ⟨_, below, rfl, hmirrors.definition?_define hmodules hdefine⟩, hblocks,
        Block.flatMap_bindings hblocks, fun block => Block.bindings_ne_nil hblocks, hfaithful⟩
  | module hframes _ _ =>
      rw [hframes] at hscope
      cases hscope

/-- A dataflow block between two bindings of the default block. -/
theorem closed_function_blocks_around_dataflow :
    let events : List Event :=
      [.action .openFunction, .action (.emit (.op "a")), .action (.openBlock .dataflow),
        .action (.emit (.op "b")), .action .closeScope, .action (.emit (.op "c")),
        .action (.setResultTy .shape), .action (.addOutput (.op "d"))]
    let w := (Workspace.new {} ⟨0⟩).after events
    w.builder.frames.innermostScope? = some ⟨0, .function⟩ ∧
      ∃ w', Action.closeScope.run w = .ok .done w' ∧
        ∃ f func log, w.builder.frames.nearestFunction? = some f ∧
          (logs ((Workspace.new {} ⟨0⟩).steps events)).head? = some log ∧
          w'.HandedOver f.nameOrEmpty func ∧
          func.blocks.map Block.tagged = log.entries.pieces.filter (!·.isEmpty) ∧
          func.blocks.flatMap (·.bindings) = log.entries.bindings ∧
          (∀ block ∈ func.blocks, block.bindings ≠ []) ∧
          List.Forall₂ (fun kind met => kind = met ∨ .replaced met ∈ events)
            (log.entries.tagged.map (·.1)) log.met :=
  ⟨rfl, _, rfl, closed_function_blocks {} ⟨0⟩ _ .closeScope 0 .done _ rfl rfl rfl⟩

end ScopedBuilder
