import Mathlib.Data.List.Forall2
import ScopedBuilder.Proofs.Annotation
import ScopedBuilder.Proofs.FreshName

/-!
# The numbers of variables

The standard emitter names the variables of each kind of block by a stem and a number of their own. The numbers
run through the whole function, across all of its blocks. Along a run the names in the log of every open
function are those that its emitter has given, so the blocks of a function that closes are numbered without
gaps. Names of the two kinds could only clash if one stem went on from the other with digits.
-/

namespace ScopedBuilder

/-! ## Names and numbers -/

/-- How the names of the variables in a kind of block begin. -/
def Config.stem (c : Config) : BlockKind → String
  | .ordinary => c.ordinaryStem
  | .dataflow => c.dataflowStem

/-- The first names behind a stem. -/
def numberedNames (stem : String) (count : Nat) : List String :=
  (List.range count).map fun n => stem ++ toString n

theorem numberedNames_succ (stem : String) (count : Nat) :
    numberedNames stem (count + 1) = numberedNames stem count ++ [stem ++ toString count] := by
  rw [numberedNames, List.range_succ, List.map_append, List.map_singleton, numberedNames]

theorem nodup_numberedNames (stem : String) (count : Nat) : (numberedNames stem count).Nodup :=
  List.nodup_range.map (NameScheme.append_toString_injective stem)

/-- Whether a text is another one with decimal digits behind it, or with nothing behind it. -/
def GoesOnWithDigits (stem text : String) : Prop :=
  ∃ digits : String, (∀ c ∈ digits.toList, c.isDigit) ∧ text = stem ++ digits

theorem goesOnWithDigits_iff {stem text : String} :
    GoesOnWithDigits stem text ↔
      stem.toList <+: text.toList ∧ (text.toList.drop stem.toList.length).all Char.isDigit = true := by
  rw [List.all_eq_true]
  constructor
  · rintro ⟨digits, hdigits, rfl⟩
    rw [String.toList_append, List.drop_left]
    exact ⟨List.prefix_append .., hdigits⟩
  · rintro ⟨⟨digits, htext⟩, hdigits⟩
    rw [← htext, List.drop_left] at hdigits
    refine ⟨String.ofList digits, by simpa using hdigits, String.toList_inj.mp ?_⟩
    rw [String.toList_append, String.toList_ofList, htext]

instance (stem text : String) : Decidable (GoesOnWithDigits stem text) :=
  decidable_of_iff _ goesOnWithDigits_iff.symm

theorem isDigit_of_mem_toString {n : Nat} {c : Char} (h : c ∈ (toString n).toList) : c.isDigit := by
  have hdigits : c ∈ Nat.toDigits 10 n := by rwa [← Nat.toList_repr]
  exact Nat.isDigit_of_mem_toDigits (by decide) (by decide) hdigits

/-- The longer stem would have to go on with the first digits of the other number. -/
theorem append_toString_ne {stem stem' : String} (h : ¬ GoesOnWithDigits stem stem')
    (h' : ¬ GoesOnWithDigits stem' stem) (m n : Nat) : stem ++ toString m ≠ stem' ++ toString n := by
  intro heq
  have hchars : stem.toList ++ (toString m).toList = stem'.toList ++ (toString n).toList := by
    simpa using congrArg String.toList heq
  rcases List.append_eq_append_iff.mp hchars with ⟨middle, hstem, hnumber⟩ | ⟨middle, hstem, hnumber⟩
  · refine h ⟨String.ofList middle, fun c hc => ?_, String.toList_inj.mp (by simpa using hstem)⟩
    refine isDigit_of_mem_toString (n := m) ?_
    rw [hnumber]
    exact List.mem_append_left _ (by simpa using hc)
  · refine h' ⟨String.ofList middle, fun c hc => ?_, String.toList_inj.mp (by simpa using hstem)⟩
    refine isDigit_of_mem_toString (n := n) ?_
    rw [hnumber]
    exact List.mem_append_left _ (by simpa using hc)

theorem disjoint_numberedNames {stem stem' : String} (h : ¬ GoesOnWithDigits stem stem')
    (h' : ¬ GoesOnWithDigits stem' stem) (m n : Nat) :
    (numberedNames stem m).Disjoint (numberedNames stem' n) := by
  intro name hname hname'
  obtain ⟨i, -, rfl⟩ := List.mem_map.mp hname
  obtain ⟨j, -, heq⟩ := List.mem_map.mp hname'
  exact append_toString_ne h h' i j heq.symm

/-! ## Emitters -/

namespace BlockWriter

variable {w : BlockWriter} {kind kind' : BlockKind}

def stem (w : BlockWriter) : BlockKind → String
  | .ordinary => w.ordinaryStem
  | .dataflow => w.dataflowStem

def count (w : BlockWriter) : BlockKind → Nat
  | .ordinary => w.ordinaryCount
  | .dataflow => w.dataflowCount

/-- The names that have been given in a kind of block. -/
def given (w : BlockWriter) (kind : BlockKind) : List String := numberedNames (w.stem kind) (w.count kind)

theorem given_countUp_self : (w.countUp kind).given kind = w.given kind ++ [w.nextName kind] := by
  cases kind <;> exact numberedNames_succ ..

theorem given_countUp_of_ne (h : kind' ≠ kind) : (w.countUp kind).given kind' = w.given kind' := by
  cases kind <;> cases kind' <;> first | exact absurd rfl h | rfl

end BlockWriter

/-! ## Names in a log -/

theorem BlockKind.isDataflow_injective : Function.Injective isDataflow := by
  intro kind kind'
  cases kind <;> cases kind' <;> simp [isDataflow]

/-- The bindings whose variables belong to a kind of block. -/
def BlockKind.bindings (kind : BlockKind) (bindings : List (Binding Expr)) : List (Binding Expr) :=
  bindings.filter (·.var.dataflow = kind.isDataflow)

/-- A block has only variables of its own kind. -/
theorem Block.flatMap_filter_kind {blocks : List (Block Expr)}
    (h : ∀ block ∈ blocks, block.Annotated) (kind : BlockKind) :
    (blocks.filter (·.kind = kind)).flatMap (·.bindings) =
      kind.bindings (blocks.flatMap (·.bindings)) := by
  induction blocks with
  | nil => rfl
  | cons block blocks ih =>
      obtain ⟨hblock, hblocks⟩ := List.forall_mem_cons.mp h
      have hkind : kind.bindings block.bindings = if block.kind = kind then block.bindings else [] := by
        split
        · rename_i hkind
          exact List.filter_eq_self.mpr fun b hb => by simp [(hblock b hb).dataflow, hkind]
        · rename_i hkind
          refine List.filter_eq_nil_iff.mpr fun b hb => ?_
          rw [(hblock b hb).dataflow, decide_eq_true_iff]
          exact fun h => hkind (BlockKind.isDataflow_injective h)
      rw [List.flatMap_cons, BlockKind.bindings, List.filter_append, ← BlockKind.bindings,
        ← BlockKind.bindings, hkind, ← ih hblocks, List.filter_cons]
      by_cases hkind : block.kind = kind <;> simp [hkind]

namespace FuncDraft

variable {f f' : FuncDraft BlockWriter} {config : Config} {log : EmissionLog}

theorem stem_addBinding (f : FuncDraft BlockWriter) (block : Block Expr) (outer : List (Block Expr))
    (b : Binding Expr) : (f.addBinding block outer b).emitter.stem = f.emitter.stem := by
  funext kind
  unfold addBinding
  cases block.kind <;> cases kind <;> rfl

theorem given_addBinding (f : FuncDraft BlockWriter) (block : Block Expr) (outer : List (Block Expr))
    (b : Binding Expr) (kind : BlockKind) :
    (f.addBinding block outer b).emitter.given kind = (f.emitter.countUp block.kind).given kind := by
  cases kind <;> rfl

/-- The emitter of a function has given the names in a log, and no others. A variable itself tells the kind
of the block that it was made for. -/
structure Numbers (config : Config) (f : FuncDraft BlockWriter) (log : EmissionLog) : Prop where
  stem_eq : f.emitter.stem = config.stem
  names_eq : ∀ kind, (kind.bindings log.bindings).map (·.var.name) = f.emitter.given kind

namespace Numbers

theorem start (config : Config) :
    Numbers config ((FuncDraft.new (BlockWriter.ofConfig config)).beginBlock .ordinary) [] where
  stem_eq := by
    funext kind
    cases kind <;> rfl
  names_eq kind := by cases kind <;> rfl

theorem of_eq (h : Numbers config f log) (hstem : f'.emitter.stem = f.emitter.stem)
    (hcount : f'.emitter.count = f.emitter.count) : Numbers config f' log where
  stem_eq := hstem.trans h.stem_eq
  names_eq kind := by rw [h.names_eq, BlockWriter.given, BlockWriter.given, hstem, hcount]

theorem cut (h : Numbers config f log) : Numbers config f (log ++ [.cut]) where
  stem_eq := h.stem_eq
  names_eq kind := by rw [EmissionLog.bindings_append_cut, h.names_eq]

theorem beginBlock (h : Numbers config f log) (kind : BlockKind) :
    Numbers config (f.beginBlock kind) log :=
  h.of_eq rfl rfl

theorem endBlock (h : Numbers config f log) (hend : endBlock f = .ok () f') : Numbers config f' log := by
  obtain ⟨block, outer, -, rfl⟩ := endBlock_eq_ok.mp hend
  rw [finishBlock_eq]
  exact h.of_eq rfl rfl

theorem enterBlock {kind : BlockKind} {enclosing : Option BlockKind} (h : Numbers config f log)
    (henter : enterBlock kind enclosing f = .ok () f') : Numbers config f' (log ++ [.cut]) := by
  cases enclosing with
  | none =>
      cases henter
      exact (h.beginBlock kind).cut
  | some k =>
      obtain ⟨f₁, hend, rfl⟩ := enterBlock_some_eq_ok.mp henter
      exact ((h.endBlock hend).beginBlock kind).cut

theorem leaveBlock {enclosing : Option BlockKind} (h : Numbers config f log)
    (hleave : leaveBlock enclosing f = .ok () f') : Numbers config f' (log ++ [.cut]) := by
  cases enclosing with
  | none =>
      rw [leaveBlock_none_eq] at hleave
      exact (h.endBlock hleave).cut
  | some k =>
      rw [leaveBlock_some_eq k k] at hleave
      exact h.enterBlock hleave

/-- A binding takes the next name of its kind. -/
theorem emit {e : Expr} {v : Var} {supply supply' : VarSupply} (h : Numbers config f log)
    (hemit : emit e (f, supply) = .ok v (f', supply')) (tag : BlockKind) :
    Numbers config f' (log ++ [.bound tag ⟨v, e.normalize⟩]) := by
  cases hopen : f.emitter.openBlocks with
  | nil => simp [FuncDraft.emit, Emitter.emit, BlockWriter.emit, hopen] at hemit
  | cons block outer =>
      cases hemit.symm.trans (emit_of_open hopen)
      refine ⟨(stem_addBinding ..).trans h.stem_eq, fun kind => ?_⟩
      rw [given_addBinding, EmissionLog.bindings_append_bound, BlockKind.bindings, List.filter_append,
        List.map_append, ← BlockKind.bindings, h.names_eq]
      by_cases hkind : block.kind = kind
      · subst hkind
        rw [BlockWriter.given_countUp_self]
        simp [freshVar, VarSupply.fresh]
      · rw [BlockWriter.given_countUp_of_ne (Ne.symm hkind)]
        simpa [freshVar, VarSupply.fresh] using fun h => hkind (BlockKind.isDataflow_injective h)

end Numbers

end FuncDraft

/-! ## The functions on the stack and their logs -/

namespace Frames

section Functions

variable {σ : Type} {frames above below : Frames σ} {f : FuncDraft σ}

/-- The open functions, innermost first. -/
def functions : Frames σ → List (FuncDraft σ)
  | [] => []
  | .function f :: below => f :: functions below
  | .module _ :: below | .block _ :: below => functions below

theorem functions_append (h : ∀ x ∈ above, x.isFunction = false) :
    functions (above ++ below) = functions below := by
  induction above with
  | nil => rfl
  | cons x above ih =>
      obtain ⟨hx, habove⟩ := List.forall_mem_cons.mp h
      cases x with
      | function f => cases hx
      | module m | block kind => exact ih habove

theorem functions_of_split (h : splitFunction? frames = some (above, f, below)) :
    functions frames = f :: functions below := by
  obtain ⟨rfl, habove⟩ := splitFunction?_eq_some_iff.mp h
  exact functions_append habove

@[simp] theorem functions_replaceBlock (kind : BlockKind) (frames : Frames σ) :
    (frames.replaceBlock kind).functions = frames.functions := by
  induction frames with
  | nil => rfl
  | cons x below ih => cases x <;> simp [functions, ih]

end Functions

/-- Each open function has given the names in its log. -/
def Numbered (config : Config) (frames : Frames BlockWriter) (logs : List OpenLog) : Prop :=
  List.Forall₂ (fun f log => f.Numbers config log.entries) frames.functions logs

/-- Work on the innermost function goes with what is done to its log. -/
theorem Numbered.rework {config : Config} {frames above above' below : Frames BlockWriter}
    {f f' : FuncDraft BlockWriter} {logs : List OpenLog} {write : OpenLog → OpenLog}
    (h : Numbered config frames logs) (hsplit : splitFunction? frames = some (above, f, below))
    (habove : ∀ x ∈ above', x.isFunction = false)
    (hf : ∀ log, f.Numbers config log.entries → f'.Numbers config (write log).entries) :
    Numbered config (above' ++ .function f' :: below) (logs.modifyHead write) := by
  unfold Numbered at h ⊢
  rw [functions_of_split hsplit] at h
  rw [functions_append habove]
  cases h with
  | cons hlog hrest => exact .cons (hf _ hlog) hrest

theorem Numbered.replaceBlock {config : Config} {frames : Frames BlockWriter} {logs : List OpenLog}
    (h : Numbered config frames logs) (kind : BlockKind) :
    Numbered config (frames.replaceBlock kind) logs := by
  rwa [Numbered, functions_replaceBlock]

end Frames

/-! ## Changes keep the numbers -/

open Frames

section Changes

variable {w w' : Workspace BlockWriter} {a : Action} {reply : Reply} {config : Config}
  {logs : List OpenLog}

theorem Closing.numbered {scope : Scope} (h : Closing w w') (hshape : w.builder.frames.Shaped)
    (ha : a.closes scope = true) (hrun : a.run w = .ok reply w')
    (hscope : w.builder.frames.innermostScope? = some scope)
    (hnum : Numbered config w.builder.frames logs) :
    Numbered config w'.builder.frames (Step.writeLogs ⟨w, .action a⟩ logs) := by
  have hafter := h.shapedBy hshape
  cases h with
  | @block kind rest above below f f' hframes hsplit hne hleave =>
      have hblock : w.builder.frames.innermostScope? = some ⟨_, .block⟩ :=
        hframes ▸ innermostScope?_block hsplit hne
      obtain rfl := Option.some.inj (hscope.symm.trans hblock)
      have habove := (splitFunction?_eq_some_iff.mp hsplit).2
      obtain ⟨_, -, hlogs⟩ := Step.exists_writeLogs_of_closes ha hrun hscope habove hafter
      have hsplit' : splitFunction? w.builder.frames = some (.block kind :: above, f, below) := by
        simp [hframes, hsplit]
      rw [hlogs]
      exact hnum.rework hsplit' habove fun _ hf => hf.leaveBlock hleave
  | function hframes _ _ _ | definition hframes _ _ _ =>
      rw [Step.writeLogs_of_closes ha hrun hscope]
      rw [hframes] at hscope hnum
      cases hscope
      cases hnum with
      | cons _ hrest => exact hrest
  | module hframes _ _ =>
      rw [Step.writeLogs_of_closes ha hrun hscope]
      rw [hframes] at hscope hnum
      cases hscope
      exact hnum

theorem Change.numbered (h : Change w a reply w') (hrun : a.run w = .ok reply w')
    (hsound : w.Sound config) (hfailed : w'.builder.failed = false)
    (hnum : Numbered config w.builder.frames logs) :
    Numbered config w'.builder.frames (Step.writeLogs ⟨w, .action a⟩ logs) := by
  cases h with
  | openModule =>
      rw [Step.writeLogs_of_silent rfl]
      exact hnum
  | openFunction =>
      rw [Step.writeLogs_openFunction hrun, hsound.newEmitter_eq, hsound.config_eq]
      exact .cons (.start config) hnum
  | @openBlock _ kind above below f f' ha hsplit henter =>
      rw [Step.writeLogs_of_opens ha hrun]
      exact hnum.rework hsplit (splitFunction?_eq_some_iff.mp hsplit).2 fun _ hf =>
        hf.enterBlock henter
  | close ha hscope hclosing => exact hclosing.numbered hsound.shaped ha hrun hscope hnum
  | abort =>
      rw [Step.writeLogs_abort hrun]
      split at hfailed
      · rename_i hempty
        rw [if_pos hempty, List.isEmpty_iff.mp hempty]
        exact .nil
      · cases hfailed
  | editModule ha hframes _ =>
      rw [Step.writeLogs_of_silent (Action.isSilent_of_moduleEdit ha)]
      rw [hframes] at hnum
      exact hnum
  | @editFunction _ _ _ kind f f' below ha hframes hedit =>
      rw [Step.writeLogs_of_silent (Action.isSilent_of_functionEdit ha)]
      rw [hframes] at hnum
      obtain ⟨hemitter, -⟩ := Action.functionEdit_blocks ha hedit
      cases hnum with
      | cons hf hrest => exact .cons (hf.of_eq (by rw [hemitter]) (by rw [hemitter])) hrest
  | @emit _ e v above below f f' supply ha hsplit hemit =>
      rw [Step.writeLogs_of_binds ha hrun]
      exact hnum.rework hsplit (splitFunction?_eq_some_iff.mp hsplit).2 fun log hf =>
        hf.emit hemit log.kind
  | takeResult =>
      rw [Step.writeLogs_of_silent rfl]
      split <;> exact hnum
  | setResult | setRenamers | registerRenamer | rename =>
      rw [Step.writeLogs_of_silent rfl]
      exact hnum

end Changes

/-! ## Runs -/

theorem Workspace.numbered_after (config : Config) (supply : VarSupply) {events : List Event}
    (hfailed : ((new config supply).after events).builder.failed = false) :
    Numbered config ((new config supply).after events).builder.frames
      (logs ((new config supply).steps events)) := by
  refine (holds_after (fun past w => w.Sound config ∧ Numbered config w.builder.frames (logs past)) ?_
    .nil ⟨sound_new config supply, .nil⟩ events hfailed).2.2
  rintro past w e w' - hw' - ⟨hsound, hnum⟩ hquiet
  refine ⟨hsound.quiet hquiet, ?_⟩
  rw [logs_concat]
  cases hquiet with
  | change hrun hchange => exact hchange.numbered hrun hsound hw' hnum
  | drawn => exact hnum
  | replaced kind => exact hnum.replaceBlock kind
  | refused herror =>
      rw [Step.writeLogs_of_error herror]
      exact hnum

/-! ## Functions that are finished -/

/-- The bindings in the blocks of a kind, in the order of the blocks. -/
def Func.bindingsOf (func : Func) (kind : BlockKind) : List (Binding Expr) :=
  (func.blocks.filter (·.kind = kind)).flatMap (·.bindings)

/-- The bindings of a function are those in its ordinary blocks and those in its dataflow blocks. -/
theorem Func.bindings_perm (func : Func) :
    (func.blocks.flatMap (·.bindings)).Perm (func.bindingsOf .ordinary ++ func.bindingsOf .dataflow) := by
  have hkinds : (fun block : Block Expr => !decide (block.kind = .ordinary)) =
      fun block => decide (block.kind = .dataflow) := by
    funext block
    cases block.kind <;> rfl
  have hperm := List.filter_append_perm (fun block : Block Expr => decide (block.kind = .ordinary))
    func.blocks
  rw [hkinds] at hperm
  rw [Func.bindingsOf, Func.bindingsOf, ← List.flatMap_append]
  exact (hperm.flatMap_right _).symm

/-- Whenever the scope of a function closes successfully, in any session with the standard emitter: the
variables in its ordinary blocks are named by the stem of that kind and the numbers from zero on, in the order
of the blocks and without gaps, and those in its dataflow blocks likewise by the other stem. If neither stem
goes on from the other one with digits, all these names are different. -/
theorem closed_function_numbered (config : Config) (supply : VarSupply) (events : List Event)
    (a : Action) (depth : Nat) (reply : Reply) (w' : Workspace BlockWriter) :
    let w := (Workspace.new config supply).after events
    w.builder.frames.innermostScope? = some ⟨depth, .function⟩ →
    a.closes ⟨depth, .function⟩ = true → a.run w = .ok reply w' →
      ∃ f func, w.builder.frames.nearestFunction? = some f ∧ w'.HandedOver f.nameOrEmpty func ∧
        (∀ kind, let names := (func.bindingsOf kind).map (·.var.name)
          names = (List.range names.length).map fun n => config.stem kind ++ toString n) ∧
        (¬ GoesOnWithDigits config.ordinaryStem config.dataflowStem →
          ¬ GoesOnWithDigits config.dataflowStem config.ordinaryStem →
          ((func.blocks.flatMap (·.bindings)).map (·.var.name)).Nodup) := by
  intro w hscope ha hrun
  have hfailed : w.builder.failed = false := Action.not_failed_of_closes ha hrun
  have hsound : w.Sound config := Workspace.sound_after config supply hfailed
  have hmirrors : Mirrors _ w := Workspace.mirrors_after config supply hfailed
  have hrec : Recorded _ w.builder.result.isSome w.builder.frames _ :=
    Workspace.recorded_after config supply hfailed
  have hnum : Numbered config w.builder.frames _ := Workspace.numbered_after config supply hfailed
  have hall : w.builder.frames.AllFunctions FuncDraft.Annotated :=
    Workspace.annotated_after config supply hfailed
  obtain ⟨-, -, hclosing⟩ := (Action.run_closes_eq_ok hsound.shaped hscope ha).mp hrun
  obtain ⟨kind, f, f', func, below, hframes, hfree, hleave, hfunc, hover⟩ :=
    hclosing.exists_handedOver hmirrors hscope
  have hf' : f'.Annotated :=
    (FuncDraft.worked_leaveBlock hleave).keeps (fun _ _ => .work) (hall f (by simp [hframes]))
  rw [hframes] at hrec hnum
  obtain ⟨log, hlog, hlogged, -⟩ := hrec.logged hfree
  generalize logs _ = logs at hlog hnum
  cases hnum with
  | @cons _ log' _ rest hf hrest =>
      obtain rfl : log' = log := Option.some.inj hlog
      have hnames (k : BlockKind) : (func.bindingsOf k).map (·.var.name) =
          numberedNames (config.stem k) (f.emitter.count k) := by
        rw [Func.bindingsOf, Block.flatMap_filter_kind (hf'.blocks_of_assemble hfunc),
          Block.flatMap_bindings (hlogged.func_blocks hleave hfunc), hf.names_eq, BlockWriter.given,
          hf.stem_eq]
      refine ⟨f, func, hframes ▸ rfl, hover, fun k => ?_, fun hdigits hdigits' => ?_⟩
      · intro names
        have hlength : names.length = f.emitter.count k := by
          simp [names, hnames, numberedNames]
        rw [hlength]
        exact hnames k
      · rw [(func.bindings_perm.map (·.var.name)).nodup_iff, List.map_append, hnames, hnames]
        exact List.nodup_append'.mpr ⟨nodup_numberedNames .., nodup_numberedNames ..,
          disjoint_numberedNames hdigits hdigits' ..⟩

/-- Two stems of which one begins the other, but does not go on with digits, in blocks that alternate. -/
theorem closed_function_numbered_by_prefix :
    let config : Config := { ordinaryStem := "v", dataflowStem := "v_" }
    let events : List Event :=
      [.action .openFunction, .action (.emit (.op "a")), .action (.openBlock .dataflow),
        .action (.emit (.op "b")), .action .closeScope, .action (.emit (.op "c")),
        .action (.setResultTy .shape), .action (.addOutput (.op "d"))]
    let w := (Workspace.new config ⟨0⟩).after events
    ¬ GoesOnWithDigits config.ordinaryStem config.dataflowStem ∧
      ¬ GoesOnWithDigits config.dataflowStem config.ordinaryStem ∧
      w.builder.frames.innermostScope? = some ⟨0, .function⟩ ∧
      ∃ w', Action.closeScope.run w = .ok .done w' ∧
        ∃ f func, w.builder.frames.nearestFunction? = some f ∧ w'.HandedOver f.nameOrEmpty func ∧
          (∀ kind, let names := (func.bindingsOf kind).map (·.var.name)
            names = (List.range names.length).map fun n => config.stem kind ++ toString n) ∧
          (¬ GoesOnWithDigits config.ordinaryStem config.dataflowStem →
            ¬ GoesOnWithDigits config.dataflowStem config.ordinaryStem →
            ((func.blocks.flatMap (·.bindings)).map (·.var.name)).Nodup) :=
  ⟨by decide, by decide, rfl, _, rfl,
    closed_function_numbered { ordinaryStem := "v", dataflowStem := "v_" } ⟨0⟩ _ .closeScope 0 .done _
      rfl rfl rfl⟩

end ScopedBuilder
