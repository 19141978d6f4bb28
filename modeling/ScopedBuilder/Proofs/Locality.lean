import ScopedBuilder.Proofs.FuncBlocks
import ScopedBuilder.Proofs.FuncWork
import ScopedBuilder.Proofs.Nesting

/-!
# What an operation touches

An operation works on one frame at most: the innermost function, or a module on top or directly below the
function that is closed. All other frames that are still there afterwards are as they were, and a function
that is worked on only grows.
-/

namespace ScopedBuilder

variable {σ : Type}

/-! ## Functions that grow -/

/-- A later state of a function: there may be more in its lists, and what could be set once has stayed. -/
structure FuncDraft.Extends (f f' : FuncDraft σ) : Prop where
  params : f.params <+: f'.params
  outputs : f.outputs <+: f'.outputs
  blocks : f.blocks <+: f'.blocks
  name : ∀ name ∈ f.name, f'.name = some name
  result : ∀ ty ∈ f.result, f'.result = some ty
  attrs : f.attrs.isEmpty = false → f'.attrs = f.attrs

namespace FuncDraft.Extends

variable {f f' f'' : FuncDraft σ}

/-- The emitter of a function may do what it wants. -/
theorem withEmitter (f : FuncDraft σ) (emitter : σ) : f.Extends { f with emitter := emitter } :=
  ⟨List.prefix_rfl, List.prefix_rfl, List.prefix_rfl, fun _ h => h, fun _ h => h, fun _ => rfl⟩

theorem refl (f : FuncDraft σ) : f.Extends f := withEmitter f f.emitter

theorem trans (h : f.Extends f') (h' : f'.Extends f'') : f.Extends f'' where
  params := h.params.trans h'.params
  outputs := h.outputs.trans h'.outputs
  blocks := h.blocks.trans h'.blocks
  name name hname := h'.name name (h.name name hname)
  result ty hty := h'.result ty (h.result ty hty)
  attrs hattrs := by
    have hkept := h.attrs hattrs
    exact (h'.attrs (hkept ▸ hattrs)).trans hkept

theorem record (f : FuncDraft σ) (block : Block Expr) : f.Extends (f.record block) := by
  rw [record_eq]
  exact { refl f with blocks := List.prefix_append _ _ }

variable [Emitter σ]

theorem endBlock (h : endBlock f = .ok () f') : f.Extends f' := by
  obtain ⟨block, emitter, rfl⟩ := exists_of_endBlock h
  exact (withEmitter f emitter).trans (record _ block)

theorem emit {e : Expr} {v : Var} {supply supply' : VarSupply}
    (h : emit e (f, supply) = .ok v (f', supply')) : f.Extends f' := by
  obtain ⟨emitter, rfl⟩ := exists_of_emit h
  exact withEmitter f emitter

omit [Emitter σ] in
/-- What is set is set for the first time, except that attributes can be replaced while there are none. -/
theorem edit {a : Action} {renamers : Renamers}
    {edit : FuncDraft σ → Except BuildError (Reply × FuncDraft σ)} {reply : Reply}
    (h : a.functionEdit? renamers = some edit) (hedit : edit f = .ok (reply, f')) : f.Extends f' := by
  cases a <;> simp only [Action.functionEdit?, Option.some.injEq, reduceCtorEq] at h <;> subst h
  case addParam name v =>
    cases hrenamed : Builder.renamed renamers (.var v) name with
    | error e => simp [hrenamed] at hedit
    | ok e =>
        cases e with
        | var v =>
            rw [hrenamed] at hedit
            cases hedit
            exact { refl f with params := List.prefix_append _ _ }
        | _ => simp [hrenamed] at hedit
  case setName name =>
    cases hname : f.name <;> simp [FuncDraft.setName, hname] at hedit
    rw [← hedit.2]
    exact { refl f with name := by simp [hname] }
  case setAttrs attrs =>
    cases hattrs : f.attrs.isEmpty <;> simp [FuncDraft.setAttrs, hattrs] at hedit
    rw [← hedit.2]
    exact { refl f with attrs := by simp [hattrs] }
  case setResultTy ty =>
    cases hresult : f.result <;> simp [FuncDraft.setResult, hresult] at hedit
    rw [← hedit.2]
    exact { refl f with result := by simp [hresult] }
  case addOutput e =>
    cases hedit
    exact { refl f with outputs := List.prefix_append _ _ }

theorem of_work (h : Work f f') : f.Extends f' := by
  cases h with
  | beginBlock kind => exact withEmitter f _
  | endBlock hend => exact endBlock hend
  | emit hemit => exact emit hemit
  | edit ha hedit => exact edit ha hedit

theorem of_worked (h : Worked f f') : f.Extends f' :=
  h.keeps (fun _ _ hwork hf => hf.trans (of_work hwork)) (refl f)

end FuncDraft.Extends

/-! ## Frames that stay -/

/-- A later state of a frame: a module has been worked on, or a function has grown. -/
inductive Frame.Grows : Frame σ → Frame σ → Prop where
  | module (m m' : ModuleDraft) : Grows (.module m) (.module m')
  | function {f f' : FuncDraft σ} : f.Extends f' → Grows (.function f) (.function f')
  | block (kind : BlockKind) : Grows (.block kind) (.block kind)

theorem Frame.Grows.refl : ∀ x : Frame σ, x.Grows x
  | .module m => .module m m
  | .function f => .function (.refl f)
  | .block kind => .block kind

namespace Frames

/-- Frames at the same depth, counted from the outermost one, agree in two stacks, except that one of them
may have grown. -/
def Agree (target : Option Nat) (frames frames' : Frames σ) : Prop :=
  ∀ depth x x', frames.reverse[depth]? = some x → frames'.reverse[depth]? = some x' →
    (target ≠ some depth → x' = x) ∧ x.Grows x'

namespace Agree

variable {target : Option Nat} {frames frames' : Frames σ}

theorem refl (frames : Frames σ) : Agree target frames frames := by
  intro depth x x' hx hx'
  cases hx.symm.trans hx'
  exact ⟨fun _ => rfl, .refl x⟩

theorem nil (frames : Frames σ) : Agree target frames [] := nofun

/-- Frames that are pushed have no counterpart. -/
theorem push (h : Agree target frames frames') (hle : frames.length ≤ frames'.length)
    (above : Frames σ) : Agree target frames (above ++ frames') := by
  intro depth x x' hx hx'
  have hlt : depth < frames'.reverse.length := by
    have hlt := (List.getElem?_eq_some_iff.mp hx).1
    simp only [List.length_reverse] at hlt ⊢
    omega
  rw [List.reverse_append, List.getElem?_append_left hlt] at hx'
  exact h depth x x' hx hx'

/-- Nor have those that are popped. -/
theorem pop (h : Agree target frames frames') (hle : frames'.length ≤ frames.length)
    (above : Frames σ) : Agree target (above ++ frames) frames' := by
  intro depth x x' hx hx'
  have hlt : depth < frames.reverse.length := by
    have hlt := (List.getElem?_eq_some_iff.mp hx').1
    simp only [List.length_reverse] at hlt ⊢
    omega
  rw [List.reverse_append, List.getElem?_append_left hlt] at hx
  exact h depth x x' hx hx'

theorem replace {y y' : Frame σ} (hgrows : y.Grows y') (above below : Frames σ) :
    Agree (some below.length) (above ++ y :: below) (above ++ y' :: below) := by
  intro depth x x' hx hx'
  simp only [List.reverse_append, List.reverse_cons, List.append_assoc, List.singleton_append] at hx hx'
  rcases Nat.lt_or_ge depth below.reverse.length with hlt | hge
  · -- below the frame
    rw [List.getElem?_append_left hlt] at hx hx'
    exact refl below depth x x' hx hx'
  · rw [List.getElem?_append_right hge] at hx hx'
    rw [List.length_reverse] at hge hx hx'
    cases hdepth : depth - below.length with
    | zero =>
        rw [hdepth] at hx hx'
        cases hx
        cases hx'
        obtain rfl : depth = below.length := by omega
        exact ⟨fun hne => absurd rfl hne, hgrows⟩
    | succ n =>
        -- above the frame
        rw [hdepth, List.getElem?_cons_succ] at hx hx'
        cases hx.symm.trans hx'
        exact ⟨fun _ => rfl, .refl x⟩

end Agree

/-! ## The frame that an operation works on -/

/-- The depth of the innermost function. -/
def functionDepth? (frames : Frames σ) : Option Nat :=
  frames.splitFunction?.map fun (_, _, below) => below.length

/-- The depth of the module on top. -/
def moduleDepth? (frames : Frames σ) : Option Nat :=
  frames.moduleScope?.map fun (_, below) => below.length

/-- The depth of the frame that takes in what the close of the innermost scope makes: the innermost function
takes in a block, and the module directly below takes in a function. -/
def receiverDepth? : Frames σ → Option Nat
  | .block _ :: .function _ :: below => moduleDepth? below
  | .block _ :: below => functionDepth? below
  | _ => none

theorem functionDepth?_of_split {frames above below : Frames σ} {f : FuncDraft σ}
    (h : splitFunction? frames = some (above, f, below)) : functionDepth? frames = some below.length := by
  rw [functionDepth?, h]
  rfl

theorem receiverDepth?_block {kind : BlockKind} {rest above below : Frames σ} {f : FuncDraft σ}
    (hsplit : splitFunction? rest = some (above, f, below)) (hne : above ≠ []) :
    receiverDepth? (.block kind :: rest) = some below.length := by
  cases rest with
  | nil => cases hsplit
  | cons x rest =>
      cases x with
      | module | block => exact functionDepth?_of_split hsplit
      | function g =>
          cases hsplit
          exact absurd rfl hne

end Frames

/-- The depth of the frame that an operation works on. -/
def Action.target? (frames : Frames σ) : Action → Option Nat
  | addParam .. | setName _ | setAttrs _ | setResultTy _ | addOutput _ | emit _ | emitKernelCall ..
  | openBlock _ | pushBlock _ => frames.functionDepth?
  | register .. | update .. => frames.moduleDepth?
  | close _ | closeScope => frames.receiverDepth?
  | openModule | openFunction | abort | setResult _ | takeResult | setRenamers _ | registerRenamer ..
  | rename .. => none

namespace Action

variable {a : Action} {frames : Frames σ}

theorem target?_of_opens {kind : BlockKind} (h : a.opens? = some kind) :
    a.target? frames = frames.functionDepth? := by
  cases a <;> first | rfl | cases h

theorem target?_of_binds {e : Expr} (h : a.binds? = some e) :
    a.target? frames = frames.functionDepth? := by
  cases a <;> first | rfl | cases h

theorem target?_of_closes {scope : Scope} (h : a.closes scope = true) :
    a.target? frames = frames.receiverDepth? := by
  cases a <;> first | rfl | cases h

theorem target?_of_moduleEdit {edit : ModuleDraft → Except BuildError (Reply × ModuleDraft)}
    (h : a.moduleEdit? = some edit) : a.target? frames = frames.moduleDepth? := by
  cases a <;> first | rfl | cases h

theorem target?_of_functionEdit {renamers : Renamers}
    {edit : FuncDraft σ → Except BuildError (Reply × FuncDraft σ)}
    (h : a.functionEdit? renamers = some edit) : a.target? frames = frames.functionDepth? := by
  cases a <;> first | rfl | cases h

end Action

/-! ## Operations -/

variable [Emitter σ] {w w' : Workspace σ} {a : Action} {reply : Reply}

open Frames

theorem Closing.agree (h : Closing w w') :
    Agree w.builder.frames.receiverDepth? w.builder.frames w'.builder.frames := by
  cases h with
  | @block kind rest above below f f' hframes hsplit hne hleave =>
      rw [hframes, receiverDepth?_block hsplit hne]
      obtain ⟨rfl, -⟩ := splitFunction?_eq_some_iff.mp hsplit
      have hgrows : Frame.Grows (.function f) (.function f') :=
        .function (.of_worked (FuncDraft.worked_leaveBlock hleave))
      exact (Agree.replace hgrows above below).pop (by simp) [.block kind]
  | function => exact .nil _
  | @definition kind f f' func m m' below hframes _ _ _ =>
      rw [hframes]
      exact (Agree.replace (.module m m') [] below).pop (by simp) [.block kind, .function f]
  | @module m module below hframes _ _ =>
      rw [hframes]
      exact (Agree.refl below).pop (Nat.le_refl _) [.module m]

theorem Change.agree (h : Change w a reply w') :
    Agree (a.target? w.builder.frames) w.builder.frames w'.builder.frames := by
  cases h with
  | openModule => exact (Agree.refl _).push (Nat.le_refl _) [_]
  | openFunction => exact (Agree.refl _).push (Nat.le_refl _) [_, _]
  | @openBlock _ kind above below f f' ha hsplit henter =>
      rw [Action.target?_of_opens ha, functionDepth?_of_split hsplit]
      obtain ⟨hframes, -⟩ := splitFunction?_eq_some_iff.mp hsplit
      rw [hframes]
      have hgrows : Frame.Grows (.function f) (.function f') :=
        .function (.of_worked (FuncDraft.worked_enterBlock henter))
      exact (Agree.replace hgrows above below).push (by simp) [.block kind]
  | close ha _ hclosing =>
      rw [Action.target?_of_closes ha]
      exact hclosing.agree
  | abort =>
      split
      · exact .refl _
      · exact .nil _
  | @editModule _ _ _ m m' below ha hframes _ =>
      rw [Action.target?_of_moduleEdit ha, hframes]
      exact .replace (.module m m') [] below
  | @editFunction _ _ _ kind f f' below ha hframes hedit =>
      rw [Action.target?_of_functionEdit ha, hframes]
      exact .replace (.function (.of_work (.edit ha hedit))) [.block kind] below
  | @emit _ _ _ above below f f' _ ha hsplit hemit =>
      rw [Action.target?_of_binds ha, functionDepth?_of_split hsplit]
      obtain ⟨hframes, -⟩ := splitFunction?_eq_some_iff.mp hsplit
      rw [hframes]
      exact .replace (.function (.of_work (.emit hemit))) above below
  | takeResult => split <;> exact .refl _
  | setResult | setRenamers | registerRenamer | rename => exact .refl _

/-- In every session that has not failed, with whatever emitter, an operation that succeeds works on one
frame at most. All others that are there before and after it, at the same depth, are as they were; the frame
that is worked on has grown, if it is a function: parameters, outputs and blocks have only been added, and a
name, a result type or attributes that were there have stayed. -/
theorem operation_touches_one_frame (config : Config) (newEmitter : Config → σ) (supply : VarSupply)
    (events : List Event) (a : Action) (reply : Reply) (w' : Workspace σ) :
    let w := (⟨.new config newEmitter, supply⟩ : Workspace σ).after events
    w.builder.failed = false → a.run w = .ok reply w' →
      ∀ depth x x', w.builder.frames.reverse[depth]? = some x →
        w'.builder.frames.reverse[depth]? = some x' →
          (a.target? w.builder.frames ≠ some depth → x' = x) ∧ x.Grows x' := by
  intro w hfailed hrun
  obtain ⟨hshape, -⟩ := Workspace.nested_after config newEmitter supply events hfailed
  exact (Change.of_run hshape hrun).agree

/-- The end of a dataflow block in a function of a module: the module is as it was, and the function has one
block more. -/
theorem operation_touches_one_frame_in_module :
    let events : List Event :=
      [.action .openModule, .action .openFunction, .action (.emit (.op "a")),
        .action (.openBlock .dataflow), .action (.emit (.op "b"))]
    let w := (Workspace.new {} ⟨0⟩).after events
    ∃ w', Action.closeScope.run w = .ok .done w' ∧
      w'.builder.frames.reverse[0]? = w.builder.frames.reverse[0]? ∧
      ∃ f f', w.builder.frames.reverse[1]? = some (.function f) ∧
        w'.builder.frames.reverse[1]? = some (.function f') ∧ f.Extends f' ∧
        f.blocks.length = 1 ∧ f'.blocks.length = 2 := by
  intro events w
  have hagree := operation_touches_one_frame {} BlockWriter.ofConfig ⟨0⟩ events .closeScope .done _ rfl rfl
  refine ⟨_, rfl, congrArg some ((hagree 0 _ _ rfl rfl).1 (by decide)), _, _, rfl, rfl, ?_, rfl, rfl⟩
  cases (hagree 1 _ _ rfl rfl).2 with
  | function hextends => exact hextends

end ScopedBuilder
