import ScopedBuilder.Proofs.FuncWork
import ScopedBuilder.Proofs.FunctionScope
import ScopedBuilder.Proofs.Relabel.Operation

/-!
# The contents of a function

What a finished function consists of is what was set while its scope was the innermost one, since it was
opened: nothing that was set in another function is part of it, however functions are nested. Along a run
the settings of each open function are noted, under the depth of the function.
-/

namespace ScopedBuilder

/-! ## Attributes after an insertion -/

namespace Attrs

theorem lookup_cons (k other : String) (v : AttrValue) (entries : List (String × AttrValue)) :
    ((k, v) :: entries).lookup other = if other = k then some v else entries.lookup other := by
  by_cases hother : other = k
  · simp [hother]
  · have hne : (other == k) = false := beq_eq_false_iff_ne.mpr hother
    rw [List.lookup_cons, hne, if_neg hother]

theorem lookup_insertEntry (key other : String) (value : AttrValue)
    (entries : List (String × AttrValue)) :
    (insertEntry key value entries).lookup other =
      if other = key then some value else entries.lookup other := by
  induction entries with
  | nil => rw [insertEntry, lookup_cons]
  | cons entry rest ih =>
      obtain ⟨k, v⟩ := entry
      rw [insertEntry]
      split
      · rw [lookup_cons]
      · split
        · rename_i hkey
          rw [lookup_cons, lookup_cons, ← hkey]
          split <;> rfl
        · rename_i hne
          rw [lookup_cons, lookup_cons, ih]
          by_cases hother : other = key
          · simp [hother, hne]
          · simp [hother]

/-- An entry replaces the one under its key, and leaves all others alone. -/
theorem find?_insert (a : Attrs) (key other : String) (value : AttrValue) :
    (a.insert key value).find? other = if other = key then some value else a.find? other :=
  lookup_insertEntry key other value a.entries

end Attrs

/-! ## Settings -/

/-- What has been set in a function, in the order in which it was set. -/
structure Settings where
  params : List Var
  names : List String
  attrs : List Attrs
  resultTys : List Ty
  outputs : List Expr

namespace Settings

def empty : Settings := ⟨[], [], [], [], []⟩

/-- What an operation sets if it succeeds. A parameter is the variable that is returned. -/
def add (made : Settings) : Action → Reply → Settings
  | .addParam .., .var v => { made with params := made.params ++ [v] }
  | .setName name, _ => { made with names := made.names ++ [name] }
  | .setAttrs attrs, _ => { made with attrs := made.attrs ++ [attrs] }
  | .setResultTy ty, _ => { made with resultTys := made.resultTys ++ [ty] }
  | .addOutput e, _ => { made with outputs := made.outputs ++ [e] }
  | _, _ => made

end Settings

variable {σ : Type}

/-- A function has exactly the parts that have been set. Attributes can be set again, and the last ones
count. -/
structure FuncDraft.Consists (f : FuncDraft σ) (made : Settings) : Prop where
  params : f.params = made.params
  name : f.name.toList = made.names
  attrs : f.attrs = made.attrs.getLast?.getD .empty
  result : f.result.toList = made.resultTys
  outputs : f.outputs = made.outputs

namespace FuncDraft.Consists

variable {f f' : FuncDraft σ} {made : Settings}

theorem new (emitter : σ) : (FuncDraft.new emitter).Consists .empty := ⟨rfl, rfl, rfl, rfl, rfl⟩

/-- Blocks and the emitter are no parts. -/
theorem rework (h : f.Consists made) (blocks : List (Block Expr)) (emitter : σ) :
    { f with blocks := blocks, emitter := emitter }.Consists made :=
  ⟨h.params, h.name, h.attrs, h.result, h.outputs⟩

theorem edit {a : Action} {renamers : Renamers} {reply : Reply}
    {edit : FuncDraft σ → Except BuildError (Reply × FuncDraft σ)} (h : f.Consists made)
    (ha : a.functionEdit? renamers = some edit) (hedit : edit f = .ok (reply, f')) :
    f'.Consists (made.add a reply) := by
  have hname' := h.name
  have hresult' := h.result
  cases a <;> simp only [Action.functionEdit?, Option.some.injEq, reduceCtorEq] at ha <;> subst ha
  case addParam name v =>
    cases hrenamed : Builder.renamed renamers (.var v) name with
    | error e => simp [hrenamed] at hedit
    | ok e =>
        cases e with
        | var v =>
            rw [hrenamed] at hedit
            cases hedit
            exact { h with params := congrArg (· ++ [v]) h.params }
        | _ => simp [hrenamed] at hedit
  case setName name =>
    cases hname : f.name <;> simp [FuncDraft.setName, hname] at hedit
    rw [hname] at hname'
    obtain ⟨rfl, rfl⟩ := hedit
    exact { h with name := congrArg (· ++ [name]) hname' }
  case setAttrs attrs =>
    cases hattrs : f.attrs.isEmpty <;> simp [FuncDraft.setAttrs, hattrs] at hedit
    obtain ⟨rfl, rfl⟩ := hedit
    exact { h with attrs := by simp [Settings.add] }
  case setResultTy ty =>
    cases hresult : f.result <;> simp [FuncDraft.setResult, hresult] at hedit
    rw [hresult] at hresult'
    obtain ⟨rfl, rfl⟩ := hedit
    exact { h with result := congrArg (· ++ [ty]) hresult' }
  case addOutput e =>
    cases hedit
    exact { h with outputs := congrArg (· ++ [e]) h.outputs }

variable [Emitter σ]

theorem endBlock (h : f.Consists made) (hend : endBlock f = .ok () f') : f'.Consists made := by
  obtain ⟨block, emitter, rfl⟩ := exists_of_endBlock hend
  rw [record_eq]
  exact h.rework _ emitter

theorem enterBlock {kind : BlockKind} {enclosing : Option BlockKind} (h : f.Consists made)
    (henter : enterBlock kind enclosing f = .ok () f') : f'.Consists made := by
  cases enclosing with
  | none =>
      cases henter
      exact h.rework _ _
  | some k =>
      obtain ⟨f₁, hend, rfl⟩ := enterBlock_some_eq_ok.mp henter
      exact (h.endBlock hend).rework _ _

theorem leaveBlock {enclosing : Option BlockKind} (h : f.Consists made)
    (hleave : leaveBlock enclosing f = .ok () f') : f'.Consists made := by
  cases enclosing with
  | none =>
      rw [leaveBlock_none_eq] at hleave
      exact h.endBlock hleave
  | some k =>
      rw [leaveBlock_some_eq k k] at hleave
      exact h.enterBlock hleave

theorem emit {e : Expr} {v : Var} {supply supply' : VarSupply} (h : f.Consists made)
    (hemit : emit e (f, supply) = .ok v (f', supply')) : f'.Consists made := by
  obtain ⟨emitter, rfl⟩ := exists_of_emit hemit
  exact h.rework _ emitter

end FuncDraft.Consists

/-! ## The settings of the open functions -/

/-- Every function on the stack consists of what has been set at its depth. -/
def Frames.Consist (made : Nat → Settings) : Frames σ → Prop
  | [] => True
  | .function f :: below => f.Consists (made below.length) ∧ Consist made below
  | .module _ :: below | .block _ :: below => Consist made below

namespace Frames.Consist

variable {made made' : Nat → Settings} {above below : Frames σ} {f f' : FuncDraft σ}

/-- What is set above the stack does not count. -/
theorem congr {frames : Frames σ} (h : Consist made frames)
    (heq : ∀ depth < frames.length, made' depth = made depth) : Consist made' frames := by
  induction frames with
  | nil => trivial
  | cons x below ih =>
      have hbelow : ∀ depth < below.length, made' depth = made depth :=
        fun depth hlt => heq depth (Nat.lt_succ_of_lt hlt)
      cases x with
      | function f => exact ⟨heq below.length (Nat.lt_succ_self _) ▸ h.1, ih h.2 hbelow⟩
      | module m | block kind => exact ih h hbelow

theorem of_append (h : Consist made (above ++ below)) : Consist made below := by
  induction above with
  | nil => exact h
  | cons x above ih =>
      cases x with
      | function f => exact ih h.2
      | module m | block kind => exact ih h

theorem replace (h : Consist made (above ++ .function f :: below))
    (hf : f.Consists (made below.length) → f'.Consists (made below.length)) :
    Consist made (above ++ .function f' :: below) := by
  induction above with
  | nil => exact ⟨hf h.1, h.2⟩
  | cons x above ih =>
      cases x with
      | function g =>
          have hlength : (above ++ .function f' :: below).length =
              (above ++ .function f :: below).length := by simp
          exact ⟨hlength ▸ h.1, ih h.2⟩
      | module m | block kind => exact ih h

theorem replaceBlock {frames : Frames σ} (h : Consist made frames) (kind : BlockKind) :
    Consist made (frames.replaceBlock kind) := by
  induction frames with
  | nil => trivial
  | cons x below ih =>
      cases x with
      | function f => exact ⟨(length_replaceBlock kind below).symm ▸ h.1, ih h.2⟩
      | module m => exact ih h
      | block previous => exact h

end Frames.Consist

section Runs

variable [Emitter σ]

namespace Step

/-- The settings at a depth after a step: a function that is opened there has none, and what is set while it
is the innermost scope is added. -/
def note (depth : Nat) (s : Step σ) (made : Settings) : Settings :=
  match s.event, s.outcome with
  | .action .openFunction, .ok .. => if s.before.builder.depth = depth then .empty else made
  | .action a, .ok reply _ =>
    if s.before.builder.frames.innermostScope? = some ⟨depth, .function⟩ then made.add a reply
    else made
  | _, _ => made

end Step

/-- What has been set in the function at a depth since it was opened. -/
def settings (depth : Nat) (steps : List (Step σ)) : Settings :=
  steps.foldl (fun made s => s.note depth made) .empty

/-- Whether an operation opens a function or sets something in one. -/
def Action.sets : Action → Bool
  | openFunction | addParam .. | setName _ | setAttrs _ | setResultTy _ | addOutput _ => true
  | _ => false

variable {w w' : Workspace σ} {a : Action} {reply : Reply} {made : Settings} {depth : Nat}

namespace Step

theorem note_openFunction (hrun : Action.openFunction.run w = .ok reply w') :
    note depth ⟨w, .action .openFunction⟩ made =
      if w.builder.depth = depth then .empty else made := by
  simp [note, outcome, Event.run, hrun]

theorem note_functionEdit {renamers : Renamers}
    {edit : FuncDraft σ → Except BuildError (Reply × FuncDraft σ)}
    (ha : a.functionEdit? renamers = some edit) (hrun : a.run w = .ok reply w') :
    note depth ⟨w, .action a⟩ made =
      if w.builder.frames.innermostScope? = some ⟨depth, .function⟩ then made.add a reply
      else made := by
  cases a <;> simp only [Action.functionEdit?, reduceCtorEq] at ha <;>
    simp [note, outcome, Event.run, hrun]

theorem note_of_not_sets (ha : a.sets = false) : note depth ⟨w, .action a⟩ made = made := by
  unfold note
  split
  · rename_i heq _
    cases heq
    cases ha
  · rename_i heq _
    cases heq
    cases a <;> simp_all [Action.sets, Settings.add]
  · rfl

theorem note_of_error {e : BuildError} (hrun : a.run w = .error e w') :
    note depth ⟨w, .action a⟩ made = made := by
  simp [note, outcome, Event.run, hrun]

end Step

open Frames

theorem Closing.consist {made : Nat → Settings} (h : Closing w w')
    (hall : w.builder.frames.Consist made) : w'.builder.frames.Consist made := by
  cases h with
  | block hframes hsplit _ hleave =>
      rw [hframes] at hall
      obtain ⟨rfl, -⟩ := splitFunction?_eq_some_iff.mp hsplit
      exact Consist.replace hall fun hf => hf.leaveBlock hleave
  | function => trivial
  | definition hframes _ _ _ =>
      rw [hframes] at hall
      exact hall.2
  | module hframes _ _ =>
      rw [hframes] at hall
      exact hall

/-- Every operation keeps account of what is set. -/
theorem Change.consist {made : Nat → Settings} (h : Change w a reply w')
    (hrun : a.run w = .ok reply w') (hall : w.builder.frames.Consist made) :
    w'.builder.frames.Consist fun depth => Step.note depth ⟨w, .action a⟩ (made depth) := by
  have hquiet : a.sets = false → w'.builder.frames.Consist made →
      w'.builder.frames.Consist fun depth => Step.note depth ⟨w, .action a⟩ (made depth) := by
    intro ha hkept
    exact hkept.congr fun depth _ => Step.note_of_not_sets ha
  cases h with
  | openModule => exact hquiet rfl hall
  | openFunction =>
      refine ⟨?_, hall.congr ?_⟩
      · dsimp only
        rw [Step.note_openFunction hrun, Builder.depth, if_pos rfl]
        exact (FuncDraft.Consists.new _).rework _ _
      · intro depth hlt
        rw [Step.note_openFunction hrun, Builder.depth, if_neg (Nat.ne_of_gt hlt)]
  | @openBlock _ _ above below f f' ha hsplit henter =>
      have hsets : a.sets = false := by cases a <;> first | rfl | cases ha
      obtain ⟨hframes, -⟩ := splitFunction?_eq_some_iff.mp hsplit
      rw [hframes] at hall
      have hkept : Consist made (above ++ .function f' :: below) :=
        hall.replace fun hf => hf.enterBlock henter
      exact hquiet hsets hkept
  | close ha _ hclosing =>
      have hsets : a.sets = false := by cases a <;> first | rfl | cases ha
      exact hquiet hsets (hclosing.consist hall)
  | abort =>
      refine hquiet rfl ?_
      split
      · exact hall
      · trivial
  | editModule ha hframes _ =>
      have hsets : a.sets = false := by cases a <;> first | rfl | cases ha
      rw [hframes] at hall
      exact hquiet hsets hall
  | @editFunction _ _ _ kind f f' below ha hframes hedit =>
      rw [hframes] at hall
      have hscope (depth : Nat) : w.builder.frames.innermostScope? = some ⟨depth, .function⟩ ↔
          below.length = depth := by
        rw [hframes]
        simp [innermostScope?]
      refine ⟨?_, hall.2.congr ?_⟩
      · dsimp only
        rw [Step.note_functionEdit ha hrun, if_pos ((hscope _).mpr rfl)]
        exact hall.1.edit ha hedit
      · intro depth hlt
        rw [Step.note_functionEdit ha hrun, if_neg (mt (hscope depth).mp (Nat.ne_of_gt hlt))]
  | emit ha hsplit hemit =>
      have hsets : a.sets = false := by cases a <;> first | rfl | cases ha
      obtain ⟨hframes, -⟩ := splitFunction?_eq_some_iff.mp hsplit
      rw [hframes] at hall
      exact hquiet hsets (Consist.replace hall fun hf => hf.emit hemit)
  | takeResult =>
      refine hquiet rfl ?_
      split <;> exact hall
  | setResult | setRenamers | registerRenamer | rename => exact hquiet rfl hall

/-- Along a run every open function consists of what has been set in it. -/
theorem Workspace.consist_after (config : Config) (newEmitter : Config → σ) (supply : VarSupply)
    {events : List Event} :
    let start : Workspace σ := ⟨.new config newEmitter, supply⟩
    let w := start.after events
    w.builder.failed = false →
      w.builder.frames.Consist fun depth => settings depth (start.steps events) := by
  intro start w hfailed
  refine (holds_after (fun past (w : Workspace σ) =>
    w.builder.frames.Consist fun depth => settings depth past) ?_ (w := start) .nil trivial events
    hfailed).2
  rintro past w e w' - - - hall hquiet
  have hsettings (depth : Nat) : settings depth (past ++ [⟨w, e⟩]) =
      Step.note depth ⟨w, e⟩ (settings depth past) := by
    simp [settings]
  simp only [hsettings]
  cases hquiet with
  | change hrun hchange => exact hchange.consist hrun hall
  | drawn => exact hall
  | replaced kind => exact hall.replaceBlock kind
  | refused herror => simpa only [Step.note_of_error herror] using hall

end Runs

/-! ## Finished functions -/

namespace FuncDraft.Consists

variable {f : FuncDraft BlockWriter} {made : Settings} {config : Config} {func : Func}

/-- The value of a finished function is its only output, or the tuple of them all. -/
theorem output_of_assemble (h : f.Consists made) (hfunc : f.assemble config = .ok func) :
    (∃ e, made.outputs = [e] ∧ func.output = e.normalize) ∨
      (1 < made.outputs.length ∧ func.output = (Expr.tuple made.outputs none).normalize) := by
  obtain ⟨output, result, houtput, -, rfl⟩ := assemble_eq_ok.mp hfunc
  rw [output?, h.outputs] at houtput
  split at houtput
  · cases houtput
  · rename_i heq
    cases houtput
    exact .inl ⟨_, heq, rfl⟩
  · rename_i hnil hone
    cases houtput
    refine .inr ⟨?_, rfl⟩
    match made.outputs, hnil, hone with
    | [], hnil, _ => exact absurd rfl hnil
    | [e], _, hone => exact absurd rfl (hone e)
    | _ :: _ :: _, _, _ => simp

/-- The name is an attribute exactly if the settings ask for it and there is one. -/
theorem attrs_of_assemble (h : f.Consists made) (hfunc : f.assemble config = .ok func) :
    let attrs := made.attrs.getLast?.getD .empty
    (∀ name, config.recordSymbol = true → f.name = some name → ∀ key, func.attrs.find? key =
        if key = Func.symbolKey then some (.str name) else attrs.find? key) ∧
      (config.recordSymbol = false ∨ f.name = none → func.attrs = attrs) := by
  intro attrs
  obtain ⟨output, result, -, -, rfl⟩ := assemble_eq_ok.mp hfunc
  have hattrs : f.attrs = attrs := h.attrs
  refine ⟨?_, ?_⟩
  · intro name hrecord hname key
    simp only [finalAttrs, hrecord, hname, Attrs.find?_insert, hattrs]
  · rintro (hrecord | hname)
    · simpa only [finalAttrs, hrecord] using hattrs
    · cases hrecord : config.recordSymbol <;> simpa only [finalAttrs, hname, hrecord] using hattrs

end FuncDraft.Consists

/-- With the standard renamers a parameter is the variable that was given, under the requested name. -/
theorem Action.reply_of_addParam {σ : Type} [Emitter σ] {w w' : Workspace σ} {name : String} {v : Var}
    {reply : Reply} (hstandard : w.builder.renamers = .standard)
    (hrun : (addParam name v).run w = .ok reply w') : reply = .var { v with name := name } := by
  obtain ⟨-, kind, f, below, f', -, hedit, -⟩ := (run_functionEdit rfl).mp hrun
  rw [hstandard, Builder.renamed_standard_var] at hedit
  cases hedit
  rfl

/-- Whenever the scope of a function closes successfully, in any session with the standard emitter, the
finished function is made of what was set in that scope: the parameters are those that were returned, in
their order, the result type is the one that was set, the value is the normal form of the only output or of
the tuple of the outputs, and the attributes are the ones that were set, with the name among them if the
settings ask for it. With the standard renamers each parameter is the given variable under the requested
name. -/
theorem closed_function_contents (config : Config) (supply : VarSupply) (events : List Event)
    (a : Action) (depth : Nat) (reply : Reply) (w' : Workspace BlockWriter) :
    let steps := (Workspace.new config supply).steps events
    let w := (Workspace.new config supply).after events
    let made := settings depth steps
    w.builder.frames.innermostScope? = some ⟨depth, .function⟩ →
    a.closes ⟨depth, .function⟩ = true → a.run w = .ok reply w' →
      ∃ name func, w'.HandedOver (name.getD "") func ∧ made.names = name.toList ∧
        func.params = made.params ∧ made.resultTys = [func.result] ∧
        ((∃ e, made.outputs = [e] ∧ func.output = e.normalize) ∨
          (1 < made.outputs.length ∧ func.output = (Expr.tuple made.outputs none).normalize)) ∧
        (∀ n, config.recordSymbol = true → name = some n → ∀ key, func.attrs.find? key =
          if key = Func.symbolKey then some (.str n)
          else (made.attrs.getLast?.getD .empty).find? key) ∧
        (config.recordSymbol = false ∨ name = none →
          func.attrs = made.attrs.getLast?.getD .empty) ∧
        ∀ s ∈ steps, ∀ requested v, s.event = .action (.addParam requested v) →
          s.before.builder.renamers = .standard → ∀ reply w₁, s.outcome = .ok reply w₁ →
          reply = .var { v with name := requested } := by
  intro steps w made hscope ha hrun
  have hfailed : w.builder.failed = false := Action.not_failed_of_closes ha hrun
  have hsound : w.Sound config := Workspace.sound_after config supply hfailed
  have hmirrors : Mirrors _ w := Workspace.mirrors_after config supply hfailed
  have hall : w.builder.frames.Consist fun depth => settings depth steps :=
    Workspace.consist_after config BlockWriter.ofConfig supply hfailed
  obtain ⟨-, -, hclosing⟩ := (Action.run_closes_eq_ok hsound.shaped hscope ha).mp hrun
  obtain ⟨kind, f, f', func, below, hframes, -, hleave, hfunc, hhanded⟩ :=
    hclosing.exists_handedOver hmirrors hscope
  rw [hframes] at hall hscope
  obtain rfl : below.length = depth := by simpa [Frames.innermostScope?] using hscope
  have hmade : f'.Consists made := hall.1.leaveBlock hleave
  rw [hsound.config_eq] at hfunc
  obtain ⟨hsymbol, hplain⟩ := hmade.attrs_of_assemble hfunc
  refine ⟨f'.name, func, ?_, hmade.name.symm, ?_, ?_, hmade.output_of_assemble hfunc, hsymbol, hplain, ?_⟩
  · rw [← FuncDraft.nameOrEmpty_leaveBlock hleave] at hhanded
    exact hhanded
  · obtain ⟨output, result, -, -, rfl⟩ := FuncDraft.assemble_eq_ok.mp hfunc
    exact hmade.params
  · obtain ⟨output, result, -, hresult, rfl⟩ := FuncDraft.assemble_eq_ok.mp hfunc
    rw [← hmade.result, hresult]
    rfl
  · rintro ⟨before, event⟩ - requested v rfl hstandard reply w₁ houtcome
    exact Action.reply_of_addParam hstandard houtcome

/-- A function with two outputs, in a module that is inside another function. -/
theorem closed_function_contents_of_two_outputs :
    let x : Var := ⟨7, "x", false, none, none⟩
    let events : List Event :=
      [.action .openFunction, .action (.setName "outer"), .action .openModule, .action .openFunction,
        .action (.setName "f"), .action (.addParam "p" x), .action (.setResultTy .shape),
        .action (.setAttrs (Attrs.empty.insert "global_symbol" (.str "mine"))),
        .action (.addOutput (.op "a")), .action (.addOutput (.op "b"))]
    let w := (Workspace.new {} ⟨0⟩).after events
    ∃ w', Action.closeScope.run w = .ok .done w' ∧
      ∃ func, w'.HandedOver "f" func ∧ func.params = [{ x with name := "p" }] ∧
        func.output = (Expr.tuple [.op "a", .op "b"] none).normalize ∧
        func.attrs.find? "global_symbol" = some (.str "f") := by
  intro x events w
  have hmade : settings 3 ((Workspace.new {} ⟨0⟩).steps events) =
      ⟨[{ x with name := "p" }], ["f"], [Attrs.empty.insert "global_symbol" (.str "mine")], [.shape],
        [.op "a", .op "b"]⟩ := rfl
  obtain ⟨w', hrun⟩ : ∃ w', Action.closeScope.run w = .ok .done w' := ⟨_, rfl⟩
  obtain ⟨name, func, hhanded, hname, hparams, -, houtput, hsymbol, -, -⟩ :=
    closed_function_contents {} ⟨0⟩ events .closeScope 3 .done w' rfl rfl hrun
  rw [hmade] at hname hparams houtput
  cases name with
  | none => cases hname
  | some n =>
      obtain rfl : "f" = n := by simpa using hname
      refine ⟨w', hrun, func, hhanded, hparams, ?_, hsymbol "f" rfl rfl "global_symbol"⟩
      rcases houtput with ⟨e, hsingle, -⟩ | ⟨-, houtput⟩
      · cases hsingle
      · exact houtput

end ScopedBuilder
