import ScopedBuilder.Proofs.ModuleRequest

/-!
# The open module is a table

A run of a builder is replayed on the reference: what is asked of the open module is asked of a table
instead. Both give the same answers.
-/

namespace ScopedBuilder

/-- The reference table after a step, if a module is open. -/
def Step.track (s : Step BlockWriter) (t : Option Table) : Option Table :=
  match s.event with
  | .drawn _ | .replaced _ => t
  | .action a =>
    match t, s.before.request? a with
    | some t, some q =>
      match t.answer s.before.builder.config.nameScheme s.before.builder.result.isSome q with
      | .ok (.table _ t) => some t
      | .ok (.module _) => none
      | .error _ => some t
    | t, _ =>
      match a, s.outcome with
      | .openModule, .ok _ _ => some []
      | _, _ => t

/-- The reference table at the end of a run. -/
def trackTable (steps : List (Step BlockWriter)) : Option Table :=
  steps.foldl (fun t s => s.track t) none

/-! ## Runs -/

section Runs

variable {w w' : Workspace BlockWriter} {a : Action} {reply : Reply} {t : Option Table}
  {config : Config}

/-- A change that asks nothing of the module and opens none keeps the modules. -/
theorem Change.modules_eq (h : Change w a reply w') (hsound : w.Sound config)
    (hq : w.request? a = none) (hopen : a ≠ .openModule) (hfailed : w'.builder.failed = false) :
    w'.builder.frames.modules = w.builder.frames.modules := by
  have hasks : ∀ q, ¬ Asks w a q := fun q hask => by simp [asks_iff.mpr hask] at hq
  cases h with
  | openModule => exact absurd rfl hopen
  | openFunction => simp
  | openBlock _ hsplit _ =>
      rw [Workspace.withFrames_frames, Frames.modules_block]
      exact Frames.modules_replace_split hsplit
  | close hcloses hscope hclosing =>
      cases hclosing with
      | block hframes hsplit _ _ =>
          rw [hframes, Frames.modules_block]
          exact Frames.modules_replace_split hsplit
      | function hframes _ _ _ => simp [hframes]
      | @definition kind f f' func m m' below hframes hleave hfunc _ =>
          have hsplit : w.builder.frames.splitFunction? =
              some ([.block kind], f, .module m :: below) := by
            simp [hframes]
          obtain ⟨block, hblock⟩ :=
            FuncDraft.openBlocks_eq_singleton (hsound.inStep.of_split hsplit).1
          cases hleave.symm.trans (FuncDraft.leaveBlock_none hblock)
          rw [hframes] at hscope
          obtain rfl := Option.some.inj hscope
          exact absurd (.define hframes hcloses
            ((FuncDraft.assemble_finishBlock_eq_ok hblock).mp hfunc)) (hasks _)
      | module hframes _ _ =>
          rw [hframes] at hscope
          obtain rfl := Option.some.inj hscope
          exact absurd (.finish hframes hcloses) (hasks _)
  | abort =>
      split at hfailed
      · rw [if_pos ‹_›]
      · cases hfailed
  | editModule ha hframes _ =>
      cases a <;> simp only [Action.moduleEdit?, reduceCtorEq] at ha
      · exact absurd (.register hframes rfl) (hasks _)
      · exact absurd (.update hframes rfl) (hasks _)
  | editFunction _ hframes _ => simp [hframes]
  | emit _ hsplit _ => exact Frames.modules_replace_split hsplit
  | takeResult => split <;> rfl
  | setResult | setRenamers | registerRenamer | rename => rfl

theorem Step.track_of_request {q : Request} {table : Table} (hq : w.request? a = some q) :
    Step.track ⟨w, .action a⟩ (some table) =
      match table.answer w.builder.config.nameScheme w.builder.result.isSome q with
      | .ok (.table _ t) => some t
      | .ok (.module _) => none
      | .error _ => some table := by
  simp only [track, hq]

theorem Step.track_of_ne_openModule (hq : w.request? a = none) (hopen : a ≠ .openModule) :
    Step.track ⟨w, .action a⟩ t = t := by
  cases a <;> simp_all [track]

theorem Step.track_of_refused {err : BuildError} (hq : w.request? a = none)
    (herror : a.run w = .error err w') : Step.track ⟨w, .action a⟩ t = t := by
  simp [track, hq, outcome, Event.run, herror]

theorem Step.track_openModule (hq : w.request? .openModule = none)
    (hrun : Action.openModule.run w = .ok reply w') :
    Step.track ⟨w, .action .openModule⟩ t = some [] := by
  simp [track, hq, outcome, Event.run, hrun]

namespace Mirrors

/-- A request that is granted leads both to the same module. -/
theorem request_ok {q : Request} (h : Mirrors t w) (hsound : w.Sound config)
    (hfailed : w.builder.failed = false) (hq : w.request? a = some q)
    (hrun : a.run w = .ok reply w') : Mirrors (Step.track ⟨w, .action a⟩ t) w' := by
  obtain ⟨table, rfl, hanswers⟩ := answers_reference hsound hfailed h hq
  rw [Step.track_of_request hq]
  cases hanswer : table.answer w.builder.config.nameScheme w.builder.result.isSome q with
  | error err =>
      rw [hanswer] at hanswers
      obtain ⟨w'', herror⟩ := hanswers
      cases hrun.symm.trans herror
  | ok answer =>
      rw [hanswer] at hanswers
      cases answer with
      | table reply' t' =>
          obtain ⟨w'', hok, hmirrors⟩ := hanswers
          cases hrun.symm.trans hok
          exact hmirrors
      | module entries =>
          obtain ⟨w'', hok, hmirrors, -⟩ := hanswers
          cases hrun.symm.trans hok
          exact hmirrors

/-- A request that is refused leaves the reference alone too. -/
theorem request_error {q : Request} {err : BuildError} (h : Mirrors t w) (hsound : w.Sound config)
    (hfailed : w.builder.failed = false) (hq : w.request? a = some q)
    (herror : a.run w = .error err w') : Mirrors (Step.track ⟨w, .action a⟩ t) w := by
  obtain ⟨table, rfl, hanswers⟩ := answers_reference hsound hfailed h hq
  rw [Step.track_of_request hq]
  cases hanswer : table.answer w.builder.config.nameScheme w.builder.result.isSome q with
  | error err' => exact h
  | ok answer =>
      rw [hanswer] at hanswers
      cases answer with
      | table reply' t' =>
          obtain ⟨w'', hok, -⟩ := hanswers
          cases hok.symm.trans herror
      | module entries =>
          obtain ⟨w'', hok, -⟩ := hanswers
          cases hok.symm.trans herror

/-- A new module is the empty table. -/
theorem openModule (hchange : Change w .openModule reply w') : Mirrors (some []) w' := by
  cases hchange with
  | openModule hnone =>
      have hmodules := Frames.any_isModule_eq_false_iff.mp hnone
      exact ⟨by simp [hmodules, ModuleDraft.ofTable, ModuleDraft.new, Table.names],
        by simp [Table.names]⟩
  | _ => simp_all [Action.opens?, Action.binds?, Action.closes, Action.moduleEdit?,
      Action.functionEdit?]

/-- What asks nothing of a module and opens none keeps the reference. -/
theorem of_unasked (h : Mirrors t w) (hsound : w.Sound config) (hq : w.request? a = none)
    (hopen : a ≠ .openModule) (hfailed' : w'.builder.failed = false) (hchange : Change w a reply w') :
    Mirrors t w' := by
  have hmodules := hchange.modules_eq hsound hq hopen hfailed'
  refine ⟨?_, h.2⟩
  rw [hmodules, hchange.config_eq]
  exact h.1

/-- The reference is kept along each step. -/
theorem quiet {e : Event} (h : Mirrors t w) (hsound : w.Sound config)
    (hfailed : w.builder.failed = false) (hfailed' : w'.builder.failed = false)
    (hquiet : w.Quiet e w') : Mirrors (Step.track ⟨w, e⟩ t) w' := by
  cases hquiet with
  | drawn => exact h
  | replaced kind =>
      exact ⟨(Frames.modules_replaceBlock kind w.builder.frames).trans h.1, h.2⟩
  | @refused a err herror =>
      cases hq : w.request? a with
      | some q => exact h.request_error hsound hfailed hq herror
      | none =>
          rw [Step.track_of_refused hq herror]
          exact h
  | @change a reply _ hrun hchange =>
      cases hq : w.request? a with
      | some q => exact h.request_ok hsound hfailed hq hrun
      | none =>
          by_cases hopen : a = .openModule
          · subst hopen
            rw [Step.track_openModule hq hrun]
            exact openModule hchange
          · rw [Step.track_of_ne_openModule hq hopen]
            exact h.of_unasked hsound hq hopen hfailed' hchange

end Mirrors

theorem Workspace.mirrors_after (config : Config) (supply : VarSupply) {events : List Event}
    (hfailed : ((new config supply).after events).builder.failed = false) :
    Mirrors (trackTable ((new config supply).steps events)) ((new config supply).after events) := by
  refine (holds_after (fun past w => w.Sound config ∧ Mirrors (trackTable past) w) ?_ .nil
    ⟨sound_new config supply, rfl, by simp [trackTable]⟩ events hfailed).2.2
  rintro past w e w' hw hw' - ⟨hsound, hmirrors⟩ hquiet
  refine ⟨hsound.quiet hquiet, ?_⟩
  have htrack : trackTable (past ++ [⟨w, e⟩]) = Step.track ⟨w, e⟩ (trackTable past) := by
    simp [trackTable]
  rw [htrack]
  exact hmirrors.quiet hsound hw hw' hquiet

end Runs

/-- A draft shows to the outside what a table shows. -/
structure ModuleDraft.Agrees (m : ModuleDraft) (t : Table) : Prop where
  names : m.names.map (·.1) = t.names
  contains : ∀ name, m.contains name = t.contains name
  isDefined : ∀ name, m.isDefined name = (t.body? name).isSome
  definition : ∀ name, (m.global? name).bind m.definition? = t.body? name

theorem ModuleDraft.agrees_ofTable (scheme : NameScheme) (t : Table) :
    (ofTable scheme t).Agrees t where
  names := ofTable_names
  contains _ := ofTable_contains
  isDefined _ := ofTable_isDefined
  definition _ := ofTable_global?_bind

/-- In every session with the standard emitter that has not failed, the open module shows the names and
the bodies of the reference, and what is asked of it next succeeds or fails as the reference does, with
the same reply, error or entries. -/
theorem module_refines_table (config : Config) (supply : VarSupply) (events : List Event) :
    let w := (Workspace.new config supply).after events
    w.builder.failed = false →
      match trackTable ((Workspace.new config supply).steps events) with
      | none => w.builder.frames.nearestModule? = none
      | some t =>
        t.names.Nodup ∧ (∃ m, w.builder.frames.nearestModule? = some m ∧ m.Agrees t) ∧
          ∀ a q, w.request? a = some q →
            match t.answer config.nameScheme w.builder.result.isSome q with
            | .error e => ∃ w', a.run w = .error e w'
            | .ok (.table reply t') =>
              ∃ w' m', a.run w = .ok reply w' ∧ w'.builder.frames.nearestModule? = some m' ∧
                m'.Agrees t'
            | .ok (.module entries) =>
              ∃ w' module, a.run w = .ok .done w' ∧ w'.builder.frames.nearestModule? = none ∧
                w'.builder.result = some (.module module) ∧
                module.functions.map (fun x => (x.1.name, x.2)) = entries := by
  intro w hfailed
  have hsound : w.Sound config := Workspace.sound_after config supply hfailed
  have hmirrors : Mirrors _ w := Workspace.mirrors_after config supply hfailed
  cases ht : trackTable ((Workspace.new config supply).steps events) with
  | none =>
      rw [ht] at hmirrors
      simpa [Frames.nearestModule?_eq] using hmirrors.1
  | some t =>
      rw [ht] at hmirrors
      refine ⟨hmirrors.2 t rfl, ⟨_, hmirrors.nearestModule?_eq, ModuleDraft.agrees_ofTable _ t⟩, ?_⟩
      intro a q hq
      obtain ⟨table, htable, hanswers⟩ := answers_reference hsound hfailed hmirrors hq
      cases htable
      rw [hsound.config_eq] at hanswers
      cases hanswer : t.answer config.nameScheme w.builder.result.isSome q with
      | error e =>
          rw [hanswer] at hanswers
          exact hanswers
      | ok answer =>
          rw [hanswer] at hanswers
          cases answer with
          | table reply t' =>
              obtain ⟨w', hok, hmirrors'⟩ := hanswers
              exact ⟨w', _, hok, hmirrors'.nearestModule?_eq, ModuleDraft.agrees_ofTable _ t'⟩
          | module entries =>
              obtain ⟨w', hok, hmirrors', hresult⟩ := hanswers
              refine ⟨w', _, hok, ?_, hresult, ?_⟩
              · simpa [Frames.nearestModule?_eq] using hmirrors'.1
              · simp [Function.comp_def]

/-- A name is reserved, and a second registration of it gets a number. -/
theorem module_refines_table_numbered :
    let w := (Workspace.new {} ⟨0⟩).after
      [.action .openModule, .action (.register "f" none false),
        .action (.register "f" none true)]
    w.builder.failed = false ∧
      ∃ m, w.builder.frames.nearestModule? = some m ∧ m.Agrees [("f", none), ("f_1", none)] :=
  ⟨rfl, (module_refines_table {} ⟨0⟩ [.action .openModule, .action (.register "f" none false),
    .action (.register "f" none true)] rfl).2.1⟩

end ScopedBuilder
