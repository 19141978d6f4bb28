import ScopedBuilder.Proofs.FreshName
import ScopedBuilder.Proofs.Nesting
import ScopedBuilder.Proofs.Table

/-!
# Handles of functions

A registration returns a handle: the name and the slot of a function. No later operation moves a slot or
gives it to another name, so a handle leads to its function as long as the module is open, and it is the key
of its function in the finished module. This holds for every emitter.
-/

namespace ScopedBuilder

/-! ## Lookups in a finished module -/

/-- A name that no two functions share finds its function. -/
theorem Module.entry?_of_mem {m : Module} (hnodup : m.names.Nodup) {g : Global} {f : Func}
    (h : (g, f) ∈ m.functions) : m.entry? g.name = some (g, f) := by
  obtain ⟨functions⟩ := m
  simp only [names, entry?] at hnodup h ⊢
  induction functions with
  | nil => cases h
  | cons entry rest ih =>
      obtain ⟨hhead, htail⟩ := List.nodup_cons.mp hnodup
      rcases List.mem_cons.mp h with rfl | hrest
      · simp
      · have hne : (entry.1.name == g.name) = false := by
          simp only [beq_eq_false_iff_ne]
          intro heq
          exact hhead (List.mem_map.mpr ⟨_, hrest, heq.symm⟩)
        rw [List.find?_cons, hne]
        exact ih htail hrest

/-- A name that is registered is the one that the scheme makes of it. -/
theorem Table.eq_of_register {t t' : Table} {scheme : NameScheme} {name key : String}
    {body : Option Func} {rename : Bool} {op : Operation}
    (h : t.register scheme name body rename op = .ok (key, t')) :
    key = scheme.fresh name t.names ∧ t' = t.put key body := by
  unfold register at h
  split at h <;> cases h
  exact ⟨rfl, rfl⟩

/-- A table that is finished has a body for every name. -/
theorem Table.eq_of_finish {t : Table} {entries : List (String × Func)} (h : t.finish = .ok entries) :
    t = entries.map fun x => (x.1, some x.2) := by
  induction t generalizing entries with
  | nil =>
      cases h
      rfl
  | cons entry t ih =>
      obtain ⟨name, _ | f⟩ := entry
      · cases h
      · obtain ⟨rest, hrest, rfl⟩ := map_eq_ok.mp h
        rw [ih hrest, List.map_cons]

namespace ModuleDraft

/-! ## Handles of a draft -/

section Table

variable {scheme : NameScheme} {t : Table} {name n : String} {body : Option Func} {g : Global}

theorem ofTable_global?_eq_some :
    (ofTable scheme t).global? name = some g ↔
      name ∈ t.names ∧ g = ⟨name, t.names.idxOf name⟩ := by
  rw [ofTable_global?]
  by_cases hmem : name ∈ t.names <;> simp [hmem, eq_comm]

variable (name body) in
/-- A name keeps its position, whatever is put into the table. -/
theorem ofTable_global?_put (h : (ofTable scheme t).global? n = some g) :
    (ofTable scheme (t.put name body)).global? n = some g := by
  obtain ⟨hmem, rfl⟩ := ofTable_global?_eq_some.mp h
  rw [ofTable_global?_eq_some, Table.names_put]
  split
  · exact ⟨hmem, rfl⟩
  · rw [List.idxOf_append_of_mem hmem]
    exact ⟨List.mem_append_left _ hmem, rfl⟩

theorem ofTable_global?_put_self :
    (ofTable scheme (t.put name body)).global? name =
      some ⟨name, (t.put name body).names.idxOf name⟩ := by
  rw [ofTable_global?_eq_some, Table.names_put]
  split
  · exact ⟨‹_›, rfl⟩
  · exact ⟨List.mem_append_right _ List.mem_cons_self, rfl⟩

/-- The slot of a name is its position. -/
theorem exists_getElem?_of_global? {entries : List (String × Func)}
    (h : (ofTable scheme (entries.map fun x => (x.1, some x.2))).global? name = some g) :
    ∃ f, entries[g.index]? = some (g.name, f) := by
  obtain ⟨hmem, rfl⟩ := ofTable_global?_eq_some.mp h
  have hnames : Table.names (entries.map fun x => (x.1, some x.2)) = entries.map (·.1) := by
    simp [Table.names, Function.comp_def]
  rw [hnames] at hmem ⊢
  have hat := List.getElem?_idxOf hmem
  rw [List.getElem?_map, Option.map_eq_some_iff] at hat
  obtain ⟨⟨_, f⟩, hentry, rfl⟩ := hat
  exact ⟨f, hentry⟩

/-- A registration puts the name that the scheme makes of the requested one into the table. -/
theorem ofTable_register_eq_ok {rename : Bool} {op : Operation} {m' : ModuleDraft}
    (h : (ofTable scheme t).register name body rename op = .ok (g, m')) :
    g.name = scheme.fresh name t.names ∧ m' = ofTable scheme (t.put g.name body) ∧
      m'.global? g.name = some g := by
  rw [ofTable_register, map_eq_ok] at h
  obtain ⟨⟨key, t'⟩, hput, heq⟩ := h
  obtain ⟨rfl, rfl⟩ := Prod.mk.inj heq
  obtain ⟨rfl, rfl⟩ := Table.eq_of_register hput
  exact ⟨rfl, rfl, ofTable_global?_put_self⟩

end Table

/-- A draft whose slots are the positions of its names, and in which the handles that were returned lead to
their names. -/
structure Keeps (scheme : NameScheme) (returned : List Global) (m : ModuleDraft) : Prop where
  exists_table : ∃ t : Table, t.names.Nodup ∧ m = ofTable scheme t
  global?_eq : ∀ g ∈ returned, m.global? g.name = some g

namespace Keeps

variable {scheme : NameScheme} {returned : List Global} {m m' : ModuleDraft} {name : String}
  {op : Operation} {g : Global}

theorem new (scheme : NameScheme) : (ModuleDraft.new scheme).Keeps scheme [] where
  exists_table := ⟨[], by simp [Table.names], by simp [ModuleDraft.new, ofTable, Table.names]⟩
  global?_eq := by simp

theorem put {t : Table} (hnodup : t.names.Nodup) (h : (ofTable scheme t).Keeps scheme returned)
    (name : String) (body : Option Func) : (ofTable scheme (t.put name body)).Keeps scheme returned where
  exists_table := ⟨_, Table.nodup_put hnodup, rfl⟩
  global?_eq g hg := ofTable_global?_put name body (h.global?_eq g hg)

theorem register {body : Option Func} {rename : Bool} (h : m.Keeps scheme returned)
    (hregister : m.register name body rename op = .ok (g, m')) :
    m'.Keeps scheme (returned ++ [g]) := by
  obtain ⟨t, hnodup, rfl⟩ := h.exists_table
  obtain ⟨-, rfl, hself⟩ := ofTable_register_eq_ok hregister
  have hput := h.put hnodup g.name body
  refine ⟨hput.exists_table, ?_⟩
  intro g' hg'
  rcases List.mem_append.mp hg' with hg' | hg'
  · exact hput.global?_eq g' hg'
  · exact List.mem_singleton.mp hg' ▸ hself

theorem update {f : Func} {first : Bool} (h : m.Keeps scheme returned)
    (hupdate : m.update name f first op = .ok m') : m'.Keeps scheme returned := by
  obtain ⟨t, hnodup, rfl⟩ := h.exists_table
  rw [ofTable_update, map_eq_ok] at hupdate
  obtain ⟨t', hput, rfl⟩ := hupdate
  rw [Table.update_eq_ok hput]
  exact h.put hnodup name (some f)

theorem define {f : Func} (h : m.Keeps scheme returned) (hdefine : m.define name f op = .ok m') :
    m'.Keeps scheme returned := by
  unfold ModuleDraft.define at hdefine
  split at hdefine
  · exact h.update hdefine
  · obtain ⟨⟨g, m''⟩, hregister, rfl⟩ := map_eq_ok.mp hdefine
    have hkeeps := h.register hregister
    exact ⟨hkeeps.exists_table, fun g' hg' => hkeeps.global?_eq g' (List.mem_append_left _ hg')⟩

/-! ### What a registration returns -/

/-- Under the numbered scheme a registration takes a new name and a new slot, and nothing that is
registered changes. -/
theorem register_numbered {separator : String} {body : Option Func} {rename : Bool}
    (h : m.Keeps (.numbered separator) returned)
    (hregister : m.register name body rename op = .ok (g, m')) {n : String} {earlier : Global}
    (hearlier : m.global? n = some earlier) :
    earlier.name ≠ g.name ∧ earlier.index ≠ g.index ∧ m'.global? n = some earlier ∧
      m'.definition? earlier = m.definition? earlier := by
  obtain ⟨t, -, rfl⟩ := h.exists_table
  obtain ⟨hname, rfl, hself⟩ := ofTable_register_eq_ok hregister
  have hkept := ofTable_global?_put g.name body hearlier
  obtain ⟨hmem, rfl⟩ := ofTable_global?_eq_some.mp hearlier
  have hne : n ≠ g.name := by
    rintro rfl
    exact NameScheme.fresh_numbered_notMem (hname ▸ hmem)
  obtain ⟨hmem', hslot⟩ := ofTable_global?_eq_some.mp hkept
  obtain ⟨-, hself⟩ := ofTable_global?_eq_some.mp hself
  refine ⟨hne, ?_, hkept, ?_⟩
  · rw [hslot, hself]
    exact fun heq => hne ((List.idxOf_inj hmem').mp heq)
  · rw [ofTable_definition? hmem, hslot, ofTable_definition? hmem', Table.body?_put,
      if_neg (Ne.symm hne)]

/-- If names are taken as they are, a name that is registered again keeps its handle. -/
theorem register_asGiven {body : Option Func} {rename : Bool} (h : m.Keeps .asGiven returned)
    (hregister : m.register name body rename op = .ok (g, m')) {earlier : Global}
    (hearlier : m.global? name = some earlier) : g = earlier := by
  obtain ⟨t, -, rfl⟩ := h.exists_table
  obtain ⟨hname, rfl, hself⟩ := ofTable_register_eq_ok hregister
  have hkept := ofTable_global?_put g.name body hearlier
  rw [hname, NameScheme.fresh] at hself hkept
  exact Option.some.inj (hself.symm.trans hkept)

/-! ### The finished module -/

/-- A module that is finished has one entry for each position of its table. -/
theorem exists_entries {module : Module} (h : m.Keeps scheme returned)
    (hassemble : m.assemble = .ok module) :
    ∃ entries : List (String × Func), (entries.map (·.1)).Nodup ∧
      m = ofTable scheme (entries.map fun x => (x.1, some x.2)) ∧
      module.functions = entries.zipIdx.map fun x => (⟨x.1.1, x.2⟩, x.1.2) := by
  obtain ⟨t, hnodup, rfl⟩ := h.exists_table
  rw [ofTable_assemble, map_eq_ok] at hassemble
  obtain ⟨entries, hfinish, rfl⟩ := hassemble
  obtain rfl := Table.eq_of_finish hfinish
  exact ⟨entries, by simpa [Table.names, Function.comp_def] using hnodup, rfl, rfl⟩

/-- The keys of a finished module are different in name and in slot. -/
theorem nodup_assemble {module : Module} (h : m.Keeps scheme returned)
    (hassemble : m.assemble = .ok module) :
    module.names.Nodup ∧ (module.functions.map (·.1.index)).Nodup := by
  obtain ⟨entries, hnodup, -, hfunctions⟩ := h.exists_entries hassemble
  have hnames : module.names = entries.map (·.1) := by
    conv_rhs => rw [← List.zipIdx_map_fst 0 entries, List.map_map]
    rw [Module.names, hfunctions, List.map_map]
    rfl
  have hslots : module.functions.map (·.1.index) = List.range' 0 entries.length := by
    simp [hfunctions, Function.comp_def]
  rw [hnames, hslots]
  exact ⟨hnodup, List.nodup_range' 1⟩

/-- A handle that was returned is a key of the finished module, with the function in its slot. -/
theorem mem_assemble {module : Module} (h : m.Keeps scheme returned)
    (hassemble : m.assemble = .ok module) (hg : g ∈ returned) :
    ∃ f, m.definition? g = some f ∧ (g, f) ∈ module.functions ∧
      module.global? g.name = some g ∧ module.func? g.name = some f := by
  obtain ⟨hnodup, -⟩ := h.nodup_assemble hassemble
  obtain ⟨entries, -, rfl, hfunctions⟩ := h.exists_entries hassemble
  obtain ⟨f, hslot⟩ := exists_getElem?_of_global? (h.global?_eq g hg)
  have hentry : (g, f) ∈ module.functions := by
    rw [hfunctions, List.mem_map]
    exact ⟨((g.name, f), g.index), List.mk_mem_zipIdx_iff_getElem?.mpr hslot, rfl⟩
  refine ⟨f, ?_, hentry, ?_, ?_⟩
  · simp [definition?, ofTable, hslot]
  · rw [Module.global?, Module.entry?_of_mem hnodup hentry]
    rfl
  · rw [Module.func?, Module.entry?_of_mem hnodup hentry]
    rfl

end Keeps

end ModuleDraft

/-! ## Runs -/

section Runs

variable {σ : Type} [Emitter σ]

/-- The handles returned for the open module, after a step. -/
def Step.noteHandle (s : Step σ) (returned : List Global) : List Global :=
  match s.event, s.outcome with
  | .action .openModule, .ok _ _ => []
  | .action (.register ..), .ok (.global g) _ => returned ++ [g]
  | _, _ => returned

/-- The handles that the registrations of a run returned, since the last module was opened. -/
def handles (steps : List (Step σ)) : List Global :=
  steps.foldl (fun returned s => s.noteHandle returned) []

variable {w w' : Workspace σ} {a : Action} {reply : Reply} {returned : List Global}

namespace Step

theorem noteHandle_openModule (hrun : Action.openModule.run w = .ok reply w') :
    noteHandle ⟨w, .action .openModule⟩ returned = [] := by
  simp [noteHandle, outcome, Event.run, hrun]

theorem noteHandle_register {name : String} {f : Option Func} {rename : Bool} {g : Global}
    (hrun : (Action.register name f rename).run w = .ok (.global g) w') :
    noteHandle ⟨w, .action (.register name f rename)⟩ returned = returned ++ [g] := by
  simp [noteHandle, outcome, Event.run, hrun]

theorem noteHandle_of_unedited (hopen : a ≠ .openModule) (hedit : a.moduleEdit? = none) :
    noteHandle ⟨w, .action a⟩ returned = returned := by
  cases a with
  | openModule => exact absurd rfl hopen
  | register => cases hedit
  | _ => rfl

theorem noteHandle_of_error {err : BuildError} (hrun : a.run w = .error err w') :
    noteHandle ⟨w, .action a⟩ returned = returned := by
  cases a <;> simp [noteHandle, outcome, Event.run, hrun]

end Step

open Frames

/-- A module that is open after an operation that neither opens nor edits one was open before, or it has
taken in a function. -/
theorem Change.modules_of_unedited (h : Change w a reply w') (hopen : a ≠ .openModule)
    (hedit : a.moduleEdit? = none) :
    ∀ m' ∈ w'.builder.frames.modules, m' ∈ w.builder.frames.modules ∨
      ∃ m ∈ w.builder.frames.modules, ∃ name func, m.define name func .finishFunction = .ok m' := by
  cases h with
  | openModule => exact absurd rfl hopen
  | editModule ha _ _ => simp [hedit] at ha
  | openBlock _ hsplit _ =>
      rw [Workspace.withFrames_frames, modules_block, modules_replace_split hsplit]
      exact fun _ => .inl
  | @emit _ _ _ above below f f' _ _ hsplit _ =>
      have hmodules : modules (above ++ .function f' :: below) = w.builder.frames.modules :=
        modules_replace_split hsplit
      exact fun m' hm' => .inl (hmodules ▸ hm')
  | close _ _ hclosing =>
      cases hclosing with
      | block hframes hsplit _ _ =>
          rw [Workspace.withFrames_frames, modules_replace_split hsplit, hframes, modules_block]
          exact fun _ => .inl
      | function => simp
      | @definition _ _ f' func m _ below hframes _ _ hdefine =>
          simp only [hframes, modules_block, modules_function, modules_module,
            Workspace.withFrames_frames, List.mem_cons]
          rintro m' (rfl | hm')
          · exact .inr ⟨m, .inl rfl, _, _, hdefine⟩
          · exact .inl (.inr hm')
      | module hframes _ _ =>
          simp only [hframes, modules_module, Workspace.withResult_frames,
            Workspace.withFrames_frames]
          exact fun m' hm' => .inl (List.mem_cons_of_mem _ hm')
  | abort =>
      split
      · exact fun _ => .inl
      · simp
  | editFunction _ hframes _ =>
      simp only [hframes, modules_block, modules_function, Workspace.withFrames_frames]
      exact fun _ => .inl
  | takeResult => split <;> exact fun _ => .inl
  | openFunction | setResult | setRenamers | registerRenamer | rename => exact fun _ => .inl

/-- An edit of a module keeps its handles, and the one that it returns. -/
theorem ModuleDraft.Keeps.edit {scheme : NameScheme} {m m' : ModuleDraft}
    {edit : ModuleDraft → Except BuildError (Reply × ModuleDraft)} (h : m.Keeps scheme returned)
    (hrun : a.run w = .ok reply w') (hedit : a.moduleEdit? = some edit)
    (hm' : edit m = .ok (reply, m')) :
    m'.Keeps scheme (Step.noteHandle ⟨w, .action a⟩ returned) := by
  cases a <;> simp only [Action.moduleEdit?, Option.some.injEq, reduceCtorEq] at hedit <;>
    subst hedit
  case register =>
    obtain ⟨⟨g, _⟩, hregister, heq⟩ := map_eq_ok.mp hm'
    cases heq
    rw [Step.noteHandle_register hrun]
    exact h.register hregister
  case update =>
    obtain ⟨_, hupdate, heq⟩ := map_eq_ok.mp hm'
    cases heq
    exact h.update hupdate

/-- Whatever an operation does to the open module, its handles stay. -/
theorem Change.keeps (h : Change w a reply w') (hrun : a.run w = .ok reply w')
    (hnested : w.builder.frames.Nested)
    (hkeeps : ∀ m ∈ w.builder.frames.modules, m.Keeps w.builder.config.nameScheme returned) :
    ∀ m ∈ w'.builder.frames.modules,
      m.Keeps w.builder.config.nameScheme (Step.noteHandle ⟨w, .action a⟩ returned) := by
  by_cases hopen : a = .openModule
  · subst hopen
    obtain ⟨_, hopen, rfl⟩ := bind_pure_eq_ok.mp hrun
    obtain ⟨-, hnone, rfl, rfl⟩ := Builder.openModule_eq_ok.mp hopen
    rw [Step.noteHandle_openModule hrun, Workspace.withFrames_frames, modules_module,
      any_isModule_eq_false_iff.mp hnone]
    simpa using ModuleDraft.Keeps.new _
  · cases hedit : a.moduleEdit? with
    | none =>
        rw [Step.noteHandle_of_unedited hopen hedit]
        intro m' hm'
        rcases h.modules_of_unedited hopen hedit m' hm' with hold | ⟨m, hm, name, func, hdefine⟩
        · exact hkeeps m' hold
        · exact (hkeeps m hm).define hdefine
    | some edit =>
        obtain ⟨-, m, below, m', hframes, hm', rfl⟩ := (Action.run_moduleEdit hedit).mp hrun
        rw [hframes] at hkeeps hnested
        have hnone : modules below = [] := by
          cases hnested with
          | module _ hnone _ => exact any_isModule_eq_false_iff.mp hnone
        have hm : m.Keeps w.builder.config.nameScheme returned := hkeeps m List.mem_cons_self
        rw [Workspace.withFrames_frames, modules_module, hnone]
        simp only [List.mem_singleton, forall_eq]
        exact hm.edit hrun hedit hm'

/-- Along a run the open module keeps the handles that it has returned. -/
theorem Workspace.keeps_after (config : Config) (newEmitter : Config → σ) (supply : VarSupply)
    (events : List Event) :
    let start : Workspace σ := ⟨.new config newEmitter, supply⟩
    let w := start.after events
    w.builder.failed = false →
      w.builder.frames.Shaped ∧
        ∀ m ∈ w.builder.frames.modules, m.Keeps config.nameScheme (handles (start.steps events)) := by
  intro start w hfailed
  have hafter := holds_after (fun past (w : Workspace σ) => w.builder.config = config ∧
    w.builder.frames.Nested ∧
    ∀ m ∈ w.builder.frames.modules, m.Keeps config.nameScheme (handles past)) ?_ (w := start)
    .nil ⟨rfl, .nil, by simp [start, Builder.new]⟩ events hfailed
  · exact ⟨hafter.1, hafter.2.2.2⟩
  rintro past w e w' - - - ⟨hconfig, hnested, hkeeps⟩ hquiet
  have hhandles : handles (past ++ [⟨w, e⟩]) = Step.noteHandle ⟨w, e⟩ (handles past) := by
    simp [handles]
  rw [hhandles]
  refine ⟨hquiet.config_eq.trans hconfig, hquiet.nested hnested, ?_⟩
  cases hquiet with
  | change hrun hchange =>
      rw [← hconfig] at hkeeps ⊢
      exact hchange.keeps hrun hnested hkeeps
  | drawn => exact hkeeps
  | replaced kind => rwa [Workspace.withFrames_frames, Frames.modules_replaceBlock]
  | refused hrun => rwa [Step.noteHandle_of_error hrun]

/-- In every session, with whatever emitter, the handles that the open module has returned stay valid. They
lead to their names; under the numbered scheme a registration returns a handle with a new name and a new
slot, and leaves every name, its handle and its function alone; if names are taken as they are, a name
that is registered again has the handle that it had. When the module closes, its keys differ in name and
in slot, and each returned handle is one of them: it is found by its name, and so is its function. -/
theorem handles_stay_valid (config : Config) (newEmitter : Config → σ) (supply : VarSupply)
    (events : List Event) :
    let start : Workspace σ := ⟨.new config newEmitter, supply⟩
    let w := start.after events
    let returned := handles (start.steps events)
    (∀ name f rename g w', (Action.register name f rename).run w = .ok (.global g) w' →
      ∃ m m', w.builder.frames.nearestModule? = some m ∧
        w'.builder.frames.nearestModule? = some m' ∧
        (∀ h ∈ returned, m.global? h.name = some h) ∧
        (config.naming = .suffix → ∀ n h, m.global? n = some h →
          h.name ≠ g.name ∧ h.index ≠ g.index ∧ m'.global? n = some h ∧
            m'.definition? h = m.definition? h) ∧
        (config.naming = .identity → ∀ h, m.global? name = some h → g = h)) ∧
    (∀ (a : Action) depth reply (w' : Workspace σ),
      w.builder.frames.innermostScope? = some ⟨depth, .module⟩ →
      a.closes ⟨depth, .module⟩ = true → a.run w = .ok reply w' →
      ∃ m module, w.builder.frames.nearestModule? = some m ∧
        w'.builder.result = some (.module module) ∧
        (∀ g ∈ returned, ∃ f, m.definition? g = some f ∧ (g, f) ∈ module.functions ∧
          module.global? g.name = some g ∧ module.func? g.name = some f) ∧
        module.names.Nodup ∧ (module.functions.map (·.1.index)).Nodup) := by
  intro start w returned
  refine ⟨?_, ?_⟩
  · intro name f rename g w' hrun
    obtain ⟨hfailed, m, below, m', hframes, hedit, rfl⟩ := (Action.run_moduleEdit rfl).mp hrun
    obtain ⟨-, hkeeps⟩ := Workspace.keeps_after config newEmitter supply events hfailed
    have hm : m.Keeps config.nameScheme returned := hkeeps m (hframes ▸ List.mem_cons_self)
    obtain ⟨⟨_, _⟩, hregister, heq⟩ := map_eq_ok.mp hedit
    cases heq
    refine ⟨m, m', hframes ▸ rfl, rfl, hm.global?_eq, ?_, ?_⟩
    · intro hnaming n h hn
      rw [Config.nameScheme, hnaming] at hm
      exact hm.register_numbered hregister hn
    · intro hnaming h hname
      rw [Config.nameScheme, hnaming] at hm
      exact hm.register_asGiven hregister hname
  · intro a depth reply w' hscope ha hrun
    have hfailed : w.builder.failed = false := Action.not_failed_of_closes ha hrun
    obtain ⟨hshape, hkeeps⟩ := Workspace.keeps_after config newEmitter supply events hfailed
    obtain ⟨-, -, hclosing⟩ := (Action.run_closes_eq_ok hshape hscope ha).mp hrun
    cases hclosing with
    | block hframes hsplit hne _ =>
        rw [hframes, innermostScope?_block hsplit hne] at hscope
        cases hscope
    | function hframes _ _ _ | definition hframes _ _ _ =>
        rw [hframes] at hscope
        cases hscope
    | @module m module _ hframes hassemble _ =>
        have hm : m.Keeps config.nameScheme returned := hkeeps m (hframes ▸ List.mem_cons_self)
        exact ⟨m, module, hframes ▸ rfl, rfl,
          fun g hg => hm.mem_assemble hassemble hg, hm.nodup_assemble hassemble⟩

/-- A name is reserved twice, both functions are defined, and the module closes. -/
theorem handles_stay_valid_numbered :
    let f : Func := ⟨[], .seq [] (.op "a") none, .shape, .empty⟩
    let events : List Event :=
      [.action .openModule, .action (.register "f" none false), .action (.register "f" none true),
        .action (.update "f_1" f true), .action (.update "f" f true)]
    let start := Workspace.new {} ⟨0⟩
    let w := start.after events
    handles (start.steps events) = [⟨"f", 0⟩, ⟨"f_1", 1⟩] ∧
      (∃ w', (Action.register "f" none true).run w = .ok (.global ⟨"f_2", 2⟩) w') ∧
      ∃ w', Action.closeScope.run w = .ok .done w' ∧
        ∃ m module, w.builder.frames.nearestModule? = some m ∧
          w'.builder.result = some (.module module) ∧
          (∀ g ∈ handles (start.steps events), ∃ f, m.definition? g = some f ∧
            (g, f) ∈ module.functions ∧ module.global? g.name = some g ∧
            module.func? g.name = some f) ∧
          module.names.Nodup ∧ (module.functions.map (·.1.index)).Nodup :=
  ⟨rfl, ⟨_, rfl⟩, _, rfl,
    (handles_stay_valid {} BlockWriter.ofConfig ⟨0⟩ _).2 .closeScope 0 .done _ rfl rfl rfl⟩

end Runs

end ScopedBuilder
