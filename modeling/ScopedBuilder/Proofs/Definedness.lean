import ScopedBuilder.Proofs.Acceptance

/-!
# Definitions that stay

Every success of an operation writes at most one name of the open module, and all but one kind of writing
give that name a body. What can lose a definition is a registration without a body under a name that is
taken, and a name is taken again only if names are used as they are. So if all names of a module have
definitions, that stays so as long as no name is registered without one, and the module can be closed.
-/

namespace ScopedBuilder

theorem Config.nameScheme_eq_asGiven_iff {config : Config} :
    config.nameScheme = .asGiven ↔ config.naming = .identity := by
  unfold nameScheme
  cases config.naming <;> simp

/-- A function that a table takes in is put into it. -/
theorem Table.eq_of_define {scheme : NameScheme} {t t' : Table} {name : String} {f : Func}
    {op : Operation} (h : t.define scheme name f op = .ok t') : t' = t.put name (some f) := by
  unfold define at h
  split at h
  · exact update_eq_ok h
  · rename_i hcontains
    rw [register_eq_ok (by simpa using hcontains)] at h
    cases h
    rfl

namespace ModuleDraft

variable {scheme : NameScheme} {t : Table} {m m' : ModuleDraft} {n key : String} {body : Option Func}

/-! ## Names with definitions -/

/-- Putting decides about its own name, and leaves the others as they are. -/
theorem isDefined_put : (ofTable scheme (t.put key body)).isDefined n =
    if key = n then body.isSome else (ofTable scheme t).isDefined n := by
  rw [ofTable_isDefined, ofTable_isDefined, Table.body?_put]
  split <;> rfl

theorem contains_put : (ofTable scheme (t.put key body)).contains n = true ↔
    n = key ∨ (ofTable scheme t).contains n = true := by
  rw [ofTable_contains, ofTable_contains, Table.contains_iff, Table.contains_iff, Table.names_put]
  split
  · refine ⟨.inr, ?_⟩
    rintro (rfl | hmem)
    · assumption
    · exact hmem
  · rw [List.mem_append, List.mem_singleton, or_comm]

/-- Without renaming only a new name is registered. -/
theorem rename_or_new_of_register {rename : Bool} {op : Operation} {x : Global × ModuleDraft}
    (h : m.register n body rename op = .ok x) : rename = true ∨ m.contains n = false := by
  unfold register at h
  split at h
  · cases h
  · rename_i hfree
    cases rename with
    | true => exact .inl rfl
    | false => exact .inr (by simpa using hfree)

theorem contains_of_isDefined (h : m.isDefined n = true) : m.contains n = true := by
  unfold isDefined at h
  cases hglobal : m.global? n with
  | none => simp [hglobal] at h
  | some g => simp [contains, hglobal]

/-- Every registered name has a definition. -/
def Complete (m : ModuleDraft) : Prop :=
  ∀ n, m.contains n = true → m.isDefined n = true

theorem Complete.new (scheme : NameScheme) : (ModuleDraft.new scheme).Complete := nofun

theorem Complete.put (h : (ofTable scheme t).Complete) (hbody : body.isSome = true) :
    (ofTable scheme (t.put key body)).Complete := by
  intro n hn
  rw [isDefined_put]
  split
  · exact hbody
  · rename_i hne
    rcases contains_put.mp hn with rfl | hold
    · exact absurd rfl hne
    · exact h n hold

/-- A module whose names have definitions can be assembled. -/
theorem Complete.exists_module {returned : List Global} (h : m.Complete)
    (hkeeps : m.Keeps scheme returned) : ∃ module, m.assemble = .ok module := by
  obtain ⟨t, hnodup, rfl⟩ := hkeeps.exists_table
  have hbodies : ∀ name ∈ t.names, (t.body? name).isSome := by
    intro name hname
    have hdefined := h name (by simpa using hname)
    rwa [ofTable_isDefined] at hdefined
  rw [ofTable_assemble, Table.finish_eq_ok hnodup hbodies]
  exact ⟨_, rfl⟩

end ModuleDraft

/-! ## What an operation writes -/

open ModuleDraft

/-- Where the module that is open after an operation comes from, given those open before: it is new, or left
alone, or something was put into it. -/
inductive Written (scheme : NameScheme) (before : List ModuleDraft) : Action → ModuleDraft → Prop where
  | opened : Written scheme before .openModule (.new scheme)
  | kept {a : Action} {m : ModuleDraft} :
      a.moduleEdit? = none → m ∈ before → Written scheme before a m
  | takenIn {a : Action} {t : Table} {name : String} {func : Func} :
      a.moduleEdit? = none → ofTable scheme t ∈ before →
      Written scheme before a (ofTable scheme (t.put name (some func)))
  | updated {t : Table} {name : String} {func : Func} {first : Bool} :
      ofTable scheme t ∈ before →
      Written scheme before (.update name func first) (ofTable scheme (t.put name (some func)))
  | registered {t : Table} {name : String} {body : Option Func} {rename : Bool} :
      ofTable scheme t ∈ before → (rename = true ∨ name ∉ t.names) →
      Written scheme before (.register name body rename)
        (ofTable scheme (t.put (scheme.fresh name t.names) body))

namespace Written

variable {scheme : NameScheme} {before : List ModuleDraft} {a : Action} {m m' : ModuleDraft}
  {n : String}

/-- A definition is lost exactly if its name is registered again without a body, and names are taken as they
are. -/
theorem isDefined_eq_false_iff (h : Written scheme before a m') (hopen : a ≠ .openModule)
    (hbefore : ∀ x ∈ before, x = m) (hdefined : m.isDefined n = true) :
    m'.isDefined n = false ↔ scheme = .asGiven ∧ a = .register n none true := by
  cases h with
  | opened => exact absurd rfl hopen
  | kept hedit hm =>
      rw [hbefore _ hm, hdefined]
      refine iff_of_false nofun ?_
      rintro ⟨-, rfl⟩
      cases hedit
  | takenIn hedit hm =>
      rw [isDefined_put, hbefore _ hm, hdefined]
      refine iff_of_false ?_ ?_
      · split <;> nofun
      · rintro ⟨-, rfl⟩
        cases hedit
  | updated hm =>
      rw [isDefined_put, hbefore _ hm, hdefined]
      refine iff_of_false ?_ nofun
      split <;> nofun
  | @registered t name body rename hm hrename =>
      obtain rfl := hbefore _ hm
      have hmem : n ∈ t.names := by simpa using contains_of_isDefined hdefined
      rw [isDefined_put, hdefined]
      cases scheme with
      | numbered separator =>
          -- The name that is taken is new, so it is not one with a definition.
          refine iff_of_false ?_ nofun
          rw [if_neg]
          · nofun
          · rintro rfl
            exact NameScheme.fresh_numbered_notMem hmem
      | asGiven =>
          rw [NameScheme.fresh]
          constructor
          · intro hlost
            split at hlost
            · subst_vars
              obtain rfl : body = none := by simpa using hlost
              obtain rfl | hnew := hrename
              · exact ⟨rfl, rfl⟩
              · exact absurd hmem hnew
            · cases hlost
          · rintro ⟨-, heq⟩
            cases heq
            rw [if_pos rfl]
            rfl

/-- A module in which every name has a definition stays so, unless a name is registered without one. -/
theorem complete (h : Written scheme before a m')
    (hreserve : ∀ name rename, a ≠ .register name none rename)
    (hbefore : ∀ x ∈ before, x.Complete) : m'.Complete := by
  cases h with
  | opened => exact .new scheme
  | kept _ hm => exact hbefore _ hm
  | takenIn _ hm => exact (hbefore _ hm).put rfl
  | updated hm => exact (hbefore _ hm).put rfl
  | @registered t name body rename hm _ =>
      refine (hbefore _ hm).put ?_
      cases body with
      | none => exact absurd rfl (hreserve name rename)
      | some f => rfl

end Written

/-! ## Runs -/

variable {σ : Type} [Emitter σ]

section Step

variable {w w' : Workspace σ} {a : Action} {reply : Reply} {m : ModuleDraft}

omit [Emitter σ] in
/-- The open module is the only one. -/
theorem Frames.Nested.modules_eq {frames : Frames σ} (h : frames.Nested)
    (hm : frames.nearestModule? = some m) : frames.modules = [m] := by
  rw [Frames.nearestModule?_eq] at hm
  induction h with
  | nil => cases hm
  | module m' hmodule _ _ =>
      rw [Frames.modules_module, Frames.any_isModule_eq_false_iff.mp hmodule] at hm ⊢
      rw [Option.some.inj hm]
  | function f _ ih => exact ih hm
  | block kind _ _ ih => exact ih hm

/-- Every success writes into the open module in one of these ways. -/
theorem Change.written (h : Change w a reply w') (hrun : a.run w = .ok reply w')
    (hnested : w.builder.frames.Nested)
    (hkeeps : ∀ m ∈ w.builder.frames.modules, m.Keeps w.builder.config.nameScheme []) :
    ∀ m' ∈ w'.builder.frames.modules,
      Written w.builder.config.nameScheme w.builder.frames.modules a m' := by
  by_cases hopen : a = .openModule
  · subst hopen
    obtain ⟨_, hopen, rfl⟩ := bind_pure_eq_ok.mp hrun
    obtain ⟨-, hnone, rfl, rfl⟩ := Builder.openModule_eq_ok.mp hopen
    rw [Workspace.withFrames_frames, Frames.modules_module, Frames.any_isModule_eq_false_iff.mp hnone]
    simpa using Written.opened
  cases hedit : a.moduleEdit? with
  | none =>
      intro m' hm'
      rcases h.modules_of_unedited hopen hedit m' hm' with hold | ⟨m, hm, name, func, hdefine⟩
      · exact .kept hedit hold
      · obtain ⟨t, -, rfl⟩ := (hkeeps m hm).exists_table
        rw [ofTable_define, map_eq_ok] at hdefine
        obtain ⟨t', hdefine, rfl⟩ := hdefine
        rw [Table.eq_of_define hdefine]
        exact .takenIn hedit hm
  | some edit =>
      obtain ⟨-, m, below, m', hframes, hm', rfl⟩ := (Action.run_moduleEdit hedit).mp hrun
      have hmodules : w.builder.frames.modules = [m] := hnested.modules_eq (hframes ▸ rfl)
      have hbelow : Frames.modules below = [] := by
        rw [hframes, Frames.modules_module] at hmodules
        exact List.tail_eq_of_cons_eq hmodules
      rw [hmodules] at hkeeps
      rw [Workspace.withFrames_frames, Frames.modules_module, hbelow, hmodules]
      simp only [List.mem_singleton, forall_eq] at hkeeps ⊢
      obtain ⟨t, -, rfl⟩ := hkeeps.exists_table
      cases a <;> simp only [Action.moduleEdit?, Option.some.injEq, reduceCtorEq] at hedit <;>
        subst hedit
      case register name body rename =>
        obtain ⟨⟨g, _⟩, hregister, heq⟩ := map_eq_ok.mp hm'
        cases heq
        obtain ⟨hname, rfl, -⟩ := ofTable_register_eq_ok hregister
        rw [hname]
        refine .registered (List.mem_singleton_self _) ?_
        simpa using rename_or_new_of_register hregister
      case update name func first =>
        obtain ⟨_, hupdate, heq⟩ := map_eq_ok.mp hm'
        cases heq
        rw [ofTable_update, map_eq_ok] at hupdate
        obtain ⟨t', hput, rfl⟩ := hupdate
        rw [Table.update_eq_ok hput]
        exact .updated (List.mem_singleton_self _)

end Step

namespace Workspace

variable {w w' : Workspace σ} {config : Config}

/-- The open module is a table, under the scheme of the settings. -/
structure Tabled (config : Config) (w : Workspace σ) : Prop where
  config_eq : w.builder.config = config
  nested : w.builder.frames.Nested
  keeps : ∀ m ∈ w.builder.frames.modules, m.Keeps config.nameScheme []

theorem Tabled.written {a : Action} {reply : Reply} (h : w.Tabled config)
    (hrun : a.run w = .ok reply w') (hchange : Change w a reply w') :
    ∀ m' ∈ w'.builder.frames.modules, Written config.nameScheme w.builder.frames.modules a m' := by
  obtain ⟨rfl, hnested, hkeeps⟩ := h
  exact hchange.written hrun hnested hkeeps

theorem Tabled.quiet {e : Event} (h : w.Tabled config) (hquiet : Quiet w e w') : w'.Tabled config := by
  refine ⟨hquiet.config_eq.trans h.config_eq, hquiet.nested h.nested, ?_⟩
  cases hquiet with
  | change hrun hchange =>
      obtain ⟨rfl, hnested, hkeeps⟩ := h
      exact fun m hm => ⟨(hchange.keeps hrun hnested hkeeps m hm).exists_table, nofun⟩
  | replaced kind =>
      rw [withFrames_frames, Frames.modules_replaceBlock]
      exact h.keeps
  | drawn | refused => exact h.keeps

theorem tabled_after (config : Config) (newEmitter : Config → σ) (supply : VarSupply)
    (events : List Event) :
    let w := (⟨.new config newEmitter, supply⟩ : Workspace σ).after events
    w.builder.failed = false → w.builder.frames.Shaped ∧ w.Tabled config := by
  intro w hfailed
  refine holds_after (fun _ w => w.Tabled config) ?_ .nil ⟨rfl, .nil, by simp [Builder.new]⟩ events
    hfailed
  intro _ w e w' _ _ _ h hquiet
  exact h.quiet hquiet

/-- As long as no name is registered without a body, a complete module stays complete. -/
theorem complete_after (hshape : w.builder.frames.Shaped) (h : w.Tabled config)
    (hcomplete : ∀ m ∈ w.builder.frames.modules, m.Complete) {more : List Event}
    (hreserve : ∀ e ∈ more, ∀ name rename, e ≠ .action (.register name none rename))
    (hfailed : (w.after more).builder.failed = false) :
    (w.after more).builder.frames.Shaped ∧ (w.after more).Tabled config ∧
      ∀ m ∈ (w.after more).builder.frames.modules, m.Complete := by
  refine holds_after_of_forall (fun s => ∀ name rename, s.event ≠ .action (.register name none rename))
    (fun _ w => w.builder.frames.Shaped ∧ w.Tabled config ∧ ∀ m ∈ w.builder.frames.modules, m.Complete)
    ?_ hshape ⟨hshape, h, hcomplete⟩ (forall_mem_steps hreserve w) hfailed
  rintro _ w e w' - - hreserve ⟨hshape, htabled, hcomplete⟩ hquiet
  refine ⟨hquiet.shaped hshape, htabled.quiet hquiet, ?_⟩
  cases hquiet with
  | change hrun hchange =>
      intro m' hm'
      refine (htabled.written hrun hchange m' hm').complete ?_ hcomplete
      rintro name rename rfl
      exact hreserve name rename rfl
  | replaced kind => rwa [withFrames_frames, Frames.modules_replaceBlock]
  | drawn | refused => exact hcomplete

end Workspace

/-- A complete module on top of the stack is closed, unless the place of the result is taken. -/
theorem Action.run_closes_complete {w : Workspace σ} {a : Action} {m : ModuleDraft} {below : Frames σ}
    {scheme : NameScheme} (hfailed : w.builder.failed = false)
    (hframes : w.builder.frames = .module m :: below)
    (hcloses : a.closes ⟨below.length, .module⟩ = true) (hcomplete : m.Complete)
    (hkeeps : m.Keeps scheme []) :
    if w.builder.result.isSome then ∃ w', a.run w = .error (.resultAlreadySet .finishModule) w'
    else ∃ module w', a.run w = .ok .done w' ∧ w'.builder.result = some (.module module) := by
  obtain ⟨module, hassemble⟩ := hcomplete.exists_module hkeeps
  have hscope : w.builder.frames.innermostScope? = some ⟨below.length, .module⟩ := by
    rw [hframes]
    rfl
  obtain ⟨op, hok, herror⟩ := run_closes hcloses hfailed hscope
  split
  · rename_i htaken
    exact ⟨_, herror _ _ ((BuildM.exitTop_module_eq_error hframes).mpr
      ⟨rfl, .inr ⟨⟨module, hassemble⟩, htaken, rfl⟩⟩)⟩
  · rename_i hfree
    have hresult : w.builder.result = none := by simpa using hfree
    exact ⟨module, _, hok _ ((BuildM.exitTop_module hframes).mpr ⟨module, hassemble, hresult, rfl⟩), rfl⟩

/-- In every session that has not failed, with whatever emitter: when an operation succeeds, a name of the
open module loses its definition exactly if names are taken as they are and the operation registers that
name again, without a body. So if every registered name has a definition and no name is registered without
one from then on, a module that is the innermost scope can be closed: it becomes the result, unless that is
taken already. -/
theorem definition_lost_iff (config : Config) (newEmitter : Config → σ) (supply : VarSupply)
    (events : List Event) :
    let w := (⟨.new config newEmitter, supply⟩ : Workspace σ).after events
    w.builder.failed = false → ∀ m, w.builder.frames.nearestModule? = some m →
      (∀ (a : Action) reply w' m' n, a.run w = .ok reply w' →
        w'.builder.frames.nearestModule? = some m' → m.isDefined n = true →
          (m'.isDefined n = false ↔ config.naming = .identity ∧ a = .register n none true)) ∧
      ((∀ n, m.contains n = true → m.isDefined n = true) →
        ∀ more : List Event,
          (∀ e ∈ more, ∀ name rename, e ≠ .action (.register name none rename)) →
          let later := w.after more
          later.builder.failed = false →
          ∀ m' below, later.builder.frames = .module m' :: below →
          ∀ a : Action, a.closes ⟨below.length, .module⟩ = true →
            if later.builder.result.isSome then
              ∃ w', a.run later = .error (.resultAlreadySet .finishModule) w'
            else ∃ module w', a.run later = .ok .done w' ∧
              w'.builder.result = some (.module module)) := by
  intro w hfailed m hm
  obtain ⟨hshape, htabled⟩ := Workspace.tabled_after config newEmitter supply events hfailed
  have hmodules : w.builder.frames.modules = [m] := htabled.nested.modules_eq hm
  refine ⟨?_, ?_⟩
  · intro a reply w' m' n hrun hm' hdefined
    have hchange : Change w a reply w' := Change.of_run hshape hrun
    have hwritten : Written config.nameScheme w.builder.frames.modules a m' := by
      refine htabled.written hrun hchange m' ?_
      rw [(hchange.nested htabled.nested).modules_eq hm']
      exact List.mem_singleton_self m'
    have hopen : a ≠ .openModule := by
      rintro rfl
      cases hchange with
      | openModule hnone => simp [Frames.any_isModule_eq_false_iff.mp hnone] at hmodules
      | openBlock ha | close ha | editModule ha | editFunction ha | emit ha => cases ha
    rw [hwritten.isDefined_eq_false_iff hopen (by simp [hmodules]) hdefined,
      Config.nameScheme_eq_asGiven_iff]
  · intro hcomplete more hreserve later hlater m' below hframes a hcloses
    have hall : ∀ x ∈ w.builder.frames.modules, x.Complete := by
      intro x hx
      rw [hmodules, List.mem_singleton] at hx
      exact hx ▸ hcomplete
    obtain ⟨-, htabled', hcomplete'⟩ :=
      Workspace.complete_after hshape htabled hall hreserve hlater
    have hm' : m' ∈ later.builder.frames.modules := hframes ▸ List.mem_cons_self
    exact Action.run_closes_complete hlater hframes hcloses (hcomplete' m' hm') (htabled'.keeps m' hm')

/-- A name that is reserved, defined, and then registered again with another body: it has a definition all the
time, and the module closes. -/
theorem definition_lost_iff_rebound :
    let f : Func := ⟨[], .seq [] (.op "a") none, .shape, .empty⟩
    let w := (Workspace.new { naming := .identity } ⟨0⟩).after
      [.action .openModule, .action (.register "f" none false), .action (.update "f" f true)]
    let m : ModuleDraft := ⟨.asGiven, [("f", ⟨"f", 0⟩)], [some f]⟩
    let rebinding := Action.register "f" (some f) true
    w.builder.frames.nearestModule? = some m ∧ m.isDefined "f" = true ∧
      (∃ reply w' m', rebinding.run w = .ok reply w' ∧ w'.builder.frames.nearestModule? = some m' ∧
        m'.isDefined "f" ≠ false) ∧
      ∃ module w', Action.closeScope.run (w.after [.action rebinding]) = .ok .done w' ∧
        w'.builder.result = some (.module module) := by
  intro f w m rebinding
  obtain ⟨hlost, hclose⟩ := definition_lost_iff { naming := .identity } BlockWriter.ofConfig ⟨0⟩
    [.action .openModule, .action (.register "f" none false), .action (.update "f" f true)] rfl m rfl
  refine ⟨rfl, rfl, ⟨_, _, m, rfl, rfl, ?_⟩, ?_⟩
  · intro hfalse
    obtain ⟨-, heq⟩ := (hlost rebinding _ _ m "f" rfl rfl rfl).mp hfalse
    simp [rebinding] at heq
  · have hcomplete : ∀ n, m.contains n = true → m.isDefined n = true := by
      intro n hn
      obtain rfl : n = "f" := by simpa [m, ModuleDraft.contains, ModuleDraft.global?] using hn
      rfl
    refine hclose hcomplete [.action rebinding] ?_ rfl m [] rfl .closeScope rfl
    intro e he name rename
    rw [List.mem_singleton.mp he]
    simp [rebinding]

/-- A module whose only name has a definition: if the name is registered again, without a body, the module
cannot be closed any more, and neither can it if a result is set meanwhile. -/
theorem definition_lost_by_reservation :
    let f : Func := ⟨[], .seq [] (.op "a") none, .shape, .empty⟩
    let w := (Workspace.new { naming := .identity } ⟨0⟩).after
      [.action .openModule, .action (.register "f" (some f) false)]
    w.builder.failed = false ∧
      ∃ (m m' : ModuleDraft) (reply : Reply) (w₁ w₂ w₃ w₄ : Workspace BlockWriter),
        w.builder.frames.nearestModule? = some m ∧ m.names.map (·.1) = ["f"] ∧ m.isDefined "f" = true ∧
        (Action.register "f" none true).run w = .ok reply w₁ ∧
        w₁.builder.frames.nearestModule? = some m' ∧ m'.names = m.names ∧ m'.isDefined "f" = false ∧
        Action.closeScope.run w₁ = .error (.undefinedFunction "f") w₂ ∧
        (Action.setResult (.function f)).run w = .ok .done w₃ ∧
        Action.closeScope.run w₃ = .error (.resultAlreadySet .finishModule) w₄ :=
  ⟨rfl, _, _, _, _, _, _, _, rfl, rfl, rfl, rfl, rfl, rfl, rfl, rfl, rfl, rfl⟩

end ScopedBuilder
