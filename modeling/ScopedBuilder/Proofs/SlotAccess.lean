import ScopedBuilder.Proofs.Aftermath
import ScopedBuilder.Proofs.Definedness
import ScopedBuilder.Proofs.Failure

/-!
# Access to the slots of a module

A module under construction keeps its names and its slots in two tables, and nothing but the handles links
them. The operations here are those of a draft, except that they have no result where they would look for a
slot that is not there. In the drafts that occur they always have one.
-/

namespace ScopedBuilder

/-- A function under a new key goes to the end. -/
theorem Module.insert_of_notMem {m : Module} {g : Global} (h : g ∉ m.functions.map (·.1)) (f : Func) :
    m.insert g f = ⟨m.functions ++ [(g, f)]⟩ := by
  have hnone : m.functions.any (·.1 == g) = false := by
    simp only [List.any_eq_false, beq_iff_eq]
    exact fun x hx heq => h (List.mem_map.mpr ⟨x, hx, heq⟩)
  rw [insert, hnone]
  rfl

namespace ModuleDraft

/-! ## Operations that look for their slots -/

/-- What is in the slot of a handle, if there is such a slot. -/
def slot? (m : ModuleDraft) (g : Global) : Option (Option Func) := m.slots[g.index]?

/-- Fills or clears the slot of a handle, if there is such a slot. -/
def fill? (m : ModuleDraft) (g : Global) (f : Option Func) : Option ModuleDraft :=
  if g.index < m.slots.length then some (m.setSlot g f) else none

def isDefined? (m : ModuleDraft) (name : String) : Option Bool :=
  match m.global? name with
  | none => some false
  | some g => (m.slot? g).map Option.isSome

def register? (m : ModuleDraft) (name : String) (f : Option Func) (rename : Bool) (op : Operation) :
    Option (Except BuildError (Global × ModuleDraft)) :=
  if !rename && m.contains name then some (.error (.duplicateFunction name op))
  else
    let unique := m.scheme.fresh name (m.names.map (·.1))
    match m.global? unique with
    | some g => (m.fill? g f).map fun m => .ok (g, m)
    | none =>
      let g := ⟨unique, m.slots.length⟩
      some (.ok (g, { m with names := m.names ++ [(unique, g)], slots := m.slots ++ [f] }))

def update? (m : ModuleDraft) (name : String) (f : Func) (first : Bool) (op : Operation) :
    Option (Except BuildError ModuleDraft) :=
  match m.global? name with
  | none => some (.error (.unknownName name op))
  | some g =>
    (m.slot? g).bind fun slot =>
      if first && slot.isSome then some (.error (.alreadyDefined name op))
      else (m.fill? g (some f)).map .ok

/-- Takes the function of each name out of its slot, which is empty from then on. -/
def takeAll? : List (String × Global) → List (Option Func) → Module → Option (Except BuildError Module)
  | [], _, module => some (.ok module)
  | (name, g) :: names, slots, module =>
    match slots[g.index]? with
    | none => none
    | some none => some (.error (.undefinedFunction name))
    | some (some f) => takeAll? names (slots.set g.index none) (module.insert g f)

def assemble? (m : ModuleDraft) : Option (Except BuildError Module) :=
  takeAll? m.names m.slots .empty

/-! ## Names and slots in step -/

/-- The names are different, each leads to a handle of that name, and the handles have the slots one after
another. -/
structure Aligned (m : ModuleDraft) : Prop where
  nodup : (m.names.map (·.1)).Nodup
  name_eq : ∀ x ∈ m.names, x.2.name = x.1
  indices : m.names.map (·.2.index) = List.range m.slots.length

theorem Keeps.aligned {m : ModuleDraft} {scheme : NameScheme} {returned : List Global}
    (h : m.Keeps scheme returned) : m.Aligned := by
  obtain ⟨t, hnodup, rfl⟩ := h.exists_table
  refine ⟨by rwa [ofTable_names], ?_, ?_⟩
  · intro x hx
    obtain ⟨_, -, rfl⟩ := List.mem_map.mp hx
    rfl
  · simp [ofTable, Function.comp_def, Table.names, List.range_eq_range']

namespace Aligned

variable {m : ModuleDraft} {name : String} {g : Global}

theorem index_lt_of_mem (h : m.Aligned) {x : String × Global} (hx : x ∈ m.names) :
    x.2.index < m.slots.length := by
  have hmem : x.2.index ∈ m.names.map (·.2.index) := List.mem_map_of_mem hx
  rw [h.indices] at hmem
  exact List.mem_range.mp hmem

theorem index_lt (h : m.Aligned) (hg : m.global? name = some g) : g.index < m.slots.length := by
  obtain ⟨_, _, hnames, -⟩ := List.lookup_eq_some_iff.mp hg
  have hmem : (name, g) ∈ m.names := by simp [hnames]
  exact h.index_lt_of_mem hmem

theorem fill?_eq (h : m.Aligned) (hg : m.global? name = some g) (f : Option Func) :
    m.fill? g f = some (m.setSlot g f) :=
  if_pos (h.index_lt hg)

theorem slot?_eq (h : m.Aligned) (hg : m.global? name = some g) : m.slot? g = some (m.definition? g) := by
  simp [slot?, definition?, h.index_lt hg]

theorem isDefined?_eq (h : m.Aligned) (name : String) : m.isDefined? name = some (m.isDefined name) := by
  unfold isDefined? isDefined
  cases hg : m.global? name with
  | none => rfl
  | some g =>
      dsimp only
      rw [h.slot?_eq hg]
      rfl

theorem register?_eq (h : m.Aligned) (name : String) (f : Option Func) (rename : Bool) (op : Operation) :
    m.register? name f rename op = some (m.register name f rename op) := by
  unfold register? register
  split
  · rfl
  · dsimp only
    cases hg : m.global? (m.scheme.fresh name (m.names.map (·.1))) with
    | none => rfl
    | some g =>
        dsimp only
        rw [h.fill?_eq hg]
        rfl

theorem update?_eq (h : m.Aligned) (name : String) (f : Func) (first : Bool) (op : Operation) :
    m.update? name f first op = some (m.update name f first op) := by
  unfold update? update
  cases hg : m.global? name with
  | none => rfl
  | some g =>
      dsimp only
      rw [h.slot?_eq hg, h.fill?_eq hg, Option.bind_some]
      split <;> rfl

end Aligned

/-- Each of the names finds what its slot held at first, since no name before it had the same slot. -/
theorem takeAll?_eq {m : ModuleDraft} {names : List (String × Global)} {slots : List (Option Func)}
    {module : Module} (hrange : ∀ x ∈ names, x.2.index < m.slots.length)
    (hnodup : (names.map (·.2.index)).Nodup)
    (hslots : ∀ x ∈ names, slots[x.2.index]? = m.slots[x.2.index]?)
    (hkeys : ∀ x ∈ names, x.2 ∉ module.functions.map (·.1)) :
    takeAll? names slots module =
      some ((names.mapM fun x => m.entry x.1 x.2).map fun entries => ⟨module.functions ++ entries⟩) := by
  induction names generalizing slots module with
  | nil => simp [takeAll?, Except.map, pure, Except.pure]
  | cons x names ih =>
      obtain ⟨name, g⟩ := x
      obtain ⟨hfirst, hnodup⟩ := List.nodup_cons.mp hnodup
      have hother : ∀ x ∈ names, g.index ≠ x.2.index := by
        intro x hx heq
        exact hfirst (List.mem_map.mpr ⟨x, hx, heq.symm⟩)
      have hslot : slots[g.index]? = m.slots[g.index]? := hslots _ List.mem_cons_self
      obtain ⟨body, hbody⟩ : ∃ body, m.slots[g.index]? = some body :=
        ⟨_, List.getElem?_eq_getElem (hrange _ List.mem_cons_self)⟩
      cases body with
      | none =>
          have hentry : m.entry name g = .error (.undefinedFunction name) := by
            simp [entry, definition?, hbody]
          simp [takeAll?, hslot, hbody, hentry, bind, Except.bind, Except.map]
      | some f =>
          have hentry : m.entry name g = .ok (g, f) := by
            simp [entry, definition?, hbody]
          have hinsert : module.insert g f = ⟨module.functions ++ [(g, f)]⟩ :=
            Module.insert_of_notMem (hkeys _ List.mem_cons_self) f
          have hrest : takeAll? names (slots.set g.index none) ⟨module.functions ++ [(g, f)]⟩ = _ :=
            ih (fun x hx => hrange x (List.mem_cons_of_mem _ hx)) hnodup ?_ ?_
          · simp only [takeAll?, hslot, hbody, hinsert, hrest, List.mapM_cons, hentry]
            cases names.mapM fun x => m.entry x.1 x.2 <;>
              simp [bind, Except.bind, pure, Except.pure, Except.map]
          · intro x hx
            rw [List.getElem?_set_ne (hother x hx), hslots x (List.mem_cons_of_mem _ hx)]
          · intro x hx
            rw [List.map_append, List.mem_append, not_or]
            refine ⟨hkeys x (List.mem_cons_of_mem _ hx), ?_⟩
            intro hmem
            exact hother x hx (congrArg Global.index (List.mem_singleton.mp hmem)).symm

namespace Aligned

variable {m : ModuleDraft}

theorem assemble?_eq (h : m.Aligned) : m.assemble? = some m.assemble := by
  have hnodup : (m.names.map (·.2.index)).Nodup := by
    rw [h.indices]
    exact List.nodup_range
  exact takeAll?_eq (fun x hx => h.index_lt_of_mem hx) hnodup (fun _ _ => rfl) (by simp [Module.empty])

end Aligned

/-- The finished module has the handles of the names as its keys, and the function of each slot once. -/
theorem Keeps.functions_eq {m : ModuleDraft} {scheme : NameScheme} {returned : List Global}
    {module : Module} (h : m.Keeps scheme returned) (hassemble : m.assemble = .ok module) :
    module.functions.map (·.1) = m.names.map (·.2) ∧ module.functions.map (some ·.2) = m.slots := by
  obtain ⟨entries, -, rfl, hfunctions⟩ := h.exists_entries hassemble
  rw [hfunctions]
  refine ⟨?_, ?_⟩
  · simp [ofTable, Table.names, Function.comp_def, List.zipIdx_map]
  · conv_rhs => rw [← List.zipIdx_map_fst 0 entries]
    simp only [ofTable, List.map_map, Function.comp_def]

end ModuleDraft

/-! ## Modules that are left by an error -/

variable {σ : Type} [Emitter σ] {w w' : Workspace σ} {a : Action} {op : Operation} {e : BuildError}

open Frames

namespace BuildM

theorem modules_of_exitTop_error {x : Frame σ} {below : Frames σ} (hframes : w.builder.frames = x :: below)
    (h : exitTop op w = .error e w') : w'.builder.frames.modules = below.modules := by
  cases x with
  | module m =>
      obtain ⟨rfl, -⟩ := (exitTop_module_eq_error hframes).mp h
      rfl
  | function f =>
      obtain ⟨rfl, -⟩ := leaveFunction_eq_error.mp ((exitTop_function_eq_error hframes).mp h)
      rfl
  | block kind =>
      rcases (exitTop_block_eq_error hframes).mp h with ⟨-, -, rfl⟩ | ⟨_, _, _, _, hsplit, -, rfl⟩
      · rfl
      · exact modules_replace_split hsplit

theorem modules_of_exitScope_error (hshape : w.builder.frames.Shaped) {scope : Scope}
    (hscope : w.builder.frames.innermostScope? = some scope)
    (h : exitScope op scope.kind w = .error e w') :
    w'.builder.frames.modules ⊆ w.builder.frames.modules := by
  generalize hframes : w.builder.frames = frames at hshape hscope
  cases hshape with
  | nil => cases hscope
  | @module m below _ =>
      obtain rfl := Option.some.inj hscope
      rw [modules_of_exitTop_error hframes h]
      exact List.subset_cons_self m _
  | @block kind below hbelow =>
      rw [hbelow.innermostScope?_block] at hscope
      obtain rfl := Option.some.inj hscope
      rw [modules_of_exitTop_error hframes h]
      exact List.Subset.refl _
  | @function f below _ =>
      obtain rfl := Option.some.inj hscope
      rcases bind_eq_error.mp h with hexit | ⟨_, w₁, hfirst, hexit⟩
      · rw [modules_of_exitTop_error hframes hexit]
        exact List.Subset.refl _
      · obtain ⟨_, _, _, _, hsplit, -, rfl⟩ := (exitTop_block hframes).mp hfirst
        cases hsplit
        rw [modules_of_exitTop_error rfl hexit]
        exact List.Subset.refl _

end BuildM

/-- An operation that fails writes into no module. -/
theorem Mishap.modules_subset (h : Mishap w a e w') (hshape : w.builder.frames.Shaped) :
    w'.builder.frames.modules ⊆ w.builder.frames.modules := by
  cases h with
  | clean => exact List.Subset.refl _
  | block _ _ henter =>
      rcases BuildM.enterBlock_eq_error.mp (BuildM.enter_block_eq_error.mp henter) with
        ⟨-, -, rfl⟩ | ⟨_, _, _, _, hsplit, -, rfl⟩
      · exact List.Subset.refl _
      · rw [Workspace.withFrames_frames, modules_block, modules_replace_split hsplit]
        exact List.Subset.refl _
  | emit _ hemit =>
      rcases BuildM.onNearestFunction_eq_error.mp hemit with ⟨-, -, rfl⟩ | ⟨_, _, _, _, _, hsplit, -, rfl⟩
      · exact List.Subset.refl _
      · rw [Workspace.withFrames_frames, modules_replace_split hsplit]
        exact List.Subset.refl _
  | close hscope _ hexit => exact BuildM.modules_of_exitScope_error hshape hscope hexit

namespace Workspace

/-- What is known of the modules of a session, which may have failed. -/
structure Registered (config : Config) (w : Workspace σ) : Prop where
  keeps : ∀ m ∈ w.builder.frames.modules, m.Keeps config.nameScheme []
  sound : w.builder.failed = true ∨ w.builder.frames.Shaped ∧ w.Tabled config

theorem Registered.next {config : Config} (h : w.Registered config) (event : Event) :
    (w.next event).Registered config := by
  cases hfailed : w.builder.failed with
  | true =>
      refine ⟨?_, .inl (failed_next hfailed event)⟩
      have hmodules := event.modules_remains_subset w.contents
      rw [← contents_next hfailed event] at hmodules
      exact fun m hm => h.keeps m (hmodules hm)
  | false =>
      obtain ⟨hshape, htabled⟩ := h.sound.resolve_left (by simp [hfailed])
      cases hrun : event.run w with
      | ok reply w' =>
          rw [next_of_ok hrun]
          have hquiet : Quiet w event w' := by
            cases event with
            | action a => exact .change hrun ((Action.run_eq_ok_iff hshape hfailed).mp hrun)
            | drawn count =>
                cases hrun
                exact .drawn count
            | replaced kind =>
                cases hrun
                exact .replaced kind
          have htabled' := htabled.quiet hquiet
          exact ⟨htabled'.keeps, .inr ⟨hquiet.shaped hshape, htabled'⟩⟩
      | error err w' =>
          rw [next_of_error hrun]
          cases event with
          | drawn | replaced => cases hrun
          | action a =>
              cases hguard : a.guard? with
              | none =>
                  obtain ⟨-, rfl⟩ := rename_of_unguarded_error hguard hrun
                  exact h
              | some op =>
                  obtain ⟨w₁, hmishap, rfl⟩ := Mishap.of_guard hguard hfailed hrun
                  exact ⟨fun m hm => h.keeps m (hmishap.modules_subset hshape hm), .inl rfl⟩

theorem registered_after (config : Config) (newEmitter : Config → σ) (supply : VarSupply)
    (events : List Event) :
    ((⟨.new config newEmitter, supply⟩ : Workspace σ).after events).Registered config := by
  have hstart : (⟨.new config newEmitter, supply⟩ : Workspace σ).Registered config :=
    ⟨nofun, .inr ⟨.nil, ⟨rfl, .nil, nofun⟩⟩⟩
  exact @after_induction _ _ (fun _ w => w.Registered config) (fun _ _ e h => h.next e) [] _ hstart events

end Workspace

/-- At any time of any session, with whatever emitter and also after errors, the open module has its names
and its slots in step: the names are different, each leads to a handle of that name, and the handles have
the slots one after another. So no operation on the module looks for a slot that is not there; and the
close, which empties the slots, takes the function of each slot once. -/
theorem slots_in_range (config : Config) (newEmitter : Config → σ) (supply : VarSupply)
    (events : List Event) :
    let w := (⟨.new config newEmitter, supply⟩ : Workspace σ).after events
    ∀ m ∈ w.builder.frames.modules,
      m.Aligned ∧
      (∀ name, m.isDefined? name = some (m.isDefined name)) ∧
      (∀ name f rename op, m.register? name f rename op = some (m.register name f rename op)) ∧
      (∀ name f first op, m.update? name f first op = some (m.update name f first op)) ∧
      m.assemble? = some m.assemble ∧
      ∀ module, m.assemble = .ok module →
        module.functions.map (·.1) = m.names.map (·.2) ∧ module.functions.map (some ·.2) = m.slots := by
  intro w m hm
  have hkeeps := (Workspace.registered_after config newEmitter supply events).keeps m hm
  have haligned := hkeeps.aligned
  exact ⟨haligned, haligned.isDefined?_eq, haligned.register?_eq, haligned.update?_eq,
    haligned.assemble?_eq, fun module => hkeeps.functions_eq⟩

/-- A name is reserved twice, and both functions are defined, in the other order. -/
theorem slots_in_range_renamed :
    let f : Func := ⟨[], .seq [] (.op "a") none, .shape, .empty⟩
    let events : List Event :=
      [.action .openModule, .action (.register "f" none false), .action (.register "f" none true),
        .action (.update "f_1" f true), .action (.update "f" f true)]
    ∃ m ∈ ((Workspace.new {} ⟨0⟩).after events).builder.frames.modules,
      m.names = [("f", ⟨"f", 0⟩), ("f_1", ⟨"f_1", 1⟩)] ∧ m.Aligned ∧
        m.isDefined? "f_1" = some (m.isDefined "f_1") ∧ m.assemble? = some m.assemble ∧
        ∃ module, m.assemble = .ok module ∧ module.functions.map (·.1) = m.names.map (·.2) ∧
          module.functions.map (some ·.2) = m.slots := by
  intro f events
  obtain ⟨haligned, hdefined, -, -, hassemble, hfunctions⟩ :=
    slots_in_range {} BlockWriter.ofConfig ⟨0⟩ events _ List.mem_cons_self
  exact ⟨_, List.mem_cons_self, rfl, haligned, hdefined _, hassemble, _, rfl, hfunctions _ rfl⟩

end ScopedBuilder
