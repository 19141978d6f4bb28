import ScopedBuilder.Proofs.Handles
import ScopedBuilder.Proofs.ModuleScope
import ScopedBuilder.Proofs.StackShape

/-!
# When a function can be closed

A function needs an output and a result type, and a place to go: the empty result if nothing is below it, or
a module directly below that has no definition under its name. There are six obstacles, and the first one
that applies is the error. A function that a module takes in keeps its name under every naming scheme, and
nothing else in the module changes.
-/

namespace ScopedBuilder

variable {σ : Type}

/-! ## Obstacles -/

namespace FuncDraft

/-- Everything that can keep the scope of a function from closing, in the order in which it is looked for,
given whether the place of the result is taken and the frames below the function. -/
def obstacles (f : FuncDraft σ) (taken : Bool) (below : Frames σ) : List (Bool × BuildError) :=
  let inModule := below.any Frame.isModule
  [(f.outputs.isEmpty, .missingOutput f.nameOrEmpty),
    (f.result.isNone, .missingResultTy f.nameOrEmpty),
    (below.isEmpty && taken, .resultAlreadySet .finishFunction),
    (!below.isEmpty && !inModule, .noInsertionTarget f.nameOrEmpty),
    (inModule && below.moduleScope?.isNone, .notImmediatelyInModule .finishFunction),
    (below.moduleScope?.any fun (m, _) => m.isDefined f.nameOrEmpty,
      .alreadyDefined f.nameOrEmpty .finishFunction)]

/-- The first obstacle that applies. -/
def obstacle? (f : FuncDraft σ) (taken : Bool) (below : Frames σ) : Option BuildError :=
  ((f.obstacles taken below).find? (·.1)).map (·.2)

section Obstacle

variable {f : FuncDraft BlockWriter} {taken : Bool} {below : Frames BlockWriter}

theorem output?_eq_none_iff : f.output? = none ↔ f.outputs = [] := by
  unfold output?
  split <;> simp_all

/-- The block that is still open keeps no function from closing. -/
theorem obstacle?_finishBlock (block : Block Expr) :
    (f.finishBlock block []).obstacle? taken below = f.obstacle? taken below := by
  rw [obstacle?, obstacles, nameOrEmpty_finishBlock, finishBlock_eq]
  rfl

/-- Nothing keeps a function from closing that is complete and has a place to go. -/
theorem obstacle?_eq_none_iff :
    f.obstacle? taken below = none ↔
      f.outputs ≠ [] ∧ f.result.isSome = true ∧
        ((below = [] ∧ taken = false) ∨
          ∃ m rest, below = .module m :: rest ∧ m.isDefined f.nameOrEmpty = false) := by
  cases below with
  | nil => simp [obstacle?, obstacles, Frames.moduleScope?, Option.isSome_iff_ne_none]
  | cons x rest =>
      cases x with
      | module m =>
          simp [obstacle?, obstacles, Frames.moduleScope?, Frame.isModule,
            Option.isSome_iff_ne_none]
      | function g | block kind =>
          cases hmodule : List.any rest Frame.isModule <;>
            simp [obstacle?, obstacles, Frames.moduleScope?, Frame.isModule, hmodule,
              -List.any_eq_true]

end Obstacle

end FuncDraft

theorem ModuleDraft.define_eq_error {m : ModuleDraft} {name : String} {func : Func} {op : Operation}
    {e : BuildError} :
    m.define name func op = .error e ↔ m.isDefined name = true ∧ e = .alreadyDefined name op := by
  unfold define isDefined contains
  cases hglobal : m.global? name with
  | none =>
      have hfree : m.contains name = false := by simp [contains, hglobal]
      simp only [Option.isSome_none, Bool.false_eq_true, if_false, Option.bind_none, false_and,
        iff_false, map_eq_error, register, hfree, Bool.and_false]
      split <;> simp
  | some g =>
      cases hdefined : (m.definition? g).isSome <;> simp [update, hglobal, hdefined, eq_comm]

theorem ModuleDraft.isDefined_of_define {m m' : ModuleDraft} {name : String} {func : Func}
    {op : Operation} (h : m.define name func op = .ok m') : m.isDefined name = false := by
  cases hdefined : m.isDefined name with
  | false => rfl
  | true => cases h.symm.trans (define_eq_error.mpr ⟨hdefined, rfl⟩)

/-! ## Leaving a function -/

namespace FuncDraft

variable {w w' : Workspace BlockWriter} {f : FuncDraft BlockWriter} {below : Frames BlockWriter}
  {op : Operation}

/-- A function that is refused meets the first obstacle as its error. -/
theorem obstacle?_of_exitTop_error {e : BuildError} (hframes : w.builder.frames = .function f :: below)
    (h : BuildM.exitTop op w = .error e w') :
    f.obstacle? w.builder.result.isSome below = some e := by
  obtain ⟨-, hassemble | ⟨func, hfunc, hplace⟩⟩ :=
    BuildM.leaveFunction_eq_error.mp ((BuildM.exitTop_function_eq_error hframes).mp h)
  · rcases assemble_eq_error.mp hassemble with ⟨hnone, rfl⟩ | ⟨hsome, hresult, rfl⟩
    · simp [obstacle?, obstacles, output?_eq_none_iff.mp hnone]
    · have houtputs : f.outputs ≠ [] := by
        rw [ne_eq, ← output?_eq_none_iff]
        exact Option.isSome_iff_ne_none.mp hsome
      simp [obstacle?, obstacles, houtputs, hresult]
  · obtain ⟨output, result, houtput, hresult, -⟩ := assemble_eq_ok.mp hfunc
    have houtputs : f.outputs ≠ [] := by
      rw [ne_eq, ← output?_eq_none_iff, houtput]
      exact Option.some_ne_none output
    simp only [Workspace.withFrames_frames, Workspace.withFrames_result] at hplace
    rcases hplace with ⟨rfl, htaken, rfl⟩ | ⟨hne, hmodule, rfl⟩ | ⟨hmodule, hnone, rfl⟩ |
      ⟨m, rest, rfl, hdefine⟩
    · simp [obstacle?, obstacles, houtputs, hresult, htaken]
    · simp [obstacle?, obstacles, houtputs, hresult, hne, hmodule, -List.any_eq_false]
    · have hne : below ≠ [] := by
        rintro rfl
        cases hmodule
      simp [obstacle?, obstacles, houtputs, hresult, hne, hmodule, hnone, -List.any_eq_true]
    · obtain ⟨hdefined, rfl⟩ := ModuleDraft.define_eq_error.mp hdefine
      simp [obstacle?, obstacles, houtputs, hresult, Frame.isModule, Frames.moduleScope?, hdefined]

theorem obstacle?_of_exitTop_ok (hframes : w.builder.frames = .function f :: below)
    (h : BuildM.exitTop op w = .ok () w') : f.obstacle? w.builder.result.isSome below = none := by
  obtain ⟨func, hfunc, hplace⟩ := (BuildM.exitTop_function hframes).mp h
  obtain ⟨output, result, houtput, hresult, -⟩ := assemble_eq_ok.mp hfunc
  refine obstacle?_eq_none_iff.mpr ⟨?_, by simp [hresult], ?_⟩
  · rw [ne_eq, ← output?_eq_none_iff, houtput]
    exact Option.some_ne_none output
  · rcases hplace with ⟨rfl, hfree, -⟩ | ⟨m, m', rest, rfl, hdefine, -⟩
    · exact .inl ⟨rfl, by simp [hfree]⟩
    · exact .inr ⟨m, rest, rfl, ModuleDraft.isDefined_of_define hdefine⟩

end FuncDraft

/-! ## Closing its scope -/

namespace Action

variable {w w' : Workspace BlockWriter} {a : Action} {kind : BlockKind} {f : FuncDraft BlockWriter}
  {below : Frames BlockWriter} {config : Config}

/-- The scope of a function is closed exactly if there is no obstacle, and otherwise refused with the first
one. -/
theorem run_closes_function (h : w.Sound config) (hfailed : w.builder.failed = false)
    (hframes : w.builder.frames = .block kind :: .function f :: below)
    (hcloses : a.closes ⟨below.length, .function⟩ = true) :
    match f.obstacle? w.builder.result.isSome below with
    | none => ∃ w', a.run w = .ok .done w'
    | some e => ∃ w', a.run w = .error e w' := by
  have hsplit : w.builder.frames.splitFunction? = some ([.block kind], f, below) := by
    simp [hframes]
  obtain ⟨block, hopen⟩ := FuncDraft.openBlocks_eq_singleton (h.inStep.of_split hsplit).1
  have hscope : w.builder.frames.innermostScope? = some ⟨below.length, .function⟩ := by
    rw [hframes]
    rfl
  obtain ⟨op, hok, herror⟩ := run_closes hcloses hfailed hscope
  have hblock : BuildM.exitTop op w = .ok () _ := exitTop_default_block hframes hopen
  rw [← FuncDraft.obstacle?_finishBlock block]
  cases hexit : BuildM.exitTop op (w.withFrames (.function (f.finishBlock block []) :: below)) with
  | ok _ w' =>
      have hnone := FuncDraft.obstacle?_of_exitTop_ok rfl hexit
      rw [Workspace.withFrames_result] at hnone
      rw [hnone]
      exact ⟨w', hok w' (bind_eq_ok.mpr ⟨(), _, hblock, hexit⟩)⟩
  | error e w' =>
      have hsome := FuncDraft.obstacle?_of_exitTop_error rfl hexit
      rw [Workspace.withFrames_result] at hsome
      rw [hsome]
      exact ⟨_, herror e w' (bind_eq_error.mpr (.inr ⟨(), _, hblock, hexit⟩))⟩

theorem run_closes_function_iff (h : w.Sound config) (hfailed : w.builder.failed = false)
    (hframes : w.builder.frames = .block kind :: .function f :: below)
    (hcloses : a.closes ⟨below.length, .function⟩ = true) :
    ((∃ reply w', a.run w = .ok reply w') ↔ f.obstacle? w.builder.result.isSome below = none) ∧
      ∀ e, (∃ w', a.run w = .error e w') ↔ f.obstacle? w.builder.result.isSome below = some e := by
  have hrun := run_closes_function h hfailed hframes hcloses
  cases hobstacle : f.obstacle? w.builder.result.isSome below with
  | none =>
      rw [hobstacle] at hrun
      obtain ⟨w', hok⟩ := hrun
      simp [hok]
  | some cause =>
      rw [hobstacle] at hrun
      obtain ⟨w', herror⟩ := hrun
      simp [herror]

end Action

/-! ## What a module does with a function -/

/-- A module takes in a function under a name, and touches nothing else: whatever was registered keeps its
handle and its position, and every other name its definition too. -/
structure ModuleDraft.TakesIn (m : ModuleDraft) (name : String) (func : Func) (m' : ModuleDraft) :
    Prop where
  stored : ∃ g, m'.global? name = some g ∧ g.name = name ∧ m'.definition? g = some func
  handles : ∀ n g, m.global? n = some g → m'.global? n = some g
  others : ∀ n, n ≠ name → m'.global? n = m.global? n ∧
    (m'.global? n).bind m'.definition? = (m.global? n).bind m.definition?
  positions : m'.names.map (·.1) =
    if m.contains name then m.names.map (·.1) else m.names.map (·.1) ++ [name]

namespace ModuleDraft

variable {m m' : ModuleDraft} {scheme : NameScheme} {t : Table} {name : String} {func : Func}
  {op : Operation}

theorem takesIn_put : (ofTable scheme t).TakesIn name func (ofTable scheme (t.put name (some func))) where
  stored := by
    have hself : (ofTable scheme (t.put name (some func))).global? name = _ := ofTable_global?_put_self
    have hbody : ((ofTable scheme (t.put name (some func))).global? name).bind _ = _ :=
      ofTable_global?_bind
    rw [hself, Table.body?_put, if_pos rfl] at hbody
    exact ⟨_, hself, rfl, hbody⟩
  handles n g h := ofTable_global?_put name (some func) h
  others n hne := by
    refine ⟨?_, ?_⟩
    · rw [ofTable_global?, ofTable_global?, Table.names_put]
      split
      · rfl
      · by_cases hmem : n ∈ t.names
        · simp [hmem, List.idxOf_append_of_mem hmem]
        · simp [hmem, hne]
    · rw [ofTable_global?_bind, ofTable_global?_bind, Table.body?_put, if_neg (Ne.symm hne)]
  positions := by
    simp only [ofTable_names, ofTable_contains, Table.names_put, Table.contains_iff]

/-- Whatever the scheme, a function is defined under its own name. -/
theorem takesIn_of_define {t : Option Table} {w : Workspace BlockWriter} {rest : List ModuleDraft}
    (h : Mirrors t w) (hmodules : w.builder.frames.modules = m :: rest)
    (hdefine : m.define name func op = .ok m') : m.TakesIn name func m' := by
  have hfree := isDefined_of_define hdefine
  obtain ⟨table, -, rfl, -, -⟩ := h.of_cons hmodules
  rw [ofTable_isDefined, Option.isSome_eq_false_iff, Option.isNone_iff_eq_none] at hfree
  rw [ofTable_define, Table.define_eq_ok hfree, map_eq_ok] at hdefine
  obtain ⟨_, heq, rfl⟩ := hdefine
  cases heq
  exact takesIn_put

end ModuleDraft

/-! ## The conditions -/

/-- A function whose scope has closed is the result, or the module directly below has taken it in. -/
theorem Closing.exists_func {t : Option Table} {w w' : Workspace BlockWriter} {config : Config}
    {kind : BlockKind} {f : FuncDraft BlockWriter} {below : Frames BlockWriter} (h : Closing w w')
    (hsound : w.Sound config) (hmirrors : Mirrors t w)
    (hframes : w.builder.frames = .block kind :: .function f :: below) :
    ∃ func, f.finished? config = some func ∧
      ((below = [] ∧ w'.builder.frames = [] ∧ w'.builder.result = some (.function func)) ∨
        ∃ m m' rest, below = .module m :: rest ∧ w'.builder.frames = .module m' :: rest ∧
          m.TakesIn f.nameOrEmpty func m') := by
  have hsplit : w.builder.frames.splitFunction? = some ([.block kind], f, below) := by
    simp [hframes]
  obtain ⟨block, hopen⟩ := FuncDraft.openBlocks_eq_singleton (hsound.inStep.of_split hsplit).1
  rw [← hsound.config_eq]
  cases h with
  | block hblock hrest hne _ =>
      rw [hframes] at hblock
      cases hblock
      cases hrest
      exact absurd rfl hne
  | module hmodule _ _ => cases hframes.symm.trans hmodule
  | function hfunction hleave hfunc _ =>
      cases hframes.symm.trans hfunction
      cases hleave.symm.trans (FuncDraft.leaveBlock_none hopen)
      exact ⟨_, (FuncDraft.assemble_finishBlock_eq_ok hopen).mp hfunc, .inl ⟨rfl, rfl, rfl⟩⟩
  | @definition _ _ _ func m m' rest hdefinition hleave hfunc hdefine =>
      cases hframes.symm.trans hdefinition
      cases hleave.symm.trans (FuncDraft.leaveBlock_none hopen)
      rw [FuncDraft.nameOrEmpty_finishBlock] at hdefine
      have hmodules : w.builder.frames.modules = m :: rest.modules := by simp [hframes]
      exact ⟨func, (FuncDraft.assemble_finishBlock_eq_ok hopen).mp hfunc,
        .inr ⟨m, m', rest, rfl, rfl, ModuleDraft.takesIn_of_define hmirrors hmodules hdefine⟩⟩

/-- In every session with the standard emitter, when the innermost scope is a function: its scope closes
exactly if the function has an output and a result type, and either nothing is below it and the place of the
result is free, or a module without a definition under its name is directly below. Otherwise the first
obstacle is the error. A function with nothing below it becomes the result; a module takes it in under
exactly its name, whatever the scheme, and leaves everything else alone. -/
theorem function_closes_iff (config : Config) (supply : VarSupply) (events : List Event) (a : Action)
    (depth : Nat) :
    let w := (Workspace.new config supply).after events
    w.builder.failed = false → w.builder.frames.innermostScope? = some ⟨depth, .function⟩ →
    a.closes ⟨depth, .function⟩ = true →
      ∃ kind f below, w.builder.frames = .block kind :: .function f :: below ∧
        (kind = .ordinary ∨ .replaced kind ∈ events) ∧
        ((∃ reply w', a.run w = .ok reply w') ↔
          f.outputs ≠ [] ∧ f.result.isSome = true ∧
            ((below = [] ∧ w.builder.result = none) ∨
              ∃ m rest, below = .module m :: rest ∧ m.isDefined f.nameOrEmpty = false)) ∧
        (∀ e, (∃ w', a.run w = .error e w') ↔
          f.obstacle? w.builder.result.isSome below = some e) ∧
        ∀ reply w', a.run w = .ok reply w' →
          ∃ func, f.finished? config = some func ∧
            ((below = [] ∧ w'.builder.frames = [] ∧ w'.builder.result = some (.function func)) ∨
              ∃ m m' rest, below = .module m :: rest ∧ w'.builder.frames = .module m' :: rest ∧
                m.TakesIn f.nameOrEmpty func m') := by
  intro w hfailed hscope hcloses
  have hsound : w.Sound config := Workspace.sound_after config supply hfailed
  have hmirrors : Mirrors _ w := Workspace.mirrors_after config supply hfailed
  obtain ⟨kind, f, below, hframes, hkind, rfl⟩ :=
    (Workspace.shapedBy_after config BlockWriter.ofConfig supply events hfailed).exists_function hscope
  obtain ⟨hok, herror⟩ := Action.run_closes_function_iff hsound hfailed hframes hcloses
  refine ⟨kind, f, below, hframes, hkind, ?_, ?_, ?_⟩
  · rw [hok, FuncDraft.obstacle?_eq_none_iff, Option.isSome_eq_false_iff, Option.isNone_iff_eq_none]
  · exact herror
  · intro reply w' hok
    obtain ⟨-, -, hclosing⟩ := (Action.run_closes_eq_ok hsound.shaped hscope hcloses).mp hok
    exact hclosing.exists_func hsound hmirrors hframes

/-- A function takes a reserved name, and another one with the same name is refused. -/
theorem function_closes_iff_reserved :
    let function : List Event :=
      [.action .openFunction, .action (.setName "f"), .action (.setResultTy .shape),
        .action (.addOutput (.op "a"))]
    let reserved : List Event :=
      [.action .openModule, .action (.register "g" none false), .action (.register "f" none false)]
    let w := (Workspace.new {} ⟨0⟩).after (reserved ++ function)
    let w₂ := (Workspace.new {} ⟨0⟩).after
      (reserved ++ function ++ [.action .closeScope] ++ function)
    (∃ w' func, ∃ (m m' : ModuleDraft) (rest : Frames BlockWriter),
      Action.closeScope.run w = .ok .done w' ∧ w'.builder.frames = .module m' :: rest ∧ m.TakesIn "f" func m') ∧
    ∃ w', Action.closeScope.run w₂ = .error (.alreadyDefined "f" .finishFunction) w' := by
  intro function reserved w w₂
  refine ⟨?_, ?_⟩
  · obtain ⟨_, f, below, hframes, -, -, -, hok⟩ := function_closes_iff {} ⟨0⟩ (reserved ++ function)
      .closeScope 1 rfl rfl rfl
    cases hframes
    obtain ⟨func, -, ⟨h, -⟩ | ⟨m, m', rest, -, hrest, htakes⟩⟩ := hok .done _ rfl
    · cases h
    · exact ⟨_, func, m, m', rest, rfl, hrest, htakes⟩
  · obtain ⟨_, f, below, hframes, -, -, herror, -⟩ := function_closes_iff {} ⟨0⟩
      (reserved ++ function ++ [.action .closeScope] ++ function) .closeScope 1 rfl rfl rfl
    cases hframes
    exact (herror _).mpr rfl

end ScopedBuilder
