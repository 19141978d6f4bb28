import ScopedBuilder.Proofs.InStep
import ScopedBuilder.Proofs.Table

/-!
# Requests to the open module

What operations ask of the module on top of the stack, and that a module which is the draft of a table
answers as the table does.
-/

namespace ScopedBuilder

/-- What can be asked of the module on top of the stack. -/
inductive Request where
  | register (name : String) (body : Option Func) (rename : Bool)
  | update (name : String) (f : Func) (first : Bool)
  /-- The scope of a function with an output and a result type closes. -/
  | define (name : String) (f : Func)
  | finish

/-- What a table answers: the reply and the table from then on, or the entries of the module. -/
inductive Answer where
  | table (reply : Reply) (t : Table)
  | module (entries : List (String × Func))

/-- The answer of the reference. A module cannot be finished while the place of the result is taken. -/
def Table.answer (scheme : NameScheme) (t : Table) (taken : Bool) :
    Request → Except BuildError Answer
  | .register name body rename =>
    (t.register scheme name body rename .register).map fun (key, t) =>
      .table (.global ⟨key, t.names.idxOf key⟩) t
  | .update name f first => (t.update name f first .update).map (.table .done)
  | .define name f => (t.define scheme name f .finishFunction).map (.table .done)
  | .finish => do
    let entries ← t.finish
    if taken then .error (.resultAlreadySet .finishModule) else .ok (.module entries)

namespace Workspace

/-- The request that an operation makes of the module. -/
def request? (w : Workspace BlockWriter) (a : Action) : Option Request :=
  match w.builder.frames with
  | .module _ :: below =>
    match a with
    | .register name body rename => some (.register name body rename)
    | .update name f first => some (.update name f first)
    | a => if a.closes ⟨below.length, .module⟩ then some .finish else none
  | .block _ :: .function f :: .module m :: below =>
    if a.closes ⟨(.module m :: below : Frames BlockWriter).length, .function⟩ then
      (f.finished? w.builder.config).map (.define f.nameOrEmpty)
    else none
  | _ => none

end Workspace

/-! ## Requests -/

section Requests

variable {w w' : Workspace BlockWriter} {a : Action} {q : Request} {m : ModuleDraft}
  {below : Frames BlockWriter}

/-- The ways of asking something of the module. -/
inductive Asks (w : Workspace BlockWriter) (a : Action) : Request → Prop where
  | register {m : ModuleDraft} {below : Frames BlockWriter} {name : String} {body : Option Func}
      {rename : Bool} : w.builder.frames = .module m :: below → a = .register name body rename →
      Asks w a (.register name body rename)
  | update {m : ModuleDraft} {below : Frames BlockWriter} {name : String} {f : Func} {first : Bool} :
      w.builder.frames = .module m :: below → a = .update name f first →
      Asks w a (.update name f first)
  | define {kind : BlockKind} {f : FuncDraft BlockWriter} {m : ModuleDraft}
      {below : Frames BlockWriter} {func : Func} :
      w.builder.frames = .block kind :: .function f :: .module m :: below →
      a.closes ⟨below.length + 1, .function⟩ = true →
      f.finished? w.builder.config = some func → Asks w a (.define f.nameOrEmpty func)
  | finish {m : ModuleDraft} {below : Frames BlockWriter} :
      w.builder.frames = .module m :: below → a.closes ⟨below.length, .module⟩ = true →
      Asks w a .finish

theorem asks_iff : w.request? a = some q ↔ Asks w a q := by
  constructor
  · intro h
    unfold Workspace.request? at h
    split at h
    · rename_i m below hframes
      split at h
      · cases h
        exact .register hframes rfl
      · cases h
        exact .update hframes rfl
      · split at h
        · cases h
          exact .finish hframes ‹_›
        · cases h
    · rename_i kind f m below hframes
      split at h
      · obtain ⟨func, hfunc, rfl⟩ := Option.map_eq_some_iff.mp h
        exact .define hframes ‹_› hfunc
      · cases h
    · cases h
  · intro h
    cases h with
    | register hframes ha => simp [Workspace.request?, hframes, ha]
    | update hframes ha => simp [Workspace.request?, hframes, ha]
    | define hframes ha hfunc => simp [Workspace.request?, hframes, ha, hfunc]
    | finish hframes ha =>
        cases a <;> simp only [Action.closes, Bool.false_eq_true] at ha <;>
          simp_all [Workspace.request?, Action.closes]

/-- The modules on the stack are those of the reference. -/
def Mirrors (t : Option Table) (w : Workspace BlockWriter) : Prop :=
  w.builder.frames.modules =
      t.toList.map (ModuleDraft.ofTable w.builder.config.nameScheme) ∧
    ∀ table ∈ t, table.names.Nodup

namespace Mirrors

variable {t : Option Table}

/-- An open module is the one of the reference, and the only one. -/
theorem of_cons {rest : List ModuleDraft} (h : Mirrors t w)
    (hmodules : w.builder.frames.modules = m :: rest) :
    ∃ table, t = some table ∧ m = .ofTable w.builder.config.nameScheme table ∧
      table.names.Nodup ∧ rest = [] := by
  obtain ⟨heq, hnodup⟩ := h
  rw [hmodules] at heq
  cases t with
  | none => simp at heq
  | some table =>
      simp only [Option.toList_some, List.map_cons, List.map_nil, List.cons.injEq] at heq
      exact ⟨table, rfl, heq.1, hnodup table rfl, heq.2⟩

theorem top (h : Mirrors t w) (hframes : w.builder.frames = .module m :: below) :
    ∃ table, t = some table ∧ m = .ofTable w.builder.config.nameScheme table ∧
      table.names.Nodup ∧ below.modules = [] :=
  h.of_cons (by rw [hframes, Frames.modules_module])

theorem nearestModule?_eq {table : Table} (h : Mirrors (some table) w) :
    w.builder.frames.nearestModule? = some (.ofTable w.builder.config.nameScheme table) := by
  rw [Frames.nearestModule?_eq, h.1]
  rfl

/-- The open module has a function it has just taken in, under its name. -/
theorem definition?_define {rest : List ModuleDraft} {m' : ModuleDraft} {name : String} {func : Func}
    {op : Operation} (h : Mirrors t w) (hmodules : w.builder.frames.modules = m :: rest)
    (hdefine : m.define name func op = .ok m') :
    (m'.global? name).bind m'.definition? = some func := by
  obtain ⟨table, -, rfl, -, -⟩ := h.of_cons hmodules
  rw [ModuleDraft.ofTable_define, map_eq_ok] at hdefine
  obtain ⟨table', hdefine, rfl⟩ := hdefine
  rw [ModuleDraft.ofTable_global?_bind]
  exact Table.body?_define hdefine

end Mirrors

/-- How an operation answers, compared with the reference. -/
def Answers (w : Workspace BlockWriter) (a : Action) : Except BuildError Answer → Prop
  | .error e => ∃ w', a.run w = .error e w'
  | .ok (.table reply t) => ∃ w', a.run w = .ok reply w' ∧ Mirrors (some t) w'
  | .ok (.module entries) =>
    ∃ w', a.run w = .ok .done w' ∧ Mirrors none w' ∧
      w'.builder.result =
        some (.module ⟨entries.zipIdx.map fun x => (⟨x.1.1, x.2⟩, x.1.2)⟩)

variable {t : Option Table} {config : Config}

/-- An edit of the module answers as the reference does if it is an edit of the table. -/
theorem answers_edit (answer : Except BuildError (Reply × Table))
    {edit : ModuleDraft → Except BuildError (Reply × ModuleDraft)}
    (h : a.moduleEdit? = some edit) (hfailed : w.builder.failed = false)
    (hframes : w.builder.frames = .module m :: below)
    (hbelow : below.modules = [])
    (hedit : edit m = answer.map fun (reply, t) =>
      (reply, .ofTable w.builder.config.nameScheme t))
    (hnodup : ∀ reply t, answer = .ok (reply, t) → t.names.Nodup) :
    Answers w a (answer.map fun (reply, t) => .table reply t) := by
  cases answer with
  | error e => exact ⟨_, Action.run_moduleEdit_error h hfailed hframes hedit⟩
  | ok pair =>
      obtain ⟨reply, t⟩ := pair
      refine ⟨_, (Action.run_moduleEdit h).mpr ⟨hfailed, m, below, _, hframes, hedit, rfl⟩, ?_, ?_⟩
      · simp [hbelow]
      · simpa using hnodup reply t rfl

theorem answers_register {m : ModuleDraft} {name : String} {body : Option Func} {rename : Bool}
    (hfailed : w.builder.failed = false) (hmirrors : Mirrors t w)
    (hframes : w.builder.frames = .module m :: below) :
    ∃ table, t = some table ∧
      Answers w (.register name body rename)
        (table.answer w.builder.config.nameScheme w.builder.result.isSome
          (.register name body rename)) := by
  obtain ⟨table, rfl, rfl, hnodup, hbelow⟩ := hmirrors.top hframes
  have hanswers := answers_edit
    ((table.register w.builder.config.nameScheme name body rename .register).map
      fun (key, t) => (.global ⟨key, t.names.idxOf key⟩, t))
    (a := .register name body rename) rfl hfailed hframes hbelow ?_ ?_
  · refine ⟨table, rfl, ?_⟩
    rw [Table.answer]
    cases h : table.register w.builder.config.nameScheme name body rename .register <;>
      simpa [h, Except.map] using hanswers
  · rw [ModuleDraft.ofTable_register]
    cases table.register w.builder.config.nameScheme name body rename .register <;> rfl
  · intro reply t' hanswer
    simp only [map_eq_ok, Prod.mk.injEq, Prod.exists] at hanswer
    obtain ⟨key, _, hregister, -, rfl⟩ := hanswer
    exact Table.nodup_register hregister hnodup

theorem answers_update {m : ModuleDraft} {name : String} {f : Func} {first : Bool}
    (hfailed : w.builder.failed = false) (hmirrors : Mirrors t w)
    (hframes : w.builder.frames = .module m :: below) :
    ∃ table, t = some table ∧
      Answers w (.update name f first)
        (table.answer w.builder.config.nameScheme w.builder.result.isSome
          (.update name f first)) := by
  obtain ⟨table, rfl, rfl, hnodup, hbelow⟩ := hmirrors.top hframes
  have hanswers := answers_edit ((table.update name f first .update).map (.done, ·))
    (a := .update name f first) rfl hfailed hframes hbelow ?_ ?_
  · refine ⟨table, rfl, ?_⟩
    rw [Table.answer]
    cases h : table.update name f first .update <;> simpa [h, Except.map] using hanswers
  · rw [ModuleDraft.ofTable_update]
    cases table.update name f first .update <;> rfl
  · intro reply t' hanswer
    simp only [map_eq_ok, Prod.mk.injEq] at hanswer
    obtain ⟨_, hupdate, -, rfl⟩ := hanswer
    exact Table.nodup_update hupdate hnodup

theorem exitTop_default_block {kind : BlockKind} {f : FuncDraft BlockWriter} {block : Block Expr}
    {op : Operation} (hframes : w.builder.frames = .block kind :: .function f :: below)
    (hopen : f.emitter.openBlocks = [block]) :
    BuildM.exitTop op w = .ok () (w.withFrames (.function (f.finishBlock block []) :: below)) :=
  (BuildM.exitTop_block hframes).mpr ⟨[], f, below, _, rfl, FuncDraft.leaveBlock_none hopen, rfl⟩

section Definition

variable {kind : BlockKind} {f : FuncDraft BlockWriter} {block : Block Expr} {func : Func}
  {op : Operation} (hframes : w.builder.frames = .block kind :: .function f :: .module m :: below)
  (hopen : f.emitter.openBlocks = [block]) (hfunc : f.finished? w.builder.config = some func)

include hframes hopen hfunc

/-- The scope of a function closes if the module takes the function in. -/
theorem exitScope_definition_ok {m' : ModuleDraft}
    (hdefine : m.define f.nameOrEmpty func .finishFunction = .ok m') :
    BuildM.exitScope op .function w = .ok () (w.withFrames (.module m' :: below)) := by
  rw [BuildM.exitScope, bind_eq_ok]
  refine ⟨(), _, exitTop_default_block hframes hopen, (BuildM.exitTop_function rfl).mpr ?_⟩
  exact ⟨func, (FuncDraft.assemble_finishBlock_eq_ok hopen).mpr hfunc,
    .inr ⟨m, m', below, rfl, FuncDraft.nameOrEmpty_finishBlock.symm ▸ hdefine, rfl⟩⟩

theorem exitScope_definition_error {e : BuildError}
    (hdefine : m.define f.nameOrEmpty func .finishFunction = .error e) :
    BuildM.exitScope op .function w = .error e (w.withFrames (.module m :: below)) := by
  rw [BuildM.exitScope, bind_eq_error]
  refine .inr ⟨(), _, exitTop_default_block hframes hopen, ?_⟩
  refine (BuildM.exitTop_function_eq_error rfl).mpr
    (BuildM.leaveFunction_eq_error.mpr ⟨rfl, .inr ⟨func, ?_, ?_⟩⟩)
  · exact (FuncDraft.assemble_finishBlock_eq_ok hopen).mpr hfunc
  · exact .inr (.inr (.inr
      ⟨m, below, rfl, FuncDraft.nameOrEmpty_finishBlock.symm ▸ hdefine⟩))

end Definition

theorem answers_define {kind : BlockKind} {f : FuncDraft BlockWriter} {m : ModuleDraft}
    {func : Func} (h : w.Sound config) (hfailed : w.builder.failed = false)
    (hmirrors : Mirrors t w)
    (hframes : w.builder.frames = .block kind :: .function f :: .module m :: below)
    (hcloses : a.closes ⟨below.length + 1, .function⟩ = true)
    (hfunc : f.finished? w.builder.config = some func) :
    ∃ table, t = some table ∧
      Answers w a
        (table.answer w.builder.config.nameScheme w.builder.result.isSome
          (.define f.nameOrEmpty func)) := by
  have hsplit : w.builder.frames.splitFunction? =
      some ([.block kind], f, .module m :: below) := by
    simp [hframes]
  obtain ⟨block, hopen⟩ := FuncDraft.openBlocks_eq_singleton (h.inStep.of_split hsplit).1
  have hscope : w.builder.frames.innermostScope? = some ⟨below.length + 1, .function⟩ := by
    rw [hframes]
    rfl
  obtain ⟨op, hok, herror⟩ := Action.run_closes hcloses hfailed hscope
  have hmodules : w.builder.frames.modules = m :: below.modules := by simp [hframes]
  obtain ⟨table, rfl, rfl, hnodup, hbelow⟩ := hmirrors.of_cons hmodules
  refine ⟨table, rfl, ?_⟩
  have hdraft : (ModuleDraft.ofTable w.builder.config.nameScheme table).define f.nameOrEmpty func
        .finishFunction =
      (table.define w.builder.config.nameScheme f.nameOrEmpty func .finishFunction).map
        (.ofTable w.builder.config.nameScheme) :=
    ModuleDraft.ofTable_define
  rw [Table.answer]
  cases hdefine : table.define w.builder.config.nameScheme f.nameOrEmpty func .finishFunction with
  | error e =>
      rw [hdefine] at hdraft
      exact ⟨_, herror e _ (exitScope_definition_error hframes hopen hfunc hdraft)⟩
  | ok t' =>
      rw [hdefine] at hdraft
      refine ⟨_, hok _ (exitScope_definition_ok hframes hopen hfunc hdraft), ?_, ?_⟩
      · simp [hbelow]
      · simpa using Table.nodup_define hdefine hnodup

theorem answers_finish {m : ModuleDraft} (hfailed : w.builder.failed = false)
    (hmirrors : Mirrors t w) (hframes : w.builder.frames = .module m :: below)
    (hcloses : a.closes ⟨below.length, .module⟩ = true) :
    ∃ table, t = some table ∧
      Answers w a
        (table.answer w.builder.config.nameScheme w.builder.result.isSome .finish) := by
  obtain ⟨table, rfl, rfl, hnodup, hbelow⟩ := hmirrors.top hframes
  refine ⟨table, rfl, ?_⟩
  have hscope : w.builder.frames.innermostScope? = some ⟨below.length, .module⟩ := by
    rw [hframes]
    rfl
  obtain ⟨op, hok, herror⟩ := Action.run_closes hcloses hfailed hscope
  simp only [BuildM.exitScope, BuildM.exitTop_module hframes,
    BuildM.exitTop_module_eq_error hframes] at hok herror
  rw [Table.answer]
  cases hfinish : table.finish with
  | error e =>
      refine ⟨_, herror e _ ⟨rfl, .inl ?_⟩⟩
      rw [ModuleDraft.ofTable_assemble, hfinish]
      rfl
  | ok entries =>
      have hassemble : (ModuleDraft.ofTable w.builder.config.nameScheme table).assemble =
          .ok ⟨entries.zipIdx.map fun x => (⟨x.1.1, x.2⟩, x.1.2)⟩ := by
        rw [ModuleDraft.ofTable_assemble, hfinish]
        rfl
      cases hresult : w.builder.result with
      | none =>
          exact ⟨_, hok _ ⟨_, hassemble, hresult, rfl⟩, ⟨hbelow, by simp⟩, rfl⟩
      | some artifact =>
          exact ⟨_, herror _ _ ⟨rfl, .inr ⟨⟨_, hassemble⟩, by simp [hresult], rfl⟩⟩⟩

/-- What is asked of the module is answered as the reference answers it. -/
theorem answers_reference (h : w.Sound config) (hfailed : w.builder.failed = false)
    (hmirrors : Mirrors t w) (hq : w.request? a = some q) :
    ∃ table, t = some table ∧
      Answers w a (table.answer w.builder.config.nameScheme w.builder.result.isSome q) := by
  cases asks_iff.mp hq with
  | register hframes ha =>
      subst ha
      exact answers_register hfailed hmirrors hframes
  | update hframes ha =>
      subst ha
      exact answers_update hfailed hmirrors hframes
  | define hframes hcloses hfunc => exact answers_define h hfailed hmirrors hframes hcloses hfunc
  | finish hframes hcloses => exact answers_finish hfailed hmirrors hframes hcloses

end Requests

end ScopedBuilder
