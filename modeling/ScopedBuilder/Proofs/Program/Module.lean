import ScopedBuilder.Proofs.Program.Function

/-!
# Building a program builds what it denotes

The items of a program are built one after another, each on the table of the items before it. A
well-formed program is built without an error, and the result is the module that it denotes.
-/

namespace ScopedBuilder

open BuildM

/-! ## Items -/

namespace Program

/-- A table that holds what a program has built so far. -/
structure Builds (before : Program) (functions : List (String × Func)) (t : Table) : Prop where
  names_eq : t.names = before.names
  nodup : t.names.Nodup
  body?_eq : ∀ name, t.body? name = functions.lookup name
  keys_eq : functions.map (·.1) = before.filterMap Item.defined?

namespace Builds

variable {before : Program} {functions : List (String × Func)} {t : Table} {name : String}

theorem names_append (before : Program) (item : Item) :
    names (before ++ [item]) =
      if item.name ∈ before.names then before.names else before.names ++ [item.name] := by
  simp only [names, List.map_append, List.eraseDups_append, List.mem_eraseDups, List.map_cons,
    List.map_nil]
  by_cases hmem : item.name ∈ before.map Item.name
  · rw [if_pos hmem]
    simp [List.removeAll, List.mem_map.mp hmem]
  · rw [if_neg hmem]
    have hnot : [item.name].removeAll (before.map Item.name) = [item.name] := by
      simpa [List.removeAll] using hmem
    rw [hnot]
    rfl

/-- Each item puts a body, or none, under its name. -/
theorem put (h : Builds before functions t) (item : Item) (body : Option Func)
    (hbody : functions.lookup item.name = none)
    (hitem : item.defined? = body.map fun _ => item.name) :
    Builds (before ++ [item]) (functions ++ (body.map (item.name, ·)).toList)
      (t.put item.name body) where
  names_eq := by
    rw [names_append, Table.names_put, h.names_eq]
  nodup := Table.nodup_put h.nodup
  body?_eq n := by
    rw [Table.body?_put, List.lookup_append, ← h.body?_eq]
    by_cases hn : item.name = n
    · subst hn
      rw [if_pos rfl, h.body?_eq, hbody]
      cases body <;> simp
    · have hne : (n == item.name) = false := by simpa using Ne.symm hn
      rw [if_neg hn]
      cases body <;> simp [List.lookup_cons, hne]
  keys_eq := by
    rw [List.map_append, h.keys_eq, List.filterMap_append]
    cases body <;> simp [hitem]

end Builds

theorem WellFormed.notMem_defined {before after : Program} {item : Item} {name : String}
    (h : WellFormed (before ++ item :: after)) (hitem : item.defined? = some name) :
    name ∉ before.filterMap Item.defined? := by
  have hnodup := h.nodup_defined
  rw [List.filterMap_append, List.filterMap_cons_some hitem] at hnodup
  intro hmem
  exact (List.nodup_append.mp hnodup).2.2 name hmem name List.mem_cons_self rfl

theorem WellFormed.notMem_reserved {before after : Program} {item : Item} {name : String}
    (h : WellFormed (before ++ item :: after)) (hitem : item.reserved? = some name) :
    name ∉ before.filterMap Item.reserved? := by
  have hnodup := h.nodup_reserved
  rw [List.filterMap_append, List.filterMap_cons_some hitem] at hnodup
  intro hmem
  exact (List.nodup_append.mp hnodup).2.2 name hmem name List.mem_cons_self rfl

/-- A name is mentioned where it is reserved or defined. -/
theorem mem_names_iff {p : Program} {name : String} :
    name ∈ p.names ↔
      name ∈ p.filterMap Item.reserved? ∨ name ∈ p.filterMap Item.defined? := by
  rw [names, List.mem_eraseDups]
  induction p with
  | nil => simp
  | cons item p ih =>
      rw [List.map_cons, List.mem_cons, ih]
      cases item with
      | reserve n =>
          rw [List.filterMap_cons_some (f := Item.reserved?) rfl,
            List.filterMap_cons_none (f := Item.defined?) rfl, List.mem_cons]
          exact or_assoc.symm
      | function f =>
          rw [List.filterMap_cons_none (f := Item.reserved?) rfl,
            List.filterMap_cons_some (f := Item.defined?) rfl, List.mem_cons]
          exact or_left_comm

theorem functions_cons (c : Config) (supply : VarSupply) (item : Item) (p : Program) :
    functions c supply (item :: p) =
      ((functions c supply [item]).1 ++ (functions c (functions c supply [item]).2 p).1,
        (functions c (functions c supply [item]).2 p).2) := by
  cases item <;> rfl

theorem Builds.lookup_eq_none {before : Program} {functions : List (String × Func)} {t : Table}
    {name : String} (h : Builds before functions t)
    (hname : name ∉ before.filterMap Item.defined?) : functions.lookup name = none := by
  rw [← h.keys_eq] at hname
  rw [List.lookup_eq_none_iff]
  intro entry hmem
  simp only [bne_iff_ne, ne_eq]
  rintro rfl
  exact hname (List.mem_map_of_mem hmem)

end Program

section Items

variable {c : Config} {w : Workspace BlockWriter} {before after : Program} {t : Table}
  {functions : List (String × Func)}

/-- The next item of a well-formed program is built. -/
theorem Item.build_eq_ok (item : Item) (hready : w.Ready c)
    (hframes : w.builder.frames = [.module (.ofTable c.nameScheme t)])
    (hbuilds : Program.Builds before functions t)
    (hwf : Program.WellFormed (before ++ item :: after)) :
    ∃ t', item.build w =
        .ok () (w.arrange [.module (.ofTable c.nameScheme t')]
          (Program.functions c w.supply [item]).2) ∧
      Program.Builds (before ++ [item]) (functions ++ (Program.functions c w.supply [item]).1)
        t' := by
  cases item with
  | reserve name =>
      have hdefined := hwf.reserved_before before name after rfl
      have hnone := hbuilds.lookup_eq_none hdefined
      refine ⟨t.put name none, ?_, hbuilds.put (.reserve name) none hnone rfl⟩
      have hmem : name ∉ t.names := by
        rw [hbuilds.names_eq, Program.mem_names_iff]
        rintro (h | h)
        · exact hwf.notMem_reserved rfl h
        · exact hdefined h
      have hregister : (ModuleDraft.ofTable c.nameScheme t).register name none false .register =
          .ok (⟨name, (t.put name none).names.idxOf name⟩,
            .ofTable c.nameScheme (t.put name none)) := by
        rw [ModuleDraft.ofTable_register, Table.register_eq_ok hmem]
        rfl
      rw [build, bind_eq_ok]
      refine ⟨_, _, guarded_eq_ok.mpr ⟨hready.not_failed, inModuleScope_eq_ok.mpr
        ⟨_, [], _, Frames.moduleScope?_eq_some_iff.mpr hframes, hregister, rfl⟩⟩, rfl⟩
  | function f =>
      have hdefined : f.nameOrEmpty ∉ before.filterMap Item.defined? := hwf.notMem_defined rfl
      have hnone := hbuilds.lookup_eq_none hdefined
      refine ⟨_, f.build_eq_ok hready hframes ?_, hbuilds.put (.function f)
        (some (f.denote c w.supply).1) hnone rfl⟩
      rw [ModuleDraft.ofTable_define, Table.define_eq_ok (hbuilds.body?_eq _ ▸ hnone)]
      rfl

/-- The rest of a well-formed program is built item by item. -/
theorem Program.forM_build_eq_ok (rest : Program) (hready : w.Ready c)
    (hframes : w.builder.frames = [.module (.ofTable c.nameScheme t)])
    (hbuilds : Program.Builds before functions t)
    (hwf : Program.WellFormed (before ++ rest)) :
    ∃ t', rest.forM Item.build w =
        .ok () (w.arrange [.module (.ofTable c.nameScheme t')]
          (Program.functions c w.supply rest).2) ∧
      Program.Builds (before ++ rest) (functions ++ (Program.functions c w.supply rest).1) t' := by
  induction rest generalizing w before functions t with
  | nil =>
      refine ⟨t, ?_, by simpa [Program.functions] using hbuilds⟩
      rw [Program.functions, ← hframes, Workspace.arrange_self]
      rfl
  | cons item rest ih =>
      obtain ⟨t₁, hitem, hbuilds₁⟩ := item.build_eq_ok hready hframes hbuilds hwf
      have hwf₁ : WellFormed ((before ++ [item]) ++ rest) := by simpa using hwf
      obtain ⟨t₂, hrest, hbuilds₂⟩ := ih (hready.arrange _ _) rfl hbuilds₁ hwf₁
      rw [Program.functions_cons]
      refine ⟨t₂, ?_, by simpa using hbuilds₂⟩
      rw [List.forM_eq_forM, List.forM_cons, bind_eq_ok]
      exact ⟨(), _, hitem, hrest⟩

end Items

/-! ## Programs -/

namespace Program

/-- Every name of a well-formed program has a function. -/
theorem WellFormed.lookup_isSome {p : Program} (hwf : p.WellFormed) {functions : List (String × Func)}
    (hkeys : functions.map (·.1) = p.filterMap Item.defined?) {name : String}
    (hmem : name ∈ p.names) : (functions.lookup name).isSome := by
  have hdefined : name ∈ p.filterMap Item.defined? := by
    rcases mem_names_iff.mp hmem with h | h
    · exact hwf.reserved_defined name h
    · exact h
  rw [← hkeys] at hdefined
  obtain ⟨entry, hentry, rfl⟩ := List.mem_map.mp hdefined
  rw [Option.isSome_iff_ne_none]
  intro hnone
  simpa using List.lookup_eq_none_iff.mp hnone entry hentry

/-- The module that a well-formed program denotes has all of its names. -/
theorem WellFormed.names_denote {p : Program} (hwf : p.WellFormed) (c : Config) (supply : VarSupply)
    (hkeys : (p.functions c supply).1.map (·.1) = p.filterMap Item.defined?) :
    (p.denote c supply).names = p.names := by
  have hentry : ∀ name ∈ p.names,
      (((p.functions c supply).1.lookup name).map (name, ·)).map (·.1) = some name := by
    intro name hmem
    obtain ⟨f, hf⟩ := Option.isSome_iff_exists.mp (hwf.lookup_isSome hkeys hmem)
    rw [hf]
    rfl
  calc (p.denote c supply).names
      = p.names.filterMap fun name =>
          (((p.functions c supply).1.lookup name).map (name, ·)).map (·.1) := by
        rw [← List.map_filterMap, Module.names, denote, List.map_map]
        generalize p.names.filterMap _ = entries
        calc entries.zipIdx.map (fun x => x.1.1)
            = (entries.zipIdx.map (·.1)).map (·.1) := by rw [List.map_map]; rfl
          _ = entries.map (·.1) := by rw [List.zipIdx_map_fst]
    _ = p.names := by
        rw [List.filterMap_congr hentry, List.filterMap_some]

/-- Building a well-formed program succeeds, on a new builder with any settings, and leaves the module
that the program denotes, with the names in the order of their first mention. -/
theorem build_denotes (p : Program) (hwf : p.WellFormed) (c : Config) (supply : VarSupply) :
    ∃ w', p.build (Workspace.new c supply) = .ok () w' ∧ w'.builder.frames = [] ∧
      w'.builder.failed = false ∧
      w'.builder.result = some (.module (p.denote c supply)) ∧
      (p.denote c supply).names = p.names := by
  let w := Workspace.new c supply
  have hready : w.Ready c := ⟨rfl, rfl, rfl, rfl⟩
  have hopen : Builder.openModule w =
      .ok ⟨0, .module⟩ (w.arrange [.module (.ofTable c.nameScheme [])] supply) := rfl
  have hbuilds : Builds [] [] [] := ⟨rfl, .nil, fun _ => rfl, rfl⟩
  obtain ⟨t, hitems, hbuilt⟩ := forM_build_eq_ok p (hready.arrange _ supply) rfl hbuilds hwf
  rw [List.nil_append, List.nil_append] at hbuilt
  have hsome : ∀ name ∈ t.names, (t.body? name).isSome := by
    intro name hmem
    rw [hbuilt.body?_eq]
    exact hwf.lookup_isSome hbuilt.keys_eq (hbuilt.names_eq ▸ hmem)
  have hassemble : (ModuleDraft.ofTable c.nameScheme t).assemble = .ok (p.denote c supply) := by
    rw [ModuleDraft.ofTable_assemble, Table.finish_eq_ok hbuilt.nodup hsome, hbuilt.names_eq]
    simp only [hbuilt.body?_eq]
    rfl
  have hclose : Builder.close ⟨0, .module⟩
      (w.arrange [.module (.ofTable c.nameScheme t)] (functions c supply p).2) =
        .ok () ((w.arrange [] (functions c supply p).2).withResult
          (some (.module (p.denote c supply)))) :=
    Builder.close_eq_ok rfl (closeHandle_eq_ok.mpr
      ⟨rfl, (exitTop_module rfl).mpr ⟨_, hassemble, rfl, rfl⟩⟩)
  exact ⟨_, Builder.withScope_eq_ok hopen hitems hclose, rfl, rfl, rfl,
    hwf.names_denote c supply hbuilt.keys_eq⟩

/-- A function whose body has a dataflow block between two bindings, and whose name is reserved before a
function without a name. -/
def sample : Program :=
  [.reserve "main",
    .function ⟨none, [], .object, none, [], [.op "id"], by simp⟩,
    .function ⟨some "main", [("x", ⟨0, "", false, none, none⟩)], .shape, none,
      [.emit (.op "a"), .block .dataflow [.emit (.op "b")], .emit (.op "c")],
      [.op "d", .op "e"], by simp⟩]

theorem sample_wellFormed : sample.WellFormed where
  nodup_defined := by decide
  nodup_reserved := by decide
  reserved_before before name after h := by
    rcases before with _ | ⟨_, _ | ⟨_, _ | ⟨_, before⟩⟩⟩ <;> simp_all [sample]
  reserved_defined := by decide

theorem build_denotes_sample :
    ∃ w', sample.build (Workspace.new {} ⟨1⟩) = .ok () w' ∧ w'.builder.frames = [] ∧
      w'.builder.failed = false ∧
      w'.builder.result = some (.module (sample.denote {} ⟨1⟩)) ∧
      (sample.denote {} ⟨1⟩).names = ["main", ""] :=
  build_denotes sample sample_wellFormed {} ⟨1⟩

end Program

end ScopedBuilder
