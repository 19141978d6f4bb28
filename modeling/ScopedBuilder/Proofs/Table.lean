import Mathlib.Data.List.Basic
import ScopedBuilder.Builder.ModuleDraft
import ScopedBuilder.Proofs.Outcome

/-!
# A module as one table

The reference for a module under construction: one list of names in order of registration, each with its
body as soon as it has one. A draft keeps names and bodies apart, linked by slots; it is the table with
its positions as slots.
-/

namespace ScopedBuilder

/-- A name that is free is not changed. -/
theorem NameScheme.fresh_of_notMem {scheme : NameScheme} {name : String} {taken : List String}
    (h : name ∉ taken) : scheme.fresh name taken = name := by
  cases scheme <;> simp [fresh, h]

/-- Names in order of registration, with their bodies. -/
abbrev Table := List (String × Option Func)

namespace Table

def names (t : Table) : List String := t.map (·.1)

def contains (t : Table) (name : String) : Bool := t.names.contains name

def body? (t : Table) (name : String) : Option Func := (t.lookup name).join

/-- Sets the body of a name, in place or at the end. -/
def put (name : String) (body : Option Func) : Table → Table
  | [] => [(name, body)]
  | (n, b) :: t => if n = name then (n, body) :: t else (n, b) :: put name body t

/-- Registers a name and returns the one that the scheme makes of it. -/
def register (scheme : NameScheme) (t : Table) (name : String) (body : Option Func) (rename : Bool)
    (op : Operation) : Except BuildError (String × Table) :=
  if !rename && t.contains name then .error (.duplicateFunction name op)
  else .ok (scheme.fresh name t.names, t.put (scheme.fresh name t.names) body)

def update (t : Table) (name : String) (f : Func) (first : Bool) (op : Operation) :
    Except BuildError Table :=
  if !t.contains name then .error (.unknownName name op)
  else if first && (t.body? name).isSome then .error (.alreadyDefined name op)
  else .ok (t.put name (some f))

/-- Takes in a function whose scope closes. -/
def define (scheme : NameScheme) (t : Table) (name : String) (f : Func) (op : Operation) :
    Except BuildError Table :=
  if t.contains name then t.update name f true op
  else (t.register scheme name (some f) false op).map (·.2)

/-- The names with their bodies, which all of them must have. -/
def finish : Table → Except BuildError (List (String × Func))
  | [] => .ok []
  | (name, none) :: _ => .error (.undefinedFunction name)
  | (name, some f) :: t => (finish t).map ((name, f) :: ·)

/-! ## Putting -/

variable {t : Table} {name : String} {body : Option Func}

@[simp] theorem contains_iff : t.contains name = true ↔ name ∈ t.names := by
  simp [contains]

@[simp] theorem contains_eq_false_iff : t.contains name = false ↔ name ∉ t.names := by
  simp [contains]

theorem put_of_notMem (h : name ∉ t.names) : t.put name body = t ++ [(name, body)] := by
  induction t with
  | nil => rfl
  | cons entry t ih =>
      simp only [names, List.map_cons, List.mem_cons, not_or] at h
      rw [put, if_neg (Ne.symm h.1), ih h.2, List.cons_append]

theorem names_put_of_mem (h : name ∈ t.names) : (t.put name body).names = t.names := by
  induction t with
  | nil => simp [names] at h
  | cons entry t ih =>
      by_cases hname : entry.1 = name
      · simp [put, hname, names]
      · have hmem : name ∈ names t := by simpa [names, Ne.symm hname] using h
        simpa [put, hname, names] using ih hmem

theorem names_put : (t.put name body).names =
    if name ∈ t.names then t.names else t.names ++ [name] := by
  split
  · exact names_put_of_mem ‹_›
  · rw [put_of_notMem ‹_›]
    simp [names]

theorem bodies_put_of_mem (h : name ∈ t.names) :
    (t.put name body).map (·.2) = (t.map (·.2)).set (t.names.idxOf name) body := by
  induction t with
  | nil => simp [names] at h
  | cons entry t ih =>
      by_cases hname : entry.1 = name
      · simp [put, hname, names]
      · have hmem : name ∈ names t := by simpa [names, Ne.symm hname] using h
        have hne : (entry.1 == name) = false := by simpa using hname
        simpa [put, hname, names, List.idxOf_cons, hne] using ih hmem

theorem body?_cons (n : String) (b : Option Func) (t : Table) (name : String) :
    body? ((n, b) :: t) name = if n = name then b else body? t name := by
  by_cases hname : n = name
  · simp [body?, hname]
  · have hne : (name == n) = false := by simpa using Ne.symm hname
    simp [body?, List.lookup_cons, hname, hne]

theorem body?_of_notMem (h : name ∉ t.names) : t.body? name = none := by
  induction t with
  | nil => rfl
  | cons entry t ih =>
      simp only [names, List.map_cons, List.mem_cons, not_or] at h
      rw [body?_cons, if_neg (Ne.symm h.1), ih h.2]

theorem body?_put (other : String) :
    (t.put name body).body? other = if name = other then body else t.body? other := by
  induction t with
  | nil => exact body?_cons name body [] other
  | cons entry t ih =>
      obtain ⟨n, b⟩ := entry
      by_cases hname : n = name
      · by_cases hother : name = other <;> simp [put, hname, body?_cons, hother]
      · by_cases hother : n = other
        · subst hother
          simp [put, hname, body?_cons, Ne.symm hname]
        · simp [put, hname, body?_cons, hother, ih]

theorem nodup_put (h : t.names.Nodup) : (t.put name body).names.Nodup := by
  rw [names_put]
  by_cases hname : name ∈ t.names
  · rw [if_pos hname]
    exact h
  · rw [if_neg hname]
    refine List.nodup_append.mpr ⟨h, by simp, ?_⟩
    intro n hn n' hn' heq
    rw [List.mem_singleton.mp hn'] at heq
    exact hname (heq ▸ hn)

theorem nodup_register {scheme : NameScheme} {rename : Bool} {op : Operation} {key : String}
    {t' : Table} (h : t.register scheme name body rename op = .ok (key, t'))
    (hnodup : t.names.Nodup) : t'.names.Nodup := by
  unfold register at h
  split at h <;> cases h
  exact nodup_put hnodup

theorem update_eq_ok {f : Func} {first : Bool} {op : Operation} {t' : Table}
    (h : t.update name f first op = .ok t') : t' = t.put name (some f) := by
  unfold update at h
  split at h
  · cases h
  · split at h <;> cases h
    rfl

theorem nodup_update {f : Func} {first : Bool} {op : Operation} {t' : Table}
    (h : t.update name f first op = .ok t') (hnodup : t.names.Nodup) : t'.names.Nodup := by
  rw [update_eq_ok h]
  exact nodup_put hnodup

theorem nodup_define {scheme : NameScheme} {f : Func} {op : Operation} {t' : Table}
    (h : t.define scheme name f op = .ok t') (hnodup : t.names.Nodup) : t'.names.Nodup := by
  unfold define at h
  split at h
  · exact nodup_update h hnodup
  · simp only [map_eq_ok, Prod.exists, exists_eq_right] at h
    obtain ⟨key, h⟩ := h
    exact nodup_register h hnodup

/-- A new name is registered as it is. -/
theorem register_eq_ok (h : name ∉ t.names) {scheme : NameScheme} {rename : Bool} {op : Operation} :
    t.register scheme name body rename op = .ok (name, t.put name body) := by
  have hcontains : t.contains name = false := contains_eq_false_iff.mpr h
  rw [register, hcontains, Bool.and_false, NameScheme.fresh_of_notMem h]
  rfl

/-- A function that a table takes in is there under its own name. -/
theorem body?_define {scheme : NameScheme} {f : Func} {op : Operation} {t' : Table}
    (h : t.define scheme name f op = .ok t') : t'.body? name = some f := by
  unfold define at h
  split at h
  · rw [update_eq_ok h, body?_put, if_pos rfl]
  · rename_i hcontains
    rw [register_eq_ok (by simpa using hcontains)] at h
    cases h
    rw [body?_put, if_pos rfl]

/-- A name without a body takes in a function. -/
theorem define_eq_ok (h : t.body? name = none) (scheme : NameScheme) (f : Func) (op : Operation) :
    t.define scheme name f op = .ok (t.put name (some f)) := by
  unfold define
  split
  · rename_i hcontains
    simp [update, hcontains, h]
  · rename_i hcontains
    rw [register_eq_ok (by simpa using hcontains)]
    rfl

/-- A table in which every name has a body is finished. -/
theorem finish_eq_ok (hnodup : t.names.Nodup) (h : ∀ name ∈ t.names, (t.body? name).isSome) :
    t.finish = .ok (t.names.filterMap fun name => (t.body? name).map (name, ·)) := by
  induction t with
  | nil => rfl
  | cons entry t ih =>
      obtain ⟨n, b⟩ := entry
      obtain ⟨hn, htail⟩ := List.nodup_cons.mp hnodup
      have hbody : ∀ name ∈ names t, body? ((n, b) :: t) name = body? t name := by
        intro name hmem
        rw [body?_cons, if_neg]
        rintro rfl
        exact hn hmem
      have hhead : body? ((n, b) :: t) n = b := by
        rw [body?_cons, if_pos rfl]
      cases b with
      | none => simpa [hhead] using h n List.mem_cons_self
      | some f =>
          have hrest := ih htail fun name hmem =>
            hbody name hmem ▸ h name (List.mem_cons_of_mem n hmem)
          have hnames : names ((n, some f) :: t) = n :: names t := rfl
          have hcongr : (names t).filterMap (fun name => (body? t name).map (name, ·)) =
              (names t).filterMap fun name => (body? ((n, some f) :: t) name).map (name, ·) :=
            List.filterMap_congr fun name hmem => by rw [hbody name hmem]
          rw [finish, hrest, hcongr, hnames, List.filterMap_cons, hhead]
          rfl

end Table

/-! ## The draft of a table -/

namespace ModuleDraft

/-- A module whose slots are the positions of the names in a table. -/
def ofTable (scheme : NameScheme) (t : Table) : ModuleDraft where
  scheme := scheme
  names := t.names.zipIdx.map fun x => (x.1, ⟨x.1, x.2⟩)
  slots := t.map (·.2)

variable {scheme : NameScheme} {t : Table} {name : String} {op : Operation}

@[simp] theorem ofTable_names : (ofTable scheme t).names.map (·.1) = t.names := by
  simp [ofTable, Function.comp_def]

theorem lookup_zipIdx (names : List String) (first : Nat) :
    ((names.zipIdx first).map fun x => (x.1, (⟨x.1, x.2⟩ : Global))).lookup name =
      if name ∈ names then some ⟨name, first + names.idxOf name⟩ else none := by
  induction names generalizing first with
  | nil => simp
  | cons n names ih =>
      by_cases hname : n = name
      · simp [hname]
      · have hne : (name == n) = false := by simpa using Ne.symm hname
        have hne' : (n == name) = false := by simpa using hname
        by_cases hmem : name ∈ names
        · simp [List.lookup_cons, hne, ih, hmem, List.idxOf_cons, hne']
          omega
        · simp [List.lookup_cons, hne, ih, hmem, Ne.symm hname]

theorem ofTable_global? :
    (ofTable scheme t).global? name =
      if name ∈ t.names then some ⟨name, t.names.idxOf name⟩ else none := by
  simpa [ofTable, global?] using lookup_zipIdx t.names 0

@[simp] theorem ofTable_contains : (ofTable scheme t).contains name = t.contains name := by
  rw [Bool.eq_iff_iff, Table.contains_iff, contains, ofTable_global?]
  by_cases hmem : name ∈ t.names <;> simp [hmem]

/-- The slot of a name holds its body. -/
theorem ofTable_definition? (hmem : name ∈ t.names) :
    (ofTable scheme t).definition? ⟨name, t.names.idxOf name⟩ = t.body? name := by
  simp only [definition?, ofTable]
  induction t with
  | nil => simp [Table.names] at hmem
  | cons entry t ih =>
      obtain ⟨n, b⟩ := entry
      by_cases hname : n = name
      · simp [Table.names, Table.body?_cons, hname]
      · have hmem' : name ∈ Table.names t := by simpa [Table.names, Ne.symm hname] using hmem
        have hne : (n == name) = false := by simpa using hname
        simpa [Table.names, Table.body?_cons, hname, List.idxOf_cons, hne] using ih hmem'

theorem ofTable_setSlot {body : Option Func} (hmem : name ∈ t.names) :
    (ofTable scheme t).setSlot ⟨name, t.names.idxOf name⟩ body =
      ofTable scheme (t.put name body) := by
  simp [ofTable, setSlot, Table.names_put_of_mem hmem, Table.bodies_put_of_mem hmem]

theorem ofTable_global?_bind :
    ((ofTable scheme t).global? name).bind (ofTable scheme t).definition? = t.body? name := by
  rw [ofTable_global?]
  split
  · rw [Option.bind_some, ofTable_definition? ‹_›]
  · rw [Table.body?_of_notMem ‹_›]
    rfl

theorem ofTable_isDefined : (ofTable scheme t).isDefined name = (t.body? name).isSome := by
  rw [isDefined, ofTable_global?_bind]

/-! ## The three ways of writing -/

theorem ofTable_register {body : Option Func} {rename : Bool} :
    (ofTable scheme t).register name body rename op =
      (t.register scheme name body rename op).map fun (key, t') =>
        (⟨key, t'.names.idxOf key⟩, ofTable scheme t') := by
  simp only [register, Table.register, ofTable_contains, ofTable_names]
  split
  · rfl
  · generalize hkey : (ofTable scheme t).scheme.fresh name t.names = key
    have hkey' : scheme.fresh name t.names = key := hkey
    simp only [hkey', ofTable_global?, Except.map]
    by_cases hmem : key ∈ t.names
    · simp [hmem, ofTable_setSlot, Table.names_put_of_mem]
    · rw [if_neg hmem, Table.put_of_notMem hmem]
      have hidx : (Table.names (t ++ [(key, body)])).idxOf key = t.length := by
        have hmem' : key ∉ t.map (·.1) := hmem
        simp [Table.names, List.idxOf_append, hmem']
      simp only [hidx, Except.ok.injEq, Prod.mk.injEq]
      simp [ofTable, Table.names, List.zipIdx_append]

theorem ofTable_update {f : Func} {first : Bool} :
    (ofTable scheme t).update name f first op = (t.update name f first op).map (ofTable scheme) := by
  simp only [update, Table.update, ofTable_global?]
  by_cases hmem : name ∈ t.names
  · have hcontains : t.contains name = true := Table.contains_iff.mpr hmem
    simp only [hmem, if_true, hcontains, ofTable_definition? hmem, ofTable_setSlot hmem]
    cases (first && (t.body? name).isSome) <;> rfl
  · have hcontains : t.contains name = false := by simpa using hmem
    simp [hmem, hcontains, Except.map]

theorem ofTable_define {f : Func} :
    (ofTable scheme t).define name f op = (t.define scheme name f op).map (ofTable scheme) := by
  simp only [define, Table.define, ofTable_contains, ofTable_update, ofTable_register]
  split
  · rfl
  · cases t.register scheme name (some f) false op <;> rfl

/-- The entries of a module from some position on. -/
theorem mapM_entry_ofTable (before t : Table) :
    ((t.names.zipIdx before.length).map fun x => (x.1, (⟨x.1, x.2⟩ : Global))).mapM
        (fun x => (ofTable scheme (before ++ t)).entry x.1 x.2) =
      t.finish.map fun entries =>
        (entries.zipIdx before.length).map fun x => ((⟨x.1.1, x.2⟩ : Global), x.1.2) := by
  induction t generalizing before with
  | nil => rfl
  | cons entry t ih =>
      obtain ⟨n, b⟩ := entry
      have hslot : (ofTable scheme (before ++ (n, b) :: t)).definition? ⟨n, before.length⟩ = b := by
        simp [ofTable, definition?]
      have hrest := ih (before ++ [(n, b)])
      simp only [List.append_assoc, List.singleton_append, List.length_append,
        List.length_singleton] at hrest
      have hnames : Table.names ((n, b) :: t) = n :: Table.names t := rfl
      rw [hnames, List.zipIdx_cons, List.map_cons, List.mapM_cons, hrest, ModuleDraft.entry, hslot]
      cases b with
      | none => rfl
      | some f => cases hfinish : Table.finish t <;> simp [Table.finish, hfinish, Except.map]

/-- The finished module has the bodies in the order of their names. -/
theorem ofTable_assemble :
    (ofTable scheme t).assemble =
      t.finish.map fun entries => ⟨entries.zipIdx.map fun x => (⟨x.1.1, x.2⟩, x.1.2)⟩ := by
  have h : (ofTable scheme t).assemble =
      ((t.names.zipIdx.map fun x => (x.1, (⟨x.1, x.2⟩ : Global))).mapM
        fun x => (ofTable scheme t).entry x.1 x.2).map Module.mk := rfl
  have hentries : ((t.names.zipIdx.map fun x => (x.1, (⟨x.1, x.2⟩ : Global))).mapM
        fun x => (ofTable scheme t).entry x.1 x.2) =
      t.finish.map fun entries => entries.zipIdx.map fun x => (⟨x.1.1, x.2⟩, x.1.2) :=
    mapM_entry_ofTable [] t
  rw [h, hentries]
  cases t.finish <;> rfl

end ModuleDraft

end ScopedBuilder
