import ScopedBuilder.Proofs.ConfigText
import ScopedBuilder.Proofs.Outcome
import ScopedBuilder.Proofs.Toml.Table

/-!
# The tables that give settings

Which entries a document may have, what settings they give, and which error stands for which fault. The
entries are taken one by one on top of the defaults; since each key is there once, their order does not
matter unless one of them is wrong.
-/

namespace ScopedBuilder

open Toml

/-! ## What entries may say -/

namespace Toml.Value

/-- The name that a value gives to a policy: a text, or the only key of a table. -/
inductive Names : Value → String → Prop where
  | text (name : String) : Names (.string name) name
  | table (form : TableForm) (name : String) (content : Value) : Names (.table form [(name, content)]) name

/-- A policy by its name, or by a table with the name as its only key and nothing below it. -/
inductive Denotes : Value → NamingPolicy → Prop where
  | text (policy : NamingPolicy) : Denotes (.string policy.text) policy
  | emptyTable (form inner : TableForm) (policy : NamingPolicy) :
      Denotes (.table form [(policy.text, .table inner [])]) policy
  | emptyArray (form : TableForm) (policy : NamingPolicy) :
      Denotes (.table form [(policy.text, .array [])]) policy

end Toml.Value

namespace Config

/-- The keys whose values are texts. -/
def textKeys : List String := ["suffix_separator", "binding_var_prefix", "dataflow_var_prefix"]

def keys : List String := "naming" :: "global_symbol_attr" :: textKeys

/-- An entry that gives a setting a value of its type. -/
inductive Admissible : String → Value → Prop where
  | naming {policy : NamingPolicy} {v : Value} : v.Denotes policy → Admissible "naming" v
  | text {key : String} (s : String) : key ∈ textKeys → Admissible key (.string s)
  | boolean (b : Bool) : Admissible "global_symbol_attr" (.boolean b)

/-- Settings with the value of an entry. -/
inductive Has (c : Config) : String → Value → Prop where
  | naming {v : Value} : v.Denotes c.naming → Has c "naming" v
  | suffixSeparator : Has c "suffix_separator" (.string c.suffixSeparator)
  | recordSymbol : Has c "global_symbol_attr" (.boolean c.recordSymbol)
  | ordinaryStem : Has c "binding_var_prefix" (.string c.ordinaryStem)
  | dataflowStem : Has c "dataflow_var_prefix" (.string c.dataflowStem)

/-- Settings in which each entry has its value, and the rest are the defaults. -/
structure Given (c : Config) (entries : Entries) : Prop where
  present : ∀ x ∈ entries, c.Has x.1 x.2
  absent : ∀ key v, key ∉ entries.map Prod.fst → ({} : Config).Has key v → c.Has key v

/-- What is wrong with an entry, and how it is reported. -/
inductive Fault : String → Value → ConfigError → Prop where
  | unknownKey {key : String} (v : Value) : key ∉ keys → Fault key v (.unknownKey key)
  | text {key : String} {v : Value} : key ∈ textKeys → (∀ s, v ≠ .string s) →
      Fault key v (.wrongType v .string)
  | boolean {v : Value} : (∀ b, v ≠ .boolean b) → Fault "global_symbol_attr" v (.wrongType v .boolean)
  | unknownPolicy {v : Value} {name : String} : v.Names name → (∀ policy, NamingPolicy.text policy ≠ name) →
      Fault "naming" v (.unknownPolicy name)
  | unreadablePolicy {v : Value} : (∀ name, v.Names name → ∃ policy, NamingPolicy.text policy = name) →
      (∀ policy, ¬ v.Denotes policy) → Fault "naming" v .unreadablePolicy

end Config

/-! ## Single values -/

namespace NamingPolicy

variable {v : Value} {name : String} {policy : NamingPolicy} {e : ConfigError}

theorem ofName_eq_ok : ofName name = .ok policy ↔ policy.text = name := by
  constructor
  · intro h
    unfold ofName ofText? at h
    split at h
    · rename_i htext
      cases h
      split at htext
      · cases htext
        exact Eq.symm ‹_›
      · split at htext <;> cases htext
        exact Eq.symm ‹_›
    · cases h
  · rintro rfl
    rw [ofName, ofText?_text]

theorem ofName_eq_error :
    ofName name = .error e ↔ (∀ policy, text policy ≠ name) ∧ e = .unknownPolicy name := by
  cases hname : ofName name with
  | ok policy =>
      simp only [reduceCtorEq, false_iff, not_and]
      exact fun h => absurd (ofName_eq_ok.mp hname) (h policy)
  | error cause =>
      have hnone : ∀ policy, text policy ≠ name := fun policy htext => by
        rw [ofName_eq_ok.mpr htext] at hname
        cases hname
      have hcause : cause = .unknownPolicy name := by
        unfold ofName at hname
        split at hname <;> cases hname
        rfl
      simp only [hcause, Except.error.injEq, hnone, ne_eq, not_false_eq_true, implies_true, true_and, eq_comm]

theorem ofValue_eq_ok : ofValue v = .ok policy ↔ v.Denotes policy := by
  constructor
  · intro h
    unfold ofValue at h
    split at h
    · rw [← ofName_eq_ok.mp h]
      exact .text policy
    · obtain ⟨policy', hname, hcontent⟩ := except_bind_eq_ok.mp h
      rw [← ofName_eq_ok.mp hname]
      split at hcontent
      · cases hcontent
        exact .emptyTable _ _ policy
      · cases hcontent
        exact .emptyArray _ policy
      · cases hcontent
    · cases h
  · intro h
    cases h with
    | text => exact ofName_eq_ok.mpr rfl
    | emptyTable | emptyArray =>
        rw [ofValue, ofName_eq_ok.mpr rfl]
        rfl

theorem eq_of_denotes {policy' : NamingPolicy} (h : v.Denotes policy) (h' : v.Denotes policy') :
    policy = policy' :=
  Except.ok.inj ((ofValue_eq_ok.mpr h).symm.trans (ofValue_eq_ok.mpr h'))

theorem ofValue_of_unknown (hname : v.Names name) (hnone : ∀ policy, text policy ≠ name) :
    ofValue v = .error (.unknownPolicy name) := by
  have herror : ofName name = .error (.unknownPolicy name) := ofName_eq_error.mpr ⟨hnone, rfl⟩
  cases hname with
  | text => exact herror
  | table =>
      rw [ofValue, herror]
      rfl

theorem ofValue_of_unreadable (hknown : ∀ name, v.Names name → ∃ policy, text policy = name)
    (hnone : ∀ policy, ¬ v.Denotes policy) : ofValue v = .error .unreadablePolicy := by
  unfold ofValue
  split
  · obtain ⟨policy, rfl⟩ := hknown _ (.text _)
    exact absurd (.text policy) (hnone policy)
  · obtain ⟨policy, rfl⟩ := hknown _ (.table _ _ _)
    rw [ofName_eq_ok.mpr rfl]
    dsimp only [bind, Except.bind]
    split
    · exact absurd (.emptyTable _ _ policy) (hnone policy)
    · exact absurd (.emptyArray _ policy) (hnone policy)
    · rfl
  · rfl

/-- What is wrong with a value that stands for no policy. -/
theorem fault_of_ofValue (h : ofValue v = .error e) : Config.Fault "naming" v e := by
  have hnone : ∀ policy, ¬ v.Denotes policy := by
    intro policy hpolicy
    rw [ofValue_eq_ok.mpr hpolicy] at h
    cases h
  unfold ofValue at h
  split at h
  · obtain ⟨hname, rfl⟩ := ofName_eq_error.mp h
    exact .unknownPolicy (.text _) hname
  · rcases except_bind_eq_error.mp h with herror | ⟨policy, hname, hcontent⟩
    · obtain ⟨hname, rfl⟩ := ofName_eq_error.mp herror
      exact .unknownPolicy (.table _ _ _) hname
    · have hcause : e = .unreadablePolicy := by
        split at hcontent <;> cases hcontent
        rfl
      rw [hcause]
      refine .unreadablePolicy ?_ hnone
      rintro _ ⟨⟩
      exact ⟨policy, ofName_eq_ok.mp hname⟩
  · rename_i htext htable
    cases h
    refine .unreadablePolicy ?_ hnone
    rintro name hname
    cases hname with
    | text => exact absurd rfl (htext name)
    | table form _ content => exact absurd rfl (htable form name content)

end NamingPolicy

namespace Config

variable {c c' : Config} {key : String} {v : Value} {e : ConfigError}

theorem textOf_eq_ok {s : String} : textOf v = .ok s ↔ v = .string s := by
  cases v <;> simp [textOf]

theorem textOf_eq_error : textOf v = .error e ↔ (∀ s, v ≠ .string s) ∧ e = .wrongType v .string := by
  cases v <;> simp [textOf, eq_comm]

theorem boolOf_eq_ok {b : Bool} : boolOf v = .ok b ↔ v = .boolean b := by
  cases v <;> simp [boolOf]

theorem boolOf_eq_error : boolOf v = .error e ↔ (∀ b, v ≠ .boolean b) ∧ e = .wrongType v .boolean := by
  cases v <;> simp [boolOf, eq_comm]

/-! ## Single entries -/

theorem set_naming : c.set "naming" v = (NamingPolicy.ofValue v).map ({ c with naming := · }) := rfl

theorem set_suffixSeparator :
    c.set "suffix_separator" v = (textOf v).map ({ c with suffixSeparator := · }) := rfl

theorem set_recordSymbol : c.set "global_symbol_attr" v = (boolOf v).map ({ c with recordSymbol := · }) := rfl

theorem set_ordinaryStem : c.set "binding_var_prefix" v = (textOf v).map ({ c with ordinaryStem := · }) := rfl

theorem set_dataflowStem : c.set "dataflow_var_prefix" v = (textOf v).map ({ c with dataflowStem := · }) := rfl

theorem mem_keys : key ∈ keys ↔ key = "naming" ∨ key = "suffix_separator" ∨ key = "global_symbol_attr" ∨
    key = "binding_var_prefix" ∨ key = "dataflow_var_prefix" := by
  simp [keys, textKeys, or_left_comm]

theorem set_of_notMem (h : key ∉ keys) : c.set key v = .error (.unknownKey key) := by
  simp only [mem_keys, not_or] at h
  obtain ⟨hnaming, hsuffix, hsymbol, hordinary, hdataflow⟩ := h
  rw [set, if_neg hnaming, if_neg hsuffix, if_neg hsymbol, if_neg hordinary, if_neg hdataflow]

/-- The settings after an entry that is as it should be. -/
inductive Sets (c : Config) : String → Value → Config → Prop where
  | naming {v : Value} {policy : NamingPolicy} :
    v.Denotes policy → Sets c "naming" v { c with naming := policy }
  | suffixSeparator (s : String) : Sets c "suffix_separator" (.string s) { c with suffixSeparator := s }
  | recordSymbol (b : Bool) : Sets c "global_symbol_attr" (.boolean b) { c with recordSymbol := b }
  | ordinaryStem (s : String) : Sets c "binding_var_prefix" (.string s) { c with ordinaryStem := s }
  | dataflowStem (s : String) : Sets c "dataflow_var_prefix" (.string s) { c with dataflowStem := s }

theorem sets_of_set (h : c.set key v = .ok c') : c.Sets key v c' := by
  by_cases hkey : key ∈ keys
  · rcases mem_keys.mp hkey with rfl | rfl | rfl | rfl | rfl
    · obtain ⟨policy, hpolicy, rfl⟩ := map_eq_ok.mp (set_naming.symm.trans h)
      exact .naming (NamingPolicy.ofValue_eq_ok.mp hpolicy)
    · obtain ⟨s, hs, rfl⟩ := map_eq_ok.mp (set_suffixSeparator.symm.trans h)
      exact textOf_eq_ok.mp hs ▸ .suffixSeparator s
    · obtain ⟨b, hb, rfl⟩ := map_eq_ok.mp (set_recordSymbol.symm.trans h)
      exact boolOf_eq_ok.mp hb ▸ .recordSymbol b
    · obtain ⟨s, hs, rfl⟩ := map_eq_ok.mp (set_ordinaryStem.symm.trans h)
      exact textOf_eq_ok.mp hs ▸ .ordinaryStem s
    · obtain ⟨s, hs, rfl⟩ := map_eq_ok.mp (set_dataflowStem.symm.trans h)
      exact textOf_eq_ok.mp hs ▸ .dataflowStem s
  · rw [set_of_notMem hkey] at h
    cases h

theorem set_of_sets (h : c.Sets key v c') : c.set key v = .ok c' := by
  cases h with
  | naming h => rw [set_naming, NamingPolicy.ofValue_eq_ok.mpr h, Except.map]
  | suffixSeparator | recordSymbol | ordinaryStem | dataflowStem => rfl

/-- What is wrong with an entry that is refused. -/
theorem fault_of_set (h : c.set key v = .error e) : Fault key v e := by
  by_cases hkey : key ∈ keys
  · have htext (hmem : key ∈ textKeys) (herror : textOf v = .error e) : Fault key v e := by
      obtain ⟨hnone, rfl⟩ := textOf_eq_error.mp herror
      exact .text hmem hnone
    rcases mem_keys.mp hkey with rfl | rfl | rfl | rfl | rfl
    · exact NamingPolicy.fault_of_ofValue (map_eq_error.mp (set_naming.symm.trans h))
    · exact htext (by decide) (map_eq_error.mp (set_suffixSeparator.symm.trans h))
    · obtain ⟨hnone, rfl⟩ := boolOf_eq_error.mp (map_eq_error.mp (set_recordSymbol.symm.trans h))
      exact .boolean hnone
    · exact htext (by decide) (map_eq_error.mp (set_ordinaryStem.symm.trans h))
    · exact htext (by decide) (map_eq_error.mp (set_dataflowStem.symm.trans h))
  · cases (set_of_notMem hkey).symm.trans h
    exact .unknownKey v hkey

theorem set_of_fault (h : Fault key v e) : c.set key v = .error e := by
  cases h with
  | unknownKey _ hkey => exact set_of_notMem hkey
  | text hkey hnone =>
      have herror : textOf v = .error (.wrongType v .string) := textOf_eq_error.mpr ⟨hnone, rfl⟩
      simp only [textKeys, List.mem_cons, List.not_mem_nil, or_false] at hkey
      rcases hkey with rfl | rfl | rfl
      · rw [set_suffixSeparator, herror, Except.map]
      · rw [set_ordinaryStem, herror, Except.map]
      · rw [set_dataflowStem, herror, Except.map]
  | boolean hnone => rw [set_recordSymbol, boolOf_eq_error.mpr ⟨hnone, rfl⟩, Except.map]
  | unknownPolicy hname hnone => rw [set_naming, NamingPolicy.ofValue_of_unknown hname hnone, Except.map]
  | unreadablePolicy hknown hnone =>
      rw [set_naming, NamingPolicy.ofValue_of_unreadable hknown hnone, Except.map]

theorem Admissible.exists_sets (h : Admissible key v) (c : Config) : ∃ c', c.Sets key v c' := by
  cases h with
  | naming h => exact ⟨_, .naming h⟩
  | boolean b => exact ⟨_, .recordSymbol b⟩
  | text s hkey =>
      simp only [textKeys, List.mem_cons, List.not_mem_nil, or_false] at hkey
      rcases hkey with rfl | rfl | rfl
      · exact ⟨_, .suffixSeparator s⟩
      · exact ⟨_, .ordinaryStem s⟩
      · exact ⟨_, .dataflowStem s⟩

theorem Sets.has (h : c.Sets key v c') : c'.Has key v := by
  cases h with
  | naming h => exact .naming h
  | suffixSeparator => exact .suffixSeparator
  | recordSymbol => exact .recordSymbol
  | ordinaryStem => exact .ordinaryStem
  | dataflowStem => exact .dataflowStem

/-- An entry leaves the settings of the other keys alone. -/
theorem Sets.has_of_ne {key' : String} {v' : Value} (h : c.Sets key v c') (hkey : key' ≠ key)
    (hhas : c.Has key' v') : c'.Has key' v' := by
  cases hhas with
  | naming hpolicy => cases h <;> first | exact absurd rfl hkey | exact .naming hpolicy
  | suffixSeparator => cases h <;> first | exact absurd rfl hkey | exact .suffixSeparator
  | recordSymbol => cases h <;> first | exact absurd rfl hkey | exact .recordSymbol
  | ordinaryStem => cases h <;> first | exact absurd rfl hkey | exact .ordinaryStem
  | dataflowStem => cases h <;> first | exact absurd rfl hkey | exact .dataflowStem

theorem Has.admissible (h : c.Has key v) : Admissible key v := by
  cases h with
  | naming h => exact .naming h
  | recordSymbol => exact .boolean _
  | suffixSeparator | ordinaryStem | dataflowStem => exact .text _ (by decide)

/-- An entry is taken or refused whatever the settings are. -/
theorem set_eq_ok_iff : (∃ c', c.set key v = .ok c') ↔ Admissible key v := by
  constructor
  · rintro ⟨c', h⟩
    exact (sets_of_set h).has.admissible
  · intro h
    obtain ⟨c', hsets⟩ := h.exists_sets c
    exact ⟨c', set_of_sets hsets⟩

/-! ## Settings are determined by their entries -/

theorem has_iff : c.Has key v ↔
    key = "naming" ∧ v.Denotes c.naming ∨
      key = "suffix_separator" ∧ v = .string c.suffixSeparator ∨
      key = "global_symbol_attr" ∧ v = .boolean c.recordSymbol ∨
      key = "binding_var_prefix" ∧ v = .string c.ordinaryStem ∨
      key = "dataflow_var_prefix" ∧ v = .string c.dataflowStem := by
  constructor
  · intro h
    cases h with
    | naming h => simpa using h
    | _ => simp
  · rintro (⟨rfl, h⟩ | ⟨rfl, rfl⟩ | ⟨rfl, rfl⟩ | ⟨rfl, rfl⟩ | ⟨rfl, rfl⟩)
    · exact .naming h
    · exact .suffixSeparator
    · exact .recordSymbol
    · exact .ordinaryStem
    · exact .dataflowStem

theorem exists_has (c : Config) (hkey : key ∈ keys) : ∃ v, c.Has key v := by
  rcases mem_keys.mp hkey with rfl | rfl | rfl | rfl | rfl
  · exact ⟨_, .naming (.text c.naming)⟩
  · exact ⟨_, .suffixSeparator⟩
  · exact ⟨_, .recordSymbol⟩
  · exact ⟨_, .ordinaryStem⟩
  · exact ⟨_, .dataflowStem⟩

/-- Settings that agree in every key are the same. -/
theorem eq_of_has (h : ∀ key ∈ keys, ∃ v, c.Has key v ∧ c'.Has key v) : c = c' := by
  obtain ⟨naming, suffixSeparator, recordSymbol, ordinaryStem, dataflowStem⟩ := c
  obtain ⟨naming', suffixSeparator', recordSymbol', ordinaryStem', dataflowStem'⟩ := c'
  have hfields : (∃ v : Value, v.Denotes naming ∧ v.Denotes naming') ∧ recordSymbol = recordSymbol' ∧
      suffixSeparator = suffixSeparator' ∧ ordinaryStem = ordinaryStem' ∧ dataflowStem = dataflowStem' := by
    simpa [keys, textKeys, has_iff] using h
  obtain ⟨⟨v, hnaming, hnaming'⟩, rfl, rfl, rfl, rfl⟩ := hfields
  rw [NamingPolicy.eq_of_denotes hnaming hnaming']

namespace Given

variable {entries past : Entries}

theorem nil : Given {} [] where
  present := nofun
  absent _ _ _ h := h

/-- The same entries give the same settings. -/
theorem unique (h : c.Given entries) (h' : c'.Given entries) : c = c' := by
  refine eq_of_has fun key hkey => ?_
  by_cases hmem : key ∈ entries.map Prod.fst
  · obtain ⟨x, hx, rfl⟩ := List.mem_map.mp hmem
    exact ⟨x.2, h.present x hx, h'.present x hx⟩
  · obtain ⟨v, hv⟩ := exists_has {} hkey
    exact ⟨v, h.absent key v hmem hv, h'.absent key v hmem hv⟩

theorem perm {entries' : Entries} (h : c.Given entries) (hperm : entries.Perm entries') : c.Given entries' where
  present x hx := h.present x (hperm.mem_iff.mpr hx)
  absent key v hkey hv := h.absent key v (fun hmem => hkey ((hperm.map Prod.fst).mem_iff.mp hmem)) hv

theorem concat (h : c.Given past) (hkey : key ∉ past.map Prod.fst) (hsets : c.Sets key v c') :
    c'.Given (past ++ [(key, v)]) where
  present x hx := by
    rcases List.mem_append.mp hx with hpast | hlast
    · have hne : x.1 ≠ key := fun heq => hkey (heq ▸ List.mem_map_of_mem hpast)
      exact hsets.has_of_ne hne (h.present x hpast)
    · rw [List.mem_singleton.mp hlast]
      exact hsets.has
  absent key' v' hmem hv' := by
    simp only [List.map_append, List.map_cons, List.map_nil, List.mem_append, List.mem_singleton,
      not_or] at hmem
    exact hsets.has_of_ne hmem.2 (h.absent key' v' hmem.1 hv')

end Given

/-! ## Runs of entries -/

section Entries

variable {entries past : Entries}

theorem ofEntries_eq : ofEntries entries = entries.foldlM (fun c x => c.set x.1 x.2) {} := rfl

/-- After each entry the settings are those that the entries so far give. -/
theorem given_foldlM (h : c.Given past) (hdistinct : Entries.Distinct (past ++ entries))
    (hfold : entries.foldlM (fun c x => c.set x.1 x.2) c = .ok c') : c'.Given (past ++ entries) := by
  induction entries generalizing past c with
  | nil =>
      cases hfold
      rwa [List.append_nil]
  | cons x entries ih =>
      rw [List.foldlM_cons] at hfold
      obtain ⟨next, hset, hrest⟩ := except_bind_eq_ok.mp hfold
      have hkey : x.1 ∉ past.map Prod.fst := by
        intro hmem
        rw [Entries.Distinct, List.map_append] at hdistinct
        exact (List.nodup_append.mp hdistinct).2.2 x.1 hmem x.1 List.mem_cons_self rfl
      have hnext := h.concat hkey (sets_of_set hset)
      have hsplit : past ++ x :: entries = (past ++ [x]) ++ entries := by simp
      rw [hsplit] at hdistinct ⊢
      exact ih hnext hdistinct hrest

theorem foldlM_eq_ok_iff :
    (∃ c', entries.foldlM (fun c x => c.set x.1 x.2) c = .ok c') ↔ ∀ x ∈ entries, Admissible x.1 x.2 := by
  induction entries generalizing c with
  | nil => exact ⟨nofun, fun _ => ⟨c, rfl⟩⟩
  | cons x entries ih =>
      simp only [List.foldlM_cons, except_bind_eq_ok, List.forall_mem_cons]
      constructor
      · rintro ⟨c', next, hset, hrest⟩
        exact ⟨set_eq_ok_iff.mp ⟨next, hset⟩, ih.mp ⟨c', hrest⟩⟩
      · rintro ⟨hx, hentries⟩
        obtain ⟨next, hset⟩ := set_eq_ok_iff.mpr hx
        obtain ⟨c', hrest⟩ := ih.mpr hentries
        exact ⟨c', next, hset, hrest⟩

/-- The first entry that is wrong is the one that is reported. -/
theorem foldlM_eq_error_iff :
    entries.foldlM (fun c x => c.set x.1 x.2) c = .error e ↔
      ∃ before x after, entries = before ++ x :: after ∧ (∀ y ∈ before, Admissible y.1 y.2) ∧
        Fault x.1 x.2 e := by
  induction entries generalizing c with
  | nil =>
      constructor
      · intro h
        cases h
      · rintro ⟨before, x, after, h, -⟩
        exact absurd h.symm (by simp)
  | cons x entries ih =>
      rw [List.foldlM_cons, except_bind_eq_error]
      constructor
      · rintro (hset | ⟨next, hset, hrest⟩)
        · exact ⟨[], x, entries, rfl, nofun, fault_of_set hset⟩
        · obtain ⟨before, y, after, rfl, hbefore, hfault⟩ := ih.mp hrest
          refine ⟨x :: before, y, after, rfl, ?_, hfault⟩
          exact List.forall_mem_cons.mpr ⟨set_eq_ok_iff.mp ⟨next, hset⟩, hbefore⟩
      · rintro ⟨before, y, after, heq, hbefore, hfault⟩
        cases before with
        | nil =>
            cases heq
            exact .inl (set_of_fault hfault)
        | cons x' before =>
            cases heq
            obtain ⟨hx, hbefore⟩ := List.forall_mem_cons.mp hbefore
            obtain ⟨next, hset⟩ := set_eq_ok_iff.mpr hx
            exact .inr ⟨next, hset, ih.mpr ⟨before, y, after, rfl, hbefore, hfault⟩⟩

theorem ofEntries_eq_ok_iff (hdistinct : entries.Distinct) : ofEntries entries = .ok c ↔ c.Given entries := by
  rw [ofEntries_eq]
  constructor
  · intro h
    exact given_foldlM .nil hdistinct h
  · intro h
    obtain ⟨c', hfold⟩ := foldlM_eq_ok_iff.mpr fun x hx => (h.present x hx).admissible
    rw [hfold, h.unique (given_foldlM .nil hdistinct hfold)]

end Entries

/-- What a document gives whose statements can be read. It is accepted exactly if each key is one of the
settings, with a value of its type; then a key that is there has its value, one that is not has its default,
and the order makes no difference. Otherwise the error is that of the first entry that is wrong. -/
theorem ofToml_eq_iff {document : String} {entries : Entries} (h : entriesOf? document = some entries) :
    ((∃ c, ofToml document = .ok c) ↔ ∀ x ∈ entries, Admissible x.1 x.2) ∧
    (∀ c, ofToml document = .ok c ↔ c.Given entries) ∧
    (∀ e, ofToml document = .error e ↔
      ∃ before x after, entries = before ++ x :: after ∧ (∀ y ∈ before, Admissible y.1 y.2) ∧
        Fault x.1 x.2 e) ∧
    ∀ document' entries', entriesOf? document' = some entries' → entries'.Perm entries →
      ∀ c, ofToml document' = .ok c ↔ ofToml document = .ok c := by
  have hread {document : String} {entries : Entries} (h : entriesOf? document = some entries) :
      ofToml document = ofEntries entries := by
    rw [ofToml, h]
  have hgiven {document : String} {entries : Entries} (h : entriesOf? document = some entries) (c : Config) :
      ofToml document = .ok c ↔ c.Given entries := by
    rw [hread h, ofEntries_eq_ok_iff (distinct_entriesOf? h)]
  refine ⟨?_, hgiven h, ?_, ?_⟩
  · rw [hread h]
    exact foldlM_eq_ok_iff
  · intro e
    rw [hread h]
    exact foldlM_eq_error_iff
  · intro document' entries' h' hperm c
    rw [hgiven h', hgiven h]
    exact ⟨fun hc => hc.perm hperm, fun hc => hc.perm hperm.symm⟩

/-- Two settings in either order, the policy as a table. -/
theorem ofToml_eq_iff_two_settings :
    let document := "binding_var_prefix = 'v'\nnaming.identity = []\n"
    let document' := "naming.identity = []\nbinding_var_prefix = 'v'\n"
    let c : Config := { naming := .identity, ordinaryStem := "v" }
    ∃ entries entries', entriesOf? document = some entries ∧ entriesOf? document' = some entries' ∧
      entries'.Perm entries ∧ c.Given entries ∧ ofToml document' = .ok c := by
  have hread : entriesOf? "binding_var_prefix = 'v'\nnaming.identity = []\n" = some
      [("binding_var_prefix", .string "v"), ("naming", .table .dotted [("identity", .array [])])] := by rfl
  have hread' : entriesOf? "naming.identity = []\nbinding_var_prefix = 'v'\n" = some
      [("naming", .table .dotted [("identity", .array [])]), ("binding_var_prefix", .string "v")] := by rfl
  obtain ⟨-, hgiven, -, hperm⟩ := ofToml_eq_iff hread
  have hok : ofToml "binding_var_prefix = 'v'\nnaming.identity = []\n" =
      .ok { naming := .identity, ordinaryStem := "v" } := by rfl
  exact ⟨_, _, hread, hread', .swap _ _ [], (hgiven _).mp hok, (hperm _ _ hread' (.swap _ _ []) _).mpr hok⟩

end Config

end ScopedBuilder
