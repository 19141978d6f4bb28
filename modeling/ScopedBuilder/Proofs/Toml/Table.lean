import ScopedBuilder.Toml.Reader

/-!
# The keys of a document

However a document is divided into lines, headers and dotted keys, its table has each key once: a key that
is there is given a new value at its place, moved, or refused.
-/

namespace ScopedBuilder.Toml

namespace Entries

/-- Each key is there once. -/
def Distinct (entries : Entries) : Prop := (entries.map Prod.fst).Nodup

variable {entries entries' : Entries} {key : String} {value : Value}

theorem distinct_nil : Distinct [] := List.nodup_nil

theorem map_fst_replace : (entries.replace key value).map Prod.fst = entries.map Prod.fst := by
  simp only [replace, List.map_map]
  refine List.map_congr_left fun x _ => ?_
  dsimp only [Function.comp_apply]
  split <;> rfl

theorem Distinct.replace (h : entries.Distinct) : (entries.replace key value).Distinct := by
  rw [Distinct, map_fst_replace]
  exact h

theorem Distinct.concat (h : entries.Distinct) (hkey : ∀ x ∈ entries, x.1 ≠ key) :
    Distinct (entries ++ [(key, value)]) := by
  rw [Distinct, List.map_append, List.nodup_append]
  refine ⟨h, by simp, ?_⟩
  intro other hother last hlast
  obtain ⟨x, hx, rfl⟩ := List.mem_map.mp hother
  rw [List.mem_singleton.mp hlast]
  exact hkey x hx

theorem ne_of_lookup_eq_none (h : entries.lookup key = none) : ∀ x ∈ entries, x.1 ≠ key := by
  intro x hx heq
  simpa [heq] using List.lookup_eq_none_iff.mp h x hx

/-- A change further in gives the first key of its path another value, or adds it. -/
theorem Distinct.alter? {finder : Finder} {change : TableForm → Entries → Option Entries}
    {path : List String} {form : TableForm} (h : entries.Distinct)
    (hchange : ∀ entries', change form entries = some entries' → entries'.Distinct)
    (halter : Entries.alter? finder change path form entries = some entries') : entries'.Distinct := by
  cases path with
  | nil => exact hchange entries' halter
  | cons key path =>
      rw [Entries.alter?] at halter
      split at halter
      · rename_i hlookup
        obtain ⟨inner, -, heq⟩ := Option.bind_eq_some_iff.mp halter
        cases heq
        exact h.concat (ne_of_lookup_eq_none hlookup)
      · split at halter
        · obtain ⟨inner, -, heq⟩ := Option.bind_eq_some_iff.mp halter
          cases heq
          exact h.replace
        · cases halter
      · obtain ⟨last, -, hlast⟩ := Option.bind_eq_some_iff.mp halter
        obtain ⟨inner, -, heq⟩ := Option.bind_eq_some_iff.mp hlast
        cases heq
        exact h.replace
      · cases halter

theorem Distinct.add? (h : entries.Distinct) (hadd : entries.add? key value = some entries') :
    entries'.Distinct := by
  unfold Entries.add? at hadd
  split at hadd
  · cases hadd
  · rename_i hlookup
    cases hadd
    exact h.concat (ne_of_lookup_eq_none (Option.not_isSome_iff_eq_none.mp hlookup))

theorem Distinct.addEntry? {path : KeyPath} {form : TableForm} (h : entries.Distinct)
    (hadd : entries.addEntry? path value form = some entries') : entries'.Distinct := by
  refine h.alter? ?_ hadd
  intro entries' hchange
  split at hchange
  · exact h.add? hchange
  · cases hchange

/-- A table that moves to the end has left its place. -/
theorem Distinct.openTable? (h : entries.Distinct) (hopen : entries.openTable? key = some entries') :
    entries'.Distinct := by
  unfold Entries.openTable? at hopen
  split at hopen
  · rename_i hlookup
    cases hopen
    exact h.concat (ne_of_lookup_eq_none hlookup)
  · cases hopen
    have hrest : Distinct (entries.filter (·.1 ≠ key)) :=
      List.Nodup.sublist (List.filter_sublist.map Prod.fst) h
    exact hrest.concat fun x hx => by simpa using (List.mem_filter.mp hx).2
  · cases hopen

theorem Distinct.openElement? (h : entries.Distinct)
    (hopen : entries.openElement? key = some entries') : entries'.Distinct := by
  unfold Entries.openElement? at hopen
  split at hopen
  · rename_i hlookup
    cases hopen
    exact h.concat (ne_of_lookup_eq_none hlookup)
  · cases hopen
    exact h.replace
  · cases hopen

end Entries

/-! ## Documents -/

theorem PartialDocument.distinct_add? {d d' : PartialDocument} {statement : Statement}
    (h : d.entries.Distinct) (hadd : d.add? statement = some d') : d'.entries.Distinct := by
  cases statement with
  | header path =>
      obtain ⟨entries, halter, heq⟩ := Option.bind_eq_some_iff.mp hadd
      cases heq
      exact h.alter? (fun _ hopen => h.openTable? hopen) halter
  | element path =>
      obtain ⟨entries, halter, heq⟩ := Option.bind_eq_some_iff.mp hadd
      cases heq
      exact h.alter? (fun _ hopen => h.openElement? hopen) halter
  | entry path value =>
      obtain ⟨entries, halter, heq⟩ := Option.bind_eq_some_iff.mp hadd
      cases heq
      exact h.alter? (fun _ hentry => h.addEntry? hentry) halter

theorem PartialDocument.distinct_foldlM {d d' : PartialDocument} {statements : List Statement}
    (h : d.entries.Distinct) (hfold : statements.foldlM PartialDocument.add? d = some d') :
    d'.entries.Distinct := by
  induction statements generalizing d with
  | nil =>
      cases hfold
      exact h
  | cons statement statements ih =>
      rw [List.foldlM_cons] at hfold
      obtain ⟨next, hnext, hrest⟩ := Option.bind_eq_some_iff.mp hfold
      exact ih (distinct_add? h hnext) hrest

theorem distinct_entriesOf? {document : String} {entries : Entries}
    (h : entriesOf? document = some entries) : entries.Distinct := by
  obtain ⟨statements, -, hstatements⟩ := Option.bind_eq_some_iff.mp h
  obtain ⟨d, hfold, rfl⟩ := Option.map_eq_some_iff.mp hstatements
  exact PartialDocument.distinct_foldlM Entries.distinct_nil hfold

end ScopedBuilder.Toml
