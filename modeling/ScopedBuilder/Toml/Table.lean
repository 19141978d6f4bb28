import ScopedBuilder.Toml.Value

/-!
Building tables from statements. A document is read from top to bottom; each header opens a table, and
the entries below it go there.
-/

namespace ScopedBuilder.Toml

namespace Entries

/-- Gives a key that is there a new value, at its place. -/
def replace (entries : Entries) (key : String) (value : Value) : Entries :=
  entries.map fun (k, v) => if k = key then (k, value) else (k, v)

/-- Who looks for a table: a header, or a dotted key below one. -/
inductive Finder where
  | header
  | dottedKey
  deriving DecidableEq

/-- The form of a table that is first mentioned on the way. -/
def Finder.newForm : Finder → TableForm
  | header => .implicit
  | dottedKey => .dotted

/-- Nothing reaches into braces, and a dotted key does not add to a table that has a header. -/
def Finder.mayEnter : Finder → TableForm → Bool
  | header, form => form ≠ .inline
  | dottedKey, form => form = .implicit || form = .dotted

/-- Changes the table at a path, making the tables on the way that are not there. The path leads into
the last table of a list of tables. -/
def alter? (finder : Finder) (change : TableForm → Entries → Option Entries) :
    List String → TableForm → Entries → Option Entries
  | [], form, entries => change form entries
  | key :: path, _, entries =>
    match entries.lookup key with
    | none => do
      let inner ← alter? finder change path finder.newForm []
      return entries ++ [(key, .table finder.newForm inner)]
    | some (.table form inner) =>
      if finder.mayEnter form then do
        let inner ← alter? finder change path form inner
        return replace entries key (.table form inner)
      else none
    | some (.tables elements) => do
      let inner ← alter? finder change path .explicit (← elements.getLast?)
      return replace entries key (.tables (elements.dropLast ++ [inner]))
    | some _ => none

/-- Adds a key that is not there. -/
def add? (key : String) (value : Value) (entries : Entries) : Option Entries :=
  if (entries.lookup key).isSome then none else some (entries ++ [(key, value)])

/-- Adds an entry under a dotted key; only the table of a dotted key takes entries through one. -/
def addEntry? (path : KeyPath) (value : Value) (form : TableForm) (entries : Entries) :
    Option Entries :=
  alter? .dottedKey (fun inner entries =>
    if path.parents.isEmpty || inner = .dotted then add? path.key value entries else none)
    path.parents form entries

/-- Opens the table of a header. A table that was only mentioned in other headers moves to the end. -/
def openTable? (key : String) (entries : Entries) : Option Entries :=
  match entries.lookup key with
  | none => some (entries ++ [(key, .table .explicit [])])
  | some (.table .implicit inner) =>
    some (entries.filter (·.1 ≠ key) ++ [(key, .table .explicit inner)])
  | some _ => none

/-- Opens one more element of a list of tables. -/
def openElement? (key : String) (entries : Entries) : Option Entries :=
  match entries.lookup key with
  | none => some (entries ++ [(key, .tables [[]])])
  | some (.tables elements) => some (replace entries key (.tables (elements ++ [[]])))
  | some _ => none

/-- The entries between braces. -/
def ofInline? (pairs : List (KeyPath × Value)) : Option Entries :=
  pairs.foldlM (fun entries (path, value) => addEntry? path value .inline entries) []

end Entries

/-- A document half read: its entries, and the path of the table that is open. -/
structure PartialDocument where
  entries : Entries
  openPath : List String

namespace PartialDocument

def empty : PartialDocument := ⟨[], []⟩

def add? (d : PartialDocument) : Statement → Option PartialDocument
  | .header path => do
    let entries ← Entries.alter? .header (fun _ => Entries.openTable? path.key) path.parents
      .explicit d.entries
    return ⟨entries, path.parents ++ [path.key]⟩
  | .element path => do
    let entries ← Entries.alter? .header (fun _ => Entries.openElement? path.key) path.parents
      .explicit d.entries
    return ⟨entries, path.parents ++ [path.key]⟩
  | .entry path value => do
    let entries ← Entries.alter? .header (Entries.addEntry? path value) d.openPath
      .explicit d.entries
    return { d with entries := entries }

end PartialDocument

/-- The entries of a document, none if its statements contradict each other. -/
def Entries.ofStatements? (statements : List Statement) : Option Entries :=
  (statements.foldlM PartialDocument.add? .empty).map (·.entries)

end ScopedBuilder.Toml
