import ScopedBuilder.Binary64.Basic

/-!
TOML documents as data. A table remembers how it came about, because that decides what may still be
added to it.
-/

namespace ScopedBuilder.Toml

/-- How a table was first mentioned. -/
inductive TableForm where
  /-- By its own header. -/
  | explicit
  /-- In the header of a table inside of it. -/
  | implicit
  /-- In a dotted key. -/
  | dotted
  /-- Between braces. -/
  | inline
  deriving DecidableEq

inductive Value where
  | string (s : String)
  | integer (n : Int)
  | float (x : Binary64)
  | boolean (b : Bool)
  /-- A date, a time or both, as written. -/
  | dateTime (text : String)
  | array (items : List Value)
  | table (form : TableForm) (entries : List (String × Value))
  /-- The tables of one repeated header, in order. -/
  | tables (elements : List (List (String × Value)))

/-- The entries of a table in the order of the document. -/
abbrev Entries := List (String × Value)

/-- A dotted key: the tables that lead to a key, and the key. -/
structure KeyPath where
  parents : List String
  key : String
  deriving DecidableEq

/-- What one statement of a document says. -/
inductive Statement where
  | header (path : KeyPath)
  /-- The header of one more element of a list of tables. -/
  | element (path : KeyPath)
  | entry (path : KeyPath) (value : Value)

/-- The greatest number of keys in a dotted key, and the greatest depth of nested values. -/
def nestingLimit : Nat := 79

end ScopedBuilder.Toml
