import ScopedBuilder.Config.Basic
import ScopedBuilder.Config.Error
import ScopedBuilder.Toml.Reader

/-!
Reading settings from TOML. The keys are taken in the order of the document, so the first one that is
wrong is reported.
-/

namespace ScopedBuilder

open Toml

namespace Config

def textOf : Value → Except ConfigError String
  | .string s => .ok s
  | v => .error (.wrongType v .string)

def boolOf : Value → Except ConfigError Bool
  | .boolean b => .ok b
  | v => .error (.wrongType v .boolean)

end Config

def NamingPolicy.ofName (name : String) : Except ConfigError NamingPolicy :=
  match ofText? name with
  | some policy => .ok policy
  | none => .error (.unknownPolicy name)

/-- A policy by its name, or by a table with the name as its only key and nothing below it. -/
def NamingPolicy.ofValue : Value → Except ConfigError NamingPolicy
  | .string name => ofName name
  | .table _ [(name, content)] => do
    let policy ← ofName name
    match content with
    | .table _ [] | .array [] => return policy
    | _ => throw .unreadablePolicy
  | _ => .error .unreadablePolicy

namespace Config

/-- The settings after one entry of the document. -/
def set (c : Config) (key : String) (v : Value) : Except ConfigError Config :=
  if key = "naming" then do return { c with naming := ← NamingPolicy.ofValue v }
  else if key = "suffix_separator" then do return { c with suffixSeparator := ← textOf v }
  else if key = "global_symbol_attr" then do return { c with recordSymbol := ← boolOf v }
  else if key = "binding_var_prefix" then do return { c with ordinaryStem := ← textOf v }
  else if key = "dataflow_var_prefix" then do return { c with dataflowStem := ← textOf v }
  else .error (.unknownKey key)

/-- The settings that the entries of a document give, on top of the defaults. -/
def ofEntries (entries : Entries) : Except ConfigError Config :=
  entries.foldlM (fun c (key, v) => c.set key v) {}

/-- The settings in a document. -/
def ofToml (document : String) : Except ConfigError Config :=
  match entriesOf? document with
  | none => .error .malformed
  | some entries => ofEntries entries

/-- The settings in a file, given its path and its contents, if it is there. -/
def ofFile (path : String) (contents : Option ByteArray) : Except ConfigError Config :=
  match contents with
  | none => .error (.unreadable path .missing)
  | some bytes =>
    match String.fromUTF8? bytes with
    | none => .error (.unreadable path .notUtf8)
    | some document => ofToml document

end Config

end ScopedBuilder
