import ScopedBuilder.Config.Basic
import ScopedBuilder.Toml.Writer

/-!
Writing settings as TOML, one a line.
-/

namespace ScopedBuilder.Config

/-- A line of a document. -/
def line (key : String) (value : List Char) : List Char :=
  key.toList ++ [' ', '=', ' '] ++ value ++ ['\n']

/-- The document that gives all settings. -/
def toToml (c : Config) : String :=
  String.ofList <|
    line "naming" (Toml.writeText c.naming.text)
    ++ line "suffix_separator" (Toml.writeText c.suffixSeparator)
    ++ line "global_symbol_attr" (toString c.recordSymbol).toList
    ++ line "binding_var_prefix" (Toml.writeText c.ordinaryStem)
    ++ line "dataflow_var_prefix" (Toml.writeText c.dataflowStem)

end ScopedBuilder.Config
