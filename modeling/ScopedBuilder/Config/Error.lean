import ScopedBuilder.Binary64.Text
import ScopedBuilder.Text.Quoted
import ScopedBuilder.Toml.Value

/-!
The ways in which settings cannot be read.
-/

namespace ScopedBuilder

/-- Why the contents of a file are not available. -/
inductive UnreadableFile where
  | missing
  | notUtf8
  deriving DecidableEq

/-- The types that settings have. -/
inductive SettingType where
  | string
  | boolean
  deriving DecidableEq

inductive ConfigError where
  | unreadable (path : String) (cause : UnreadableFile)
  /-- The document is not TOML, or contradicts itself. -/
  | malformed
  | unknownKey (key : String)
  | unknownPolicy (name : String)
  /-- The policy is neither a text nor a table with the policy as its only key. -/
  | unreadablePolicy
  | wrongType (found : Toml.Value) (expected : SettingType)

namespace Toml.Value

/-- How a value of the wrong type is described. A whole number in floating point shows a fraction. -/
def description : Value → String
  | string s => "string " ++ Text.quote s
  | integer n => "integer `" ++ toString n ++ "`"
  | float x =>
    let fraction :=
      if x.isNaN || x.isInfinite || x.text.toList.contains '.' then "" else ".0"
    "floating point `" ++ x.text ++ fraction ++ "`"
  | boolean b => "boolean `" ++ toString b ++ "`"
  | dateTime _ | table .. => "map"
  | array _ | tables _ => "sequence"

end Toml.Value

def SettingType.description : SettingType → String
  | string => "a string"
  | boolean => "a boolean"

/-- What is wrong with a file or a setting; a malformed document or policy is not described. -/
def ConfigError.message? : ConfigError → Option String
  | unreadable path _ => some ("failed to read config file " ++ Text.quote path)
  | unknownKey key =>
    some ("unknown field `" ++ key ++ "`, expected one of `naming`, `suffix_separator`, "
      ++ "`global_symbol_attr`, `binding_var_prefix`, `dataflow_var_prefix`")
  | unknownPolicy name =>
    some ("unknown variant `" ++ name ++ "`, expected `identity` or `suffix`")
  | wrongType found expected =>
    some ("invalid type: " ++ found.description ++ ", expected " ++ expected.description)
  | malformed | unreadablePolicy => none

end ScopedBuilder
