import ScopedBuilder.Naming.Scheme

/-!
The settings of a builder.
-/

namespace ScopedBuilder

/-- How function names are made unique in a module. -/
inductive NamingPolicy where
  | identity
  | suffix
  deriving DecidableEq

namespace NamingPolicy

def text : NamingPolicy → String
  | identity => "identity"
  | suffix => "suffix"

def ofText? (text : String) : Option NamingPolicy :=
  if text = "identity" then some identity
  else if text = "suffix" then some suffix
  else none

end NamingPolicy

/-- The settings of a builder; what is not set keeps its default. -/
structure Config where
  naming : NamingPolicy := .suffix
  /-- What stands between a name and its number. -/
  suffixSeparator : String := "_"
  /-- Whether a named function records its name in its attributes. -/
  recordSymbol : Bool := true
  /-- How the names of variables bound in ordinary blocks begin. -/
  ordinaryStem : String := "gv"
  /-- How the names of variables bound in dataflow blocks begin. -/
  dataflowStem : String := "lv"
  deriving DecidableEq

/-- The scheme for the names of a module's functions. -/
def Config.nameScheme (c : Config) : NameScheme :=
  match c.naming with
  | .identity => .asGiven
  | .suffix => .numbered c.suffixSeparator

end ScopedBuilder
