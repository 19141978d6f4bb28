/-!
How the functions of a module get names of their own.
-/

namespace ScopedBuilder

/-- Names are taken as they are, or a taken name gets a separator and a number. -/
inductive NameScheme where
  | asGiven
  | numbered (separator : String)
  deriving DecidableEq

namespace NameScheme

def candidate (name separator : String) (n : Nat) : String :=
  name ++ separator ++ toString n

/-- The least number from one on whose candidate is free. Among one candidate more than there are taken
names, one is free. -/
def firstFree (name separator : String) (taken : List String) : Nat :=
  ((List.range' 1 (taken.length + 1)).find? fun n =>
    !taken.contains (candidate name separator n)).getD (taken.length + 1)

/-- The name under which a requested name is registered. -/
def fresh (scheme : NameScheme) (name : String) (taken : List String) : String :=
  match scheme with
  | asGiven => name
  | numbered separator =>
    if taken.contains name then candidate name separator (firstFree name separator taken) else name

end NameScheme

end ScopedBuilder
