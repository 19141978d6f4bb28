/-!
The classes of characters in a TOML document.
-/

namespace ScopedBuilder.Toml

def isControl (c : Char) : Bool := c.toNat ≤ 0x1f || c.toNat = 0x7f

/-- A character that can stand for itself in a text or a comment. -/
def isPlain (c : Char) : Bool := c = '\t' || !isControl c

def isBlank (c : Char) : Bool := c = ' ' || c = '\t'

/-- A character of a key without quotes. -/
def isKeyChar (c : Char) : Bool := c.isAlphanum || c = '_' || c = '-'

/-- A character of a number, a date, a time or a word. -/
def isScalarChar (c : Char) : Bool := isKeyChar c || c = '+' || c = '.' || c = ':'

def skipBlanks (cs : List Char) : List Char := cs.dropWhile isBlank

def hexDigit? (c : Char) : Option Nat :=
  if c.isDigit then some (c.toNat - '0'.toNat)
  else if 'a' ≤ c && c ≤ 'f' then some (c.toNat - 'a'.toNat + 10)
  else if 'A' ≤ c && c ≤ 'F' then some (c.toNat - 'A'.toNat + 10)
  else none

/-- What follows a line break, if there is one. -/
def lineBreak? : List Char → Option (List Char)
  | '\n' :: rest => some rest
  | '\r' :: '\n' :: rest => some rest
  | _ => none

end ScopedBuilder.Toml
