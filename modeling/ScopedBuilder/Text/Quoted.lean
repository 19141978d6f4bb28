import ScopedBuilder.Text.Printable
import ScopedBuilder.Text.ExtendingMark

/-!
Quoted text, the form in which messages show names. Every character stays visible: what has no form
of its own, or would attach to its neighbour, is written by its code point.
-/

namespace ScopedBuilder.Text

/-- A character by its code point in lowercase hexadecimal, without leading zeros. -/
def codePointEscape (c : Char) : List Char :=
  ['\\', 'u', '\x7b'] ++ Nat.toDigits 16 c.toNat ++ ['\x7d']

/-- The written form of one character between double quotes; a single quote is left alone. -/
def escapeChar (c : Char) : List Char :=
  match c with
  | '\x00' => ['\\', '0']
  | '\t' => ['\\', 't']
  | '\n' => ['\\', 'n']
  | '\r' => ['\\', 'r']
  | '"' => ['\\', '"']
  | '\\' => ['\\', '\\']
  | c => if isPrintable c && !isExtendingMark c then [c] else codePointEscape c

/-- A text between double quotes. -/
def quote (text : String) : String :=
  String.ofList ('"' :: text.toList.flatMap escapeChar ++ ['"'])

end ScopedBuilder.Text
