import ScopedBuilder.Toml.Chars

/-!
Writing text in TOML. The quotation is the first of basic, literal, basic over lines and literal over
lines that needs no escape; if there is none, escapes are written.
-/

namespace ScopedBuilder.Toml

inductive Quotation where
  | basic
  | literal
  | multilineBasic
  | multilineLiteral
  deriving DecidableEq

namespace Quotation

/-- The length of the longest run of a character, given that of the run just before and the longest so
far. -/
def longestRunFrom (q : Char) : Nat → Nat → List Char → Nat
  | _, longest, [] => longest
  | current, longest, c :: cs =>
    if c = q then longestRunFrom q (current + 1) (max longest (current + 1)) cs
    else longestRunFrom q 0 longest cs

def longestRun (q : Char) (text : List Char) : Nat := longestRunFrom q 0 0 text

/-- The quotation in which a text is written. -/
def ofText (text : List Char) : Quotation :=
  let control := text.any fun c => isControl c && c ≠ '\t' && c ≠ '\n'
  let backslash := text.contains '\\'
  let newline := text.contains '\n'
  let doubles := longestRun '"' text
  let singles := longestRun '\'' text
  if !control && !backslash && doubles = 0 && !newline then basic
  else if !control && singles = 0 && !newline then literal
  else if !control && !backslash && doubles ≤ 2 then multilineBasic
  else if !control && singles ≤ 2 then multilineLiteral
  else if newline then multilineBasic
  else basic

def isMultiline : Quotation → Bool
  | multilineBasic | multilineLiteral => true
  | basic | literal => false

def delimiter : Quotation → List Char
  | basic => ['"']
  | literal => ['\'']
  | multilineBasic => ['"', '"', '"']
  | multilineLiteral => ['\'', '\'', '\'']

end Quotation

def upperHexDigit (n : Nat) : Char := if n < 10 then Char.ofNat (48 + n) else Char.ofNat (55 + n)

/-- The escape of a control character, by its letter or by four digits. -/
def controlEscape (c : Char) : List Char :=
  match c with
  | '\x08' => ['\\', 'b']
  | '\t' => ['\\', 't']
  | '\n' => ['\\', 'n']
  | '\x0c' => ['\\', 'f']
  | '\r' => ['\\', 'r']
  | c => ['\\', 'u', '0', '0', upperHexDigit (c.toNat / 16), upperHexDigit (c.toNat % 16)]

/-- Basic text after so many quotes in a row. Over lines, two quotes in a row need no escape and line
breaks stand for themselves. -/
def escapeText (multiline : Bool) : Nat → List Char → List Char
  | _, [] => []
  | run, c :: cs =>
    if c = '"' then
      if run < (if multiline then 2 else 0) then '"' :: escapeText multiline (run + 1) cs
      else '\\' :: '"' :: escapeText multiline 0 cs
    else if c = '\\' then '\\' :: '\\' :: escapeText multiline 0 cs
    else if isControl c && !(multiline && c = '\n') then
      controlEscape c ++ escapeText multiline 0 cs
    else c :: escapeText multiline 0 cs

/-- A text in a quotation. A text of several lines begins on a line of its own. -/
def Quotation.write (q : Quotation) (text : List Char) : List Char :=
  let opening := if q.isMultiline && text.contains '\n' then ['\n'] else []
  let body := match q with
    | basic => escapeText false 0 text
    | multilineBasic => escapeText true 0 text
    | literal | multilineLiteral => text
  q.delimiter ++ opening ++ body ++ q.delimiter

/-- A text in the quotation that suits it. -/
def writeText (text : String) : List Char :=
  (Quotation.ofText text.toList).write text.toList

end ScopedBuilder.Toml
