import ScopedBuilder.Toml.Chars

/-!
Reading quoted text. There are four quotations: basic text has escapes, literal text has none, and each
of them may span lines. Every reader returns the text and what follows the closing quotes.
-/

namespace ScopedBuilder.Toml

/-- Where a reader of basic text is. -/
inductive Scan where
  | text
  | escape
  /-- Inside a code point, with so many digits to come after the next one. -/
  | code (left value : Nat)
  /-- In the white space that a backslash at the end of a line joins to the next line. -/
  | trim
  deriving DecidableEq

def startsBlankOrBreak : List Char → Bool
  | c :: rest => isBlank c || (lineBreak? (c :: rest)).isSome
  | [] => false

/-- Whether only blanks are left on a line. -/
def endsLine (cs : List Char) : Bool := (lineBreak? (skipBlanks cs)).isSome

def trimOrText (rest : List Char) : Scan := if startsBlankOrBreak rest then .trim else .text

/-- The character that a letter stands for after a backslash. -/
def escapedChar? : Char → Option Char
  | 'b' => some '\x08'
  | 't' => some '\t'
  | 'n' => some '\n'
  | 'f' => some '\x0c'
  | 'r' => some '\r'
  | '"' => some '"'
  | '\\' => some '\\'
  | _ => none

/-- The character with a code point, if it has one. -/
def charOfCode? (n : Nat) : Option Char :=
  if n.isValidChar then some (Char.ofNat n) else none

def addChar (c : Char) (read : Option (List Char × List Char)) : Option (List Char × List Char) :=
  read.map fun (cs, rest) => (c :: cs, rest)

/-- After three closing quotes: up to two more quotes belong to the text before them. -/
def finalQuotes (quote : Char) : List Char → List Char × List Char
  | c :: rest =>
    if c = quote then
      match rest with
      | d :: rest => if d = quote then ([quote, quote], rest) else ([quote], d :: rest)
      | [] => ([quote], [])
    else ([], c :: rest)
  | [] => ([], [])

/-- Reads basic text up to its closing quotes. -/
def basicText (multiline : Bool) : Scan → List Char → Option (List Char × List Char)
  | _, [] => none
  | .trim, _ :: rest => basicText multiline (trimOrText rest) rest
  | .code left value, c :: rest =>
    match hexDigit? c with
    | none => none
    | some d =>
      match left with
      | left + 1 => basicText multiline (.code left (16 * value + d)) rest
      | 0 =>
        match charOfCode? (16 * value + d) with
        | none => none
        | some c => addChar c (basicText multiline .text rest)
  | .escape, c :: rest =>
    if multiline && endsLine (c :: rest) then basicText multiline (trimOrText rest) rest
    else if c = 'u' then basicText multiline (.code 3 0) rest
    else if c = 'U' then basicText multiline (.code 7 0) rest
    else
      match escapedChar? c with
      | none => none
      | some c => addChar c (basicText multiline .text rest)
  | .text, c :: rest =>
    if c = '"' then
      if multiline then
        match rest with
        | '"' :: '"' :: after => some (finalQuotes '"' after)
        | _ => addChar '"' (basicText multiline .text rest)
      else some ([], rest)
    else if c = '\\' then basicText multiline .escape rest
    else if multiline && c = '\r' && rest.head? = some '\n' then basicText multiline .text rest
    else if isPlain c || multiline && c = '\n' then addChar c (basicText multiline .text rest)
    else none

/-- Reads literal text up to its closing quotes. -/
def literalText (multiline : Bool) : List Char → Option (List Char × List Char)
  | [] => none
  | c :: rest =>
    if c = '\'' then
      if multiline then
        match rest with
        | '\'' :: '\'' :: after => some (finalQuotes '\'' after)
        | _ => addChar '\'' (literalText multiline rest)
      else some ([], rest)
    else if multiline && c = '\r' && rest.head? = some '\n' then literalText multiline rest
    else if isPlain c || multiline && c = '\n' then addChar c (literalText multiline rest)
    else none

/-- A line break directly after the opening quotes is not part of the text. -/
def skipLineBreak (cs : List Char) : List Char := (lineBreak? cs).getD cs

/-- A text on one line in either quotation, as keys are written. -/
def lineText? : List Char → Option (List Char × List Char)
  | '"' :: rest => basicText false .text rest
  | '\'' :: rest => literalText false rest
  | _ => none

/-- A text in any quotation. -/
def text? : List Char → Option (List Char × List Char)
  | '"' :: '"' :: '"' :: rest => basicText true .text (skipLineBreak rest)
  | '\'' :: '\'' :: '\'' :: rest => literalText true (skipLineBreak rest)
  | cs => lineText? cs

end ScopedBuilder.Toml
