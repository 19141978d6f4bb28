import ScopedBuilder.Toml.Quotation
import ScopedBuilder.Toml.Scalar
import ScopedBuilder.Toml.Table

/-!
Reading TOML documents. A reader returns what it read and the characters after it. Lists of unknown
length are read with the number of characters as a bound, since every item takes at least one.
-/

namespace ScopedBuilder.Toml

/-- What follows the end of a line, which may hold blanks and a comment. -/
def lineEnd? (cs : List Char) : Option (List Char) :=
  let cs := match skipBlanks cs with
    | '#' :: rest => rest.dropWhile isPlain
    | cs => cs
  match cs with
  | [] => some []
  | cs => lineBreak? cs

/-- Skips blanks, line breaks and comments. -/
def skipLines : Nat → List Char → List Char
  | 0, cs => cs
  | bound + 1, cs =>
    match skipBlanks cs with
    | '#' :: rest => skipLines bound (rest.dropWhile isPlain)
    | cs =>
      match lineBreak? cs with
      | some rest => skipLines bound rest
      | none => cs

def key? (cs : List Char) : Option (String × List Char) :=
  match cs with
  | '"' :: _ | '\'' :: _ => (lineText? cs).map fun (key, rest) => (String.ofList key, rest)
  | cs =>
    let key := cs.takeWhile isKeyChar
    if key.isEmpty then none else some (String.ofList key, cs.dropWhile isKeyChar)

/-- Reads a dotted key with at most so many keys, and the blanks around them. -/
def keyPath? : Nat → List Char → Option (KeyPath × List Char)
  | 0, _ => none
  | bound + 1, cs => do
    let (key, rest) ← key? (skipBlanks cs)
    match skipBlanks rest with
    | '.' :: rest =>
      let (path, rest) ← keyPath? bound rest
      return (⟨key :: path.parents, path.key⟩, rest)
    | rest => return (⟨[], key⟩, rest)

/-- Reads the items of an array up to the closing bracket. -/
def arrayItems (value : List Char → Option (Value × List Char)) :
    Nat → List Char → Option (List Value × List Char)
  | 0, _ => none
  | bound + 1, cs =>
    match skipLines cs.length cs with
    | ']' :: rest => some ([], rest)
    | cs => do
      let (item, cs) ← value cs
      match skipLines cs.length cs with
      | ',' :: rest =>
        let (items, rest) ← arrayItems value bound rest
        return (item :: items, rest)
      | ']' :: rest => return ([item], rest)
      | _ => none

/-- Reads a key, an equals sign and a value, and the blanks around them. -/
def keyValue? (value : List Char → Option (Value × List Char)) (cs : List Char) :
    Option ((KeyPath × Value) × List Char) := do
  let (path, cs) ← keyPath? nestingLimit cs
  match cs with
  | '=' :: rest =>
    let (v, rest) ← value (skipBlanks rest)
    return ((path, v), skipBlanks rest)
  | _ => none

/-- Reads the entries of an inline table, at least one, up to the closing brace. -/
def inlineEntries (value : List Char → Option (Value × List Char)) :
    Nat → List Char → Option (List (KeyPath × Value) × List Char)
  | 0, _ => none
  | bound + 1, cs => do
    let (entry, cs) ← keyValue? value cs
    match cs with
    | ',' :: rest =>
      let (entries, rest) ← inlineEntries value bound rest
      return (entry :: entries, rest)
    | '\x7d' :: rest => return ([entry], rest)
    | _ => none

/-- Reads a value in which values nest at most so deep. -/
def value? : Nat → List Char → Option (Value × List Char)
  | depth, cs =>
    match cs with
    | '"' :: _ | '\'' :: _ => (text? cs).map fun (text, rest) => (.string (String.ofList text), rest)
    | '[' :: rest =>
      match depth with
      | 0 => none
      | depth + 1 => do
        let (items, rest) ← arrayItems (value? depth) rest.length rest
        return (.array items, rest)
    | '\x7b' :: rest =>
      match depth with
      | 0 => none
      | depth + 1 =>
        match skipBlanks rest with
        | '\x7d' :: rest => some (.table .inline [], rest)
        | rest => do
          let (pairs, rest) ← inlineEntries (value? depth) rest.length rest
          return (.table .inline (← Entries.ofInline? pairs), rest)
    | cs => scalar? cs

/-- Reads a statement up to the end of its line. -/
def statement? (cs : List Char) : Option (Statement × List Char) :=
  match skipBlanks cs with
  | '[' :: '[' :: rest => do
    let (path, rest) ← keyPath? nestingLimit rest
    match rest with
    | ']' :: ']' :: rest => return (.element path, rest)
    | _ => none
  | '[' :: rest => do
    let (path, rest) ← keyPath? nestingLimit rest
    match rest with
    | ']' :: rest => return (.header path, rest)
    | _ => none
  | cs => do
    let ((path, v), rest) ← keyValue? (value? nestingLimit) cs
    return (.entry path v, rest)

/-- Reads the statements of a document, each on lines of its own. -/
def statements? : Nat → List Char → Option (List Statement)
  | _, [] => some []
  | 0, _ :: _ => none
  | bound + 1, cs =>
    match lineEnd? cs with
    | some rest => statements? bound rest
    | none => do
      let (statement, rest) ← statement? cs
      let rest ← lineEnd? rest
      return statement :: (← statements? bound rest)

/-- The entries of a document. A byte order mark at the start is no part of it. -/
def entriesOf? (document : String) : Option Entries :=
  let cs := match document.toList with
    | '\ufeff' :: rest => rest
    | cs => cs
  (statements? cs.length cs).bind Entries.ofStatements?

end ScopedBuilder.Toml
