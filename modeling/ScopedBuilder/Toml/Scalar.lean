import ScopedBuilder.Binary64.Nearest
import ScopedBuilder.Toml.Chars
import ScopedBuilder.Toml.Value

/-!
Reading values that are a single word: booleans, numbers, dates and times. Each reader accepts the whole
word or nothing.
-/

namespace ScopedBuilder.Toml

/-- The digits of a number without the underscores, each of which stands between two digits. -/
def ungroup (isDigit : Char → Bool) : List Char → Option (List Char)
  | [] => none
  | [c] => if isDigit c then some [c] else none
  | c :: '_' :: rest => if isDigit c then (ungroup isDigit rest).map (c :: ·) else none
  | c :: rest => if isDigit c then (ungroup isDigit rest).map (c :: ·) else none

/-- The digits of a decimal number that starts with a zero only if it is zero. -/
def decimalDigits? (word : List Char) : Option (List Char) :=
  match ungroup Char.isDigit word with
  | some ('0' :: _ :: _) => none
  | digits => digits

/-- The value of digits in a base. -/
def digitsValue (base : Nat) (digits : List Char) : Nat :=
  digits.foldl (fun n c => base * n + (hexDigit? c).getD 0) 0

/-- An optional sign and the rest of a word. -/
def splitSign : List Char → Bool × List Char
  | '-' :: rest => (true, rest)
  | '+' :: rest => (false, rest)
  | word => (false, word)

/-- An integer, if 64 bits hold it. -/
def inRange? (n : Int) : Option Int :=
  if -9223372036854775808 ≤ n ∧ n ≤ 9223372036854775807 then some n else none

def integer? (word : List Char) : Option Int :=
  match word with
  | '0' :: 'x' :: rest =>
    (ungroup (fun c => (hexDigit? c).isSome) rest).bind fun ds => inRange? (digitsValue 16 ds)
  | '0' :: 'o' :: rest =>
    (ungroup (fun c => '0' ≤ c && c ≤ '7') rest).bind fun ds => inRange? (digitsValue 8 ds)
  | '0' :: 'b' :: rest =>
    (ungroup (fun c => c = '0' || c = '1') rest).bind fun ds => inRange? (digitsValue 2 ds)
  | word =>
    let (negative, rest) := splitSign word
    (decimalDigits? rest).bind fun ds =>
      let n : Int := digitsValue 10 ds
      inRange? (if negative then -n else n)

def isGroupedDigit (c : Char) : Bool := c.isDigit || c = '_'

/-- The digits after the point, if the word goes on with one, and what follows them. -/
def fraction? : List Char → Option (List Char × List Char)
  | '.' :: rest =>
    (ungroup Char.isDigit (rest.takeWhile isGroupedDigit)).map (·, rest.dropWhile isGroupedDigit)
  | rest => some ([], rest)

/-- The decimal exponent at the end of a word; an empty rest has the exponent zero. -/
def decimalExponent? : List Char → Option Int
  | [] => some 0
  | e :: rest =>
    if e = 'e' || e = 'E' then
      let (negative, digits) := splitSign rest
      (ungroup Char.isDigit digits).map fun ds =>
        let n : Int := digitsValue 10 ds
        if negative then -n else n
    else none

/-- A number with a fraction or an exponent, or one of the words for infinity and NaN. Digits must not
come out as the positive infinity. -/
def float? (word : List Char) : Option Binary64 :=
  let (negative, rest) := splitSign word
  if rest = ['i', 'n', 'f'] then some (.infinity negative)
  else if rest = ['n', 'a', 'n'] then some (.nan negative)
  else do
    let whole ← decimalDigits? (rest.takeWhile isGroupedDigit)
    let tail := rest.dropWhile isGroupedDigit
    if tail.isEmpty then none
    let (places, tail) ← fraction? tail
    let exponent ← decimalExponent? tail
    let x := Binary64.nearest negative
      ⟨digitsValue 10 (whole ++ places), exponent - places.length⟩
    if x.isInfinite && !negative then none else some x

/-- A number of exactly two digits within bounds, and what follows. -/
def twoDigits? (low high : Nat) : List Char → Option (Nat × List Char)
  | c :: d :: rest =>
    let n := digitsValue 10 [c, d]
    if c.isDigit && d.isDigit && low ≤ n && n ≤ high then some (n, rest) else none
  | _ => none

def isLeapYear (year : Nat) : Bool :=
  year % 4 = 0 && (year % 100 ≠ 0 || year % 400 = 0)

def daysInMonth (year month : Nat) : Nat :=
  if month = 2 then if isLeapYear year then 29 else 28
  else if month = 4 || month = 6 || month = 9 || month = 11 then 30
  else 31

/-- Reads one given character. -/
def char? (c : Char) : List Char → Option (List Char)
  | d :: rest => if c = d then some rest else none
  | [] => none

/-- What follows a date at the start of a word. -/
def afterDate? (word : List Char) : Option (List Char) := do
  let (century, rest) ← twoDigits? 0 99 word
  let (year, rest) ← twoDigits? 0 99 rest
  let (month, rest) ← twoDigits? 1 12 (← char? '-' rest)
  let (_, rest) ← twoDigits? 1 (daysInMonth (100 * century + year) month) (← char? '-' rest)
  return rest

/-- What follows a time of day at the start of a word; a second may be a leap second. -/
def afterTime? (word : List Char) : Option (List Char) := do
  let (_, rest) ← twoDigits? 0 23 word
  let (_, rest) ← twoDigits? 0 59 (← char? ':' rest)
  let (_, rest) ← twoDigits? 0 60 (← char? ':' rest)
  match rest with
  | '.' :: digits =>
    if (digits.takeWhile Char.isDigit).isEmpty then none else some (digits.dropWhile Char.isDigit)
  | rest => some rest

/-- Whether a word is the offset of a time from UTC. -/
def isOffset : List Char → Bool
  | ['Z'] | ['z'] => true
  | sign :: rest =>
    (sign = '+' || sign = '-') &&
      (do let (_, rest) ← twoDigits? 0 23 rest
          let (_, rest) ← twoDigits? 0 59 (← char? ':' rest)
          return rest) = some []
  | [] => false

/-- Whether a word is a date, a time, or a date and a time with or without an offset. -/
def isDateTime (word : List Char) : Bool :=
  match afterDate? word with
  | some [] => true
  | some (delimiter :: rest) =>
    (delimiter = 'T' || delimiter = 't' || delimiter = ' ') &&
      match afterTime? rest with
      | some rest => rest.isEmpty || isOffset rest
      | none => false
  | none => afterTime? word = some []

/-- The value that a word stands for. -/
def scalarOfWord? (word : List Char) : Option Value :=
  if word = ['t', 'r', 'u', 'e'] then some (.boolean true)
  else if word = ['f', 'a', 'l', 's', 'e'] then some (.boolean false)
  else
    match integer? word, float? word with
    | some n, _ => some (.integer n)
    | none, some x => some (.float x)
    | none, none => if isDateTime word then some (.dateTime (String.ofList word)) else none

/-- Splits off the word at the start. A space between a date and a digit belongs to the word. -/
def splitWord (cs : List Char) : List Char × List Char :=
  let word := cs.takeWhile isScalarChar
  match cs.dropWhile isScalarChar with
  | ' ' :: d :: rest =>
    if afterDate? word = some [] && d.isDigit then
      (word ++ ' ' :: (d :: rest).takeWhile isScalarChar, (d :: rest).dropWhile isScalarChar)
    else (word, ' ' :: d :: rest)
  | rest => (word, rest)

/-- Reads a value that is a single word. -/
def scalar? (cs : List Char) : Option (Value × List Char) :=
  let (word, rest) := splitWord cs
  (scalarOfWord? word).map (·, rest)

end ScopedBuilder.Toml
