import TestSelection.Json.Basic
import TestSelection.Ordered

/-!
# Reading JSON

`Json.parse?` reads one value that fills the whole text, blanks around it apart. Integers from
`-2 ^ 63` to `2 ^ 64 - 1` are read exactly, all other numbers as doubles.
-/
namespace TestSelection.Json

/-- The blanks that may stand between two tokens. -/
def isSpace (c : Char) : Bool :=
  c == ' ' || c == '\t' || c == '\n' || c == '\r'

def skipSpace (cs : List Char) : List Char :=
  cs.dropWhile isSpace

/-- The value of a hexadecimal digit. -/
def hexValue? (c : Char) : Option Nat :=
  if c.isDigit then some (c.toNat - '0'.toNat)
  else if 'a' ≤ c && c ≤ 'f' then some (c.toNat - 'a'.toNat + 10)
  else if 'A' ≤ c && c ≤ 'F' then some (c.toNat - 'A'.toNat + 10)
  else none

/-- Four hexadecimal digits at the front of a text. -/
def readUnit? : List Char → Option (Nat × List Char)
  | a :: b :: c :: d :: rest => do
    let a ← hexValue? a
    let b ← hexValue? b
    let c ← hexValue? c
    let d ← hexValue? d
    some (((a * 16 + b) * 16 + c) * 16 + d, rest)
  | _ => none

/-- The character of a `\u` escape; one beyond the first plane is written as a pair of escapes. -/
def readEscapedCode? (cs : List Char) : Option (Char × List Char) := do
  let (unit, rest) ← readUnit? cs
  if unit < 0xd800 || 0xdfff < unit then some (Char.ofNat unit, rest)
  else if 0xdc00 ≤ unit then none
  else match rest with
    | '\\' :: 'u' :: rest => do
      let (low, rest) ← readUnit? rest
      if low < 0xdc00 || 0xdfff < low then none
      else some (Char.ofNat (0x10000 + (unit - 0xd800) * 0x400 + (low - 0xdc00)), rest)
    | _ => none

/-- The character that a backslash and this character stand for. -/
def simpleEscape? : Char → Option Char
  | '"' => some '"'
  | '\\' => some '\\'
  | '/' => some '/'
  | 'b' => some '\x08'
  | 'f' => some '\x0c'
  | 'n' => some '\n'
  | 'r' => some '\r'
  | 't' => some '\t'
  | _ => none

/-- The rest of a text value behind its opening quote; `read` holds the characters so far, the last
one first. Each step takes a character, so the length of the text is fuel enough. -/
def readText? : Nat → List Char → List Char → Option (String × List Char)
  | 0, _, _ => none
  | _ + 1, _, [] => none
  | fuel + 1, read, c :: rest =>
    if c == '"' then some (String.ofList read.reverse, rest)
    else if c == '\\' then
      match rest with
      | 'u' :: rest => do
        let (c, rest) ← readEscapedCode? rest
        readText? fuel (c :: read) rest
      | e :: rest => do
        let c ← simpleEscape? e
        readText? fuel (c :: read) rest
      | [] => none
    else if c.toNat < 0x20 then none
    else readText? fuel (c :: read) rest

/-- The characters of which numbers are made. -/
def isNumberChar (c : Char) : Bool :=
  c.isDigit || c == '.' || c == 'e' || c == 'E' || c == '+' || c == '-'

/-- Whether the fraction and exponent of a number are well formed. -/
def isNumberTail (cs : List Char) : Bool :=
  let afterFraction := match cs with
    | '.' :: rest => if (rest.takeWhile Char.isDigit).isEmpty then ['.'] else rest.dropWhile Char.isDigit
    | rest => rest
  (Decimal.exponentOfText? afterFraction).isSome

/-- The number that a run of number characters stands for. A zero with a sign is a float. -/
def numberOfText? (cs : List Char) : Option Json :=
  let (negative, magnitude) := match cs with
    | '-' :: rest => (true, rest)
    | rest => (false, rest)
  let whole := magnitude.takeWhile Char.isDigit
  let tail := magnitude.dropWhile Char.isDigit
  if whole.isEmpty || (whole.head? == some '0' && 1 < whole.length) || !isNumberTail tail then none
  else
    let n := Decimal.digitsValue whole
    let exact := tail.isEmpty &&
      if negative then 0 < n && n ≤ 1 <<< 63 else n < 1 <<< 64
    if exact then some (int (if negative then -(n : Int) else n))
    else do
      let d ← Decimal.ofText? magnitude
      let d ← d.shortest?
      some (float { d with negative })

mutual

/-- One value at the front of a text. -/
def readValue? : Nat → List Char → Option (Json × List Char)
  | 0, _ => none
  | fuel + 1, cs =>
    match skipSpace cs with
    | 'n' :: 'u' :: 'l' :: 'l' :: rest => some (null, rest)
    | 't' :: 'r' :: 'u' :: 'e' :: rest => some (bool true, rest)
    | 'f' :: 'a' :: 'l' :: 's' :: 'e' :: rest => some (bool false, rest)
    | '"' :: rest => do
      let (s, rest) ← readText? (rest.length + 1) [] rest
      some (text s, rest)
    | '[' :: rest =>
      match skipSpace rest with
      | ']' :: rest => some (list [], rest)
      | rest => readItems? fuel [] rest
    | '\x7b' :: rest =>
      match skipSpace rest with
      | '\x7d' :: rest => some (object [], rest)
      | rest => readFields? fuel [] rest
    | cs => do
      let n ← numberOfText? (cs.takeWhile isNumberChar)
      some (n, cs.dropWhile isNumberChar)

/-- The items of a list up to its closing bracket; `read` holds the items so far, the last one
first. -/
def readItems? : Nat → List Json → List Char → Option (Json × List Char)
  | 0, _, _ => none
  | fuel + 1, read, cs => do
    let (v, rest) ← readValue? fuel cs
    match skipSpace rest with
    | ',' :: rest => readItems? fuel (v :: read) rest
    | ']' :: rest => some (list (v :: read).reverse, rest)
    | _ => none

/-- The fields of an object up to its closing brace, added to those read so far. -/
def readFields? : Nat → List (String × Json) → List Char → Option (Json × List Char)
  | 0, _, _ => none
  | fuel + 1, read, cs =>
    match skipSpace cs with
    | '"' :: rest => do
      let (name, rest) ← readText? (rest.length + 1) [] rest
      match skipSpace rest with
      | ':' :: rest => do
        let (v, rest) ← readValue? fuel rest
        match skipSpace rest with
        | ',' :: rest => readFields? fuel (Ordered.insert name v read) rest
        | '\x7d' :: rest => some (object (Ordered.insert name v read), rest)
        | _ => none
      | _ => none
    | _ => none

end

/-- The value that a whole text stands for. Every value takes a character, so the length of the
text bounds the steps. -/
def parse? (s : String) : Option Json := do
  let (v, rest) ← readValue? (s.length + 1) s.toList
  if (skipSpace rest).isEmpty then some v else none

end TestSelection.Json
