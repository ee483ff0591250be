import TestSelection.Yaml.Cursor
import TestSelection.Yaml.Token

/-!
# Properties and directives

What stands before a node: its anchor and its tag; and what stands before a document: the version and
the handles of its tags.
-/
namespace TestSelection.Yaml.Property

/-! ## Anchors -/

/-- Characters that may follow the name of an anchor directly. -/
def endsName : List Char → Bool
  | [] => true
  | x :: _ => isSpace x || "?:,]\x7d%@\x60".toList.contains x

/-- The name behind the sign of an anchor or an alias. -/
def readName (c : Cursor) : Except SyntaxError (String × Cursor) :=
  let name := (c.rest.drop 1).takeWhile isWordChar
  let c := c.skip (1 + name.length)
  if name.isEmpty || !endsName c.rest then .error .anchorName else .ok (String.ofList name, c)

/-! ## Tags -/

/-- Characters of a tag; marks of a flow collection only where a tag stands alone. -/
def isTagChar (whole : Bool) (x : Char) : Bool :=
  isWordChar x || ";/?:@&=+$.!~*'()%".toList.contains x || (whole && ",[]".toList.contains x)

/-- How many octets a character has that starts with this one. -/
def octetCount? (octet : Nat) : Option Nat :=
  if octet < 0x80 then some 1
  else if octet < 0xc0 then none
  else if octet < 0xe0 then some 2
  else if octet < 0xf0 then some 3
  else if octet < 0xf8 then some 4
  else none

/-- The octet that a percent sign and two digits stand for. -/
def octet? : List Char → Option Nat
  | '%' :: high :: low :: _ => do
    let high ← hexValue? high
    let low ← hexValue? low
    return 16 * high + low
  | _ => none

/-- The octets that continue a character, escaped one after another. -/
def continuation? : Nat → List Char → Option (List Nat)
  | 0, _ => some []
  | count + 1, text => do
    let octet ← octet? text
    if octet / 64 != 2 then failure
    let rest ← continuation? count (text.drop 3)
    return octet :: rest

/-- The escaped character at the front of a text and the count of its octets. Octets that make no
character are read as the replacement character. -/
def escaped? (text : List Char) : Option (Char × Nat) := do
  let first ← octet? text
  let count ← octetCount? first
  let more ← continuation? (count - 1) (text.drop 3)
  let bytes := ByteArray.mk ((first :: more).map Nat.toUInt8).toArray
  let decoded := (String.fromUTF8? bytes).bind fun s => s.toList.head?
  return (decoded.getD '\ufffd', count)

/-- Reads the characters of a tag up to the first that belongs to none. -/
def readTagChars (whole : Bool) : Nat → List Char → Cursor → Except SyntaxError (List Char × Cursor)
  | 0, read, c => .ok (read.reverse, c)
  | fuel + 1, read, c =>
    match c.rest with
    | [] => .ok (read.reverse, c)
    | x :: _ =>
      if x == '%' then
        match escaped? c.rest with
        | none => .error .tag
        | some (y, count) => readTagChars whole fuel (y :: read) (c.skip (3 * count))
      else if isTagChar whole x then readTagChars whole fuel (x :: read) (c.skip 1)
      else .ok (read.reverse, c)

/-- A text of at least one character of a tag. -/
def readTagText (whole : Bool) (c : Cursor) : Except SyntaxError (List Char × Cursor) := do
  let (text, c') ← readTagChars whole (c.rest.length + 1) [] c
  if c'.index = c.index then throw .tag
  return (text, c')

/-- The word behind an exclamation mark, and whether another mark closes it. -/
def handleAt (c : Cursor) : List Char × Bool :=
  let word := (c.rest.drop 1).takeWhile isWordChar
  (word, c.rest[1 + word.length]? == some '!')

/-- A tag between angle brackets. -/
def readVerbatimTag (c : Cursor) : Except SyntaxError (Token × Cursor) := do
  let (text, c) ← readTagText true (c.skip 2)
  if !c.sees '>' then throw .tag
  return (.tag "" (String.ofList text), c.skip 1)

/-- A tag with a handle, or with an exclamation mark alone. -/
def readShortTag (c : Cursor) : Except SyntaxError (Token × Cursor) := do
  let (word, closed) := handleAt c
  if closed then
    let (text, c) ← readTagText false (c.skip (word.length + 2))
    return (.tag ("!" ++ String.ofList word ++ "!") (String.ofList text), c)
  else
    let start := c.skip (word.length + 1)
    let (text, c) ← readTagChars false (start.rest.length + 1) [] start
    if word.isEmpty && text.isEmpty then return (.tag "" "!", c)
    return (.tag "!" (String.ofList (word ++ text)), c)

/-- A tag at its exclamation mark; a blank follows it, or a comma in a flow collection. -/
def readTag (inFlow : Bool) (c : Cursor) : Except SyntaxError (Token × Cursor) := do
  let (tag, c) ← if c.rest[1]? == some '<' then readVerbatimTag c else readShortTag c
  if !startsBlank c.rest && !(inFlow && c.sees ',') then throw .tag
  return (tag, c)

/-! ## Directives -/

/-- A number of at most nine digits. -/
def readVersionNumber (c : Cursor) : Except SyntaxError (Nat × Cursor) :=
  let digits := c.rest.takeWhile Char.isDigit
  if digits.isEmpty || 9 < digits.length then .error .directive
  else
    .ok (digits.foldl (fun n d => 10 * n + (d.toNat - '0'.toNat)) 0, c.skip digits.length)

/-- The version of the language that a document asks for. -/
def readVersion (c : Cursor) : Except SyntaxError (Token × Cursor) := do
  let (major, c) ← readVersionNumber (c.skipWhile isBlank)
  if !c.sees '.' then throw .directive
  let (minor, c) ← readVersionNumber (c.skip 1)
  return (.versionDirective major minor, c)

/-- A handle and the text that it stands for. -/
def readHandle (c : Cursor) : Except SyntaxError (Token × Cursor) := do
  let c := c.skipWhile isBlank
  if !c.sees '!' then throw .directive
  let (word, closed) := handleAt c
  if !closed && !word.isEmpty then throw .directive
  let c := c.skip (1 + word.length + if closed then 1 else 0)
  if !c.next isBlank then throw .directive
  let (text, c) ← readTagText true (c.skipWhile isBlank)
  if !startsBlank c.rest then throw .directive
  let handle := "!" ++ String.ofList word ++ if closed then "!" else ""
  return (.tagDirective handle (String.ofList text), c)

/-- A directive at its percent sign, and the place behind its line. -/
def readDirective (c : Cursor) : Except SyntaxError (Token × Cursor) := do
  let name := (c.rest.drop 1).takeWhile isWordChar
  let c := c.skip (1 + name.length)
  if !startsBlank c.rest then throw .directive
  let (directive, c) ←
    if name == "YAML".toList then readVersion c
    else if name == "TAG".toList then readHandle c
    else throw .directive
  let c := c.skipWhile isBlank
  let c := if c.sees '#' then c.skipWhile fun x => !isBreak x else c
  if !c.rest.isEmpty && !c.next isBreak then throw .directive
  return (directive, c.skipBreak)

end TestSelection.Yaml.Property
