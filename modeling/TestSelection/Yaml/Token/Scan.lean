import TestSelection.Yaml.Token.Property
import TestSelection.Yaml.Token.Scalar

/-!
# The tokens of a text

A text is read from left to right. Indentation opens and closes block collections. A key needs no
mark of its own: it is known only at the colon behind it, so the place of a possible key is kept, one
for each flow collection around, and its token is put there later.
-/
namespace TestSelection.Yaml

/-- A place at which a key may have started without a mark. -/
structure KeyStart where
  /-- How many tokens stand before it. -/
  token : Nat
  index : Nat
  line : Nat
  column : Nat
  /-- Nothing but a key can stand there. -/
  required : Bool

/-- What is known of a text up to a place in it. -/
structure Scan where
  cursor : Cursor
  tokens : Array Token := #[]
  /-- The indentation of the block collection around, -1 outside of all. -/
  indent : Int := -1
  outerIndents : List Int := []
  /-- Whether a key without a mark may start here. -/
  keyAllowed : Bool := true
  keyStart : Option KeyStart := none
  /-- The possible keys before the flow collections around, the innermost first. -/
  outerKeyStarts : List (Option KeyStart) := []

namespace Scan

def inFlow (s : Scan) : Bool :=
  !s.outerKeyStarts.isEmpty

def emit (s : Scan) (t : Token) : Scan :=
  { s with tokens := s.tokens.push t }

def skip (s : Scan) (count : Nat) : Scan :=
  { s with cursor := s.cursor.skip count }

/-! ## Indentation -/

/-- Opens a block collection at a column that is deeper than the one around; its token goes before
the others from the given one on. -/
def openBlock (s : Scan) (column token : Nat) (start : Token) : Scan :=
  if s.inFlow || (column : Int) ≤ s.indent then s
  else
    { s with
      indent := column
      outerIndents := s.indent :: s.outerIndents
      tokens := s.tokens.insertIdxIfInBounds token start }

/-- Closes block collections, the innermost first, as long as they are deeper than a column. -/
def closeBlocks (column : Int) : List Int → Scan → Scan
  | [], s => s
  | outer :: more, s =>
    if column < s.indent then
      closeBlocks column more { s.emit .blockEnd with indent := outer, outerIndents := more }
    else s

/-- Closes the block collections that are deeper than a column. -/
def dedent (s : Scan) (column : Int) : Scan :=
  if s.inFlow then s else closeBlocks column s.outerIndents s

/-! ## Possible keys -/

/-- Gives up the possible key. -/
def dropKey (s : Scan) : Except SyntaxError Scan :=
  if s.keyStart.any (·.required) then .error .simpleKey else .ok { s with keyStart := none }

/-- Notes that a key may start here. -/
def noteKey (s : Scan) : Except SyntaxError Scan :=
  if s.keyAllowed then do
    let s ← s.dropKey
    let c := s.cursor
    let required := !s.inFlow && s.indent == c.column
    return { s with
      keyStart := some
        { token := s.tokens.size, index := c.index, line := c.line, column := c.column, required } }
  else .ok s

/-- A key stands on one line and has at most 1024 characters. -/
def KeyStart.reaches (k : KeyStart) (c : Cursor) : Bool :=
  k.line == c.line && c.index ≤ k.index + 1024

/-- The possible key, given up where the text has gone on too far. -/
def freshKey (c : Cursor) : Option KeyStart → Except SyntaxError (Option KeyStart)
  | none => .ok none
  | some k =>
    if KeyStart.reaches k c then .ok (some k)
    else if k.required then .error .simpleKey
    else .ok none

def dropStaleKeys (s : Scan) : Except SyntaxError Scan := do
  let outerKeyStarts ← s.outerKeyStarts.mapM (freshKey s.cursor)
  let keyStart ← freshKey s.cursor s.keyStart
  return { s with keyStart, outerKeyStarts }

/-! ## Between tokens -/

/-- Passes over blanks, comments and line breaks. A tab is a blank only where no key may start; at
the start of a line a byte order mark is passed over too. -/
def skipBlanks : Nat → Scan → Scan
  | 0, s => s
  | fuel + 1, s =>
    let c := s.cursor
    let c := if c.column == 0 && c.sees byteOrderMark then c.skip 1 else c
    let tabs := s.inFlow || !s.keyAllowed
    let c := c.skipWhile fun x => x == ' ' || (tabs && x == '\t')
    let c := if c.sees '#' then c.skipWhile fun x => !isBreak x else c
    if c.next isBreak then
      skipBlanks fuel { s with cursor := c.skipBreak, keyAllowed := s.keyAllowed || !s.inFlow }
    else { s with cursor := c }

/-! ## Tokens of one kind each -/

/-- The end of the text closes all block collections. -/
def readEnd (s : Scan) : Except SyntaxError (Array Token) := do
  let s ← (s.dedent (-1)).dropKey
  return s.tokens

def readDirective (s : Scan) : Except SyntaxError Scan := do
  let s ← (s.dedent (-1)).dropKey
  let (directive, cursor) ← Property.readDirective s.cursor
  return { s.emit directive with cursor, keyAllowed := false }

/-- A line that starts or ends a document. -/
def readDocumentMarker (s : Scan) (t : Token) : Except SyntaxError Scan := do
  let s ← (s.dedent (-1)).dropKey
  return { (s.emit t).skip 3 with keyAllowed := false }

def readFlowStart (s : Scan) (t : Token) : Except SyntaxError Scan := do
  let s ← s.noteKey
  return { (s.emit t).skip 1 with
    keyStart := none
    outerKeyStarts := s.keyStart :: s.outerKeyStarts
    keyAllowed := true }

def readFlowEnd (s : Scan) (t : Token) : Except SyntaxError Scan := do
  let s ← s.dropKey
  let s := match s.outerKeyStarts with
    | [] => s
    | outer :: more => { s with keyStart := outer, outerKeyStarts := more }
  return { (s.emit t).skip 1 with keyAllowed := false }

def readFlowEntry (s : Scan) : Except SyntaxError Scan := do
  let s ← s.dropKey
  return { (s.emit .flowEntry).skip 1 with keyAllowed := true }

def readBlockEntry (s : Scan) : Except SyntaxError Scan := do
  if !s.inFlow && !s.keyAllowed then throw .blockEntryPlace
  let s ← (s.openBlock s.cursor.column s.tokens.size .blockSequenceStart).dropKey
  return { (s.emit .blockEntry).skip 1 with keyAllowed := true }

/-- A key with a mark. -/
def readKey (s : Scan) : Except SyntaxError Scan := do
  if !s.inFlow && !s.keyAllowed then throw .keyPlace
  let s ← (s.openBlock s.cursor.column s.tokens.size .blockMappingStart).dropKey
  return { (s.emit .key).skip 1 with keyAllowed := !s.inFlow }

/-- The value behind a key. If the key had no mark, its token goes where it started. -/
def readValue (s : Scan) : Except SyntaxError Scan := do
  match s.keyStart with
  | some k =>
    let s := { s with tokens := s.tokens.insertIdxIfInBounds k.token .key }
    let s := s.openBlock k.column k.token .blockMappingStart
    return { (s.emit .value).skip 1 with keyStart := none, keyAllowed := false }
  | none =>
    if !s.inFlow && !s.keyAllowed then throw .valuePlace
    let s := s.openBlock s.cursor.column s.tokens.size .blockMappingStart
    return { (s.emit .value).skip 1 with keyAllowed := !s.inFlow }

/-- A name: of an alias, or of the anchor of the node behind it. -/
def readName (s : Scan) (t : String → Token) : Except SyntaxError Scan := do
  let s ← s.noteKey
  let (name, cursor) ← Property.readName s.cursor
  return { s.emit (t name) with cursor, keyAllowed := false }

def readTag (s : Scan) : Except SyntaxError Scan := do
  let s ← s.noteKey
  let (tag, cursor) ← Property.readTag s.inFlow s.cursor
  return { s.emit tag with cursor, keyAllowed := false }

def readBlockScalar (s : Scan) (literal : Bool) : Except SyntaxError Scan := do
  let s ← s.dropKey
  let (text, cursor) ← Scalar.readBlock literal s.indent s.cursor
  return { s.emit (.scalar (if literal then .literal else .folded) text) with
    cursor, keyAllowed := true }

def readQuoted (s : Scan) (single : Bool) : Except SyntaxError Scan := do
  let s ← s.noteKey
  let (text, cursor) ← Scalar.readQuoted single s.cursor
  return { s.emit (.scalar (if single then .singleQuoted else .doubleQuoted) text) with
    cursor, keyAllowed := false }

def readPlain (s : Scan) : Except SyntaxError Scan := do
  let s ← s.noteKey
  let (text, cursor, keyAllowed) ← Scalar.readPlain s.inFlow (s.indent + 1).toNat s.cursor
  return { s.emit (.scalar .plain text) with cursor, keyAllowed }

/-! ## All tokens -/

/-- Whether a plain scalar starts with these characters. -/
def startsPlain (inFlow : Bool) (x : Char) (rest : List Char) : Bool :=
  !(isSpace x || isIndicator x) ||
    (x == '-' && !rest.head?.any isBlank) ||
    (!inFlow && (x == '?' || x == ':') && !startsBlank rest)

/-- Reads the token that starts here. -/
def readToken (s : Scan) (x : Char) (rest : List Char) : Except SyntaxError Scan :=
  let marks := startsBlank rest
  match x with
  | '[' => s.readFlowStart .flowSequenceStart
  | '\x7b' => s.readFlowStart .flowMappingStart
  | ']' => s.readFlowEnd .flowSequenceEnd
  | '\x7d' => s.readFlowEnd .flowMappingEnd
  | ',' => s.readFlowEntry
  | '*' => s.readName .aliasTo
  | '&' => s.readName .anchor
  | '!' => s.readTag
  | '\'' => s.readQuoted true
  | '"' => s.readQuoted false
  | _ =>
    if x == '%' && s.cursor.column == 0 then s.readDirective
    else if s.cursor.seesMarker '-' then s.readDocumentMarker .documentStart
    else if s.cursor.seesMarker '.' then s.readDocumentMarker .documentEnd
    else if x == '-' && marks then s.readBlockEntry
    else if x == '?' && (s.inFlow || marks) then s.readKey
    else if x == ':' && (s.inFlow || marks) then s.readValue
    else if x == '|' && !s.inFlow then s.readBlockScalar true
    else if x == '>' && !s.inFlow then s.readBlockScalar false
    else if startsPlain s.inFlow x rest then s.readPlain
    else .error .unexpectedCharacter

/-- Reads tokens up to the end of the text. -/
def run : Nat → Scan → Except SyntaxError (Array Token)
  | 0, s => s.readEnd
  | fuel + 1, s => do
    let s ← (skipBlanks (s.cursor.rest.length + 1) s).dropStaleKeys
    let s := s.dedent s.cursor.column
    match s.cursor.rest with
    | [] => s.readEnd
    | x :: rest => run fuel (← s.readToken x rest)

end Scan

/-- The tokens of a text. -/
def Token.scan (text : String) : Except SyntaxError (List Token) := do
  let chars := text.toList
  if !chars.all isAllowed then throw .forbiddenCharacter
  let tokens ← Scan.run (chars.length + 1) { cursor := { rest := chars } }
  return tokens.toList

end TestSelection.Yaml
