import TestSelection.Yaml.Cursor
import TestSelection.Yaml.Token

/-!
# Scalars

The text of a plain, a quoted and a block scalar. Inside the first two kinds a single line break is
read as a space and the further ones are kept; a block scalar keeps its lines or folds them, by the
same rule, where neither neighbour is indented further.
-/
namespace TestSelection.Yaml.Scalar

/-! ## Blanks between two words -/

/-- The blanks between two words of a scalar. -/
structure Separation where
  /-- The blanks before the first line break, the last one first. -/
  blanks : List Char := []
  firstBreak : Option Char := none
  /-- The further line breaks, the last one first. -/
  moreBreaks : List Char := []

/-- What is read for the blanks between two words. -/
def Separation.text (s : Separation) : List Char :=
  match s.firstBreak with
  | none => s.blanks.reverse
  | some '\n' => if s.moreBreaks.isEmpty then [' '] else s.moreBreaks.reverse
  | some b => b :: s.moreBreaks.reverse

/-- Reads blanks and breaks. In a plain scalar a tab before the column of the content breaks the
indentation. -/
def readSeparation (minColumn : Nat) : Nat → Cursor → Separation →
    Except SyntaxError (Separation × Cursor)
  | 0, c, s => .ok (s, c)
  | fuel + 1, c, s =>
    match c.rest with
    | [] => .ok (s, c)
    | x :: _ =>
      if isBlank x then
        if s.firstBreak.isSome then
          if x == '\t' && c.column < minColumn then .error .tabIndentation
          else readSeparation minColumn fuel (c.skip 1) s
        else readSeparation minColumn fuel (c.skip 1) { s with blanks := x :: s.blanks }
      else if isBreak x then
        let s := match s.firstBreak with
          | none => { s with firstBreak := some c.breakChar }
          | some _ => { s with moreBreaks := c.breakChar :: s.moreBreaks }
        readSeparation minColumn fuel c.skipBreak s
      else .ok (s, c)

/-! ## Plain scalars -/

/-- The word of a plain scalar at the front of a text; `read` holds its characters so far, the last
one first. A colon before a blank ends the scalar, in a flow collection also a mark of it. -/
def plainWord (inFlow : Bool) (read : List Char) : List Char → Except SyntaxError (List Char)
  | [] => .ok read.reverse
  | x :: rest =>
    if isSpace x then .ok read.reverse
    else if inFlow && x == ':' && rest.head?.any (fun y => isFlowMark y || y == '?') then
      .error .colonInFlow
    else if x == ':' && startsBlank rest then .ok read.reverse
    else if inFlow && isFlowMark x then .ok read.reverse
    else plainWord inFlow (x :: read) rest

/-- What is read of a plain scalar: its text, the place behind it and whether a line break stands
before that place. -/
structure Plain where
  text : List Char := []
  cursor : Cursor
  pending : Separation := {}

/-- Reads the words of a plain scalar; behind a line break it goes on only as far as it is indented
to the column of the content. -/
def readPlainWords (inFlow : Bool) (minColumn : Nat) : Nat → Plain → Except SyntaxError Plain
  | 0, p => .ok p
  | fuel + 1, p => do
    if p.cursor.seesDocumentMarker || p.cursor.sees '#' then return p
    let word ← plainWord inFlow [] p.cursor.rest
    let cursor := p.cursor.skip word.length
    let p : Plain :=
      if word.isEmpty then p
      else { text := p.text ++ p.pending.text ++ word, cursor }
    if !p.cursor.next isSpace then return p
    let (pending, cursor) ← readSeparation minColumn (p.cursor.rest.length + 1) p.cursor {}
    let p := { p with pending, cursor }
    if !inFlow && cursor.column < minColumn then return p
    readPlainWords inFlow minColumn fuel p

/-- A plain scalar, the place behind it, and whether a new line was reached. -/
def readPlain (inFlow : Bool) (minColumn : Nat) (c : Cursor) :
    Except SyntaxError (String × Cursor × Bool) := do
  let p ← readPlainWords inFlow minColumn (c.rest.length + 1) { cursor := c }
  return (String.ofList p.text, p.cursor, p.pending.firstBreak.isSome)

/-! ## Quoted scalars -/

/-- The character that an escape stands for without further digits. -/
def simpleEscape? : Char → Option Char
  | '0' => some '\x00'
  | 'a' => some '\x07'
  | 'b' => some '\x08'
  | 't' | '\t' => some '\t'
  | 'n' => some '\n'
  | 'v' => some '\x0b'
  | 'f' => some '\x0c'
  | 'r' => some '\r'
  | 'e' => some '\x1b'
  | ' ' => some ' '
  | '"' => some '"'
  | '/' => some '/'
  | '\\' => some '\\'
  | 'N' => some '\u0085'
  | '_' => some '\u00a0'
  | 'L' => some '\u2028'
  | 'P' => some '\u2029'
  | _ => none

/-- How many hexadecimal digits follow an escape. -/
def escapeDigits? : Char → Option Nat
  | 'x' => some 2
  | 'u' => some 4
  | 'U' => some 8
  | _ => none

/-- The character of a code point; surrogates are none. -/
def charOfCode? (n : Nat) : Option Char :=
  if h : n.isValidChar then some (Char.ofNatAux n h) else none

/-- The escape behind a backslash: its character and its length. -/
def escape? : List Char → Option (Char × Nat)
  | [] => none
  | x :: rest =>
    match escapeDigits? x with
    | none => (simpleEscape? x).map fun c => (c, 1)
    | some count =>
      let digits := rest.take count
      if digits.length < count then none
      else do
        let values ← digits.mapM hexValue?
        let c ← charOfCode? (values.foldl (fun n d => 16 * n + d) 0)
        return (c, 1 + count)

/-- A part of a quoted scalar without blanks. -/
structure QuotedWord where
  /-- The characters, the last one first. -/
  read : List Char := []
  cursor : Cursor
  /-- The word ended with an escaped line break. -/
  broken : Bool := false

/-- Reads up to a blank, a break, the closing quote or the end. A single quote is doubled inside its
scalar; escapes stand in the other kind. -/
def quotedWord (single : Bool) : Nat → QuotedWord → Except SyntaxError QuotedWord
  | 0, w => .ok w
  | fuel + 1, w =>
    match w.cursor.rest with
    | [] => .ok w
    | x :: rest =>
      if isSpace x then .ok w
      else if single && x == '\'' && rest.head? == some '\'' then
        quotedWord single fuel { w with read := '\'' :: w.read, cursor := w.cursor.skip 2 }
      else if x == (if single then '\'' else '"') then .ok w
      else if !single && x == '\\' then
        if rest.head?.any isBreak then
          .ok { w with cursor := (w.cursor.skip 1).skipBreak, broken := true }
        else
          match escape? rest with
          | none => .error .escape
          | some (c, length) =>
            quotedWord single fuel
              { w with read := c :: w.read, cursor := w.cursor.skip (1 + length) }
      else quotedWord single fuel { w with read := x :: w.read, cursor := w.cursor.skip 1 }

/-- Reads the words of a quoted scalar up to its closing quote; `read` holds the characters so far,
the last one first. -/
def readQuotedWords (single : Bool) : Nat → List Char → Cursor →
    Except SyntaxError (List Char × Cursor)
  | 0, _, _ => .error .unclosedQuote
  | fuel + 1, read, c => do
    if c.seesDocumentMarker then throw .documentMarkerInQuote
    if c.rest.isEmpty then throw .unclosedQuote
    let word ← quotedWord single (c.rest.length + 1) { read, cursor := c }
    if word.cursor.sees (if single then '\'' else '"') then
      return (word.read, word.cursor.skip 1)
    let length := word.cursor.rest.length + 1
    if word.broken then
      let (s, cursor) ← readSeparation 0 length word.cursor { firstBreak := some '\x00' }
      readQuotedWords single fuel (s.moreBreaks ++ word.read) cursor
    else
      let (s, cursor) ← readSeparation 0 length word.cursor {}
      readQuotedWords single fuel (s.text.reverse ++ word.read) cursor

/-- A quoted scalar at its opening quote, and the place behind it. -/
def readQuoted (single : Bool) (c : Cursor) : Except SyntaxError (String × Cursor) := do
  let (read, cursor) ← readQuotedWords single (c.rest.length + 1) [] (c.skip 1)
  return (String.ofList read.reverse, cursor)

/-! ## Block scalars -/

/-- What happens to the line breaks at the end of a block scalar. -/
inductive Chomping
  | strip
  | clip
  | keep
  deriving DecidableEq

/-- The sign that changes the chomping. -/
def chomping? : Char → Option Chomping
  | '-' => some .strip
  | '+' => some .keep
  | _ => none

/-- The digit that sets the indentation. -/
def indentDigit? (c : Char) : Option Nat :=
  if c.isDigit then some (c.toNat - '0'.toNat) else none

/-- The signs behind the indicator of a block scalar: chomping and indentation in either order. -/
def readHeader (c : Cursor) : Except SyntaxError (Chomping × Nat × Cursor) := do
  let digit (c : Cursor) : Except SyntaxError (Nat × Cursor) :=
    match c.peek?.bind indentDigit? with
    | none => .ok (0, c)
    | some 0 => .error .blockHeader
    | some n => .ok (n, c.skip 1)
  match c.peek?.bind chomping? with
  | some chomping =>
    let (increment, c) ← digit (c.skip 1)
    return (chomping, increment, c)
  | none =>
    let (increment, c) ← digit c
    if increment = 0 then return (.clip, 0, c)
    match c.peek?.bind chomping? with
    | some chomping => return (chomping, increment, c.skip 1)
    | none => return (.clip, increment, c)

/-- Reads the empty lines before a line of a block scalar and the indentation of that line. An indent
of zero is not known yet; then the deepest column that is reached counts. -/
def readIndentation (indent : Nat) : Nat → Cursor → List Char → Nat →
    Except SyntaxError (List Char × Nat × Cursor)
  | 0, c, breaks, deepest => .ok (breaks, deepest, c)
  | fuel + 1, c, breaks, deepest =>
    let spaces := (c.rest.takeWhile (· == ' ')).length
    let c := c.skip (if indent = 0 then spaces else min spaces (indent - c.column))
    let deepest := max deepest c.column
    if (indent = 0 || c.column < indent) && c.sees '\t' then .error .tabIndentation
    else if c.next isBreak then
      readIndentation indent fuel c.skipBreak (c.breakChar :: breaks) deepest
    else .ok (breaks, deepest, c)

/-- A block scalar while its lines are read; texts have their last character first. -/
structure Block where
  text : List Char := []
  /-- The break behind the last line. -/
  leadingBreak : List Char := []
  /-- The breaks of the empty lines behind it. -/
  trailingBreaks : List Char := []
  /-- The last line starts with a blank. -/
  leadingBlank : Bool := false
  cursor : Cursor

/-- Reads the lines of a block scalar that reach its indent. -/
def readBlockLines (literal : Bool) (indent : Nat) : Nat → Block → Except SyntaxError Block
  | 0, b => .ok b
  | fuel + 1, b => do
    if b.cursor.column != indent || b.cursor.rest.isEmpty then return b
    let startsBlank := b.cursor.next isBlank
    let folds := !literal && b.leadingBreak == ['\n'] && !b.leadingBlank && !startsBlank
    let joint :=
      if folds then (if b.trailingBreaks.isEmpty then [' '] else b.trailingBreaks)
      else b.trailingBreaks ++ b.leadingBreak
    let line := b.cursor.rest.takeWhile fun x => !isBreak x
    let cursor := b.cursor.skip line.length
    let leadingBreak := if cursor.next isBreak then [cursor.breakChar] else []
    let (trailingBreaks, _, cursor) ←
      readIndentation indent (cursor.rest.length + 1) cursor.skipBreak [] 0
    readBlockLines literal indent fuel {
      text := line.reverse ++ joint ++ b.text
      leadingBreak, trailingBreaks, cursor
      leadingBlank := startsBlank }

/-- A block scalar at its indicator, and the place behind it. `parentIndent` is the indentation of
the collection around it, -1 at the top. -/
def readBlock (literal : Bool) (parentIndent : Int) (c : Cursor) :
    Except SyntaxError (String × Cursor) := do
  let (chomping, increment, c) ← readHeader (c.skip 1)
  let c := c.skipWhile isBlank
  let c := if c.sees '#' then c.skipWhile fun x => !isBreak x else c
  if !c.rest.isEmpty && !c.next isBreak then throw .blockHeader
  let c := if c.next isBreak then c.skipBreak else c
  let given := if increment = 0 then 0 else (max parentIndent 0).toNat + increment
  let (breaks, deepest, c) ← readIndentation given (c.rest.length + 1) c [] 0
  let indent := if given = 0 then max deepest (max (parentIndent + 1).toNat 1) else given
  let b ← readBlockLines literal indent (c.rest.length + 1) { trailingBreaks := breaks, cursor := c }
  let tail := match chomping with
    | .strip => []
    | .clip => b.leadingBreak
    | .keep => b.trailingBreaks ++ b.leadingBreak
  return (String.ofList (tail ++ b.text).reverse, b.cursor)

end TestSelection.Yaml.Scalar
