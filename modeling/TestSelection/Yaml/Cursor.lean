import TestSelection.Yaml.Char

/-!
# A place in a text

The rest of a text with the position at which it starts: the count of characters before it, its line
and its column.
-/
namespace TestSelection.Yaml

structure Cursor where
  rest : List Char
  index : Nat := 0
  line : Nat := 0
  column : Nat := 0

namespace Cursor

def peek? (c : Cursor) : Option Char :=
  c.rest.head?

/-- Whether the next character is this one. -/
def sees (c : Cursor) (x : Char) : Bool :=
  c.rest.head? == some x

/-- Whether the next character satisfies a predicate. -/
def next (c : Cursor) (p : Char → Bool) : Bool :=
  c.rest.head?.any p

/-- The place some characters further on the same line. -/
def skip (c : Cursor) (count : Nat) : Cursor :=
  { c with rest := c.rest.drop count, index := c.index + count, column := c.column + count }

/-- The place behind the characters of a class. -/
def skipWhile (c : Cursor) (p : Char → Bool) : Cursor :=
  c.skip (c.rest.takeWhile p).length

/-- The place behind the line break that stands here; carriage return and line feed are one. -/
def skipBreak (c : Cursor) : Cursor :=
  match c.rest with
  | '\r' :: '\n' :: rest => { rest, index := c.index + 2, line := c.line + 1 }
  | _ :: rest => { rest, index := c.index + 1, line := c.line + 1 }
  | [] => c

/-- The character that the line break here stands for: separators are kept, all else is a line
feed. -/
def breakChar (c : Cursor) : Char :=
  match c.rest with
  | '\u2028' :: _ => '\u2028'
  | '\u2029' :: _ => '\u2029'
  | _ => '\n'

/-- Whether a line starts here with three characters of one kind and ends or goes on blank. -/
def seesMarker (c : Cursor) (x : Char) : Bool :=
  c.column == 0 && c.rest.take 3 == [x, x, x] && startsBlank (c.rest.drop 3)

/-- Whether a document starts or ends at this line. -/
def seesDocumentMarker (c : Cursor) : Bool :=
  c.seesMarker '-' || c.seesMarker '.'

end Cursor

end TestSelection.Yaml
