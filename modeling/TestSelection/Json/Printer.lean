import TestSelection.Json.Basic
import TestSelection.Text.Quoted

/-!
# Printing JSON

`Json.compact` puts a value on one line without blanks, `Json.pretty` gives each item and field a
line of its own, two blanks deeper than its container.
-/
namespace TestSelection.Json

/-- One character of a text value: quotes, backslashes and controls are escaped. -/
def escapedChar (c : Char) : String :=
  match c with
  | '"' => "\\\""
  | '\\' => "\\\\"
  | '\x08' => "\\b"
  | '\x0c' => "\\f"
  | '\n' => "\\n"
  | '\r' => "\\r"
  | '\t' => "\\t"
  | c =>
    if c.toNat < 0x20 then
      let digits := Text.hexDigits c.toNat
      "\\u" ++ String.ofList (List.replicate (4 - digits.length) '0') ++ digits
    else c.toString

def escaped (s : String) : String :=
  "\"" ++ String.join (s.toList.map escapedChar) ++ "\""

/-- Floats are written out while their point stands near the digits, else with an exponent. -/
def floatText (d : Decimal) : String :=
  d.render isPositional

mutual

/-- A value on one line. -/
def compact : Json → String
  | null => "null"
  | bool b => if b then "true" else "false"
  | int n => toString n
  | float d => floatText d
  | text s => escaped s
  | list items => "[" ++ ",".intercalate (compactItems items) ++ "]"
  | object fields => "\x7b" ++ ",".intercalate (compactFields fields) ++ "\x7d"

def compactItems : List Json → List String
  | [] => []
  | v :: rest => compact v :: compactItems rest

def compactFields : List (String × Json) → List String
  | [] => []
  | (name, v) :: rest => (escaped name ++ ":" ++ compact v) :: compactFields rest

end

/-- The start of a line at some depth. -/
def newLine (depth : Nat) : String :=
  "\n" ++ String.ofList (List.replicate (2 * depth) ' ')

/-- The lines of a container between its brackets; an empty container has none. -/
def block (depth : Nat) (openMark closeMark : String) (lines : List String) : String :=
  if lines.isEmpty then openMark ++ closeMark
  else openMark ++ newLine (depth + 1) ++ ("," ++ newLine (depth + 1)).intercalate lines ++
    newLine depth ++ closeMark

mutual

/-- A value whose container is at some depth, on as many lines as it needs. -/
def prettyAt (depth : Nat) : Json → String
  | list items => block depth "[" "]" (prettyItems (depth + 1) items)
  | object fields => block depth "\x7b" "\x7d" (prettyFields (depth + 1) fields)
  | null => "null"
  | bool b => if b then "true" else "false"
  | int n => toString n
  | float d => floatText d
  | text s => escaped s

def prettyItems (depth : Nat) : List Json → List String
  | [] => []
  | v :: rest => prettyAt depth v :: prettyItems depth rest

def prettyFields (depth : Nat) : List (String × Json) → List String
  | [] => []
  | (name, v) :: rest => (escaped name ++ ": " ++ prettyAt depth v) :: prettyFields depth rest

end

/-- A value with one line for each item and field. -/
def pretty (v : Json) : String :=
  prettyAt 0 v

end TestSelection.Json
