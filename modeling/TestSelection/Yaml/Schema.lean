import TestSelection.Decoding.Problem
import TestSelection.Yaml.Char
import TestSelection.Yaml.Node

/-!
# What scalars stand for

A plain scalar is null, a boolean, a number or a text by its form; a tag of one of these kinds asks
for that kind, whatever the style. Digits behind a leading zero are no number.
-/
namespace TestSelection.Yaml.Schema

open Decoding

def isNull (s : String) : Bool :=
  s == "null" || s == "Null" || s == "NULL" || s == "~"

def bool? (s : String) : Option Bool :=
  if s == "true" || s == "True" || s == "TRUE" then some true
  else if s == "false" || s == "False" || s == "FALSE" then some false
  else none

/-! ## Integers -/

/-- The text behind a sign. -/
def unsigned (signs : List Char) : List Char → List Char
  | [] => []
  | c :: rest => if signs.contains c then rest else c :: rest

/-- Digits behind a leading zero, with or without a sign. -/
def hasLeadingZero (cs : List Char) : Bool :=
  match unsigned ['-', '+'] cs with
  | '0' :: d :: rest => (d :: rest).all Char.isDigit
  | _ => false

/-- The value of a digit in a base of at most sixteen. -/
def digit? (base : Nat) (c : Char) : Option Nat :=
  (hexValue? c).filter (· < base)

/-- The number that a run of digits stands for. -/
def digits? (base : Nat) (cs : List Char) : Option Nat :=
  if cs.isEmpty then none
  else (cs.mapM (digit? base)).map fun ds => ds.foldl (fun n d => base * n + d) 0

/-- The number of a text without sign: in base sixteen, eight or two behind `0x`, `0o` and `0b`, else
in base ten. -/
def magnitude? : List Char → Option Nat
  | '0' :: 'x' :: rest => digits? 16 rest
  | '0' :: 'o' :: rest => digits? 8 rest
  | '0' :: 'b' :: rest => digits? 2 rest
  | cs => digits? 10 cs

/-- The number that a text stands for if it has no minus sign. -/
def natural? (s : String) : Option Nat :=
  let cs := s.toList
  if hasLeadingZero cs then none else magnitude? (unsigned ['+'] cs)

/-- The whole number that a text stands for. -/
def integer? (s : String) : Option Int :=
  match s.toList with
  | '-' :: cs => if hasLeadingZero cs then none else (magnitude? cs).map fun n => -(n : Int)
  | _ => (natural? s).map Int.ofNat

/-- A number without sign of some bits. -/
def unsigned? (bits : Nat) (s : String) : Option Nat :=
  (natural? s).filter (· < 1 <<< bits)

/-- A whole number as it is found in a document; one of more than 128 bits is none. -/
def foundInteger? (s : String) : Option Found :=
  (integer? s).bind fun n =>
    if -(1 <<< 63 : Nat) ≤ n ∧ n < (1 <<< 64 : Nat) then some (.integer n)
    else if -(1 <<< 127 : Nat) ≤ n ∧ n < (1 <<< 128 : Nat) then some (.wideInteger n)
    else none

/-! ## Floats -/

/-- The finite number nearest to a decimal text. -/
def finite? (s : String) : Option Decimal :=
  let cs := unsigned ['+'] s.toList
  let body := if s.toList.head? == some '+' then cs else unsigned ['-'] cs
  let negative := body.length < cs.length
  ((Decimal.ofText? body).bind Decimal.shortest?).map fun d => { d with negative }

def float? (s : String) : Option Real :=
  match s with
  | ".inf" | ".Inf" | ".INF" | "+.inf" | "+.Inf" | "+.INF" => some (.infinite false)
  | "-.inf" | "-.Inf" | "-.INF" => some (.infinite true)
  | ".nan" | ".NaN" | ".NAN" => some .undefined
  | _ => (finite? s).map .finite

/-! ## Scalars -/

/-- What a plain scalar stands for by its form. -/
def plain (s : String) : Found :=
  if s.isEmpty || isNull s then .absent
  else
    match bool? s with
    | some b => .boolean b
    | none =>
      match foundInteger? s with
      | some n => n
      | none =>
        if hasLeadingZero s.toList then .text s
        else
          match float? s with
          | some x => .float x
          | none => .text s

/-- The kinds that a tag asks for. -/
inductive Kind
  | boolean
  | integer
  | float
  | null
  deriving DecidableEq

def Kind.ofTag? : String → Option Kind
  | "tag:yaml.org,2002:bool" => some .boolean
  | "tag:yaml.org,2002:int" => some .integer
  | "tag:yaml.org,2002:float" => some .float
  | "tag:yaml.org,2002:null" => some .null
  | _ => none

def Kind.wanted : Kind → Wanted
  | boolean => .boolean
  | integer => .integer
  | float => .float
  | null => .null

/-- What a text stands for as a value of a kind. -/
def Kind.found? (kind : Kind) (s : String) : Option Found :=
  match kind with
  | boolean => (bool? s).map .boolean
  | integer => foundInteger? s
  | float => (float? s).map .float
  | null => if isNull s then some .absent else none

/-- Whether a tag is one of the document's own. -/
def isLocal (tag : String) : Bool :=
  tag.toList.head? == some '!'

/-- What a scalar stands for. -/
def found (tag : Option String) (style : ScalarStyle) (s : String) : Except Problem Found :=
  match tag.bind Kind.ofTag? with
  | some kind =>
    match kind.found? s with
    | some f => .ok f
    | none => .error (.wrongValue (.text s) kind.wanted)
  | none => .ok (if style = .plain && tag.all isLocal then plain s else .text s)

end TestSelection.Yaml.Schema
