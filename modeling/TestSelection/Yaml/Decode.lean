import TestSelection.Address
import TestSelection.Yaml.Document
import TestSelection.Yaml.Schema

/-!
# Decoding YAML

Readers of the values that documents are made of. A fault names the place of the innermost value that
was being read. How deep collections may nest and how many aliases may be followed is limited, so a
document that contains itself is refused.
-/
namespace TestSelection.Yaml

open Decoding

/-! ## Places -/

/-- A step from a collection to one of its values. -/
inductive Segment
  | key (name : String)
  | index (i : Nat)
  /-- The value of a key that is not written as a scalar. -/
  | unnamed
  deriving DecidableEq

/-- The steps from the root to a value, the last one first. -/
abbrev Path := List Segment

namespace Path

def text : Path → String
  | [] => ""
  | [.key name] => name
  | [.unnamed] => "?"
  | .key name :: parent => text parent ++ "." ++ name
  | .index i :: parent => text parent ++ "[" ++ toString i ++ "]"
  | .unnamed :: parent => text parent ++ ".?"

end Path

/-- Why a document cannot be read. -/
inductive Fault
  | tooDeep
  | tooManyAliases
  /-- A value does not fit. Its place is not known until the reader of a value around it gives it. -/
  | misfit (path : Option Path) (problem : Problem)
  deriving DecidableEq

/-- An absent value is a unit, and all digits of a float are written out. -/
def wording : Wording where
  absent := "unit value"
  positional _ := true

namespace Fault

/-- The fault with a place, if it has none yet. -/
def placed (path : Path) : Fault → Fault
  | misfit none problem => misfit (some path) problem
  | f => f

def message : Fault → String
  | tooDeep => "recursion limit exceeded"
  | tooManyAliases => "repetition limit exceeded"
  | misfit none problem | misfit (some []) problem => problem.message wording
  | misfit (some path) problem => path.text ++ ": " ++ problem.message wording

end Fault

/-! ## Decoding -/

/-- A computation that looks up aliases in a document; its state is how many may still be
followed. -/
abbrev Decode := ReaderT Document (StateT Nat (Except Fault))

/-- A node with its place, and how many collections may still be entered. -/
structure Site where
  node : Node Nat
  path : Path := []
  depth : Nat

/-- How deep collections may nest. -/
def maxDepth : Nat := 128

/-- Reads the root of a document. -/
def Document.decode {α : Type} (d : Document) (read : Site → Decode α) : Except Fault α :=
  ((read { node := d.root, depth := maxDepth }).run d).run' d.aliasLimit

namespace Decode

variable {α : Type}

def misfit (problem : Problem) : Decode α :=
  throw (.misfit none problem)

/-- Gives the faults of a reader a place. -/
def placed (path : Path) (read : Decode α) : Decode α :=
  tryCatch read fun f => throw (f.placed path)

/-- The node itself, or the one that an alias stands for. -/
def followNode : Node Nat → Decode (Node Nat)
  | .aliasTo number => do
    let left ← get
    if left = 0 then throw .tooManyAliases
    set (left - 1)
    return ((← read).target? number).getD .empty
  | node => return node

def follow (s : Site) : Decode Site :=
  return { s with node := ← followNode s.node }

/-- One collection less may be entered inside another. -/
def enter (depth : Nat) : Decode Nat :=
  match depth with
  | 0 => throw .tooDeep
  | depth + 1 => return depth

/-- What a node holds. -/
def found : Node Nat → Except Problem Found
  | .scalar _ tag style text => Schema.found tag style text
  | .sequence .. => .ok .sequence
  | .mapping .. => .ok .map
  | .aliasTo _ => .ok .absent

/-- Refuses a node where something else is wanted. -/
def refuse (node : Node Nat) (wanted : Wanted) : Decode α :=
  match found node with
  | .ok f => misfit (.wrongType f wanted)
  | .error problem => misfit problem

/-- The text of a scalar that may be a boolean or a number: a plain one, or a literal one with the
tag of that kind. -/
def wordOf? (kind : Schema.Kind) : Node Nat → Option String
  | .scalar _ _ .plain text => some text
  | .scalar _ tag .literal text => if tag.bind Schema.Kind.ofTag? = some kind then some text else none
  | _ => none

/-- Whether nothing is written where a collection is wanted. -/
def isBlank : Node Nat → Bool
  | .scalar _ _ .plain text => text.isEmpty
  | _ => false

/-- The step to the value of a key. -/
def segmentOf (key : Node Nat) : Segment :=
  match key.text? with
  | some name => .key name
  | none => .unnamed

/-! ## Scalars -/

def bool (s : Site) : Decode Bool := do
  let s ← follow s
  placed s.path <|
    match (wordOf? .boolean s.node).bind Schema.bool? with
    | some b => return b
    | none => refuse s.node .boolean

/-- A number without sign of at most 64 bits. -/
def unsigned (bits : Nat) (s : Site) : Decode Nat := do
  let s ← follow s
  placed s.path <|
    match (wordOf? .integer s.node).bind (Schema.unsigned? 64) with
    | some n =>
      if n < 1 <<< bits then return n else misfit (.wrongValue (.integer n) (.unsigned bits))
    | none => refuse s.node (.unsigned bits)

def uint16 (s : Site) : Decode UInt16 :=
  return (← unsigned 16 s).toUInt16

def uint64 (s : Site) : Decode UInt64 :=
  return (← unsigned 64 s).toUInt64

/-- The text of any scalar. -/
def textAs (wanted : Wanted) (s : Site) : Decode String := do
  let s ← follow s
  placed s.path <|
    match s.node.text? with
    | some text => return text
    | none => refuse s.node wanted

def text : Site → Decode String :=
  textAs .text

def address (s : Site) : Decode Address := do
  let text ← textAs .address s
  match Address.parse? text with
  | some a => return a
  | none => placed s.path (misfit .addressForm)

/-! ## Collections -/

def list (item : Site → Decode α) (s : Site) : Decode (List α) := do
  let s ← follow s
  placed s.path <|
    match s.node with
    | .sequence _ _ items => do
      let depth ← enter s.depth
      items.zipIdx.mapM fun (node, i) => item { node, path := .index i :: s.path, depth }
    | node => if isBlank node then return [] else refuse node .sequence

/-- An optional value: absent when it is null in a plain scalar or nothing is written. -/
def option (value : Site → Decode α) (s : Site) : Decode (Option α) := do
  let s ← follow s
  match s.node with
  | .scalar _ tag .plain text =>
    match tag with
    | none =>
      if text.isEmpty || Schema.isNull text then return none else return some (← value s)
    | some tag =>
      if Schema.Kind.ofTag? tag != some .null then return some (← value s)
      else if Schema.isNull text then return none
      else misfit (.wrongValue (.text text) .null)
  | _ => return some (← value s)

/-- How a record of type `α` is read: its fields are read one by one into a draft, and the draft
becomes the record if no required field is missing. -/
structure RecordReader (δ α : Type) where
  name : String
  fieldNames : List String
  blank : δ
  readField : δ → String → Site → Decode δ
  /-- The record, or the name of the first missing field. -/
  finish : δ → Except String α

/-- Reads the entries of a mapping into a draft. `met` are the names of the fields so far: none
stands twice. Entries of other names are passed over. -/
def readEntries {δ : Type} (r : RecordReader δ α) (path : Path) (depth : Nat) :
    List (Node Nat × Node Nat) → δ → List String → Decode δ
  | [], draft, _ => return draft
  | (key, node) :: rest, draft, met => do
    let name ← textAs .fieldName { node := key, path, depth }
    if !r.fieldNames.contains name then readEntries r path depth rest draft met
    else if met.contains name then misfit (.duplicateField name)
    else
      let draft ← r.readField draft name { node, path := segmentOf key :: path, depth }
      readEntries r path depth rest draft (name :: met)

def finish {δ : Type} (r : RecordReader δ α) (draft : δ) : Decode α :=
  match r.finish draft with
  | .ok a => return a
  | .error name => misfit (.missingField name)

/-- Reads a record from a mapping, or from nothing if all fields have defaults. -/
def record {δ : Type} (r : RecordReader δ α) (s : Site) : Decode α := do
  let s ← follow s
  placed s.path <|
    match s.node with
    | .mapping _ _ entries => do
      finish r (← readEntries r s.path (← enter s.depth) entries r.blank [])
    | node => if isBlank node then finish r r.blank else refuse node (.record r.name)

end Decode

end TestSelection.Yaml
