import TestSelection.Yaml.Node.Grammar

/-!
# Documents

A document whose anchors are numbered. An anchor takes as its number how many names were known before
it, and a name stands for the node that carried it last; of two nodes with one number the later one
counts.
-/
namespace TestSelection.Yaml

structure Document where
  root : Node Nat

namespace Document

/-- The names of anchors that are known, with their numbers. -/
abbrev Names := List (String × Nat)

/-- Gives an anchor its number. -/
def Names.define (names : Names) : Option String → Option Nat × Names
  | none => (none, names)
  | some name => (some names.length, (name, names.length) :: names.filter (·.1 != name))

mutual

/-- Numbers the anchors of a node; an alias stands for a name that is known. -/
def numbered (names : Names) : Node String → Except SyntaxError (Node Nat × Names)
  | .scalar anchor tag style text =>
    let (anchor, names) := names.define anchor
    .ok (.scalar anchor tag style text, names)
  | .aliasTo name =>
    match names.lookup name with
    | some number => .ok (.aliasTo number, names)
    | none => .error .unknownAnchor
  | .sequence anchor tag items => do
    let (anchor, names) := names.define anchor
    let (items, names) ← numberedItems names items
    return (.sequence anchor tag items, names)
  | .mapping anchor tag entries => do
    let (anchor, names) := names.define anchor
    let (entries, names) ← numberedEntries names entries
    return (.mapping anchor tag entries, names)

def numberedItems (names : Names) : List (Node String) → Except SyntaxError (List (Node Nat) × Names)
  | [] => .ok ([], names)
  | n :: rest => do
    let (n, names) ← numbered names n
    let (rest, names) ← numberedItems names rest
    return (n :: rest, names)

def numberedEntries (names : Names) :
    List (Node String × Node String) → Except SyntaxError (List (Node Nat × Node Nat) × Names)
  | [] => .ok ([], names)
  | (k, v) :: rest => do
    let (k, names) ← numbered names k
    let (v, names) ← numbered names v
    let (rest, names) ← numberedEntries names rest
    return ((k, v) :: rest, names)

end

/-- The document of a text. -/
def ofText (text : String) : Except SyntaxError Document := do
  let (root, _) ← numbered [] (← Node.ofText text)
  return { root }

/-- The node that an alias stands for. -/
def target? (d : Document) (number : Nat) : Option (Node Nat) :=
  d.root.anchored.reverse.lookup number

/-- How many aliases may be followed while a document is read. -/
def aliasLimit (d : Document) : Nat :=
  100 * d.root.size

end Document

end TestSelection.Yaml
