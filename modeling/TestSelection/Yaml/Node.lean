import TestSelection.Yaml.Token

/-!
# Nodes of a document

A document is a tree of scalars, sequences and mappings, each with an anchor and a tag if it has
them, and of aliases that stand for an anchored node. Anchors are named when a document is read, and
numbered once it is known which node an alias stands for.
-/
namespace TestSelection.Yaml

/-- A node whose anchors are of type `ν`. -/
inductive Node (ν : Type)
  | scalar (anchor : Option ν) (tag : Option String) (style : ScalarStyle) (text : String)
  | sequence (anchor : Option ν) (tag : Option String) (items : List (Node ν))
  | mapping (anchor : Option ν) (tag : Option String) (entries : List (Node ν × Node ν))
  | aliasTo (target : ν)
  deriving Inhabited

namespace Node

variable {ν : Type}

/-- The node that stands where nothing is written. -/
def empty : Node ν :=
  scalar none none .plain ""

/-- The text of a scalar. -/
def text? : Node ν → Option String
  | scalar _ _ _ text => some text
  | _ => none

mutual

/-- How many words tell a node: one for a scalar or an alias, and two around the content of a
collection. -/
def size : Node ν → Nat
  | scalar .. => 1
  | aliasTo _ => 1
  | sequence _ _ items => 2 + sizeOfItems items
  | mapping _ _ entries => 2 + sizeOfEntries entries

def sizeOfItems : List (Node ν) → Nat
  | [] => 0
  | n :: rest => n.size + sizeOfItems rest

def sizeOfEntries : List (Node ν × Node ν) → Nat
  | [] => 0
  | (k, v) :: rest => k.size + v.size + sizeOfEntries rest

end

mutual

/-- The anchored nodes in the order in which they start. -/
def anchored : Node ν → List (ν × Node ν)
  | scalar anchor tag style text =>
    (anchor.map fun a => (a, scalar anchor tag style text)).toList
  | aliasTo _ => []
  | sequence anchor tag items =>
    (anchor.map fun a => (a, sequence anchor tag items)).toList ++ anchoredItems items
  | mapping anchor tag entries =>
    (anchor.map fun a => (a, mapping anchor tag entries)).toList ++ anchoredEntries entries

def anchoredItems : List (Node ν) → List (ν × Node ν)
  | [] => []
  | n :: rest => n.anchored ++ anchoredItems rest

def anchoredEntries : List (Node ν × Node ν) → List (ν × Node ν)
  | [] => []
  | (k, v) :: rest => k.anchored ++ v.anchored ++ anchoredEntries rest

end

end Node

end TestSelection.Yaml
