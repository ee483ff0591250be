import TestSelection.Yaml.Decode

/-!
# Content of any shape

The value of a node where its shape decides what it is. Keys of mappings are values too, in the order
in which they are written.
-/
namespace TestSelection.Yaml

open Decoding

inductive Content
  | null
  | bool (b : Bool)
  /-- An integer of at most 64 bits; `minus` tells whether it is written with a minus sign. -/
  | integer (n : Int) (minus : Bool)
  | float (x : Real)
  | text (s : String)
  | list (items : List Content)
  | map (entries : List (Content × Content))

namespace Content

/-- The content of a scalar. -/
def ofScalar (tag : Option String) (style : ScalarStyle) (s : String) : Except Problem Content := do
  match ← Schema.found tag style s with
  | .absent => return null
  | .boolean b => return bool b
  | .integer n => return integer n (s.toList.head? == some '-')
  | .float x => return float x
  | .text s => return text s
  | found => throw (.wrongType found .anything)

/-- The tag of a node. -/
def tagOf? : Node Nat → Option String
  | .scalar _ tag _ _ | .sequence _ tag _ | .mapping _ tag _ => tag
  | .aliasTo _ => none

/-- The content of a node that is inside few enough collections. A tag of the document's own has no
meaning here. -/
def read (depth : Nat) (path : Path) (node : Node Nat) : Decode Content := do
  let node ← Decode.followNode node
  Decode.placed path do
    if (tagOf? node).any Schema.isLocal then Decode.misfit .taggedVariant
    match node with
    | .scalar _ tag style s =>
      match ofScalar tag style s with
      | .ok c => return c
      | .error problem => Decode.misfit problem
    | .sequence _ _ items =>
      match depth with
      | 0 => throw .tooDeep
      | depth + 1 =>
        return list (← items.zipIdx.mapM fun (n, i) => read depth (.index i :: path) n)
    | .mapping _ _ entries =>
      match depth with
      | 0 => throw .tooDeep
      | depth + 1 =>
        let entries ← entries.mapM fun (key, value) => do
          let k ← read depth path key
          let v ← read depth (Decode.segmentOf key :: path) value
          return (k, v)
        return map entries
    | .aliasTo _ => return null

end Content

end TestSelection.Yaml
