import TestSelection.Yaml.Node
import TestSelection.Yaml.Token.Scan

/-!
# The grammar of nodes

Reads the tree of a document from its tokens; each reader gives the tokens behind what it read. Where
a node is missing between two tokens an empty one stands; behind an anchor or a tag too. A document has
one root, with directives before it and marks around it.
-/
namespace TestSelection.Yaml

/-- What the handles of tags stand for. -/
abbrev Handles := List (String × String)

/-- The handles that every document knows, unless it gives them another meaning. -/
def Handles.standard : Handles :=
  [("!", "!"), ("!!", "tag:yaml.org,2002:")]

/-- Whether the next token is one of these. -/
def comesNext (ts stops : List Token) : Bool :=
  ts.head?.any fun t => stops.contains t

/-! ## Properties -/

/-- What stands before a node. -/
structure Properties where
  anchor : Option String := none
  tag : Option String := none

def Handles.expand (handles : Handles) (handle suffix : String) : Except SyntaxError String :=
  if handle.isEmpty then .ok suffix
  else
    match handles.lookup handle with
    | some head => .ok (head ++ suffix)
    | none => .error .undefinedHandle

/-- Reads an anchor and a tag in either order. -/
def readProperties (handles : Handles) : List Token → Except SyntaxError (Properties × List Token)
  | .anchor a :: .tag h s :: ts => return ({ anchor := a, tag := ← handles.expand h s }, ts)
  | .tag h s :: .anchor a :: ts => return ({ anchor := a, tag := ← handles.expand h s }, ts)
  | .anchor a :: ts => return ({ anchor := a }, ts)
  | .tag h s :: ts => return ({ tag := ← handles.expand h s }, ts)
  | ts => return ({}, ts)

/-- A scalar with its properties; a tag of an exclamation mark alone says nothing about it. -/
def Properties.scalar (p : Properties) (style : ScalarStyle) (text : String) : Node String :=
  .scalar p.anchor (p.tag.filter (· != "!")) style text

/-! ## Nodes -/

/-- Where a node stands. -/
inductive Place
  /-- Inside a flow collection. -/
  | flow
  /-- In a block collection or at the root. -/
  | block
  /-- In a block mapping, where the entries of a sequence need no deeper indentation. -/
  | entry
  deriving DecidableEq

namespace Grammar

abbrev Items := List (Node String)

abbrev Entries := List (Node String × Node String)

mutual

def node (handles : Handles) : Nat → Place → List Token → Except SyntaxError (Node String × List Token)
  | _, _, .aliasTo name :: ts => return (.aliasTo name, ts)
  | 0, _, _ => .error .unexpectedToken
  | fuel + 1, place, ts => do
    let (p, ts) ← readProperties handles ts
    match ts with
    | .scalar style text :: ts => return (p.scalar style text, ts)
    | .flowSequenceStart :: ts =>
      let (items, ts) ← flowItems handles fuel true ts
      return (.sequence p.anchor p.tag items, ts)
    | .flowMappingStart :: ts =>
      let (entries, ts) ← flowEntries handles fuel true ts
      return (.mapping p.anchor p.tag entries, ts)
    | ts =>
      match ts, place with
      | .blockEntry :: _, .entry =>
        let (items, ts) ← indentlessItems handles fuel ts
        return (.sequence p.anchor p.tag items, ts)
      | .blockSequenceStart :: ts, .block | .blockSequenceStart :: ts, .entry =>
        let (items, ts) ← blockItems handles fuel ts
        return (.sequence p.anchor p.tag items, ts)
      | .blockMappingStart :: ts, .block | .blockMappingStart :: ts, .entry =>
        let (entries, ts) ← blockEntries handles fuel ts
        return (.mapping p.anchor p.tag entries, ts)
      | ts, _ =>
        if p.anchor.isNone && p.tag.isNone then .error .unexpectedToken
        else return (.scalar p.anchor p.tag .plain "", ts)

/-- A node, or the empty one before a token at which none can start. -/
def nodeUnless (handles : Handles) : Nat → Place → List Token → List Token →
    Except SyntaxError (Node String × List Token)
  | 0, _, _, _ => .error .unexpectedToken
  | fuel + 1, place, stops, ts =>
    if comesNext ts stops then .ok (.empty, ts) else node handles fuel place ts

/-- The items of a block sequence, behind its start. -/
def blockItems (handles : Handles) : Nat → List Token → Except SyntaxError (Items × List Token)
  | fuel + 1, .blockEntry :: ts => do
    let (item, ts) ← nodeUnless handles fuel .block [.blockEntry, .blockEnd] ts
    let (items, ts) ← blockItems handles fuel ts
    return (item :: items, ts)
  | _, .blockEnd :: ts => .ok ([], ts)
  | _, _ => .error .unexpectedToken

/-- The items of a sequence that stands in a mapping without indentation of its own. -/
def indentlessItems (handles : Handles) : Nat → List Token → Except SyntaxError (Items × List Token)
  | fuel + 1, .blockEntry :: ts => do
    let (item, ts) ← nodeUnless handles fuel .block [.blockEntry, .key, .value, .blockEnd] ts
    let (items, ts) ← indentlessItems handles fuel ts
    return (item :: items, ts)
  | _, ts => .ok ([], ts)

/-- The entries of a block mapping, behind its start. -/
def blockEntries (handles : Handles) : Nat → List Token → Except SyntaxError (Entries × List Token)
  | fuel + 1, .key :: ts => do
    let stops := [.key, .value, .blockEnd]
    let (key, ts) ← nodeUnless handles fuel .entry stops ts
    let (value, ts) ← match ts with
      | .value :: ts => nodeUnless handles fuel .entry stops ts
      | ts => .ok (.empty, ts)
    let (entries, ts) ← blockEntries handles fuel ts
    return ((key, value) :: entries, ts)
  | _, .blockEnd :: ts => .ok ([], ts)
  | _, _ => .error .unexpectedToken

/-- The items of a flow sequence, behind its start or behind an item. -/
def flowItems (handles : Handles) : Nat → Bool → List Token → Except SyntaxError (Items × List Token)
  | _, _, .flowSequenceEnd :: ts => .ok ([], ts)
  | 0, _, _ => .error .unexpectedToken
  | fuel + 1, first, ts => do
    let ts ← match first, ts with
      | true, ts => .ok ts
      | false, .flowEntry :: ts => .ok ts
      | false, _ => .error .unexpectedToken
    match ts with
    | .flowSequenceEnd :: ts => return ([], ts)
    | .key :: ts =>
      let (entry, ts) ← pair handles fuel ts
      let (items, ts) ← flowItems handles fuel false ts
      return (.mapping none none [entry] :: items, ts)
    | ts =>
      let (item, ts) ← node handles fuel .flow ts
      let (items, ts) ← flowItems handles fuel false ts
      return (item :: items, ts)

/-- A mapping of one entry that stands as an item of a flow sequence, behind the mark of its key. A
token that stands in place of the key is passed over. -/
def pair (handles : Handles) : Nat → List Token →
    Except SyntaxError ((Node String × Node String) × List Token)
  | 0, _ => .error .unexpectedToken
  | fuel + 1, ts => do
    let (key, ts) ←
      if comesNext ts [.value, .flowEntry, .flowSequenceEnd] then .ok (.empty, ts.drop 1)
      else node handles fuel .flow ts
    let (value, ts) ← match ts with
      | .value :: ts => nodeUnless handles fuel .flow [.flowEntry, .flowSequenceEnd] ts
      | ts => .ok (.empty, ts)
    return ((key, value), ts)

/-- The entries of a flow mapping, behind its start or behind an entry. -/
def flowEntries (handles : Handles) :
    Nat → Bool → List Token → Except SyntaxError (Entries × List Token)
  | _, _, .flowMappingEnd :: ts => .ok ([], ts)
  | 0, _, _ => .error .unexpectedToken
  | fuel + 1, first, ts => do
    let ts ← match first, ts with
      | true, ts => .ok ts
      | false, .flowEntry :: ts => .ok ts
      | false, _ => .error .unexpectedToken
    let stops := [.flowEntry, .flowMappingEnd]
    match ts with
    | .flowMappingEnd :: ts => return ([], ts)
    | .key :: ts =>
      let (key, ts) ← nodeUnless handles fuel .flow (.value :: stops) ts
      let (value, ts) ← match ts with
        | .value :: ts => nodeUnless handles fuel .flow stops ts
        | ts => .ok (.empty, ts)
      let (entries, ts) ← flowEntries handles fuel false ts
      return ((key, value) :: entries, ts)
    | ts =>
      let (key, ts) ← node handles fuel .flow ts
      let (entries, ts) ← flowEntries handles fuel false ts
      return ((key, .empty) :: entries, ts)

end

/-! ## Documents -/

/-- The directives before a document: at most one version, of the languages that are known, and each
handle once. -/
def directives : List Token → Bool → Handles → Except SyntaxError (Handles × List Token)
  | .versionDirective major minor :: ts, false, handles =>
    if major = 1 ∧ (minor = 1 ∨ minor = 2) then directives ts true handles
    else .error .directive
  | .versionDirective .. :: _, true, _ => .error .directive
  | .tagDirective handle head :: ts, seen, handles =>
    if (handles.lookup handle).isSome then .error .directive
    else directives ts seen ((handle, head) :: handles)
  | ts, _, handles => .ok (handles, ts)

/-- Whether the tokens of a document end here. -/
def endsDocument : List Token → Bool
  | [] | .versionDirective .. :: _ | .tagDirective .. :: _ | .documentStart :: _
  | .documentEnd :: _ => true
  | _ => false

/-- The root of the document at the front of the tokens. -/
def root (ts : List Token) : Except SyntaxError (Node String × List Token) := do
  let fuel := 4 * ts.length + 4
  match ts with
  | [] => return (.empty, [])
  | .versionDirective .. :: _ | .tagDirective .. :: _ | .documentStart :: _ =>
    let (handles, ts) ← directives ts false []
    match ts with
    | .documentStart :: ts =>
      if endsDocument ts then return (.empty, ts)
      node (handles ++ Handles.standard) fuel .block ts
    | _ => .error .unexpectedToken
  | ts => node Handles.standard fuel .block ts

end Grammar

/-- The root of the only document of a text. -/
def Node.ofText (text : String) : Except SyntaxError (Node String) := do
  let (root, ts) ← Grammar.root (← Token.scan text)
  if (ts.dropWhile (· == .documentEnd)).isEmpty then return root
  throw .severalDocuments

end TestSelection.Yaml
