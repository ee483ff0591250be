/-!
# Internet addresses

Addresses of both versions of the protocol with their text forms. An address of version 6 is written
in lower case with its longest run of two or more zero groups left out, the first one of equal
length; an embedded address of version 4 keeps its own form.
-/
namespace TestSelection

inductive Address
  | v4 (a b c d : UInt8)
  | v6 (groups : Vector UInt16 8)
  deriving DecidableEq

namespace Address

/-- The address of version 4 that stands for every interface. -/
def unspecified4 : Address := v4 0 0 0 0

/-- The address of version 6 that stands for every interface. -/
def unspecified6 : Address := v6 (Vector.replicate 8 0)

/-! ## Text of an address -/

def text4 (a b c d : Nat) : String :=
  ".".intercalate ([a, b, c, d].map toString)

/-- Groups of sixteen bits, hexadecimal, with colons between them. -/
def groupsText (groups : List Nat) : String :=
  ":".intercalate (groups.map fun g => String.ofList (Nat.toDigits 16 g))

/-- A run of consecutive groups. -/
structure Run where
  start : Nat
  length : Nat

/-- The longest run of zero groups, the first of equals. `current` is the run that ends right before
the group at `index`. -/
def longestZeroRun (index : Nat) (current longest : Run) : List Nat → Run
  | [] => longest
  | 0 :: rest =>
    let current : Run := if current.length = 0 then ⟨index, 1⟩ else ⟨current.start, current.length + 1⟩
    longestZeroRun (index + 1) current
      (if longest.length < current.length then current else longest) rest
  | _ :: rest => longestZeroRun (index + 1) ⟨0, 0⟩ longest rest

def text6 (groups : List Nat) : String :=
  match groups with
  | [0, 0, 0, 0, 0, 0xffff, high, low] =>
    "::ffff:" ++ text4 (high / 256) (high % 256) (low / 256) (low % 256)
  | _ =>
    let run := longestZeroRun 0 ⟨0, 0⟩ ⟨0, 0⟩ groups
    if 1 < run.length then
      groupsText (groups.take run.start) ++ "::" ++ groupsText (groups.drop (run.start + run.length))
    else groupsText groups

def text : Address → String
  | v4 a b c d => text4 a.toNat b.toNat c.toNat d.toNat
  | v6 groups => text6 (groups.toList.map UInt16.toNat)

/-! ## Reading an address -/

/-- The value of a digit in some base up to sixteen. -/
def digitValue? (base : Nat) (c : Char) : Option Nat :=
  let n :=
    if c.isDigit then some (c.toNat - '0'.toNat)
    else if 'a' ≤ c && c ≤ 'f' then some (c.toNat - 'a'.toNat + 10)
    else if 'A' ≤ c && c ≤ 'F' then some (c.toNat - 'A'.toNat + 10)
    else none
  n.filter (· < base)

/-- A decimal number below 256 without leading zeros. -/
def readOctet? (cs : List Char) : Option (UInt8 × List Char) :=
  let digits := cs.takeWhile Char.isDigit
  let n := digits.foldl (fun n c => 10 * n + (c.toNat - '0'.toNat)) 0
  if digits.isEmpty || 3 < digits.length || (digits.head? == some '0' && 1 < digits.length) ||
      255 < n then none
  else some (n.toUInt8, cs.dropWhile Char.isDigit)

/-- A group of one to four hexadecimal digits. -/
def readGroup? (cs : List Char) : Option (UInt16 × List Char) :=
  let isHex c := (digitValue? 16 c).isSome
  let digits := cs.takeWhile isHex
  if digits.isEmpty || 4 < digits.length then none
  else
    let n := digits.foldl (fun n c => 16 * n + (digitValue? 16 c).getD 0) 0
    some (n.toUInt16, cs.dropWhile isHex)

/-- One character that has to stand here. -/
def expect? (c : Char) : List Char → Option (List Char)
  | d :: rest => if c = d then some rest else none
  | [] => none

/-- Four numbers with points between them. -/
def readFour? (cs : List Char) : Option ((UInt8 × UInt8 × UInt8 × UInt8) × List Char) := do
  let (a, cs) ← readOctet? cs
  let (b, cs) ← readOctet? (← expect? '.' cs)
  let (c, cs) ← readOctet? (← expect? '.' cs)
  let (d, cs) ← readOctet? (← expect? '.' cs)
  some ((a, b, c, d), cs)

/-- The two groups that four octets fill. -/
def groupsOfFour : UInt8 × UInt8 × UInt8 × UInt8 → List UInt16
  | (a, b, c, d) => [a.toUInt16 * 256 + b.toUInt16, c.toUInt16 * 256 + d.toUInt16]

/-- Groups with colons between them, as many as there are, at most `room`. An address of version 4
may take the last two places and ends the groups; the answer says whether it did. `isFirst` is set
before the first group, which has no colon before it. -/
def readGroups (isFirst : Bool) : Nat → List Char → List UInt16 × Bool × List Char
  | 0, cs => ([], false, cs)
  | room + 1, cs =>
    match if isFirst then some cs else expect? ':' cs with
    | none => ([], false, cs)
    | some inner =>
      match if room = 0 then none else readFour? inner with
      | some (four, rest) => (groupsOfFour four, true, rest)
      | none =>
        match readGroup? inner with
        | none => ([], false, cs)
        | some (group, rest) =>
          let (groups, embedded, rest) := readGroups false room rest
          (group :: groups, embedded, rest)

/-- The address of eight groups. -/
def ofGroups? (groups : List UInt16) : Option Address :=
  if h : groups.length = 8 then some (v6 ⟨groups.toArray, by simpa using h⟩) else none

/-- An address of version 6: eight groups, or fewer with `::` in the place of the missing ones, of
which there is at least one. -/
def readSix? (cs : List Char) : Option (Address × List Char) := do
  let (front, embedded, rest) := readGroups true 8 cs
  if front.length = 8 then
    some (← ofGroups? front, rest)
  else if embedded then none
  else
    let rest ← expect? ':' rest
    let rest ← expect? ':' rest
    let (back, _, rest) := readGroups true (7 - front.length) rest
    some (← ofGroups? (front ++ List.replicate (8 - front.length - back.length) 0 ++ back), rest)

/-- The address that a whole text stands for. -/
def parse? (s : String) : Option Address :=
  let whole (result : Option (Address × List Char)) : Option Address :=
    result.bind fun (a, rest) => if rest.isEmpty then some a else none
  match readFour? s.toList with
  | some ((a, b, c, d), rest) => whole (some (v4 a b c d, rest))
  | none => whole (readSix? s.toList)

end Address

/-- An address with a port. -/
structure Endpoint where
  address : Address
  port : UInt16
  deriving DecidableEq

/-- The text of an endpoint; an address of version 6 stands in brackets. -/
def Endpoint.text (e : Endpoint) : String :=
  match e.address with
  | .v4 .. => e.address.text ++ ":" ++ toString e.port.toNat
  | .v6 _ => "[" ++ e.address.text ++ "]:" ++ toString e.port.toNat

end TestSelection
