import TestSelection.Address
import TestSelection.Decoding.Problem
import TestSelection.Json.Basic

/-!
# Decoding JSON

Readers of the values that documents are made of. A record is an object, or the list of its fields
in the order of their declaration; of an object the fields are read in their order in the object.
-/
namespace TestSelection.Json

open Decoding

/-- Null is a value of its own; floats have an exponent where the point is far from the digits. -/
def wording : Wording where
  absent := "null"
  positional := isPositional

def found : Json → Found
  | null => .absent
  | bool b => .boolean b
  | int n => .integer n
  | float d => .float (.finite d)
  | text s => .text s
  | list _ => .sequence
  | object _ => .map

def decodeBool : Json → Except Problem Bool
  | bool b => .ok b
  | v => .error (.wrongType v.found .boolean)

def decodeText : Json → Except Problem String
  | text s => .ok s
  | v => .error (.wrongType v.found .text)

/-- A number without sign of some bits. -/
def decodeUnsigned (bits : Nat) : Json → Except Problem Nat
  | int n =>
    if 0 ≤ n ∧ n < (1 <<< bits : Nat) then .ok n.toNat
    else .error (.wrongValue (.integer n) (.unsigned bits))
  | v => .error (.wrongType v.found (.unsigned bits))

def decodeUInt16 (v : Json) : Except Problem UInt16 :=
  (decodeUnsigned 16 v).map Nat.toUInt16

def decodeUInt32 (v : Json) : Except Problem UInt32 :=
  (decodeUnsigned 32 v).map Nat.toUInt32

def decodeUInt64 (v : Json) : Except Problem UInt64 :=
  (decodeUnsigned 64 v).map Nat.toUInt64

def decodeAddress : Json → Except Problem Address
  | text s =>
    match Address.parse? s with
    | some a => .ok a
    | none => .error .addressForm
  | v => .error (.wrongType v.found .address)

def decodeList {α : Type} (item : Json → Except Problem α) : Json → Except Problem (List α)
  | list items => items.mapM item
  | v => .error (.wrongType v.found .sequence)

/-- An optional value; null is its absence. -/
def decodeOption {α : Type} (value : Json → Except Problem α) : Json → Except Problem (Option α)
  | null => .ok none
  | v => (value v).map some

/-- How a record of type `α` is read: its fields are read one by one into a draft, and the draft
becomes the record if no required field is missing. -/
structure RecordReader (δ α : Type) where
  name : String
  fieldNames : List String
  /-- The fields that cannot be left out at the end of a list. -/
  listed : List String
  blank : δ
  readField : δ → String → Json → Except Problem δ
  /-- The record, or the name of the first missing field. -/
  finish : δ → Except String α

/-- Reads fields one after another into a draft. -/
def RecordReader.readFields {δ α : Type} (r : RecordReader δ α) (fields : List (String × Json)) :
    Except Problem δ :=
  fields.foldlM (fun draft f => r.readField draft f.1 f.2) r.blank

/-- Reads a record from an object, or from the list of its fields. -/
def decodeRecord {δ α : Type} (r : RecordReader δ α) : Json → Except Problem α
  | object fields => do
    let draft ← r.readFields fields
    (r.finish draft).mapError .missingField
  | list items => do
    let draft ← r.readFields (r.fieldNames.zip items)
    if let some missing := (r.fieldNames.drop items.length).find? (· ∈ r.listed) then
      throw (.tooFewElements (r.fieldNames.idxOf missing) r.name r.fieldNames.length)
    let record ← (r.finish draft).mapError .missingField
    if r.fieldNames.length < items.length then throw (.tooManyElements items.length)
    return record
  | v => .error (.wrongType v.found (.record r.name))

end TestSelection.Json
