import TestSelection.Decimal
import TestSelection.Text.Quoted

/-!
# Why a document does not fit

A document is well formed but holds something else than what is wanted at some place. Formats differ
in how they name an absent value and write a number; the rest of the wording is shared.
-/
namespace TestSelection.Decoding

/-- What a document holds at a place. -/
inductive Found
  | absent
  | boolean (b : Bool)
  | integer (n : Int)
  /-- An integer of more than 64 bits. -/
  | wideInteger (n : Int)
  | float (x : Real)
  | text (s : String)
  | sequence
  | map
  deriving DecidableEq

/-- How a format words what was found. -/
structure Wording where
  absent : String
  /-- The positions of the point at which a float is written out. -/
  positional : Int → Bool

namespace Found

def floatText (w : Wording) : Real → String
  | .finite d => d.render w.positional
  | .infinite negative => if negative then "-inf.0" else "inf.0"
  | .undefined => "NaN.0"

def phrase (w : Wording) : Found → String
  | absent => w.absent
  | boolean b => "boolean `" ++ toString b ++ "`"
  | integer n => "integer `" ++ toString n ++ "`"
  | wideInteger n => "integer `" ++ toString n ++ "` as " ++ if n < 0 then "i128" else "u128"
  | float x => "floating point `" ++ floatText w x ++ "`"
  | text s => "string " ++ Text.quoted s
  | sequence => "sequence"
  | map => "map"

end Found

/-- What is wanted at a place. -/
inductive Wanted
  | null
  | boolean
  | integer
  | float
  | text
  | sequence
  | map
  /-- A number without sign of that many bits. -/
  | unsigned (bits : Nat)
  | address
  | record (name : String)
  | fieldName
  | anything
  deriving DecidableEq

def Wanted.phrase : Wanted → String
  | null => "null"
  | boolean => "a boolean"
  | integer => "an integer"
  | float => "a float"
  | text => "a string"
  | sequence => "a sequence"
  | map => "a map"
  | unsigned bits => "u" ++ toString bits
  | address => "IP address"
  | record name => "struct " ++ name
  | fieldName => "field identifier"
  | anything => "any value"

/-- Why a document does not fit. -/
inductive Problem
  | wrongType (found : Found) (wanted : Wanted)
  | wrongValue (found : Found) (wanted : Wanted)
  | missingField (name : String)
  | duplicateField (name : String)
  /-- A record written as a list ends before a field that has no default. -/
  | tooFewElements (count : Nat) (record : String) (fields : Nat)
  /-- A record written as a list goes on behind its last field. -/
  | tooManyElements (count : Nat)
  /-- The value has none of the shapes of a type. -/
  | noVariant (type : String)
  | addressForm
  /-- A value with a tag of its own where the shape decides. -/
  | taggedVariant
  deriving DecidableEq

def Problem.message (w : Wording) : Problem → String
  | wrongType found wanted => "invalid type: " ++ found.phrase w ++ ", expected " ++ wanted.phrase
  | wrongValue found wanted => "invalid value: " ++ found.phrase w ++ ", expected " ++ wanted.phrase
  | missingField name => "missing field `" ++ name ++ "`"
  | duplicateField name => "duplicate field `" ++ name ++ "`"
  | tooFewElements count record fields =>
    "invalid length " ++ toString count ++ ", expected struct " ++ record ++ " with " ++
      toString fields ++ " elements"
  | tooManyElements count =>
    "invalid length " ++ toString count ++ ", expected fewer elements in array"
  | noVariant type => "data did not match any variant of untagged enum " ++ type
  | addressForm => "invalid IP address syntax"
  | taggedVariant => "untagged and internally tagged enums do not support enum input"

end TestSelection.Decoding
