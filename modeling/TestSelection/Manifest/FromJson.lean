import TestSelection.Json.Decode
import TestSelection.Manifest.Draft

/-!
# Manifests from JSON

Readers of the records of a manifest. A field that is missing takes its default; an unknown field is
passed over. Values and entries of markers are told apart by their shape, so one that fits no shape
is refused as a whole.
-/
namespace TestSelection

open Decoding Json

/-! ## Markers -/

namespace MarkerValue

mutual

/-- A value that is built from booleans, integers of 64 bits, texts and lists alone. -/
def ofJson? : Json → Option MarkerValue
  | .bool b => some (bool b)
  | .int n =>
    if -(1 <<< 63 : Nat) ≤ n ∧ n < (1 <<< 63 : Nat) then some (integer (Int64.ofInt n)) else none
  | .text s => some (text s)
  | .list items => (listOfJson? items).map list
  | .null | .float _ | .object _ => none

def listOfJson? : List Json → Option (List MarkerValue)
  | [] => some []
  | v :: rest =>
    match ofJson? v, listOfJson? rest with
    | some v, some rest => some (v :: rest)
    | _, _ => none

end

def decode (v : Json) : Except Problem MarkerValue :=
  match ofJson? v with
  | some value => .ok value
  | none => .error (.noVariant "MarkerValue")

end MarkerValue

namespace Keywords

/-- The values of the fields of an object. -/
def valuesOfJson? : List (String × Json) → Option (List (String × MarkerValue))
  | [] => some []
  | (key, v) :: rest =>
    match MarkerValue.ofJson? v, valuesOfJson? rest with
    | some v, some rest => some ((key, v) :: rest)
    | _, _ => none

def ofJson? : Json → Option Keywords
  | .object fields => (valuesOfJson? fields).map ofList
  | _ => none

def decode (v : Json) : Except Problem Keywords :=
  match v, ofJson? v with
  | _, some k => .ok k
  | .object _, none => .error (.noVariant "MarkerValue")
  | v, none => .error (.wrongType v.found .map)

end Keywords

namespace MarkerEntry

/-- The positional arguments of a call, none of them when the field is missing. -/
def argsOfJson? : Option Json → Option (List MarkerValue)
  | none => some []
  | some (.list items) => MarkerValue.listOfJson? items
  | some _ => none

/-- The keywords of a call, none of them when the field is missing. -/
def kwargsOfJson? : Option Json → Option Keywords
  | none => some .empty
  | some v => Keywords.ofJson? v

/-- A bare name, or an object with a name and possibly arguments. -/
def ofJson? : Json → Option MarkerEntry
  | .text s => some (bare s)
  | .object fields =>
    match fields.lookup "name", argsOfJson? (fields.lookup "args"),
        kwargsOfJson? (fields.lookup "kwargs") with
    | some (.text name), some args, some kwargs => some (call name args kwargs)
    | _, _, _ => none
  | _ => none

def decode (v : Json) : Except Problem MarkerEntry :=
  match ofJson? v with
  | some e => .ok e
  | none => .error (.noVariant "MarkerEntry")

end MarkerEntry

/-! ## Records -/

namespace RunConfiguration

def reader : RecordReader Draft RunConfiguration where
  name := "RunConfiguration"
  fieldNames := ["run_destructive", "run_expensive"]
  listed := []
  blank := {}
  readField d name v :=
    match name with
    | "run_destructive" => return { d with runDestructive := some (← decodeBool v) }
    | "run_expensive" => return { d with runExpensive := some (← decodeBool v) }
    | _ => return d
  finish d := .ok d.finish

def decode : Json → Except Problem RunConfiguration :=
  decodeRecord reader

end RunConfiguration

namespace CategoryRule

def reader : RecordReader Draft CategoryRule where
  name := "CategoryRule"
  fieldNames := ["suite", "subsystems"]
  listed := ["suite"]
  blank := {}
  readField d name v :=
    match name with
    | "suite" => return { d with suite := some (← decodeText v) }
    | "subsystems" => return { d with subsystems := some (← decodeList decodeText v) }
    | _ => return d
  finish := Draft.finish

def decode : Json → Except Problem CategoryRule :=
  decodeRecord reader

end CategoryRule

namespace NetworkSettings

def reader : RecordReader Draft NetworkSettings where
  name := "NetworkSettings"
  fieldNames := ["local_ports", "external_addresses", "external_port", "connect_timeout_ms"]
  listed := []
  blank := {}
  readField d name v :=
    match name with
    | "local_ports" => return { d with localPorts := some (← decodeList decodeUInt16 v) }
    | "external_addresses" =>
      return { d with externalAddresses := some (← decodeList decodeAddress v) }
    | "external_port" => return { d with externalPort := some (← decodeUInt16 v) }
    | "connect_timeout_ms" => return { d with connectTimeout := some (← decodeUInt64 v) }
    | _ => return d
  finish d := .ok d.finish

def decode : Json → Except Problem NetworkSettings :=
  decodeRecord reader

end NetworkSettings

namespace Settings

def reader : RecordReader Draft Settings where
  name := "Settings"
  fieldNames := ["run_destructive", "run_expensive", "strict_markers", "network", "categories"]
  listed := ["network", "categories"]
  blank := {}
  readField d name v :=
    match name with
    | "run_destructive" => return { d with runDestructive := some (← decodeBool v) }
    | "run_expensive" => return { d with runExpensive := some (← decodeBool v) }
    | "strict_markers" => return { d with strictMarkers := some (← decodeBool v) }
    | "network" => return { d with network := some (← decodeOption NetworkSettings.decode v) }
    | "categories" =>
      return { d with categories := some (← decodeOption (decodeList CategoryRule.decode) v) }
    | _ => return d
  finish d := .ok d.finish

def decode : Json → Except Problem Settings :=
  decodeRecord reader

end Settings

namespace TestEntry

def reader : RecordReader Draft TestEntry where
  name := "TestEntry"
  fieldNames := ["name", "path", "markers"]
  listed := ["name", "path"]
  blank := {}
  readField d name v :=
    match name with
    | "name" => return { d with name := some (← decodeText v) }
    | "path" => return { d with path := some (← decodeText v) }
    | "markers" => return { d with markers := some (← decodeList MarkerEntry.decode v) }
    | _ => return d
  finish := Draft.finish

def decode : Json → Except Problem TestEntry :=
  decodeRecord reader

end TestEntry

namespace Manifest

def reader : RecordReader Draft Manifest where
  name := "Manifest"
  fieldNames := ["version", "name", "settings", "tests"]
  listed := ["version", "name"]
  blank := {}
  readField d name v :=
    match name with
    | "version" => return { d with version := some (← decodeText v) }
    | "name" => return { d with name := some (← decodeOption decodeText v) }
    | "settings" => return { d with settings := some (← Settings.decode v) }
    | "tests" => return { d with tests := some (← decodeList TestEntry.decode v) }
    | _ => return d
  finish := Draft.finish

def decode : Json → Except Problem Manifest :=
  decodeRecord reader

end Manifest

end TestSelection
