import TestSelection.Manifest.Draft
import TestSelection.Yaml.Content

/-!
# Manifests from YAML

Readers of the records of a manifest. Their texts may be scalars of any kind; the values and entries
of markers keep their kind, and are told apart by their shape.
-/
namespace TestSelection

open Decoding Yaml

/-! ## Markers -/

namespace MarkerValue

mutual

/-- A value that is built from booleans, integers of 64 bits, texts and lists alone. -/
def ofContent? : Content → Option MarkerValue
  | .bool b => some (bool b)
  | .integer n _ => if n < (1 <<< 63 : Nat) then some (integer (Int64.ofInt n)) else none
  | .text s => some (text s)
  | .list items => (listOfContent? items).map list
  | .null | .float _ | .map _ => none

def listOfContent? : List Content → Option (List MarkerValue)
  | [] => some []
  | c :: rest =>
    match ofContent? c, listOfContent? rest with
    | some v, some rest => some (v :: rest)
    | _, _ => none

end

end MarkerValue

namespace Keywords

/-- The entries of a mapping whose keys are texts. -/
def entriesOfContent? : List (Content × Content) → Option (List (String × MarkerValue))
  | [] => some []
  | (.text key, c) :: rest =>
    match MarkerValue.ofContent? c, entriesOfContent? rest with
    | some v, some rest => some ((key, v) :: rest)
    | _, _ => none
  | _ => none

def ofContent? : Content → Option Keywords
  | .map entries => (entriesOfContent? entries).map ofList
  | _ => none

end Keywords

namespace MarkerEntry

/-- The parts of a call as far as they were met. -/
structure CallDraft where
  name : Option String := none
  args : Option (List MarkerValue) := none
  kwargs : Option Keywords := none

/-- The parts of a call in their order. -/
def partNames : List String := ["name", "args", "kwargs"]

/-- The part that a key stands for: its name, or its place, which has no sign. -/
def partOfKey? : Content → Option String
  | .text key => some key
  | .integer n false => some (partNames[n.toNat]?.getD "")
  | _ => none

/-- Reads a part of a call; each stands once at most, and what is no part is passed over. -/
def CallDraft.readPart? (d : CallDraft) (part : String) (c : Content) : Option CallDraft :=
  match part, c with
  | "name", .text s => if d.name.isNone then some { d with name := some s } else none
  | "args", .list items =>
    if d.args.isNone then
      (MarkerValue.listOfContent? items).map fun args => { d with args := some args }
    else none
  | "kwargs", c =>
    if d.kwargs.isNone then
      (Keywords.ofContent? c).map fun kwargs => { d with kwargs := some kwargs }
    else none
  | part, _ => if partNames.contains part then none else some d

/-- Reads an entry of the mapping that writes a call. -/
def readEntry? (d : CallDraft) (e : Content × Content) : Option CallDraft :=
  (partOfKey? e.1).bind fun part => d.readPart? part e.2

/-- A bare name, or a mapping with a name and possibly arguments. -/
def ofContent? : Content → Option MarkerEntry
  | .text s => some (bare s)
  | .map entries => do
    let d ← entries.foldlM readEntry? {}
    return call (← d.name) (d.args.getD []) (d.kwargs.getD .empty)
  | _ => none

def fromYaml (s : Site) : Decode MarkerEntry := do
  match ofContent? (← Content.read s.depth s.path s.node) with
  | some e => return e
  | none => Decode.misfit (.noVariant "MarkerEntry")

end MarkerEntry

/-! ## Records -/

namespace CategoryRule

def yamlReader : Decode.RecordReader Draft CategoryRule where
  name := "CategoryRule"
  fieldNames := ["suite", "subsystems"]
  blank := {}
  readField d name s :=
    match name with
    | "suite" => return { d with suite := some (← Decode.text s) }
    | "subsystems" => return { d with subsystems := some (← Decode.list Decode.text s) }
    | _ => return d
  finish := Draft.finish

def fromYaml : Site → Decode CategoryRule :=
  Decode.record yamlReader

end CategoryRule

namespace NetworkSettings

def yamlReader : Decode.RecordReader Draft NetworkSettings where
  name := "NetworkSettings"
  fieldNames := ["local_ports", "external_addresses", "external_port", "connect_timeout_ms"]
  blank := {}
  readField d name s :=
    match name with
    | "local_ports" => return { d with localPorts := some (← Decode.list Decode.uint16 s) }
    | "external_addresses" =>
      return { d with externalAddresses := some (← Decode.list Decode.address s) }
    | "external_port" => return { d with externalPort := some (← Decode.uint16 s) }
    | "connect_timeout_ms" => return { d with connectTimeout := some (← Decode.uint64 s) }
    | _ => return d
  finish d := .ok d.finish

def fromYaml : Site → Decode NetworkSettings :=
  Decode.record yamlReader

end NetworkSettings

namespace Settings

def yamlReader : Decode.RecordReader Draft Settings where
  name := "Settings"
  fieldNames := ["run_destructive", "run_expensive", "strict_markers", "network", "categories"]
  blank := {}
  readField d name s :=
    match name with
    | "run_destructive" => return { d with runDestructive := some (← Decode.bool s) }
    | "run_expensive" => return { d with runExpensive := some (← Decode.bool s) }
    | "strict_markers" => return { d with strictMarkers := some (← Decode.bool s) }
    | "network" => return { d with network := some (← Decode.option NetworkSettings.fromYaml s) }
    | "categories" =>
      return { d with categories := some (← Decode.option (Decode.list CategoryRule.fromYaml) s) }
    | _ => return d
  finish d := .ok d.finish

def fromYaml : Site → Decode Settings :=
  Decode.record yamlReader

end Settings

namespace TestEntry

def yamlReader : Decode.RecordReader Draft TestEntry where
  name := "TestEntry"
  fieldNames := ["name", "path", "markers"]
  blank := {}
  readField d name s :=
    match name with
    | "name" => return { d with name := some (← Decode.text s) }
    | "path" => return { d with path := some (← Decode.text s) }
    | "markers" => return { d with markers := some (← Decode.list MarkerEntry.fromYaml s) }
    | _ => return d
  finish := Draft.finish

def fromYaml : Site → Decode TestEntry :=
  Decode.record yamlReader

end TestEntry

namespace Manifest

def yamlReader : Decode.RecordReader Draft Manifest where
  name := "Manifest"
  fieldNames := ["version", "name", "settings", "tests"]
  blank := {}
  readField d name s :=
    match name with
    | "version" => return { d with version := some (← Decode.text s) }
    | "name" => return { d with name := some (← Decode.option Decode.text s) }
    | "settings" => return { d with settings := some (← Settings.fromYaml s) }
    | "tests" => return { d with tests := some (← Decode.list TestEntry.fromYaml s) }
    | _ => return d
  finish := Draft.finish

def fromYaml : Site → Decode Manifest :=
  Decode.record yamlReader

end Manifest

end TestSelection
