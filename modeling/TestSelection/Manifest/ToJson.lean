import TestSelection.Json.Basic
import TestSelection.Manifest.Basic

/-!
# Manifests as JSON

An absent name, an absent section and settings that are all at their defaults are left out.
-/
namespace TestSelection

/-- A field that is left out when it has no value. -/
def Json.optionalField (name : String) (value : Option Json) : List (String × Json) :=
  value.toList.map fun v => (name, v)

namespace MarkerValue

mutual

def toJson : MarkerValue → Json
  | bool b => .bool b
  | integer n => .int n.toInt
  | text s => .text s
  | list items => .list (listToJson items)

def listToJson : List MarkerValue → List Json
  | [] => []
  | v :: rest => v.toJson :: listToJson rest

end

end MarkerValue

def Keywords.toJson (k : Keywords) : Json :=
  .object (k.entries.map fun e => (e.1, e.2.toJson))

def MarkerEntry.toJson : MarkerEntry → Json
  | bare name => .text name
  | call name args kwargs => .object [
      ("args", .list (args.map MarkerValue.toJson)),
      ("kwargs", kwargs.toJson),
      ("name", .text name)]

def TestEntry.toJson (t : TestEntry) : Json :=
  .object [
    ("markers", .list (t.markers.map MarkerEntry.toJson)),
    ("name", .text t.name),
    ("path", .text t.path)]

def CategoryRule.toJson (r : CategoryRule) : Json :=
  .object [("subsystems", .ofTexts r.subsystems), ("suite", .text r.suite)]

def NetworkSettings.toJson (n : NetworkSettings) : Json :=
  .object [
    ("connect_timeout_ms", .ofNat n.connectTimeout.toNat),
    ("external_addresses", .ofTexts (n.externalAddresses.map Address.text)),
    ("external_port", .ofNat n.externalPort.toNat),
    ("local_ports", .list (n.localPorts.map fun p => .ofNat p.toNat))]

def Settings.toJson (s : Settings) : Json :=
  .object (
    Json.optionalField "categories" (s.categories.map fun rs => .list (rs.map CategoryRule.toJson)) ++
    Json.optionalField "network" (s.network.map NetworkSettings.toJson) ++ [
    ("run_destructive", .bool s.runDestructive),
    ("run_expensive", .bool s.runExpensive),
    ("strict_markers", .bool s.strictMarkers)])

def Manifest.toJson (m : Manifest) : Json :=
  .object (
    Json.optionalField "name" (m.name.map .text) ++
    Json.optionalField "settings" (if m.settings = {} then none else some m.settings.toJson) ++ [
    ("tests", .list (m.tests.map TestEntry.toJson)),
    ("version", .text m.version)])

end TestSelection
