import TestSelection.Command.Machine
import TestSelection.Command.Outcome
import TestSelection.Suite

/-!
# Validating a manifest

Reads a manifest and its markers and says what it holds. Markers outside the vocabulary are counted
with their repetitions and named once each, in the order of their names.
-/
namespace TestSelection.Command

variable {m : Type → Type} [Monad m]

/-- What a valid manifest holds. -/
structure Inventory where
  version : String
  name : Option String
  tests : Nat
  registered : Nat
  /-- How many markers are outside the vocabulary. -/
  unregistered : Nat
  /-- The names of the markers outside the vocabulary, each once and in order. -/
  unregisteredNames : List String
  deriving DecidableEq

namespace Inventory

/-- The names of some values, each once and in order. -/
def sortedNames (names : List String) : List String :=
  (Ordered.ofList (names.map fun name => (name, ()))).map (·.1)

/-- What a manifest with its suite holds. -/
def ofSuite (manifest : Manifest) (suite : Suite) : Inventory :=
  let names := (suite.items.flatMap (·.markers)).map Marker.name
  let (registered, unregistered) := names.partition MarkerRegistry.standard.contains
  { version := manifest.version
    name := manifest.name
    tests := suite.items.length
    registered := registered.length
    unregistered := unregistered.length
    unregisteredNames := sortedNames unregistered }

def unregisteredLine (i : Inventory) : String :=
  "  ⚠ " ++ toString i.unregistered ++ " unregistered marker(s) will be ignored: " ++
    ", ".intercalate i.unregisteredNames

def lines (i : Inventory) : List String :=
  ["✓ Manifest valid", "  Version: " ++ i.version] ++
    (i.name.map fun name => "  Name: " ++ name).toList ++
    ["  Tests: " ++ toString i.tests, "  Markers: " ++ toString i.registered] ++
    if i.unregistered = 0 then [] else [i.unregisteredLine]

end Inventory

/-- Validates the manifest at a path. -/
def validate (machine : Machine m) (manifest : String) (strict : Bool) : m Outcome := do
  let head := "Validating " ++ manifest ++ "..."
  match ← machine.readManifest manifest with
  | .error e => return { lines := [head], failure := some (.ofManifest "Failed to parse manifest" e) }
  | .ok content =>
    let (suite, log) := Suite.build content strict
    machine.logAll log
    match suite with
    | .error e => return { lines := [head], failure := some (.ofManifest "Invalid markers" e) }
    | .ok suite => return { lines := head :: (Inventory.ofSuite content suite).lines }

end TestSelection.Command
