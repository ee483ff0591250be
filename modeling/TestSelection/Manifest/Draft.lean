import TestSelection.Manifest.Basic

/-!
# Drafts of a manifest

A record of a manifest while it is read: each field as far as it was met. A finished draft has the
defaults for the fields that were not met; a field without a default has to be there.
-/
namespace TestSelection

/-- A field of a draft that has to be there, or its name. -/
def required {α : Type} (name : String) : Option α → Except String α
  | some a => .ok a
  | none => .error name

namespace RunConfiguration

structure Draft where
  runDestructive : Option Bool := none
  runExpensive : Option Bool := none

def Draft.finish (d : Draft) : RunConfiguration where
  runDestructive := d.runDestructive.getD false
  runExpensive := d.runExpensive.getD false

end RunConfiguration

namespace CategoryRule

structure Draft where
  suite : Option String := none
  subsystems : Option (List String) := none

def Draft.finish (d : Draft) : Except String CategoryRule := do
  let suite ← required "suite" d.suite
  return { suite, subsystems := d.subsystems.getD [] }

end CategoryRule

namespace NetworkSettings

structure Draft where
  localPorts : Option (List UInt16) := none
  externalAddresses : Option (List Address) := none
  externalPort : Option UInt16 := none
  connectTimeout : Option UInt64 := none

def Draft.finish (d : Draft) : NetworkSettings :=
  let standard : NetworkSettings := {}
  { localPorts := d.localPorts.getD standard.localPorts
    externalAddresses := d.externalAddresses.getD standard.externalAddresses
    externalPort := d.externalPort.getD standard.externalPort
    connectTimeout := d.connectTimeout.getD standard.connectTimeout }

end NetworkSettings

namespace Settings

structure Draft where
  runDestructive : Option Bool := none
  runExpensive : Option Bool := none
  strictMarkers : Option Bool := none
  network : Option (Option NetworkSettings) := none
  categories : Option (Option (List CategoryRule)) := none

def Draft.finish (d : Draft) : Settings where
  runDestructive := d.runDestructive.getD false
  runExpensive := d.runExpensive.getD false
  strictMarkers := d.strictMarkers.getD false
  network := d.network.join
  categories := d.categories.join

end Settings

namespace TestEntry

structure Draft where
  name : Option String := none
  path : Option String := none
  markers : Option (List MarkerEntry) := none

def Draft.finish (d : Draft) : Except String TestEntry := do
  let name ← required "name" d.name
  let path ← required "path" d.path
  return { name, path, markers := d.markers.getD [] }

end TestEntry

namespace Manifest

structure Draft where
  version : Option String := none
  name : Option (Option String) := none
  settings : Option Settings := none
  tests : Option (List TestEntry) := none

def Draft.finish (d : Draft) : Except String Manifest := do
  let version ← required "version" d.version
  return { version, name := d.name.join, settings := d.settings.getD {}, tests := d.tests.getD [] }

end Manifest

end TestSelection
