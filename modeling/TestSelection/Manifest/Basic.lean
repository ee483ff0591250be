import TestSelection.Marker.Parse
import TestSelection.Probe
import TestSelection.RunConfiguration

/-!
# Manifests

A manifest names the tests of a suite with their files and markers, and holds the settings under
which they are decided.
-/
namespace TestSelection

/-- A marker as it is written: a bare name, or a call. -/
inductive MarkerEntry
  | bare (name : String)
  | call (name : String) (args : List MarkerValue) (kwargs : Keywords)
  deriving DecidableEq

namespace MarkerEntry

def name : MarkerEntry → String
  | bare name => name
  | call name _ _ => name

/-- The marker that an entry stands for; a bare name has no arguments. -/
def marker : MarkerEntry → Except MarkerError Marker
  | bare name => Marker.named name
  | call name args kwargs => Marker.parse name args kwargs

end MarkerEntry

/-- A test of the suite. -/
structure TestEntry where
  name : String
  path : String
  markers : List MarkerEntry := []
  deriving DecidableEq

/-- A directory of a suite with the directories of its subsystems. -/
structure CategoryRule where
  suite : String
  subsystems : List String := []
  deriving DecidableEq

/-- What the network probes try. -/
structure NetworkSettings where
  localPorts : List UInt16 := [ProbeSettings.standardPorts.1, ProbeSettings.standardPorts.2]
  externalAddresses : List Address := ProbeSettings.standardAddresses
  externalPort : UInt16 := ProbeSettings.standardPort
  /-- Milliseconds for each address. -/
  connectTimeout : UInt64 := ProbeSettings.standardTimeout
  deriving DecidableEq

structure Settings where
  runDestructive : Bool := false
  runExpensive : Bool := false
  /-- Refuse markers outside the vocabulary. -/
  strictMarkers : Bool := false
  network : Option NetworkSettings := none
  categories : Option (List CategoryRule) := none
  deriving DecidableEq

/-- The run configuration that the settings ask for. -/
def Settings.runConfiguration (s : Settings) : RunConfiguration where
  runDestructive := s.runDestructive
  runExpensive := s.runExpensive

structure Manifest where
  version : String
  name : Option String := none
  settings : Settings := {}
  tests : List TestEntry := []
  deriving DecidableEq

end TestSelection
