import TestSelection.Text.Quoted

/-!
# Markers

The conditions that a test can carry. A marker whose name is outside the vocabulary is kept with its
name, and no condition hangs on it.
-/
namespace TestSelection

/-- A marker of a test. -/
inductive Marker
  /-- The test changes the host. -/
  | destructive
  /-- The test costs money or much time. -/
  | expensive
  /-- The test has to run as root. -/
  | needsRoot
  /-- The test needs one of the binaries, or all of them with `checkAll`; the message goes before
  the reason of a skip. -/
  | needsBinaries (binaries : List String) (checkAll : Bool) (message : Option String)
  /-- The test needs the internet; with `onlyLocal` the local network is asked for first. -/
  | needsNetwork (onlyLocal : Bool)
  /-- A name outside the vocabulary. -/
  | unregistered (name : String)
  deriving DecidableEq

namespace Marker

/-! ## Names of the vocabulary -/

def destructiveName : String := "destructive_test"
def expensiveName : String := "expensive_test"
def needsRootName : String := "skip_if_not_root"
def needsBinariesName : String := "skip_if_binaries_missing"
def needsNetworkName : String := "requires_network"

/-- The name under which a marker is written. -/
def name : Marker → String
  | destructive => destructiveName
  | expensive => expensiveName
  | needsRoot => needsRootName
  | needsBinaries .. => needsBinariesName
  | needsNetwork _ => needsNetworkName
  | unregistered name => name

/-- Whether the marker belongs to the vocabulary. -/
def isRegistered : Marker → Bool
  | unregistered _ => false
  | _ => true

/-- The marker that needs one of some binaries. -/
def ofBinaries (binaries : List String) : Marker :=
  needsBinaries binaries false none

/-- A marker as a call: the name, and in brackets the arguments that differ from their defaults. -/
def text (m : Marker) : String :=
  match m with
  | needsBinaries binaries checkAll message =>
    m.name ++ "(" ++ ", ".intercalate binaries ++ (if checkAll then ", check_all=true" else "") ++
      (match message with
        | none => ""
        | some s => ", message=" ++ Text.quoted s) ++ ")"
  | needsNetwork true => m.name ++ "(only_local_network=true)"
  | m => m.name

end Marker

end TestSelection
