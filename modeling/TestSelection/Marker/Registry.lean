import TestSelection.Marker.Basic

/-!
# The vocabulary of markers

The markers that a test can be written with, in the order in which they are listed.
-/
namespace TestSelection

/-- A marker of the vocabulary with the texts that explain it. -/
structure MarkerDeclaration where
  name : String
  /-- The marker as a call, with its arguments and their defaults. -/
  signature : String
  description : String
  deriving DecidableEq

structure MarkerRegistry where
  declarations : List MarkerDeclaration
  deriving DecidableEq

namespace MarkerRegistry

/-- The five markers that carry a condition. -/
def standard : MarkerRegistry where
  declarations := [
    { name := Marker.destructiveName
      signature := "destructive_test"
      description := "Run destructive tests. These tests can include adding or removing users " ++
        "from your system for example." },
    { name := Marker.expensiveName
      signature := "expensive_test"
      description := "Run expensive tests. These tests usually involve costs like for example " ++
        "bootstrapping a cloud VM." },
    { name := Marker.needsRootName
      signature := "skip_if_not_root"
      description := "Skip if the current user is not `root`." },
    { name := Marker.needsBinariesName
      signature := "skip_if_binaries_missing(*binaries, check_all=False, message=None)"
      description := "Skip if any of the passed binaries are not found in path. If " ++
        "'check_all' is 'True', then all binaries must be found." },
    { name := Marker.needsNetworkName
      signature := "requires_network(only_local_network=False)"
      description := "Skip if no networking is set up. If 'only_local_network' is 'True', " ++
        "only the local network is checked." }]

/-- The declaration of a name. -/
def get? (r : MarkerRegistry) (name : String) : Option MarkerDeclaration :=
  r.declarations.find? fun d => d.name == name

/-- Whether a name belongs to the vocabulary. -/
def contains (r : MarkerRegistry) (name : String) : Bool :=
  (r.get? name).isSome

def size (r : MarkerRegistry) : Nat :=
  r.declarations.length

def isEmpty (r : MarkerRegistry) : Bool :=
  r.declarations.isEmpty

end MarkerRegistry

end TestSelection
