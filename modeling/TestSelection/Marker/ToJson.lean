import TestSelection.Json.Basic
import TestSelection.Marker.Basic

/-!
# Markers as JSON

A marker is an object that names its kind, with its arguments beside it.
-/
namespace TestSelection

/-- The kind of a marker and its arguments. -/
def Marker.toJson (m : Marker) : Json :=
  match m with
  | .needsBinaries binaries checkAll message => .object [
      ("marker", .text m.name),
      ("binaries", .ofTexts binaries),
      ("check_all", .bool checkAll),
      ("message", .ofText? message)]
  | .needsNetwork onlyLocal => .object [
      ("marker", .text m.name),
      ("only_local_network", .bool onlyLocal)]
  | .unregistered name => .object [("marker", .text "unregistered"), ("name", .text name)]
  | m => .object [("marker", .text m.name)]

end TestSelection
