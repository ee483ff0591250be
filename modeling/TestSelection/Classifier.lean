import TestSelection.Distinct
import TestSelection.Text.Search

/-!
# Tags from paths

A suite rule looks for a directory in the path of a test and then for the first of some directories
of subsystems. The tags of a path are the names that the rules find, each once.
-/
namespace TestSelection

/-- The directory of a suite and the subsystems looked for with it, the first match wins. -/
structure SuiteRule where
  suite : String
  subsystems : List String
  deriving DecidableEq

structure Classifier where
  rules : List SuiteRule
  deriving DecidableEq

namespace Classifier

/-- Both kinds of slash separate directories. -/
def normalize (path : String) : List Char :=
  path.toList.map fun c => if c = '\\' then '/' else c

/-- Whether a name stands between two slashes of a normalized path. -/
def hasSegment (path : List Char) (name : String) : Bool :=
  Text.occurs ('/' :: name.toList ++ ['/']) path

/-- The tags of one rule: the suite and at most one subsystem. -/
def tagsOfRule (path : List Char) (rule : SuiteRule) : List String :=
  if hasSegment path rule.suite then
    rule.suite :: (rule.subsystems.find? (hasSegment path)).toList
  else []

/-- The tags of a path in the order of the rules. -/
def classify (c : Classifier) (path : String) : List String :=
  distinct (c.rules.flatMap (tagsOfRule (normalize path)))

/-- Subsystems of integration tests. -/
def integrationSubsystems : List String :=
  ["cli", "client", "cloud", "fileserver", "loader", "minion", "modules", "netapi", "output",
    "reactor", "renderers", "runners", "sdb", "shell", "ssh", "states", "utils", "wheel"]

/-- Subsystems of unit tests. -/
def unitSubsystems : List String :=
  ["acl", "beacons", "cli", "cloud", "config", "grains", "modules", "netapi", "output", "pillar",
    "renderers", "runners", "serializers", "states", "templates", "transport", "utils"]

/-- The rules that hold when a manifest gives none. -/
def standard : Classifier where
  rules := [⟨"integration", integrationSubsystems⟩, ⟨"unit", unitSubsystems⟩]

end Classifier

end TestSelection
