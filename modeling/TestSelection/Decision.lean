import TestSelection.Json.Basic
import TestSelection.Log

/-!
# Decisions

A test runs, or it is skipped for a reason. The reason says what was missing; its kind and its
message follow from it.
-/
namespace TestSelection

/-- The kinds of reasons. -/
inductive SkipKind
  | configurationDisabled
  | privilegeRequired
  | dependencyMissing
  | networkUnavailable
  deriving DecidableEq

namespace SkipKind

/-- The kind as an identifier. -/
def key : SkipKind → String
  | configurationDisabled => "configuration_disabled"
  | privilegeRequired => "privilege_required"
  | dependencyMissing => "dependency_missing"
  | networkUnavailable => "network_unavailable"

/-- The kind as it is shown to readers. -/
def text : SkipKind → String
  | configurationDisabled => "configuration-disabled"
  | privilegeRequired => "privilege-required"
  | dependencyMissing => "dependency-missing"
  | networkUnavailable => "network-unavailable"

end SkipKind

/-- Why a test is skipped. -/
inductive SkipReason
  | destructiveDisabled
  | expensiveDisabled
  | notRoot
  /-- Of binaries that are all needed, the first that is missing; `lead` is the marker's message. -/
  | binaryMissing (lead : Option String) (binary : String)
  /-- None of the binaries was found. -/
  | binariesMissing (lead : Option String) (binaries : List String)
  | noLocalNetwork
  | noInternet
  deriving DecidableEq

namespace SkipReason

def kind : SkipReason → SkipKind
  | destructiveDisabled | expensiveDisabled => .configurationDisabled
  | notRoot => .privilegeRequired
  | binaryMissing .. | binariesMissing .. => .dependencyMissing
  | noLocalNetwork | noInternet => .networkUnavailable

/-- The message of a marker in front of a reason; an empty one is left out. -/
def leadText : Option String → String
  | none => ""
  | some "" => ""
  | some s => s ++ ". "

def message : SkipReason → String
  | destructiveDisabled => "Destructive tests are disabled"
  | expensiveDisabled => "Expensive tests are disabled"
  | notRoot => "You must be logged in as root to run this test"
  | binaryMissing lead binary => leadText lead ++ "The \"" ++ binary ++ "\" binary was not found"
  | binariesMissing lead binaries =>
    leadText lead ++ "None of the following binaries was found: " ++ ", ".intercalate binaries
  | noLocalNetwork => "No local network was detected"
  | noInternet => "No internet network connection was detected"

end SkipReason

/-- What is decided about a test. -/
inductive Decision
  | run
  | skip (reason : SkipReason)
  deriving DecidableEq

namespace Decision

def isRun : Decision → Bool
  | run => true
  | skip _ => false

/-- A test runs when no reason speaks against it. -/
def ofReason? : Option SkipReason → Decision
  | none => run
  | some r => skip r

/-- The fields of a decision in a report. -/
def fields : Decision → List (String × Json)
  | run => [("decision", .text "run")]
  | skip r => [("decision", .text "skip"), ("kind", .text r.kind.key), ("message", .text r.message)]

/-- The event that records the decision about a test. -/
def event (test : String) : Decision → LogEvent
  | run => ⟨.debug, "running", [("test", .text test)]⟩
  | skip r =>
    ⟨.debug, "skipped: " ++ r.message, [("test", .text test), ("kind", .shown r.kind.text)]⟩

end Decision

end TestSelection
