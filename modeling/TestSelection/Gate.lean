import TestSelection.Decision
import TestSelection.Host.Environment
import TestSelection.RunConfiguration
import TestSelection.TestItem

/-!
# The gate

Decides whether a test runs. Five rules are asked in a fixed order and the first one with a reason to
skip decides, so the host is asked no more than needed: destructive tests, expensive tests, the
user, the binaries, the network. Markers are found by their kind; of several markers of one kind the
first counts.
-/
namespace TestSelection.Gate

variable {m : Type → Type} [Monad m]

/-- The binaries that a list of markers asks for. -/
def binariesOf? (markers : List Marker) : Option (List String × Bool × Option String) :=
  markers.findSome? fun
    | .needsBinaries binaries checkAll message => some (binaries, checkAll, message)
    | _ => none

/-- Whether the local network is all that a list of markers asks for, none when no marker asks for a
network. -/
def networkOf? (markers : List Marker) : Option Bool :=
  markers.findSome? fun
    | .needsNetwork onlyLocal => some onlyLocal
    | _ => none

/-! ## The rules -/

def destructiveRule (config : RunConfiguration) (markers : List Marker) : Option SkipReason :=
  if .destructive ∈ markers ∧ !config.runDestructive then some .destructiveDisabled else none

def expensiveRule (config : RunConfiguration) (markers : List Marker) : Option SkipReason :=
  if .expensive ∈ markers ∧ !config.runExpensive then some .expensiveDisabled else none

def rootRule (host : HostEnvironment m) (markers : List Marker) : m (Option SkipReason) := do
  if .needsRoot ∈ markers then
    let user ← host.effectiveUserId
    return if user = some 0 then none else some .notRoot
  else return none

/-- An empty list of binaries asks for nothing. -/
def binariesRule (host : HostEnvironment m) (markers : List Marker) : m (Option SkipReason) :=
  match binariesOf? markers with
  | none => return none
  | some ([], _, _) => return none
  | some (binaries, true, message) => do
    let missing ← host.firstMissing binaries
    return missing.map (.binaryMissing message)
  | some (binaries, false, message) => do
    let found ← host.whichAny binaries
    return if found.isNone then some (.binariesMissing message binaries) else none

/-- The internet is asked for even where the local network is all that the marker asks for. -/
def networkRule (host : HostEnvironment m) (markers : List Marker) : m (Option SkipReason) :=
  let internet : m (Option SkipReason) := do
    return if ← host.hasExternalNetwork then none else some .noInternet
  match networkOf? markers with
  | none => return none
  | some false => internet
  | some true => do
    if ← host.hasLocalNetwork then internet else return some .noLocalNetwork

/-! ## The decision -/

/-- The reason of the first rule that has one; the rules behind it are not asked. -/
def firstReason : List (m (Option SkipReason)) → m (Option SkipReason)
  | [] => return none
  | rule :: rest => do
    match ← rule with
    | some reason => return some reason
    | none => firstReason rest

/-- Decides whether a test runs under a configuration on a host. -/
def evaluate (host : HostEnvironment m) (config : RunConfiguration) (item : TestItem) :
    m Decision := do
  let reason ← firstReason [
    pure (destructiveRule config item.markers),
    pure (expensiveRule config item.markers),
    rootRule host item.markers,
    binariesRule host item.markers,
    networkRule host item.markers]
  return .ofReason? reason

end TestSelection.Gate
