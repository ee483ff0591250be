import TestSelection.Classifier
import TestSelection.Manifest.Basic
import TestSelection.Text.Blank

/-!
# Valid manifests

A manifest has the one known version, tests with distinct names and with paths, network settings that
can be probed and named suites. The first violation is reported, in that order.
-/
namespace TestSelection

/-- Why a manifest is not valid. -/
inductive ValidationError
  | version (found : String)
  | blankTestName
  | blankTestPath (test : String)
  | repeatedTest (test : String)
  | portCount (count : Nat)
  /-- The ports of valid settings make no pair. -/
  | unpairedPorts
  | noAddresses
  | noTimeout
  | blankSuite
  deriving DecidableEq

def ValidationError.message : ValidationError → String
  | version found => "Unsupported version: " ++ found ++ ", expected 1.0"
  | blankTestName => "Test names must not be empty"
  | blankTestPath test => "Test '" ++ test ++ "' has an empty path"
  | repeatedTest test => "Test '" ++ test ++ "' is defined more than once"
  | portCount count => "network.local_ports needs exactly 2 ports, got " ++ toString count
  | unpairedPorts => "network.local_ports needs exactly 2 ports"
  | noAddresses => "network.external_addresses must not be empty"
  | noTimeout => "network.connect_timeout_ms must be greater than 0"
  | blankSuite => "Category suite names must not be empty"

/-- The version of manifests. -/
def Manifest.knownVersion : String := "1.0"

/-- Checks tests in their order; `seen` are the names of the tests before. -/
def validateTests (seen : List String) : List TestEntry → Except ValidationError Unit
  | [] => .ok ()
  | t :: rest =>
    if Text.isBlankText t.name then .error .blankTestName
    else if Text.isBlankText t.path then .error (.blankTestPath t.name)
    else if t.name ∈ seen then .error (.repeatedTest t.name)
    else validateTests (t.name :: seen) rest

def NetworkSettings.validate (n : NetworkSettings) : Except ValidationError Unit :=
  if n.localPorts.length ≠ 2 then .error (.portCount n.localPorts.length)
  else if n.externalAddresses = [] then .error .noAddresses
  else if n.connectTimeout = 0 then .error .noTimeout
  else .ok ()

def validateNetwork : Option NetworkSettings → Except ValidationError Unit
  | none => .ok ()
  | some n => n.validate

def validateCategories : Option (List CategoryRule) → Except ValidationError Unit
  | none => .ok ()
  | some rules => if rules.any (Text.isBlankText ·.suite) then .error .blankSuite else .ok ()

/-- Checks a manifest part by part, up to the first violation. -/
def Manifest.validate (m : Manifest) : Except ValidationError Unit := do
  if m.version ≠ knownVersion then throw (.version m.version)
  validateTests [] m.tests
  validateNetwork m.settings.network
  validateCategories m.settings.categories

/-! ## What the settings stand for -/

/-- The probe settings that valid network settings ask for; the standard ones when there are none. -/
def ProbeSettings.ofNetwork : Option NetworkSettings → Except ValidationError ProbeSettings
  | none => .ok standard
  | some n => do
    n.validate
    match n.localPorts with
    | [first, second] =>
      return {
        localPorts := (first, second)
        externalAddresses := n.externalAddresses
        externalPort := n.externalPort
        connectTimeout := .ofMillis n.connectTimeout }
    | _ => throw .unpairedPorts

def CategoryRule.suiteRule (r : CategoryRule) : SuiteRule where
  suite := r.suite
  subsystems := r.subsystems

/-- The classifier of category rules; the standard one when there are none. -/
def Classifier.ofCategories : Option (List CategoryRule) → Classifier
  | none => standard
  | some rules => ⟨rules.map CategoryRule.suiteRule⟩

end TestSelection
