import TestSelection.Host.File
import TestSelection.Manifest.Validation
import TestSelection.Yaml.Decode

/-!
# Failures of manifests

Why a manifest cannot be used: it cannot be read, it is no document or does not fit, a variable is
missing, it is not valid, or a marker is refused.
-/
namespace TestSelection

/-- Why a text is no manifest. -/
inductive YamlError
  | malformed (e : Yaml.SyntaxError)
  | misfit (f : Yaml.Fault)
  deriving DecidableEq

def YamlError.message : YamlError → String
  | malformed e => e.message
  | misfit f => f.message

inductive ManifestError
  | unreadable (e : FileError)
  | yaml (e : YamlError)
  | invalid (e : ValidationError)
  | unboundVariables (names : List String)
  | unknownMarker (test marker : String)
  | marker (test : String) (source : MarkerError)
  deriving DecidableEq

namespace ManifestError

/-- The failure that lies behind, where it has a text of its own. -/
def source? : ManifestError → Option String
  | unreadable e => some e.message
  | yaml e => some e.message
  | marker _ source => some source.message
  | invalid _ | unboundVariables _ | unknownMarker .. => none

def message : ManifestError → String
  | unreadable e => "Failed to read manifest: " ++ e.message
  | yaml e => "Failed to parse YAML: " ++ e.message
  | invalid e => "Invalid manifest: " ++ e.message
  | unboundVariables names => "Environment variable not found: " ++ ", ".intercalate names
  | unknownMarker test name => "Test '" ++ test ++ "' uses unregistered marker '" ++ name ++ "'"
  | marker test source => "Invalid marker on test '" ++ test ++ "': " ++ source.message

end ManifestError

end TestSelection
