import TestSelection.Manifest.Error
import TestSelection.Manifest.FromYaml
import TestSelection.Substitution

/-!
# Reading a manifest

The variables of a text are resolved first, then the document is read and checked. How a document is
read from a text is a parameter, so what is said of reading holds for every form of documents.
-/
namespace TestSelection.Manifest

/-- The manifest of a document. -/
def ofYaml (text : String) : Except YamlError Manifest := do
  let document ← (Yaml.Document.ofText text).mapError .malformed
  (document.decode fromYaml).mapError .misfit

/-- Reads a manifest from a text with variables; `read` reads the document. -/
def readWith (read : String → Except YamlError Manifest) (vars : Variables) (text : String) :
    Except ManifestError Manifest := do
  let text ← (Substitution.resolve vars text).mapError .unboundVariables
  let manifest ← (read text).mapError .yaml
  manifest.validate.mapError .invalid
  return manifest

/-- Reads a manifest from a text with variables. -/
def ofText (vars : Variables) (text : String) : Except ManifestError Manifest :=
  readWith ofYaml vars text

end TestSelection.Manifest
