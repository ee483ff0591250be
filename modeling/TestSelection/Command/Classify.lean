import TestSelection.Command.Machine
import TestSelection.Command.Outcome
import TestSelection.Manifest.Validation

/-!
# Classifying paths

Prints the tags of some paths, by the categories of the manifest if there is one.
-/
namespace TestSelection.Command

variable {m : Type → Type} [Monad m]

/-- The event of a manifest that is not there. -/
def withoutManifest (path : String) : LogEvent :=
  ⟨.debug, "no manifest, using defaults", [("path", .shown path)]⟩

/-- Reads the manifest at a path if there is one. -/
def readOptionalManifest (machine : Machine m) (path : String) :
    m (Except Failure (Option Manifest)) := do
  if ← machine.hasPath path then
    match ← machine.readManifest path with
    | .error e => return .error (.ofManifest ("Failed to parse manifest " ++ path) e)
    | .ok content => return .ok (some content)
  else
    machine.log (withoutManifest path)
    return .ok none

/-- The line of a path with its tags. -/
def classifiedLine (classifier : Classifier) (path : String) : String :=
  path ++ ": " ++ listText (classifier.classify path)

/-- Classifies paths by the manifest at a path. -/
def classify (machine : Machine m) (manifest : String) (paths : List String) : m Outcome := do
  match ← readOptionalManifest machine manifest with
  | .error failure => return { failure := some failure }
  | .ok content =>
    let classifier := Classifier.ofCategories (content.bind (·.settings.categories))
    return { lines := paths.map (classifiedLine classifier) }

end TestSelection.Command
