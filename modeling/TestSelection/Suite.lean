import TestSelection.Log
import TestSelection.Manifest.Error
import TestSelection.Marker.Registry
import TestSelection.TestItem

/-!
# Suites

What a manifest stands for: its tests with their markers and tags, and the settings to decide them
under. The markers are read in the order of the tests, up to the first one that is refused; the log
tells what was done up to there.
-/
namespace TestSelection

structure Suite where
  name : Option String
  runConfiguration : RunConfiguration
  probes : ProbeSettings
  classifier : Classifier
  items : List TestItem
  deriving DecidableEq

namespace Suite

/-- The event of a marker outside the vocabulary. -/
def ignored (test marker : String) : LogEvent :=
  ⟨.warn, "unregistered marker, it will be ignored",
    [("test", .text test), ("marker", .text marker)]⟩

/-- The event of a test that is complete. -/
def collected (item : TestItem) : LogEvent :=
  ⟨.debug, "collected test", [("test", .text item.name), ("tags", .number item.tags.length)]⟩

/-- Attaches the markers of some entries to an item. A strict reader refuses markers outside the
vocabulary, another one notes them. -/
def attach (strict : Bool) (item : TestItem) :
    List MarkerEntry → Except ManifestError TestItem × Log
  | [] => (.ok item, [])
  | entry :: rest =>
    match entry.marker with
    | .error source => (.error (.marker item.name source), [])
    | .ok marker =>
      if MarkerRegistry.standard.contains marker.name then
        attach strict (item.addMarker marker) rest
      else if strict then (.error (.unknownMarker item.name marker.name), [])
      else
        let (result, log) := attach strict (item.addMarker marker) rest
        (result, ignored item.name marker.name :: log)

/-- The item of a test without markers and tags. -/
def bareItem (t : TestEntry) : TestItem where
  name := t.name
  path := t.path

/-- The items of some tests, with their tags. -/
def collect (strict : Bool) (classifier : Classifier) :
    List TestEntry → Except ManifestError (List TestItem) × Log
  | [] => (.ok [], [])
  | t :: rest =>
    match attach strict (bareItem t) t.markers with
    | (.error e, log) => (.error e, log)
    | (.ok item, log) =>
      let item := item.tagBy classifier
      let (items, logOfRest) := collect strict classifier rest
      (items.map (item :: ·), log ++ collected item :: logOfRest)

/-- The suite of a manifest, with the log of building it. The network settings are checked at the
end: a manifest that was not read from a text may be invalid. -/
def build (m : Manifest) (strict : Bool) : Except ManifestError Suite × Log :=
  let classifier := Classifier.ofCategories m.settings.categories
  let (items, log) := collect (strict || m.settings.strictMarkers) classifier m.tests
  let suite := do
    let items ← items
    let probes ← (ProbeSettings.ofNetwork m.settings.network).mapError .invalid
    return {
      name := m.name
      runConfiguration := m.settings.runConfiguration
      probes, classifier, items }
  (suite, log)

end Suite

end TestSelection
