import TestSelection.Command.Machine
import TestSelection.Command.Outcome
import TestSelection.Gate
import TestSelection.Json.Printer
import TestSelection.Suite
import TestSelection.Table

/-!
# Evaluating a manifest

Decides each test of a manifest, or each with some tag, and counts the decisions.
-/
namespace TestSelection.Command

/-- The decision about a test. -/
structure Evaluation where
  test : String
  path : String
  tags : List String
  decision : Decision
  deriving DecidableEq

structure Summary where
  total : Nat
  run : Nat
  skipped : Nat
  deriving DecidableEq

structure Report where
  results : List Evaluation
  deriving DecidableEq

namespace Evaluation

def toJson (e : Evaluation) : Json :=
  .object ([("test", .text e.test), ("path", .text e.path), ("tags", .ofTexts e.tags)] ++
    e.decision.fields)

/-- The reason of a decision with its kind. -/
def reasonText : Decision → String
  | .run => "-"
  | .skip r => "[" ++ r.kind.text ++ "] " ++ r.message

def row (e : Evaluation) : List String :=
  [e.test, listText e.tags, if e.decision.isRun then "run" else "skip", reasonText e.decision]

end Evaluation

namespace Summary

def toJson (s : Summary) : Json :=
  .object [("total", .ofNat s.total), ("run", .ofNat s.run), ("skipped", .ofNat s.skipped)]

def line (s : Summary) : String :=
  toString s.total ++ " tests: " ++ toString s.run ++ " run, " ++ toString s.skipped ++ " skipped"

end Summary

namespace Report

def summary (r : Report) : Summary :=
  let run := (r.results.filter (·.decision.isRun)).length
  { total := r.results.length, run, skipped := r.results.length - run }

def toJson (r : Report) : Json :=
  .object [("results", .list (r.results.map Evaluation.toJson)), ("summary", r.summary.toJson)]

def table (r : Report) : Table where
  header := ["TEST", "TAGS", "DECISION", "REASON"]
  rows := r.results.map Evaluation.row

/-- The lines of a report about the manifest at a path. -/
def lines (r : Report) (format : Format) (manifest : String) (tag : Option String) : List String :=
  match format with
  | .json => [r.toJson.pretty]
  | .table =>
    if r.results = [] then
      match tag with
      | some tag => ["No tests tagged '" ++ tag ++ "'"]
      | none => ["No tests in " ++ manifest]
    else r.table.lines ++ [r.summary.line]

end Report

/-! ## Deciding -/

variable {m : Type → Type} [Monad m]

/-- The items that have a tag, or all of them. -/
def selected (tag : Option String) (items : List TestItem) : List TestItem :=
  match tag with
  | none => items
  | some tag => items.filter (·.hasTag tag)

/-- Decides an item and logs the decision. -/
def decideItem (machine : Machine m) (host : HostEnvironment m) (config : RunConfiguration)
    (item : TestItem) : m Evaluation := do
  let decision ← Gate.evaluate host config item
  machine.log (decision.event item.name)
  return { test := item.name, path := item.path, tags := item.tags, decision }

/-- The event before the decisions. -/
def evaluating (config : RunConfiguration) (count : Nat) : LogEvent :=
  ⟨.info, "evaluating " ++ toString count ++ " tests",
    [("run_destructive", .flag config.runDestructive),
      ("run_expensive", .flag config.runExpensive)]⟩

/-- Decides the items of a suite that have a tag, with the flags of the command line on top of the
configuration of the suite. -/
def report (machine : Machine m) (suite : Suite) (flags : RunConfiguration) (tag : Option String) :
    m Report := do
  let config := suite.runConfiguration.merge flags
  machine.log (evaluating config suite.items.length)
  let results ← (selected tag suite.items).mapM (decideItem machine (machine.host suite.probes) config)
  return { results }

/-- Evaluates the manifest at a path. -/
def evaluate (machine : Machine m) (manifest : String) (flags : RunConfiguration)
    (tag : Option String) (format : String) : m Outcome := do
  match Format.parse? format with
  | none => return { failure := some (Format.unknown format) }
  | some format =>
    match ← machine.readManifest manifest with
    | .error e => return { failure := some (.ofManifest "Failed to parse manifest" e) }
    | .ok content =>
      let (suite, log) := Suite.build content false
      machine.logAll log
      match suite with
      | .error e => return { failure := some (.ofManifest "Failed to load tests" e) }
      | .ok suite =>
        let r ← report machine suite flags tag
        return { lines := r.lines format manifest tag }

end TestSelection.Command
