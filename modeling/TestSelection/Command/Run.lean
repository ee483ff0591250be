import TestSelection.Command.Arguments
import TestSelection.Command.Evaluate
import TestSelection.Command.Probe
import TestSelection.Command.Validate

/-!
# Running a command line

A command line is read, its action runs on a machine, and its log is written down to the level that
was asked for.
-/
namespace TestSelection.Command

variable {m : Type → Type} [Monad m]

/-- The vocabulary of markers. -/
def markersTable : Table where
  header := ["MARKER", "DESCRIPTION"]
  rows := MarkerRegistry.standard.declarations.map fun d => [d.signature, d.description]

/-- Runs an action on the manifest at a path. -/
def Action.run (machine : Machine m) (manifest : String) : Action → m Outcome
  | markers => return { lines := markersTable.lines }
  | classify paths => Command.classify machine manifest paths
  | validate strict => Command.validate machine manifest strict
  | evaluate flags tag format => Command.evaluate machine manifest flags tag format
  | probe format => Command.probe machine manifest format

/-- The variable that sets the level of the log. -/
def logLevelName : String := "RUST_LOG"

/-- Which events are written: those that the variables ask for, else those that the command line
asks for. -/
def logFilter (vars : Variables) (verbosity : Nat) : LogFilter :=
  match vars logLevelName with
  | some word => LogFilter.ofWord word
  | none => LogFilter.ofVerbosity verbosity

def versionText : String := "gate 0.1.0\n"

def helpText : String :=
  "Selection gate - decide which marked tests run on this host\n\n" ++
  "Usage: gate [OPTIONS] <COMMAND>\n\n" ++
  "Commands:\n" ++
  "  markers   List the registered markers\n" ++
  "  classify  Print the category tags of test paths\n" ++
  "  validate  Validate the manifest\n" ++
  "  evaluate  Decide run or skip for every test in the manifest\n" ++
  "  probe     Run the network probes\n\n" ++
  "Options:\n" ++
  "  -c, --manifest <MANIFEST>  Suite manifest path [default: gate.yaml]\n" ++
  "  -v, --verbose...           Raise the log level (repeatable)\n" ++
  "  -h, --help                 Print help\n" ++
  "  -V, --version              Print version\n"

/-- What a run of the program leaves behind. -/
structure Transcript where
  exitCode : Nat
  output : String := ""
  errorOutput : String := ""
  deriving DecidableEq

/-- The exit code of a command line that names nothing to do. -/
def misuseCode : Nat := 2

/-- What is left behind when nothing is run. -/
def Stop.transcript : Stop → Transcript
  | misuse => { exitCode := misuseCode, errorOutput := helpText }
  | version => { exitCode := 0, output := versionText }
  | help => { exitCode := 0, output := helpText }

/-- Runs a command line in a world. -/
def World.run (w : World) (words : List String) : Transcript :=
  match Invocation.ofArguments words with
  | .error stop => stop.transcript
  | .ok invocation =>
    let (outcome, log) := ((invocation.action.run w.machine invocation.manifest).run []).run
    let filter := logFilter w.vars invocation.verbosity
    { exitCode := outcome.exitCode
      output := outcome.output
      errorOutput := log.render filter ++ outcome.errorOutput }

end TestSelection.Command
