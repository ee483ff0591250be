import TestSelection.Manifest.Error
import TestSelection.Text.Split

/-!
# Outcomes of commands

A command prints lines, and it may fail behind them. The report of a failure says what was being done
and then what was in the way, one cause below another.
-/
namespace TestSelection.Command

structure Failure where
  context : String
  causes : List String := []
  deriving DecidableEq

structure Outcome where
  lines : List String := []
  failure : Option Failure := none
  deriving DecidableEq

/-- The format of a report. -/
inductive Format
  | table
  | json
  deriving DecidableEq

namespace Format

def parse? (word : String) : Option Format :=
  if word = "table" then some table else if word = "json" then some json else none

/-- The failure of a word that is no format. -/
def unknown (word : String) : Failure where
  context := "Invalid format: " ++ word ++ ". Must be 'table' or 'json'"

end Format

namespace Failure

/-- A failure of a manifest, met while something was being done. -/
def ofManifest (context : String) (e : ManifestError) : Failure where
  context
  causes := e.message :: e.source?.toList

/-- A text of several lines behind a head, the further lines behind blanks of that length. -/
def indented (head : String) (text : String) : String :=
  let blanks := String.ofList (List.replicate head.length ' ')
  head ++ ("\n" ++ blanks).intercalate (Text.split '\n' text)

/-- The number of a cause, right in five columns. -/
def numberHead (number : Nat) : String :=
  let digits := toString number
  String.ofList (List.replicate (5 - digits.length) ' ') ++ digits ++ ": "

/-- The lines of the causes; several causes are numbered. -/
def causeLines : List String → List String
  | [cause] => [indented "    " cause]
  | causes => causes.mapIdx fun i cause => indented (numberHead i) cause

def report (f : Failure) : String :=
  if f.causes = [] then "Error: " ++ f.context ++ "\n"
  else
    "Error: " ++ f.context ++ "\n\nCaused by:\n" ++ "\n".intercalate (causeLines f.causes) ++ "\n"

end Failure

namespace Outcome

def succeeds (o : Outcome) : Bool :=
  o.failure.isNone

/-- What is written to the output. -/
def output (o : Outcome) : String :=
  String.join (o.lines.map fun line => line ++ "\n")

/-- What is written to the error output behind the log. -/
def errorOutput (o : Outcome) : String :=
  match o.failure with
  | none => ""
  | some f => f.report

def exitCode (o : Outcome) : Nat :=
  if o.succeeds then 0 else 1

end Outcome

/-- A list in one cell or line, a hyphen when it is empty. -/
def listText (items : List String) : String :=
  if items = [] then "-" else ", ".intercalate items

end TestSelection.Command
