import TestSelection.Text.Quoted

/-!
# Log events

An event has a level, a message and named values. A log is the list of its events, the oldest first;
which of them are shown is decided when they are written.
-/
namespace TestSelection

/-- How urgent an event is. -/
inductive Level
  | error
  | warn
  | info
  | debug
  | trace
  deriving DecidableEq

namespace Level

/-- The place of a level, the most urgent first. -/
def rank : Level → Nat
  | error => 1
  | warn => 2
  | info => 3
  | debug => 4
  | trace => 5

def name : Level → String
  | error => "ERROR"
  | warn => "WARN"
  | info => "INFO"
  | debug => "DEBUG"
  | trace => "TRACE"

end Level

/-- A value in an event. -/
inductive FieldValue
  /-- A text that is written between quotes. -/
  | text (s : String)
  /-- The written form of some other value. -/
  | shown (s : String)
  | number (n : Nat)
  | flag (b : Bool)
  deriving DecidableEq

def FieldValue.render : FieldValue → String
  | text s => Text.quoted s
  | shown s => s
  | number n => toString n
  | flag b => toString b

structure LogEvent where
  level : Level
  message : String
  fields : List (String × FieldValue)
  deriving DecidableEq

abbrev Log := List LogEvent

namespace LogEvent

/-- One character of a message in a log line: controls that a terminal would obey are escaped. -/
def messageChar (c : Char) : String :=
  match c with
  | '\x1b' => "\\x1b"
  | '\x07' => "\\x07"
  | '\x08' => "\\x08"
  | '\x0c' => "\\x0c"
  | '\x7f' => "\\x7f"
  | c => if 0x80 ≤ c.toNat && c.toNat ≤ 0x9f then Text.codePointEscape c else c.toString

/-- The line of an event: level, message, and the fields in their order. -/
def line (e : LogEvent) : String :=
  e.level.name ++ " " ++ String.join (e.message.toList.map messageChar) ++
    String.join (e.fields.map fun f => " " ++ f.1 ++ "=" ++ f.2.render)

end LogEvent

/-- The most detailed level that is written, none when nothing is. -/
structure LogFilter where
  finest : Option Level
  deriving DecidableEq

namespace LogFilter

def shows (f : LogFilter) (e : LogEvent) : Bool :=
  f.finest.any fun level => e.level.rank ≤ level.rank

/-- Warnings are always written, and one more level for each request for more. -/
def ofVerbosity : Nat → LogFilter
  | 0 => ⟨some .warn⟩
  | 1 => ⟨some .info⟩
  | 2 => ⟨some .debug⟩
  | _ => ⟨some .trace⟩

/-- The filter that a word asks for, in letters of either case or as a number. An empty word asks
for errors alone; a word that is no level names a part of the program, and none logs under it. -/
def ofWord (word : String) : LogFilter :=
  match word.toLower with
  | "" | "error" | "1" => ⟨some .error⟩
  | "warn" | "2" => ⟨some .warn⟩
  | "info" | "3" => ⟨some .info⟩
  | "debug" | "4" => ⟨some .debug⟩
  | "trace" | "5" => ⟨some .trace⟩
  | _ => ⟨none⟩

end LogFilter

/-- The lines of the events that a filter lets through. -/
def Log.render (filter : LogFilter) (log : Log) : String :=
  String.join ((log.filter filter.shows).map fun e => e.line ++ "\n")

end TestSelection
