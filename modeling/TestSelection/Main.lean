import Std.Async.TCP
import Std.Async.Timer
import TestSelection.Command.Run

/-!
# The program

Runs a command line on the machine that the program runs on.
-/
namespace TestSelection.Command

/-! ## Files -/

/-- Why the system refused a file. -/
def fileError : IO.Error → FileError
  | .noFileOrDirectory .. => .notFound
  | .permissionDenied .. => .denied
  | .inappropriateType .. => .isDirectory
  | e => .other (toString e)

/-- The text of a file. -/
def readText (path : String) : IO (Except FileError String) := do
  match ← (IO.FS.readBinFile path).toBaseIO with
  | .error e => return .error (fileError e)
  | .ok bytes =>
    match String.fromUTF8? bytes with
    | none => return .error .notText
    | some text => return .ok text

/-- Whether something is at a path. -/
def isPresent (path : String) : IO Bool := do
  if path.isEmpty then return false
  ((← IO.currentDir) / path).pathExists

/-- Whether a program is at a path. The library shows no permissions, so a program is what it is where
there are none: a regular file, or one with the ending of programs beside it. -/
def isProgram (path : String) : IO Bool := do
  let place := (← IO.currentDir) / path
  [place, place.withExtension "exe"].anyM fun file => do
    match ← file.metadata.toBaseIO with
    | .error _ => return false
    | .ok found => return found.type == .file

/-! ## The process -/

/-- The variables of the process, as the system lists them. -/
def processVariables : IO Variables := do
  match ← readText "/proc/self/environ" with
  | .error _ => return fun _ => none
  | .ok text =>
    let entries := (Text.split '\x00' text).map fun entry =>
      let chars := entry.toList
      (String.ofList (chars.takeWhile (· != '=')), String.ofList ((chars.dropWhile (· != '=')).drop 1))
    return fun name => entries.lookup name

/-- The effective user, the second of the users that the system lists for the process. -/
def processUser : IO (Option UInt32) := do
  match ← readText "/proc/self/status" with
  | .error _ => return none
  | .ok text =>
    let users := (Text.split '\n' text).findSome? fun line =>
      match Text.split '\t' line with
      | "Uid:" :: _ :: effective :: _ => effective.toNat?
      | _ => none
    return users.map Nat.toUInt32

/-! ## Sockets -/

/-- An endpoint as the sockets of the library take it. -/
def socketAddress (e : Endpoint) : Std.Net.SocketAddress :=
  match e.address with
  | .v4 a b c d => .v4 ⟨.ofParts a b c d, e.port⟩
  | .v6 groups => .v6 ⟨⟨groups⟩, e.port⟩

/-- Binds a socket to an endpoint for a moment. That the endpoint is taken is reported only when the socket
is asked for its name. -/
def bindSocket (e : Endpoint) : IO (Except String Unit) := do
  let bind : IO Unit := do
    let server ← Std.Async.TCP.Socket.Server.mk
    server.bind (socketAddress e)
    discard server.getSockName
  return (← bind.toBaseIO).mapError toString

/-- Connects to an endpoint and gives up after a time. -/
def connectSocket (e : Endpoint) (timeout : Duration) : IO (Except String Unit) := do
  let connect : Std.Async.Async (Except String Unit) := do
    let client ← Std.Async.TCP.Socket.Client.mk
    client.connect (socketAddress e)
    return .ok ()
  let giveUp : Std.Async.Async (Except String Unit) := do
    Std.Async.sleep ⟨(timeout.toNanos / 1_000_000 : Nat)⟩
    return .error "connection timed out"
  match ← (Std.Async.Async.race connect giveUp).block.toBaseIO with
  | .ok result => return result
  | .error cause => return .error (toString cause)

/-! ## Running -/

/-- The machine of the process, with a log of the events that a filter lets through. -/
def processMachine (vars : Variables) (filter : LogFilter) : Machine IO where
  effectiveUserId := processUser
  hasPath := isPresent
  readFile := readText
  isExecutable := isProgram
  sockets := { bind := bindSocket, connect := connectSocket }
  log e := if filter.shows e then IO.eprintln e.line else pure ()
  vars

end TestSelection.Command

open TestSelection.Command

/-- Runs a command line; the exit code tells how it went. -/
def main (words : List String) : IO UInt32 := do
  match Invocation.ofArguments words with
  | .error stop =>
    let t := stop.transcript
    IO.print t.output
    IO.eprint t.errorOutput
    return t.exitCode.toUInt32
  | .ok invocation =>
    let vars ← processVariables
    let machine := processMachine vars (logFilter vars invocation.verbosity)
    let outcome ← invocation.action.run machine invocation.manifest
    IO.print outcome.output
    IO.eprint outcome.errorOutput
    return outcome.exitCode.toUInt32
