import TestSelection.Host.Environment
import TestSelection.Host.FileTree
import TestSelection.Manifest.Read
import TestSelection.SearchPath

/-!
# The machine that commands run on

What a command may do, in any monad: read files, open sockets, ask for the user, log. A world is a
description of all of it, so a command on a world is a function that gives its outcome and its log.
-/
namespace TestSelection.Command

structure Machine (m : Type → Type) where
  effectiveUserId : m (Option UInt32)
  hasPath : String → m Bool
  readFile : String → m (Except FileError String)
  isExecutable : String → m Bool
  sockets : Sockets m
  log : LogEvent → m Unit
  /-- The variables of the process. -/
  vars : Variables

namespace Machine

variable {m : Type → Type} [Monad m]

/-- The variable that holds the search path of binaries. -/
def searchPathName : String := "PATH"

/-- Logs events, the oldest first. -/
def logAll (machine : Machine m) (log : Log) : m Unit :=
  log.forM machine.log

/-- The host as tests see it, with what the probes try. -/
def host (machine : Machine m) (probes : ProbeSettings) : HostEnvironment m where
  effectiveUserId := machine.effectiveUserId
  which := SearchPath.resolve machine.isExecutable (machine.vars searchPathName)
  hasLocalNetwork := Probe.localNetwork machine.sockets machine.log probes
  hasExternalNetwork := do
    return (← Probe.externalNetwork machine.sockets machine.log probes).isSome

/-- Reads the manifest in a file. -/
def readManifest (machine : Machine m) (path : String) : m (Except ManifestError Manifest) := do
  match ← machine.readFile path with
  | .error e => return .error (.unreadable e)
  | .ok text => return Manifest.ofText machine.vars text

end Machine

/-! ## Worlds -/

/-- A machine described by its answers. -/
structure World where
  userId : Option UInt32 := none
  files : FileTree := .empty
  vars : Variables := fun _ => none
  bind : Endpoint → Except String Unit := fun _ => .ok ()
  connect : Endpoint → Except String Unit := fun _ => .ok ()

/-- The machine of a world, which keeps its log. -/
def World.machine (w : World) : Machine (StateM Log) where
  effectiveUserId := return w.userId
  hasPath path := return w.files.hasPath path
  readFile path := return w.files.read path
  isExecutable path := return w.files.isExecutable path
  sockets := {
    bind := fun e => return w.bind e
    connect := fun e _ => return w.connect e }
  log e := modify (· ++ [e])
  vars := w.vars

end TestSelection.Command
