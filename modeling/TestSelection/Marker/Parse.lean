import TestSelection.Marker.Basic
import TestSelection.Marker.Value

/-!
# Reading a marker

A marker is read from its name and its arguments, the positional ones first and then the keywords in
the order of their names. The first argument that does not fit is blamed.
-/
namespace TestSelection

/-- Where an argument stands. -/
inductive ArgumentPlace
  | positional (index : Nat)
  /-- An item of the list that stands alone in the place of the arguments. -/
  | listed (index : Nat)
  | keyword (name : String)
  deriving DecidableEq

def ArgumentPlace.text : ArgumentPlace → String
  | positional index => "args[" ++ toString index ++ "]"
  | listed index => "args[0][" ++ toString index ++ "]"
  | keyword name => name

/-- What an argument has to be. -/
inductive ArgumentKind
  | boolean
  | text
  | binaryName
  deriving DecidableEq

def ArgumentKind.phrase : ArgumentKind → String
  | boolean => "a boolean"
  | text => "a string"
  | binaryName => "a binary name"

/-- Why a marker cannot be read. -/
inductive MarkerError
  | emptyName
  | invalidArgument (marker : String) (place : ArgumentPlace) (expected : ArgumentKind)
  | unexpectedArgument (marker : String) (place : ArgumentPlace)
  deriving DecidableEq

def MarkerError.message : MarkerError → String
  | emptyName => "marker name must not be empty"
  | invalidArgument marker place expected =>
    "marker '" ++ marker ++ "' expects " ++ expected.phrase ++ " for argument '" ++ place.text ++ "'"
  | unexpectedArgument marker place =>
    "marker '" ++ marker ++ "' does not accept argument '" ++ place.text ++ "'"

namespace Marker

/-- Accepts no argument at all. -/
def rejectArguments (marker : String) (args : List MarkerValue) (kwargs : Keywords) :
    Except MarkerError Unit :=
  match args, kwargs.entries with
  | [], [] => .ok ()
  | _ :: _, _ => .error (.unexpectedArgument marker (.positional 0))
  | [], (key, _) :: _ => .error (.unexpectedArgument marker (.keyword key))

/-- Reads binary names; `index` counts the ones before. -/
def readBinaries (place : Nat → ArgumentPlace) (index : Nat) :
    List MarkerValue → Except MarkerError (List String)
  | [] => .ok []
  | v :: rest =>
    match v.text? with
    | none => .error (.invalidArgument needsBinariesName (place index) .binaryName)
    | some s => (readBinaries place (index + 1) rest).map (s :: ·)

/-- A single list stands for the arguments that it holds. -/
def readBinaryArguments : List MarkerValue → Except MarkerError (List String)
  | [.list items] => readBinaries .listed 0 items
  | args => readBinaries .positional 0 args

/-- The keywords of a marker that needs binaries, on top of the values read so far. -/
def readBinaryKeywords (checkAll : Bool) (message : Option String) :
    List (String × MarkerValue) → Except MarkerError (Bool × Option String)
  | [] => .ok (checkAll, message)
  | (key, v) :: rest =>
    if key = "check_all" then
      match v.bool? with
      | none => .error (.invalidArgument needsBinariesName (.keyword key) .boolean)
      | some b => readBinaryKeywords b message rest
    else if key = "message" then
      match v.text? with
      | none => .error (.invalidArgument needsBinariesName (.keyword key) .text)
      | some s => readBinaryKeywords checkAll (some s) rest
    else .error (.unexpectedArgument needsBinariesName (.keyword key))

/-- The keywords of a marker that needs the network, on top of the value read so far. -/
def readNetworkKeywords (onlyLocal : Bool) :
    List (String × MarkerValue) → Except MarkerError Bool
  | [] => .ok onlyLocal
  | (key, v) :: rest =>
    if key = "only_local_network" then
      match v.bool? with
      | none => .error (.invalidArgument needsNetworkName (.keyword key) .boolean)
      | some b => readNetworkKeywords b rest
    else .error (.unexpectedArgument needsNetworkName (.keyword key))

/-- Reads a marker from its name, its positional arguments and its keywords. -/
def parse (name : String) (args : List MarkerValue) (kwargs : Keywords) :
    Except MarkerError Marker :=
  if name = "" then .error .emptyName
  else if name = destructiveName then do
    rejectArguments name args kwargs
    return destructive
  else if name = expensiveName then do
    rejectArguments name args kwargs
    return expensive
  else if name = needsRootName then do
    rejectArguments name args kwargs
    return needsRoot
  else if name = needsBinariesName then do
    let binaries ← readBinaryArguments args
    let (checkAll, message) ← readBinaryKeywords false none kwargs.entries
    return needsBinaries binaries checkAll message
  else if name = needsNetworkName then
    match args with
    | _ :: _ => .error (.unexpectedArgument name (.positional 0))
    | [] => do
      let onlyLocal ← readNetworkKeywords false kwargs.entries
      return needsNetwork onlyLocal
  else .ok (unregistered name)

/-- Reads a marker that is written as a bare name. -/
def named (name : String) : Except MarkerError Marker :=
  parse name [] .empty

end Marker

end TestSelection
