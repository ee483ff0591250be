import TestSelection.Text.Split

/-!
# Finding binaries

A name that has several components is looked for as it stands, a bare name in each directory of a
search path. Which paths are executable is asked in any monad.
-/
namespace TestSelection.SearchPath

/-- The pieces of a path between its slashes. -/
def pieces (path : String) : List String :=
  Text.split '/' path

def isAbsolute (path : String) : Bool :=
  path.toList.head? == some '/'

/-- The number of components of a path: the root, a point at the front, and every name. Repeated and
trailing slashes and other points are none. -/
def componentCount (path : String) : Nat :=
  let names := (pieces path).filter fun p => p != "" && p != "."
  let leading := isAbsolute path || (pieces path).head? == some "."
  names.length + if leading then 1 else 0

/-- A name under a directory. An absolute name stays as it is, and the empty directory adds
nothing. -/
def join (dir name : String) : String :=
  if isAbsolute name || dir == "" then name
  else if dir.toList.getLast? == some '/' then dir ++ name
  else dir ++ "/" ++ name

/-- The directories of a search path; an empty one is the working directory. -/
def directories (searchPath : String) : List String :=
  Text.split ':' searchPath

variable {m : Type → Type} [Monad m]

/-- The first of some paths that is executable; the ones behind it are not asked for. -/
def firstExecutable (isExecutable : String → m Bool) : List String → m (Option String)
  | [] => return none
  | path :: rest => do
    if ← isExecutable path then return some path
    else firstExecutable isExecutable rest

/-- The paths at which a name is looked for, in order. -/
def candidates (searchPath : Option String) (name : String) : List String :=
  if name = "" then []
  else if 1 < componentCount name then [name]
  else match searchPath with
    | none => []
    | some dirs => (directories dirs).map fun dir => join dir name

/-- The path of a binary. -/
def resolve (isExecutable : String → m Bool) (searchPath : Option String) (name : String) :
    m (Option String) :=
  firstExecutable isExecutable (candidates searchPath name)

end TestSelection.SearchPath
