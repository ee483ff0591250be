import TestSelection.Host.File
import TestSelection.Text.Split

/-!
# Trees of files

A tree of files under a working directory, as a value. A path is followed name by name; links are
followed wherever they stand, up to a limit. Outside the tree there are directories, but nothing is
known of what they hold. Every file holds a text, and who looks may search and read all of the tree,
whatever the permission bits are.
-/
namespace TestSelection

inductive FileTree
  /-- A file with its permission bits and its text. -/
  | file (mode : Nat) (content : String)
  /-- A symbolic link. -/
  | link (target : String)
  | directory (entries : List (String × FileTree))
  deriving Inhabited

namespace FileTree

def empty : FileTree :=
  directory []

/-- The names of a path between its slashes. -/
def names (path : String) : List String :=
  Text.split '/' path

/-! ## Building -/

/-- Puts a value under a name in place of the one that is there, else behind the others. -/
def putEntry (name : String) (tree : FileTree) : List (String × FileTree) → List (String × FileTree)
  | [] => [(name, tree)]
  | (n, t) :: rest => if n = name then (name, tree) :: rest else (n, t) :: putEntry name tree rest

/-- Puts a node at the end of some names; the directories on the way are made. A directory that is
there already stays as it is. -/
def putAt (node : FileTree) : List String → FileTree → FileTree
  | [], tree =>
    match node, tree with
    | directory [], directory entries => directory entries
    | node, _ => node
  | name :: rest, tree =>
    let entries := match tree with
      | directory entries => entries
      | _ => []
    directory (putEntry name (putAt node rest ((entries.lookup name).getD empty)) entries)

/-- Puts a node at a path. -/
def put (tree : FileTree) (path : String) (node : FileTree) : FileTree :=
  putAt node ((names path).filter fun n => n != "" && n != ".") tree

/-! ## Following paths -/

/-- The node at the end of some names, none of them followed through links. -/
def at? (tree : FileTree) : List String → Option FileTree
  | [] => some tree
  | name :: rest =>
    match tree with
    | directory entries => (entries.lookup name).bind fun t => at? t rest
    | _ => none

/-- Where a path has led so far. -/
inductive Place
  /-- In the tree, behind some names, the last one first. -/
  | inside (reversed : List String)
  /-- At a directory outside the tree. -/
  | outside

namespace Place

/-- The directory around a place. -/
def parent : Place → Place
  | inside (_ :: rest) => inside rest
  | inside [] | outside => outside

/-- Where a path starts that is followed from a directory. -/
def start (dir : Place) (path : String) : Place :=
  if path.toList.head? == some '/' then outside else dir

end Place

/-- The node at a place. -/
def nodeAt (tree : FileTree) : Place → Option FileTree
  | .inside reversed => tree.at? reversed.reverse
  | .outside => some empty

/-- How many links are followed on a path. -/
def linkLimit : Nat := 40

/-- The greatest size of a name. -/
def nameLimit : Nat := 255

/-- The greatest size of a path. -/
def pathLimit : Nat := 4095

/-- Follows some names from a place to a file or a directory. -/
def follow (tree : FileTree) (links : Nat) (place : Place) :
    List String → Except FileError FileTree
  | [] =>
    match tree.nodeAt place with
    | some node => .ok node
    | none => .error .notFound
  | name :: rest =>
    match tree.nodeAt place with
    | some (directory entries) =>
      if name = "" ∨ name = "." then tree.follow links place rest
      else if name = ".." then tree.follow links place.parent rest
      else if nameLimit < name.utf8ByteSize then .error .nameTooLong
      else
        match place, entries.lookup name with
        | .inside _, some (link target) =>
          match links with
          | 0 => .error .tooManyLinks
          | links + 1 => tree.follow links (place.start target) (names target ++ rest)
        | .inside reversed, some _ => tree.follow links (.inside (name :: reversed)) rest
        | _, _ => .error .notFound
    | some _ => .error .notDirectory
    | none => .error .notFound
termination_by names => (links, names.length)

/-- The file or directory at a path from the working directory. -/
def resolve (tree : FileTree) (path : String) : Except FileError FileTree :=
  if path.toList.contains '\x00' then .error .invalidPath
  else if path = "" then .error .notFound
  else if pathLimit < path.utf8ByteSize then .error .nameTooLong
  else tree.follow linkLimit (Place.start (.inside []) path) (names path)

/-! ## Questions -/

/-- Whether a file or directory is there. -/
def hasPath (tree : FileTree) (path : String) : Bool :=
  match tree.resolve path with
  | .ok _ => true
  | .error _ => false

/-- Whether any of the three permissions to execute is set. -/
def isExecutableMode (mode : Nat) : Bool :=
  mode &&& 0o111 != 0

/-- Whether a file is there that may be executed. -/
def isExecutable (tree : FileTree) (path : String) : Bool :=
  match tree.resolve path with
  | .ok (file mode _) => isExecutableMode mode
  | _ => false

/-- The text of a file. -/
def read (tree : FileTree) (path : String) : Except FileError String :=
  match tree.resolve path with
  | .ok (file _ content) => .ok content
  | .ok _ => .error .isDirectory
  | .error e => .error e

end FileTree

end TestSelection
