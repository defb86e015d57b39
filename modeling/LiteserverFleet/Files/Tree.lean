import LiteserverFleet.Error
import LiteserverFleet.Files.Path

/-!
# File trees

A file tree is what lies below a working directory: files with their bytes, and directories.  Its operations
fail for the reasons for which those of a file system fail, and an operation that fails half-way leaves
what it has done.  Outside the tree there are only the directories above it, up to the root; what is put there is
kept, but is no part of what lies below the working directory.
-/

set_option autoImplicit false

namespace LiteserverFleet

inductive FileNode where
  | file (content : ByteArray)
  | directory

/-- The place of a node: the names from the working directory to it.  The directories above are reached by dots. -/
abbrev Place := List String

namespace Place

def root : Place := ["/"]

/-- The directory exists whatever the tree holds: it is the working directory, one above it, or the root. -/
def isGiven (place : Place) : Bool :=
  place.all (· = "..") || place = root

def isInside (place : Place) : Bool :=
  place.head?.all fun name => name ≠ ".." && name ≠ "/"

def parent (place : Place) : Place :=
  if place = root then place
  else if place.isGiven then place ++ [".."]
  else place.dropLast

end Place

/-- The nodes that are known, each place once. -/
structure FileTree where
  nodes : List (Place × FileNode) := []

namespace FileTree

def inside (t : FileTree) : List (Place × FileNode) :=
  t.nodes.filter fun entry => entry.1.isInside

def node? (t : FileTree) (place : Place) : Option FileNode :=
  if place.isGiven then some .directory else t.nodes.lookup place

def put (t : FileTree) (place : Place) (node : FileNode) : FileTree :=
  ⟨(place, node) :: t.nodes.filter fun entry => entry.1 ≠ place⟩

/-- The tree without what lies below a place; that is all that it holds if the place is no part of it. -/
def clearBelow (t : FileTree) (place : Place) : FileTree :=
  if place.isGiven then {}
  else ⟨t.nodes.filter fun entry => !(place.isPrefixOf entry.1 && entry.1 ≠ place)⟩

def erase (t : FileTree) (place : Place) : FileTree :=
  ⟨t.nodes.filter fun entry => entry.1 ≠ place⟩

/-- Follows names from a place on.  Every place on the way must be a directory; the last one need not exist. -/
def walk (t : FileTree) (place : Place) : List String → Except FileFailure Place
  | [] => .ok place
  | name :: rest =>
      match t.node? place with
      | none => .error .notFound
      | some (.file _) => .error .notDirectory
      | some .directory =>
          if name = "." then walk t place rest
          else if name = ".." then walk t place.parent rest
          else if Path.isTooLong name then .error .nameTooLong
          else walk t (place ++ [name]) rest

/-- The place that names lead to from the working directory; the path that is meant decides whether it can be
followed at all. -/
def follow (t : FileTree) (path : String) (names : List String) : Except FileFailure Place :=
  if path.toList.contains '\x00' then .error .zeroInPath
  else if path = "" then .error .notFound
  else if Path.longestPath < path.utf8ByteSize then .error .nameTooLong
  else t.walk (if Path.isAbsolute path then .root else []) names

def place (t : FileTree) (path : String) : Except FileFailure Place :=
  t.follow path (Path.steps path)

def pathExists (t : FileTree) (path : String) : Except FileFailure Bool :=
  match t.place path with
  | .ok place => .ok (t.node? place).isSome
  | .error .notFound => .ok false
  | .error e => .error e

def isDirectory (t : FileTree) (path : String) : Bool :=
  match t.place path with
  | .ok place => match t.node? place with
    | some .directory => true
    | _ => false
  | .error _ => false

def readFile (t : FileTree) (path : String) : Except FileFailure ByteArray := do
  let place ← t.place path
  match t.node? place with
  | some (.file content) => pure content
  | some .directory => .error .isDirectory
  | none => .error .notFound

def writeFile (t : FileTree) (path : String) (content : ByteArray) :
    Except FileFailure Unit × FileTree :=
  match t.place path with
  | .error e => (.error e, t)
  | .ok place => match t.node? place with
    | some .directory => (.error .isDirectory, t)
    | _ => (.ok (), t.put place (.file content))

def makeDirectory (t : FileTree) (path : String) : Except FileFailure Unit × FileTree :=
  match t.follow path (Path.names path) with
  | .error e => (.error e, t)
  | .ok place => match t.node? place with
    | some _ => (.error .alreadyExists, t)
    | none => (.ok (), t.put place .directory)

/-- Removes a directory with all that lies below it.  The path is followed once more for the directory itself, which
may be gone by then; a directory that is named by dots is emptied but cannot be removed. -/
def removeDirectories (t : FileTree) (path : String) : Except FileFailure Unit × FileTree :=
  match t.place path with
  | .error e => (.error e, t)
  | .ok place => match t.node? place with
    | none => (.error .notFound, t)
    | some (.file _) => (.error .notDirectory, t)
    | some .directory =>
        let cleared := t.clearBelow place
        match cleared.place path with
        | .error .notFound => (.ok (), cleared)
        | .error e => (.error e, cleared)
        | .ok _ => match (Path.names path).getLast? with
          | some "." => (.error .invalidArgument, cleared)
          | some ".." => (.error .directoryNotEmpty, cleared)
          | _ => (.ok (), cleared.erase place)

end FileTree

end LiteserverFleet
