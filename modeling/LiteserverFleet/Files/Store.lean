import LiteserverFleet.Files.Tree

/-!
# Stores of files

What the fleet asks of a file system.  The same programs run on a file tree, where they are pure functions, and on
the files of a machine.
-/

set_option autoImplicit false

namespace LiteserverFleet

class FileStore (m : Type → Type) where
  readFile : String → m (Except FileFailure ByteArray)
  writeFile : String → ByteArray → m (Except FileFailure Unit)
  makeDirectory : String → m (Except FileFailure Unit)
  removeDirectories : String → m (Except FileFailure Unit)
  pathExists : String → m (Except FileFailure Bool)
  isDirectory : String → m Bool

namespace FileStore

instance : FileStore (StateM FileTree) where
  readFile path := fun t => (t.readFile path, t)
  writeFile path content := fun t => t.writeFile path content
  makeDirectory path := fun t => t.makeDirectory path
  removeDirectories path := fun t => t.removeDirectories path
  pathExists path := fun t => (t.pathExists path, t)
  isDirectory path := fun t => (t.isDirectory path, t)

section Programs

variable {m : Type → Type} [Monad m] [FileStore m]

def readText (path : String) : m (Except FileFailure String) := do
  match ← FileStore.readFile path with
  | .error e => pure (.error e)
  | .ok bytes => match String.fromUTF8? bytes with
    | some text => pure (.ok text)
    | none => pure (.error .notText)

/-- Makes a directory; one that exists already is as good as made. -/
def ensureDirectory (path : String) : m (Except FileFailure Unit) := do
  match ← FileStore.makeDirectory path with
  | .error .alreadyExists =>
      if ← FileStore.isDirectory path then pure (.ok ()) else pure (.error .alreadyExists)
  | result => pure result

/-- Goes up from a directory to one that exists or can be made.  Collects the ones that are still missing,
outermost first. -/
def findBase (missing : List String) : List String → m (Except FileFailure (List String))
  | [] => pure (.ok missing)
  | path :: above => do
      match ← ensureDirectory path with
      | .ok () => pure (.ok missing)
      | .error .notFound => findBase (path :: missing) above
      | .error e => pure (.error e)

def ensureEach : List String → m (Except FileFailure Unit)
  | [] => pure (.ok ())
  | path :: below => do
      match ← ensureDirectory path with
      | .ok () => ensureEach below
      | .error e => pure (.error e)

/-- Makes a directory and the missing ones above it.  The empty path is the working directory. -/
def createDirectories (path : String) : m (Except FileFailure Unit) := do
  if path = "" then pure (.ok ())
  else match ← findBase [] (Path.ancestors path) with
    | .error e => pure (.error e)
    | .ok missing => ensureEach missing

end Programs

end FileStore

end LiteserverFleet
