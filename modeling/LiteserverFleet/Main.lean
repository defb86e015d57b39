import LiteserverFleet.CommandLine.Program

/-!
# The executable

Runs the program on the files of the machine.  What the program does is decided elsewhere; here its output is
written, and notices that matter to users go to the error stream.
-/

set_option autoImplicit false

namespace LiteserverFleet

def FileFailure.ofSystem (code : UInt32) (detail : String) : FileFailure :=
  .other (detail ++ " (os error " ++ toString code ++ ")")

def FileFailure.ofError : IO.Error → FileFailure
  | .noFileOrDirectory _ _ _ => .notFound
  | .noSuchThing _ _ _ => .notFound
  | .alreadyExists _ _ _ => .alreadyExists
  | .inappropriateType _ code detail =>
      if code = 20 then .notDirectory
      else if code = 21 then .isDirectory
      else .ofSystem code detail
  | .invalidArgument _ code detail =>
      if code = 22 then .invalidArgument
      else if code = 36 then .nameTooLong
      else .ofSystem code detail
  | .unsatisfiedConstraints code detail =>
      if code = 39 then .directoryNotEmpty else .ofSystem code detail
  | .permissionDenied _ code detail => .ofSystem code detail
  | error => .other error.toString

def attempt {α : Type} (operation : IO α) : IO (Except FileFailure α) := do
  match ← operation.toBaseIO with
  | .ok a => pure (.ok a)
  | .error e => pure (.error (FileFailure.ofError e))

instance : FileStore IO where
  readFile path := attempt (IO.FS.readBinFile path)
  writeFile path content := attempt (IO.FS.writeBinFile path content)
  makeDirectory path := attempt (IO.FS.createDir path)
  removeDirectories path := attempt (IO.FS.removeDirAll path)
  pathExists path := do
    match ← attempt (IO.FS.realPath path) with
    | .ok _ => pure (.ok true)
    | .error .notFound => pure (.ok false)
    | .error e => pure (.error e)
  isDirectory path := do
    match ← attempt (IO.FS.realPath (path ++ "/.")) with
    | .ok _ => pure true
    | .error _ => pure false

end LiteserverFleet

open LiteserverFleet in
def main (arguments : List String) : IO UInt32 := do
  let outcome ← CommandLine.run arguments
  for notice in outcome.notices do
    if notice.level ≠ .debug then IO.eprintln notice.line
  IO.print outcome.output
  IO.eprint outcome.errors
  pure outcome.exitCode.toUInt32
