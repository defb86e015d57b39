import LiteserverFleet.Text.Utf8

/-!
# Paths

A path is a text whose names are separated by slashes.  Names that are empty stand for nothing, except that a slash
at the end asks for a directory.
-/

set_option autoImplicit false

namespace LiteserverFleet.Path

def cut : List Char → List (List Char)
  | [] => [[]]
  | c :: cs =>
      if c = '/' then [] :: cut cs
      else match cut cs with
        | [] => [[c]]
        | name :: names => (c :: name) :: names

def segments (path : String) : List String :=
  (cut path.toList).map String.ofList

def names (path : String) : List String :=
  (segments path).filter (· ≠ "")

def isAbsolute (path : String) : Bool :=
  path.toList.head? = some '/'

def endsWithSlash (path : String) : Bool :=
  path.toList.getLast? = some '/'

/-- The names through which a path leads; a slash at the end leads to the directory itself once more. -/
def steps (path : String) : List String :=
  if endsWithSlash path then names path ++ ["."] else names path

/-- The path of a name below a directory.  Below the empty path it is the name alone, and a slash at the end of the
directory is not doubled. -/
def join (directory name : String) : String :=
  if directory = "" then name
  else if endsWithSlash directory then directory ++ name
  else directory ++ "/" ++ name

/-- The names of a path without those that stand for the directory in front of them. -/
def plainNames (path : String) : List String :=
  match names path with
  | [] => []
  | first :: rest =>
      (if isAbsolute path && first = "." then [] else [first]) ++ rest.filter (· ≠ ".")

/-- The path itself and the paths of the directories above it, innermost first, down to its first name. -/
def ancestors (path : String) : List String :=
  let plain := plainNames path
  let start := if isAbsolute path then "/" else ""
  path :: ((List.range plain.length).drop 1).reverse.map fun k =>
    start ++ "/".intercalate (plain.take k)

def longestName : Nat := 255

def longestPath : Nat := 4095

def isTooLong (name : String) : Bool :=
  longestName < name.utf8ByteSize

example : names "a//b/./c/" = ["a", "b", ".", "c"] := by decide +kernel

example : ancestors "a/./b/c" = ["a/./b/c", "a/b", "a"] := by decide +kernel

example : ancestors "/./a//b" = ["/./a//b", "/a"] := by decide +kernel

example : join "out/" "x" = "out/x" ∧ join "" "x" = "x" ∧ join "." "x" = "./x" := by decide +kernel

end LiteserverFleet.Path
