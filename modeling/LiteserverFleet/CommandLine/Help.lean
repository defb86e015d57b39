/-!
# Help texts

A help text has a usage line, a description, and tables of names and their descriptions.  A table's descriptions
start in a column of their own, and are broken between words where a line would get too wide.
-/

set_option autoImplicit false

namespace LiteserverFleet.CommandLine

def descriptionColumn : Nat := 20

def tableWidth : Nat := 80

def padded (line : String) : String :=
  line ++ String.ofList (List.replicate (descriptionColumn - line.length) ' ')

/-- Puts words behind a line, on a new line of their own where they would be too wide. -/
def fillWords (line : String) : List String → List String
  | [] => [line]
  | word :: rest =>
      if tableWidth < line.length + word.length + 1 then
        line :: fillWords (padded "" ++ word) rest
      else fillWords (line ++ " " ++ word) rest

def row (name : String) (description : List String) : List String :=
  let line := "  " ++ name
  match description with
  | [] => [line]
  | first :: rest =>
      if line.length < descriptionColumn then fillWords (padded line ++ first) rest
      else line :: fillWords (padded "" ++ first) rest

def table (title : String) (rows : List (String × List String)) : List String :=
  title :: rows.flatMap fun entry => row entry.1 entry.2

def helpText (parts : List (List String)) : String :=
  "\n\n".intercalate (parts.map fun lines => "\n".intercalate lines) ++ "\n"

end LiteserverFleet.CommandLine
