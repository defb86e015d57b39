import LiteserverFleet.CommandLine.Help

/-!
# The grammar of arguments

A program has commands; a command has positional arguments, which are all required, and options with a value each.
Help may be asked for by name anywhere in front of a `--`, behind which every argument is positional.
-/

set_option autoImplicit false

namespace LiteserverFleet.CommandLine

abbrev Words := List String

/-- An option with a value. -/
structure OptionSpec where
  spellings : List String
  valueName : String
  description : Words

structure CommandSpec where
  name : String
  description : Words
  positionals : List (String × Words)
  options : List OptionSpec

structure ProgramSpec where
  name : String
  description : Words
  commands : List CommandSpec

inductive Refusal where
  | unrecognized (argument : String)
  | missingValue (option : String)
  | repeatedOption (option value : String)
  | argumentsAfterHelp
  | missingPositionals (names : List String)
  | missingCommand (names : List String)
deriving DecidableEq

def namesBelow (title : String) (names : List String) : String :=
  title ++ String.join (names.map fun name => "\n    " ++ name) ++ "\n"

def Refusal.message : Refusal → String
  | .unrecognized argument => "Unrecognized argument: " ++ argument ++ "\n"
  | .missingValue option => "No value provided for option '" ++ option ++ "'.\n"
  | .repeatedOption option value =>
      "Error parsing option '" ++ option ++ "' with value '" ++ value
        ++ "': duplicate values provided\n"
  | .argumentsAfterHelp => "Trailing arguments are not allowed after `help`."
  | .missingPositionals names => namesBelow "Required positional arguments not provided:" names
  | .missingCommand names => namesBelow "One of the following subcommands must be present:" names

def helpSpellings : List String := ["--help", "help"]

def helpRow : String × Words :=
  (", ".intercalate helpSpellings, ["display", "usage", "information"])

structure Scanned where
  help : Bool := false
  positionals : List String := []
  values : List (String × String) := []
deriving DecidableEq

namespace CommandSpec

/-- The first spelling of an option identifies it. -/
def identity (option : OptionSpec) : String :=
  option.spellings.headD ""

def option? (spec : CommandSpec) (spelling : String) : Option OptionSpec :=
  spec.options.find? fun option => option.spellings.contains spelling

/-- Goes through the arguments of a command; `ended` holds behind a `--`. -/
def scan (spec : CommandSpec) (ended : Bool) (found : Scanned) :
    List String → Except Refusal Scanned
  | [] => .ok found
  | argument :: rest =>
      if !ended && helpSpellings.contains argument then
        scan spec ended { found with help := true } rest
      else if !ended && argument.startsWith "-" then
        if argument = "--" then scan spec true found rest
        else if found.help then .error .argumentsAfterHelp
        else match spec.option? argument with
          | none => .error (.unrecognized argument)
          | some option =>
              match rest with
              | [] => .error (.missingValue argument)
              | value :: rest =>
                  if (found.values.lookup (identity option)).isSome then
                    .error (.repeatedOption argument value)
                  else
                    scan spec ended
                      { found with values := found.values ++ [(identity option, value)] } rest
      else if found.positionals.length < spec.positionals.length then
        scan spec ended { found with positionals := found.positionals ++ [argument] } rest
      else .error (.unrecognized argument)

def usage (program : ProgramSpec) (spec : CommandSpec) : String :=
  " ".intercalate (["Usage:", program.name, spec.name]
    ++ spec.options.map (fun option =>
      "[" ++ identity option ++ " <" ++ option.valueName ++ ">]")
    ++ ["[--]"] ++ spec.positionals.map fun positional => "<" ++ positional.1 ++ ">")

def help (program : ProgramSpec) (spec : CommandSpec) : String :=
  helpText [
    [usage program spec],
    [" ".intercalate spec.description],
    table "Positional Arguments:" spec.positionals,
    table "Options:" (spec.options.map (fun option =>
      (", ".intercalate option.spellings, option.description)) ++ [helpRow])]

end CommandSpec

inductive Request where
  | help (text : String)
  | command (name : String) (positionals : List String) (values : List (String × String))
deriving DecidableEq

namespace ProgramSpec

def help (spec : ProgramSpec) : String :=
  helpText [
    ["Usage: " ++ spec.name ++ " <command> [<args>]"],
    [" ".intercalate spec.description],
    table "Options:" [helpRow],
    table "Commands:" (spec.commands.map fun command => (command.name, command.description))]

def requestOf (spec : ProgramSpec) (command : CommandSpec) (arguments : List String) :
    Except Refusal Request := do
  let found ← command.scan false {} arguments
  if found.help then pure (.help (command.help spec))
  else
    let missing := command.positionals.drop found.positionals.length
    if missing.isEmpty then pure (.command command.name found.positionals found.values)
    else .error (.missingPositionals (missing.map (·.1)))

/-- Goes through arguments up to the name of a command, which takes all that follow.  Help that is asked for in
front of a command is the help of the command. -/
def scan (spec : ProgramSpec) (ended help : Bool) : List String → Except Refusal Request
  | [] =>
      if help then .ok (.help spec.help)
      else .error (.missingCommand ("help" :: spec.commands.map (·.name)))
  | argument :: rest =>
      if !ended && helpSpellings.contains argument then scan spec ended true rest
      else if !ended && argument.startsWith "-" then
        if argument = "--" then scan spec true help rest
        else if help then .error .argumentsAfterHelp
        else .error (.unrecognized argument)
      else match spec.commands.find? fun command => command.name = argument with
        | some command => requestOf spec command (if help then "help" :: rest else rest)
        | none => .error (.unrecognized argument)

def parse (spec : ProgramSpec) (arguments : List String) : Except Refusal Request :=
  spec.scan false false arguments

end ProgramSpec

end LiteserverFleet.CommandLine
