import LiteserverFleet.CommandLine.Commands
import LiteserverFleet.CommandLine.Grammar

/-!
# The program

The program lists the liteservers of a network config or splits the config into files.  Arguments that cannot be
understood are reported with a hint, and a failure with its causes.
-/

set_option autoImplicit false

namespace LiteserverFleet.CommandLine

/-- What a run of the program leaves besides files. -/
structure Outcome where
  exitCode : Nat := 0
  output : String := ""
  errors : String := ""
  notices : List Notice := []

def configPositional : String × Words :=
  ("global_config", ["path", "to", "the", "global", "config"])

def listCommand : CommandSpec where
  name := "list"
  description := ["Arguments", "for", "listing", "liteservers.", "Output", "is", "one", "line", "per",
    "liteserver,", "`<index>", "<ip>:<port>", "<key>`,", "where", "the", "index", "is", "the", "worker",
    "index", "the", "multiclient", "assigns", "to", "that", "liteserver.", "list", "the",
    "liteservers", "in", "a", "global", "config"]
  positionals := [configPositional]
  options := []

def directoryOption : OptionSpec where
  spellings := ["-o", "--out-dir"]
  valueName := "out-dir"
  description := ["directory", "to", "write", "ls_<index>.json", "files", "into", "Created", "if", "it",
    "does", "not", "exist."]

def splitCommand : CommandSpec where
  name := "split"
  description := ["Arguments", "for", "splitting", "a", "global", "config.", "#", "Example", "```bash",
    "multiclient", "split", "global.config.json", "-o", "./split", "```", "write", "one",
    "single-liteserver", "config", "per", "liteserver"]
  positionals := [configPositional]
  options := [directoryOption]

def program : ProgramSpec where
  name := "multiclient"
  description := ["Multiclient", "-", "liteserver", "global", "config", "tools"]
  commands := [listCommand, splitCommand]

def defaultDirectory : String := "."

def hint : String :=
  "\nRun " ++ program.name ++ " --help for more information.\n"

def failed (failure : CommandFailure) (notices : List Notice) : Outcome where
  exitCode := 1
  errors := failure.report
  notices := notices

section Store

variable {m : Type → Type} [Monad m] [FileStore m]

def runList (path : String) : m Outcome := do
  match ← loadConfig path with
  | .error failure => pure (failed failure [])
  | .ok config => match listConfig config with
    | .error failure => pure (failed failure [])
    | .ok lines => pure { output := String.join (lines.map (· ++ "\n")) }

def runSplit (path directory : String) : m Outcome := do
  match ← loadConfig path with
  | .error failure => pure (failed failure [])
  | .ok config =>
      let begun := Notice.splitting config.entries.length directory
      match ← Split.write config directory with
      | (.error failure, notices) => pure (failed failure (begun :: notices))
      | (.ok paths, notices) =>
          pure { output := toString paths.length ++ "\n", notices := begun :: notices }

def run (arguments : List String) : m Outcome :=
  match program.parse arguments with
  | .error refusal => pure { exitCode := 1, errors := refusal.message ++ hint }
  | .ok (.help text) => pure { output := text ++ "\n" }
  | .ok (.command name positionals values) =>
      let path := positionals.headD ""
      if name = splitCommand.name then
        runSplit path ((values.lookup (CommandSpec.identity directoryOption)).getD defaultDirectory)
      else runList path

end Store

end LiteserverFleet.CommandLine
