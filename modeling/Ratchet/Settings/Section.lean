import Ratchet.Settings.Tree

namespace Ratchet

/-!
# Sections

What is known of a section besides its fields: what it is for, where it belongs,
what it holds if nothing is set, and how its fields may be given.
-/

namespace Section

/-- What a section is for. -/
def description? (name : String) : Option String :=
  let lines (items : List String) : Option String := some (Text.join "\n" items)
  match name with
  | "GitConfig" => some "Repository and branch selection."
  | "CompilerConfig" => some "Strict compiler invocation and diagnostic attribution."
  | "Config" => some "Configuration loaded from YAML/env/CLI."
  | "ConsoleSink" => some "stderr output, rendered by logfire itself."
  | "FileSink" => some "Appends formatted lines to a log file."
  | "Logger" => some "Configured logger: one console sink and one file sink."
  | "State" => some "Complete application state as loaded from all sources."
  | "StrictnessOptions" => lines
    ["Compiler toggles that make up the enforced rule set.",
      "",
      "    Field names are snake_case in Python and camelCase (the tsc flag",
      "    name) in YAML, on the CLI and when serialized.",
      "    "]
  | "CheckCommand" => lines
    ["Compile the project with strict settings and fail if any file",
      "    changed on this branch has diagnostics.",
      "",
      "    Files changed on --ignore-branch branches are left out, as are",
      "    files nobody touched.",
      "    "]
  | "CliState" => lines
    ["Ratchet stricter TypeScript compiler settings onto the files",
      "    changed on the current branch.",
      "",
      "    The whole project is compiled with the strict options, but only",
      "    diagnostics in files changed since the branch forked from the",
      "    target branch fail the run.",
      "",
      "    Configuration sources (in priority order):",
      "    1. Command-line arguments (--config.git.target_branch value)",
      "    2. strictify.yaml in the current directory, --include files",
      "    3. .env file",
      "    4. Environment variables",
      "       (STRICTIFY_CONFIG__GIT__TARGET_BRANCH=value)",
      "    "]
  | _ => none

/-- The part of the program that sections of a name belong to. -/
def home? (name : String) : Option String :=
  match name with
  | "GitConfig" | "CompilerConfig" | "Config" | "State" => some "strictify.core.config"
  | "ConsoleSink" | "FileSink" | "Logger" => some "strictify.core.log"
  | "StrictnessOptions" => some "strictify.compiler.tsc"
  | "CheckCommand" => some "strictify.command.check"
  | "CliState" => some "strictify.cli"
  | _ => none

/-- A section of which nothing is set.  Its sinks have no level yet, and a
configuration has no logger. -/
def usual? (host : Host) (name : String) : Option Tree :=
  let config := Tree.ofConfig (Config.usual host)
  match name with
  | "GitConfig" => some (Tree.ofGit {})
  | "CompilerConfig" => some (Tree.ofCompiler {})
  | "StrictnessOptions" => some (Tree.ofStrictness .full)
  | "ConsoleSink" => some (Tree.ofConsole {})
  | "FileSink" => some (Tree.ofFile {})
  | "Logger" => some (Tree.ofLogger {})
  | "CheckCommand" => some (Tree.ofOverride {})
  | "Config" =>
    match config with
    | .section name fields =>
      some (.section name (fields.map fun (key, t) => (key, if key = "logger" then .none else t)))
    | other => some other
  | "State" | "CliState" => some (.section name [("config", config), ("include", .none)])
  | _ => none

/-- How the fields of a section may be given. -/
def manner? (name : String) : Option (List (String × Tree)) :=
  match name with
  | "Config" =>
    some (["populate_by_name", "validate_by_alias", "validate_by_name"].map fun key =>
      (key, .flag true))
  | "StrictnessOptions" | "State" | "CliState" => none
  | _ => some []

end Section

end Ratchet
