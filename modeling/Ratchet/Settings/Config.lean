import Ratchet.Change.Git
import Ratchet.Check.Document
import Ratchet.Compiler.Invocation
import Ratchet.Log.Level
import Ratchet.Settings.Place

namespace Ratchet

/-!
# Configuration

The sections of the configuration and how they are read from documents.  The
log level applies to the logger section unless that sets its own, and the
logger's level to each sink unless the sink sets its own.
-/

open Conversion

namespace Config

/-- What every sink of the log has. -/
structure Sink where
  enabled : Bool
  /-- The least level that is written; the logger's if not set. -/
  level : Option String := none
  /-- Write messages in visible ASCII characters. -/
  escaped : Bool := false
  /-- The form of a line; without one the record itself is written. -/
  template : Option String := none
  deriving DecidableEq

/-- Output to the terminal. -/
structure Console where
  sink : Sink := { enabled := true }
  verbose : Bool := false
  colors : String := "auto"
  deriving DecidableEq

/-- The usual form of a line in a log file. -/
def usualLine : String :=
  "\x7btimestamp:%Y-%m-%d %H:%M:%S\x7d \x7blevel:<5\x7d \x7bmessage\x7d"

/-- The usual path of a log file. -/
def usualPath : String :=
  "\x7blog_root\x7d/\x7brun_name\x7d/strictify.log"

/-- Output to a file. -/
structure LogFile where
  sink : Sink := { enabled := false, template := some usualLine }
  path : String := usualPath
  deriving DecidableEq

/-- The log: one sink of each kind. -/
structure Logger where
  level : String := "info"
  console : Console := {}
  file : LogFile := {}
  deriving DecidableEq

/-- Which repository and which branches. -/
structure Git where
  directory : Path := .ofText "."
  targetBranch : String := "master"
  ignoreBranches : List String := []
  timeout : Option Int := none

/-- How the compiler is run and its output attributed. -/
structure CompilerSection where
  command : String := "tsc"
  options : Strictness := .full
  codes : List Int := Compiler.usualCodes
  timeout : Option Int := none
  matchMode : MatchMode := .substring

end Config

/-- The whole configuration. -/
structure Config where
  logger : Config.Logger
  git : Config.Git
  compiler : Config.CompilerSection
  logLevel : String
  logRoot : Path
  commands : List (String × List (String × String))

namespace Config

/-- The level of a sink, or the logger's if it has none. -/
def Sink.inherit (sink : Sink) (level : String) : Sink :=
  { sink with level := some (sink.level.getD level) }

/-- A logger whose sinks all have a level. -/
def Logger.settled (l : Logger) : Logger :=
  { l with
    console := { l.console with sink := l.console.sink.inherit l.level }
    file := { l.file with sink := l.file.sink.inherit l.level } }

/-- The fields that sinks share, over their usual values. -/
def readSink (usual : Sink) (entries : Mapping) : Checked Sink :=
  Sink.mk <$> defaulted ["enabled"] usual.enabled boolean entries <*>
    defaulted ["level"] usual.level (nullable Conversion.text) entries <*>
    defaulted ["escape_special_characters"] usual.escaped boolean entries <*>
    defaulted ["format_template"] usual.template (nullable Conversion.text) entries

/-- A sink of no particular kind. -/
def readPlainSink : Value → Checked Sink :=
  record "Sink" (readSink { enabled := true })

def readConsole : Value → Checked Console :=
  record "ConsoleSink" fun entries =>
    Console.mk <$> readSink (Console.sink {}) entries <*>
      defaulted ["verbose"] false boolean entries <*>
      defaulted ["colors"] "auto" Conversion.text entries

def readLogFile : Value → Checked LogFile :=
  record "FileSink" fun entries =>
    LogFile.mk <$> readSink (LogFile.sink {}) entries <*>
      defaulted ["path"] usualPath Conversion.text entries

def readLogger : Value → Checked Logger :=
  record "Logger" fun entries =>
    (fun level console file => Logger.settled ⟨level, console, file⟩) <$>
      defaulted ["level"] "info" Conversion.text entries <*>
      defaulted ["console"] {} readConsole entries <*>
      defaulted ["file"] {} readLogFile entries

def readGit : Value → Checked Git :=
  record "GitConfig" fun entries =>
    Git.mk <$> defaulted ["workdir"] (.ofText ".") Conversion.path entries <*>
      defaulted ["target_branch"] "master" Conversion.text entries <*>
      defaulted ["ignore_branches"] [] (list Conversion.text) entries <*>
      defaulted ["timeout"] none (nullable integer) entries

def readCompiler : Value → Checked CompilerSection :=
  record "CompilerConfig" fun entries =>
    CompilerSection.mk <$> defaulted ["command"] "tsc" Conversion.text entries <*>
      defaulted ["options"] .full Strictness.read entries <*>
      defaulted ["diagnostic_exit_codes"] Compiler.usualCodes (list integer) entries <*>
      defaulted ["timeout"] none (nullable integer) entries <*>
      defaulted ["match_mode"] .substring Conversion.matchMode entries

/-- The two names of the log level. -/
def levelNames : List String := ["log-level", "log_level"]

/-- The level set by the first of the two names that is there, null and the
empty ones counting as none. -/
def statedLevel? (entries : Mapping) : Option Value :=
  match lookup? levelNames entries with
  | some (_, level) => if level.isEmpty then none else some level
  | none => none

/-- The entries of a configuration with the log level handed to a logger
section that sets no level of its own. -/
def withLoggerLevel (entries : Mapping) : Mapping :=
  match statedLevel? entries, Mapping.field? "logger" entries with
  | some level, some (.map logger) =>
    if (Mapping.field? "level" logger).isSome then entries
    else Mapping.put (.text "logger") (.map (Mapping.put (.text "level") level logger)) entries
  | _, _ => entries

/-- The usual directory of log files. -/
def usualLogRoot (host : Host) : Path :=
  (host.place .userState none).join (.ofText Host.programName)

/-- The configuration of which nothing is set. -/
def usual (host : Host) : Config where
  logger := Logger.settled {}
  git := {}
  compiler := {}
  logLevel := "info"
  logRoot := usualLogRoot host
  commands := []

/-- The fields of a configuration. -/
def readFields (host : Host) (entries : Mapping) : Checked Config :=
  (fun logger git compiler level root commands =>
      ⟨logger.getD (Logger.settled { level }), git, compiler, level, root, commands⟩) <$>
    defaulted ["logger"] none (fun v => some <$> readLogger v) entries <*>
    defaulted ["git"] {} readGit entries <*>
    defaulted ["compiler"] {} readCompiler entries <*>
    defaulted levelNames "info" Conversion.text entries <*>
    defaulted ["log_root"] (usualLogRoot host) Conversion.path entries <*>
    defaulted ["commands"] [] (dictionary (dictionary Conversion.text)) entries

/-- A configuration from a document. -/
def read (host : Host) : Value → Checked Config :=
  record "Config" fun entries => readFields host (withLoggerLevel entries)

/-- The logger that a configuration installs: another one over the sinks of its
logger, at the log level. -/
def installed (config : Config) : Logger :=
  Logger.settled
    { level := config.logLevel, console := config.logger.console, file := config.logger.file }

/-- The version control that a configuration describes. -/
def gitSetup (config : Config) : Ratchet.Git.Setup where
  directory := config.git.directory
  templates := (config.commands.lookup "git").getD []
  timeout := config.git.timeout

/-- The compiler that a configuration describes. -/
def compilerSetup (config : Config) : Compiler.Setup where
  directory := config.git.directory
  command := config.compiler.command
  codes := config.compiler.codes
  timeout := config.compiler.timeout

end Config

end Ratchet
