import Ratchet.Compiler.Match
import Ratchet.Compiler.Toggle

namespace Ratchet

/-!
# Outline of the settings

What kind of thing each setting is, seen from where everything is text: from
variables and from the command line.  There a list, a table or a section is
written as JSON, and all else as it stands.
-/

/-- The name of a setting in documents, and its own name if that is another
one. -/
structure SettingName where
  name : String
  field : String := name
  deriving DecidableEq

/-- What a list holds. -/
inductive ItemKind where
  | text
  | number
  deriving DecidableEq

/-- The kind of thing that a setting is. -/
inductive Outline where
  | plain
  | flag
  /-- One of several words, each with another spelling. -/
  | choice (spellings : List (String × String))
  /-- A list; one that is not needed may be left out. -/
  | items (needed : Bool) (kind : ItemKind)
  | table
  | section (needed : Bool) (fields : List (SettingName × Outline))

namespace Outline

/-- True of what is written as JSON. -/
def isCompound : Outline → Bool
  | .items .. | .table | .section .. => true
  | _ => false

/-- True of what cannot be left out, so that JSON must be right. -/
def isNeeded : Outline → Bool
  | .items needed _ => needed
  | .section needed _ => needed
  | _ => true

/-- A section that is always there. -/
def part (fields : List (SettingName × Outline)) : Outline := .section true fields

/-! ## The settings there are -/

def sinkFields : List (SettingName × Outline) :=
  [({ name := "enabled" }, .flag), ({ name := "level" }, .plain),
    ({ name := "escape_special_characters" }, .flag),
    ({ name := "format_template" }, .plain)]

def console : Outline :=
  part (sinkFields ++ [({ name := "verbose" }, .flag), ({ name := "colors" }, .plain)])

def logFile : Outline :=
  part (sinkFields ++ [({ name := "path" }, .plain)])

def logger : Outline :=
  part [({ name := "level" }, .plain), ({ name := "console" }, console),
    ({ name := "file" }, logFile)]

def git : Outline :=
  part [({ name := "workdir" }, .plain), ({ name := "target_branch" }, .plain),
    ({ name := "ignore_branches" }, .items true .text), ({ name := "timeout" }, .plain)]

def toggles : Outline :=
  part (Toggle.all.map fun toggle => ({ name := toggle.flag, field := toggle.field }, .flag))

/-- The ways of attribution, each under its name in capitals too. -/
def matchMode : Outline :=
  .choice (MatchMode.all.map fun mode => (mode.memberName, mode.name))

def compiler : Outline :=
  part [({ name := "command" }, .plain), ({ name := "options" }, toggles),
    ({ name := "diagnostic_exit_codes" }, .items true .number),
    ({ name := "timeout" }, .plain),
    ({ name := "match_mode" }, matchMode)]

def config : Outline :=
  part [({ name := "logger" }, logger), ({ name := "git" }, git),
    ({ name := "compiler" }, compiler),
    ({ name := "log-level", field := "log_level" }, .plain),
    ({ name := "log_root" }, .plain), ({ name := "commands" }, .table)]

/-- The settings of a run: the configuration and the included files. -/
def settings : List (SettingName × Outline) :=
  [({ name := "config" }, config), ({ name := "include" }, .items false .text)]

/-- What the check command sets. -/
def overrides : Outline :=
  .section false
    [({ name := "target-branch", field := "target_branch" }, .plain),
      ({ name := "ignore-branch", field := "ignore_branch" }, .items false .text),
      ({ name := "match-mode", field := "match_mode" }, matchMode)]

/-- The name of the check command among the settings. -/
def checkName : String := "check"

/-- The settings of a run that may be told to check. -/
def commandSettings : List (SettingName × Outline) :=
  settings ++ [({ name := checkName }, overrides)]

end Outline

end Ratchet
