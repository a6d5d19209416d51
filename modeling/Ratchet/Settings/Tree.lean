import Ratchet.Settings.Override

namespace Ratchet

/-!
# Settings as a tree

All settings seen as one tree of named sections, so that a part can be named
by a dotted path and every text can be visited, whatever section it belongs
to.  Section and field names are those that documents use, without hyphens.
-/

/-- A part of the settings. -/
inductive Tree where
  | none
  | flag (b : Bool)
  | number (n : Int)
  | text (s : String)
  | path (p : Path)
  | mode (m : MatchMode)
  | list (items : List Tree)
  | table (entries : List (String × Tree))
  | section (name : String) (fields : List (String × Tree))
  deriving Inhabited

/-- All settings: the configuration, the files named for inclusion, and what
the check command sets if there is one. -/
structure Settings where
  config : Config
  includes : Option (List String) := .none
  check : Option Override := .none

namespace Tree

def ofOption {α : Type} (f : α → Tree) : Option α → Tree
  | some a => f a
  | .none => .none

def texts (items : List String) : Tree := .list (items.map .text)

/-! ## From settings to trees -/

def ofSinkFields (s : Config.Sink) : List (String × Tree) :=
  [("enabled", .flag s.enabled), ("level", ofOption .text s.level),
    ("escape_special_characters", .flag s.escaped),
    ("format_template", ofOption .text s.template)]

def ofConsole (c : Config.Console) : Tree :=
  .section "ConsoleSink"
    (ofSinkFields c.sink ++ [("verbose", .flag c.verbose), ("colors", .text c.colors)])

def ofFile (f : Config.LogFile) : Tree :=
  .section "FileSink" (ofSinkFields f.sink ++ [("path", .text f.path)])

def ofLogger (l : Config.Logger) : Tree :=
  .section "Logger"
    [("level", .text l.level), ("console", ofConsole l.console), ("file", ofFile l.file)]

def ofGit (g : Config.Git) : Tree :=
  .section "GitConfig"
    [("workdir", .path g.directory), ("target_branch", .text g.targetBranch),
      ("ignore_branches", texts g.ignoreBranches), ("timeout", ofOption .number g.timeout)]

def ofStrictness (s : Strictness) : Tree :=
  .section "StrictnessOptions"
    (Toggle.all.map fun toggle => (toggle.field, .flag (s.enabled toggle)))

def ofCompiler (c : Config.CompilerSection) : Tree :=
  .section "CompilerConfig"
    [("command", .text c.command), ("options", ofStrictness c.options),
      ("diagnostic_exit_codes", .list (c.codes.map .number)),
      ("timeout", ofOption .number c.timeout), ("match_mode", .mode c.matchMode)]

def ofConfig (c : Config) : Tree :=
  .section "Config"
    [("logger", ofLogger c.logger), ("git", ofGit c.git), ("compiler", ofCompiler c.compiler),
      ("log_level", .text c.logLevel), ("log_root", .path c.logRoot),
      ("commands", .table (c.commands.map fun (name, templates) =>
        (name, .table (templates.map fun (key, template) => (key, .text template)))))]

def ofOverride (o : Override) : Tree :=
  .section "CheckCommand"
    [("target_branch", ofOption .text o.targetBranch),
      ("ignore_branch", ofOption texts o.ignoreBranch),
      ("match_mode", ofOption .mode o.matchMode)]

/-- All settings.  Only a run that may be told to check has a part for that. -/
def ofSettings (mayCheck : Bool) (s : Settings) : Tree :=
  .section (if mayCheck then "CliState" else "State")
    ([("config", ofConfig s.config), ("include", ofOption texts s.includes)] ++
      if mayCheck then [("check", ofOption ofOverride s.check)] else [])

/-! ## From trees to settings -/

/-- The field of a section. -/
def field? (name : String) : Tree → Option Tree
  | .section _ fields => fields.lookup name
  | _ => .none

def toText? : Tree → Option String
  | .text s => some s
  | _ => .none

def toPath? : Tree → Option Path
  | .path p => some p
  | _ => .none

def toFlag? : Tree → Option Bool
  | .flag b => some b
  | _ => .none

def toNumber? : Tree → Option Int
  | .number n => some n
  | _ => .none

def toMode? : Tree → Option MatchMode
  | .mode m => some m
  | _ => .none

def toOption? {α : Type} (f : Tree → Option α) : Tree → Option (Option α)
  | .none => some .none
  | t => (f t).map some

def toList? {α : Type} (f : Tree → Option α) : Tree → Option (List α)
  | .list items => items.mapM f
  | _ => .none

def toTable? {α : Type} (f : Tree → Option α) : Tree → Option (List (String × α))
  | .table entries => entries.mapM fun (name, t) => (f t).map fun a => (name, a)
  | _ => .none

def toSink? (t : Tree) : Option Config.Sink := do
  pure
    { enabled := ← (← t.field? "enabled").toFlag?
      level := ← (← t.field? "level").toOption? toText?
      escaped := ← (← t.field? "escape_special_characters").toFlag?
      template := ← (← t.field? "format_template").toOption? toText? }

def toConsole? (t : Tree) : Option Config.Console := do
  pure
    { sink := ← t.toSink?
      verbose := ← (← t.field? "verbose").toFlag?
      colors := ← (← t.field? "colors").toText? }

def toFile? (t : Tree) : Option Config.LogFile := do
  pure { sink := ← t.toSink?, path := ← (← t.field? "path").toText? }

def toLogger? (t : Tree) : Option Config.Logger := do
  pure
    { level := ← (← t.field? "level").toText?
      console := ← (← t.field? "console").toConsole?
      file := ← (← t.field? "file").toFile? }

def toGit? (t : Tree) : Option Config.Git := do
  pure
    { directory := ← (← t.field? "workdir").toPath?
      targetBranch := ← (← t.field? "target_branch").toText?
      ignoreBranches := ← (← t.field? "ignore_branches").toList? toText?
      timeout := ← (← t.field? "timeout").toOption? toNumber? }

def toStrictness? (t : Tree) : Option Strictness := do
  let values ← Toggle.all.mapM fun toggle => do
    pure (toggle, ← (← t.field? toggle.field).toFlag?)
  pure ⟨fun toggle => (values.lookup toggle).getD true⟩

def toCompiler? (t : Tree) : Option Config.CompilerSection := do
  pure
    { command := ← (← t.field? "command").toText?
      options := ← (← t.field? "options").toStrictness?
      codes := ← (← t.field? "diagnostic_exit_codes").toList? toNumber?
      timeout := ← (← t.field? "timeout").toOption? toNumber?
      matchMode := ← (← t.field? "match_mode").toMode? }

def toConfig? (t : Tree) : Option Config := do
  pure
    { logger := ← (← t.field? "logger").toLogger?
      git := ← (← t.field? "git").toGit?
      compiler := ← (← t.field? "compiler").toCompiler?
      logLevel := ← (← t.field? "log_level").toText?
      logRoot := ← (← t.field? "log_root").toPath?
      commands := ← (← t.field? "commands").toTable? (toTable? toText?) }

def toOverride? (t : Tree) : Option Override := do
  pure
    { targetBranch := ← (← t.field? "target_branch").toOption? toText?
      ignoreBranch := ← (← t.field? "ignore_branch").toOption? (toList? toText?)
      matchMode := ← (← t.field? "match_mode").toOption? toMode? }

def toSettings? (t : Tree) : Option Settings := do
  pure
    { config := ← (← t.field? "config").toConfig?
      includes := ← (← t.field? "include").toOption? (toList? toText?)
      check := ← ((t.field? "check").getD .none).toOption? toOverride? }

/-! ## Written forms -/

mutual

/-- The shown form of a part inside another one. -/
def shown : Tree → String
  | .none => "None"
  | .flag b => if b then "True" else "False"
  | .number n => toString n
  | .text s => Text.quoted s
  | .path p => p.shown
  | .mode m => s!"<MatchMode.{m.memberName}: '{m.name}'>"
  | .list items => "[" ++ shownItems items ++ "]"
  | .table entries => "\x7b" ++ shownEntries entries ++ "\x7d"
  | .section name fields => name ++ "(" ++ shownFields ", " fields ++ ")"

def shownItems : List Tree → String
  | [] => ""
  | [item] => shown item
  | item :: rest => shown item ++ ", " ++ shownItems rest

def shownEntries : List (String × Tree) → String
  | [] => ""
  | [(key, item)] => Text.quoted key ++ ": " ++ shown item
  | (key, item) :: rest => Text.quoted key ++ ": " ++ shown item ++ ", " ++ shownEntries rest

def shownFields (separator : String) : List (String × Tree) → String
  | [] => ""
  | [(key, item)] => key ++ "=" ++ shown item
  | (key, item) :: rest =>
    key ++ "=" ++ shown item ++ separator ++ shownFields separator rest

end

/-- The form of a part inside a text. -/
def inText : Tree → String
  | .text s => s
  | .path p => p.text
  | .mode m => s!"MatchMode.{m.memberName}"
  | .section _ fields => shownFields " " fields
  | other => shown other

end Tree

end Ratchet
