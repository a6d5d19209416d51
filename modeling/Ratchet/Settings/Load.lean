import Ratchet.Log.File
import Ratchet.Settings.Arguments
import Ratchet.Settings.Layers
import Ratchet.Settings.Reference
import Ratchet.Settings.VariableFile

namespace Ratchet

/-!
# Loading settings

Settings are put together from five sources, each over the next: the command
line, values given directly, documents, the file of variables and the
environment.  What they make together is read, the log file is opened, and
last the references in all texts are replaced.
-/

/-- What settings are loaded from. -/
structure Launch where
  host : Host
  disk : Disk
  /-- The command line, with the program's name first. -/
  arguments : List String := [Host.programName]
  given : Mapping := []
  /-- True if the command line may hold the check command. -/
  mayCheck : Bool := false

namespace Launch

/-- Why settings cannot be loaded. -/
inductive Failure where
  | documents (error : Include.Error)
  | commandLine (fault : Arguments.Fault)
  | namedValue (fault : Variables.Fault)
  /-- A name at the root of the settings is of a kind that has no small
  letters. -/
  | nameWithoutLetters (type : String)
  /-- A name at the root of the settings is not a text. -/
  | nameNotText
  | invalid (issues : List Issue)
  | reference (failure : Reference.Failure)
  | logFile (fault : LogFile.Fault)

/-- The commands that the command line may hold. -/
def commands (launch : Launch) : List (SettingName × Outline) :=
  if launch.mayCheck then [({ name := Outline.checkName }, Outline.overrides)] else []

/-- Every setting there may be. -/
def fields (launch : Launch) : List (SettingName × Outline) :=
  Outline.settings ++ launch.commands

/-- The name of the file of variables. -/
def variableFileName : String := ".env"

/-- The variables of the file of variables. -/
def fileVariables (launch : Launch) : Variables :=
  match launch.disk.read (Path.resolve launch.host.directory (.ofText variableFileName)) with
  | .ok text =>
    Variables.ofNames ((VariableFile.read launch.host.valueOf? text).map fun (name, value) =>
      (name, match value with
        | some s => .text s
        | none => .ready .null))
  | .error _ => []

/-- The variables of the environment. -/
def environmentVariables (launch : Launch) : Variables :=
  Variables.ofNames (launch.host.environment.map fun (name, value) => (name, .text value))

/-- True of the name of a setting in any case. -/
def isNameOf (setting : SettingName) (key : Scalar) : Bool :=
  match key with
  | .text s => Text.lower s == Text.lower setting.field
  | _ => false

/-- The entry of a setting, whose name may be written in any case.  Of several
spellings the usual one counts, and else the first. -/
def entryOf? (setting : SettingName) (entries : Mapping) : Option (Scalar × Value) :=
  let value := Mapping.field? setting.field entries <|>
    (entries.find? fun entry => isNameOf setting entry.1).map Prod.snd
  value.map fun v => (.text setting.field, v)

/-- Entries with those of the settings under their usual names. -/
def underUsualNames (fields : List (SettingName × Outline)) (entries : Mapping) :
    Except Failure Mapping :=
  let withoutLetters : Scalar → Bool
    | .text _ | .bytes _ => false
    | _ => true
  match entries.find? fun entry => withoutLetters entry.1 with
  | some (key, _) => .error (.nameWithoutLetters (Template.Subject.type (.value (.scalar key))))
  | none =>
    .ok ((fields.filterMap fun (setting, _) => entryOf? setting entries) ++
      entries.filter fun entry => !fields.any fun (setting, _) => isNameOf setting entry.1)

/-- What the documents of some names say about settings. -/
def documentsNamed (host : Host) (disk : Disk) (fields : List (SettingName × Outline))
    (names : List String) : Except Failure Mapping :=
  match Layers.read host disk names with
  | .ok entries => underUsualNames fields entries
  | .error error => .error (.documents error)

/-- What documents say. -/
def documents (launch : Launch) : Except Failure Mapping :=
  documentsNamed launch.host launch.disk launch.fields (Layers.fileNames [] launch.arguments)

/-- The variables of the command line. -/
def argumentVariables (launch : Launch) : Except Failure Variables :=
  match Arguments.read Outline.settings launch.commands (launch.arguments.drop 1) with
  | .ok options => .ok options
  | .error fault => .error (.commandLine fault)

/-- What variables say. -/
def readVariables (launch : Launch) (source : VariableSource) (found : Variables) :
    Except Failure Mapping :=
  match Variables.read source launch.fields found with
  | .ok entries => .ok entries
  | .error fault => .error (.namedValue fault)

/-- What several sources say together, the first one uppermost. -/
def together (sources : List Mapping) : Mapping :=
  sources.foldl (fun upper lower => Mapping.merge lower upper) []

/-- What all sources say together.  Documents are read before the command line
is. -/
def entries (launch : Launch) : Except Failure Mapping := do
  let given ← underUsualNames launch.fields launch.given
  let documents ← launch.documents
  let arguments ← launch.argumentVariables
  let uppermost ← launch.readVariables .arguments arguments
  let fromFile ← launch.readVariables .file launch.fileVariables
  let environment ← launch.readVariables .environment launch.environmentVariables
  return together [uppermost, given, documents, fromFile, environment]

/-- A configuration whose log file can be opened.  If its path is malformed
that is an issue of the configuration. -/
def opened (host : Host) (disk : Disk) (config : Config) :
    Except LogFile.Fault (Checked Config) :=
  if host.opensLogs then
    match LogFile.opened disk host.directory config.logger.file config.logRoot LogFile.runName with
    | .ok _ => .ok (.ok config)
    | .error fault =>
      if fault.isMalformed then .ok (.fail (.stated fault.message)) else .error fault
  else .ok (.ok config)

/-- The configuration that a value stands for, with its log file opened. -/
def readConfig (host : Host) (disk : Disk) (v : Value) :
    Except LogFile.Fault (Checked Config) :=
  match Config.read host v with
  | .ok config => opened host disk config
  | .bad issues => .ok (.bad issues)

/-- The settings that the entries of all sources stand for, as written. -/
def readSettings (launch : Launch) (entries : Mapping) : Except Failure (Checked Settings) :=
  if entries.any fun entry => !(entry.1 matches .text _) then .error .nameNotText
  else
    match readConfig launch.host launch.disk ((Mapping.field? "config" entries).getD (.map [])) with
    | .error fault => .error (.logFile fault)
    | .ok config =>
      .ok (Settings.mk <$> config.inside (.field "config") <*>
        Conversion.defaulted ["include"] none
          (Conversion.nullable (Conversion.list Conversion.text)) entries <*>
        (if launch.mayCheck then
          Conversion.defaulted [Outline.checkName] none (Conversion.nullable Override.read) entries
        else .ok none))

/-- Settings with the references in all texts replaced.  A text that is malformed
is an issue of the settings. -/
def substituted (launch : Launch) (settings : Settings) : Except Failure (Checked Settings) :=
  match Tree.expandAll launch.host (Tree.ofSettings launch.mayCheck settings) with
  | .ok tree => .ok (.ok (tree.toSettings?.getD settings))
  | .error failure =>
    if failure.isMalformed then .ok (.fail (.stated failure.message))
    else .error (.reference failure)

/-- The settings of a run. -/
def load (launch : Launch) : Except Failure Settings := do
  let entries ← launch.entries
  let written ← launch.readSettings entries
  match written with
  | .bad issues => throw (.invalid issues)
  | .ok settings =>
    match ← launch.substituted settings with
    | .ok settings => return settings
    | .bad issues => throw (.invalid issues)

end Launch

end Ratchet
