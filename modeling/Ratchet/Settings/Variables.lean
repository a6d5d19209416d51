import Ratchet.Settings.Outline
import Ratchet.Text.Case
import Ratchet.Value.Json
import Ratchet.Value.Merge

namespace Ratchet

/-!
# Settings from variables

A variable sets the setting that its name spells out: the names of the
sections and of the setting, one after the other with a separator between
them.  Case does not count in names.  A variable that names a whole section,
list or table holds JSON.

Variables come from the environment, from a file of variables, and from the
command line, whose options are read as variables of their dotted names.
-/

/-- Where variables come from. -/
inductive VariableSource where
  | environment
  | file
  | arguments
  deriving DecidableEq

namespace VariableSource

/-- The name of a source in complaints. -/
def title : VariableSource → String
  | .environment => "EnvSettingsSource"
  | .file => "DotEnvSettingsSource"
  | .arguments => "CliSettingsSource"

/-- What the names of all variables start with. -/
def start : VariableSource → String
  | .arguments => ""
  | _ => "strictify_"

/-- What stands between the names of a section and of what is in it. -/
def separator : VariableSource → String
  | .arguments => "."
  | _ => "__"

/-- True where a word may be written in its other spelling. -/
def takesSpellings : VariableSource → Bool
  | .arguments => true
  | _ => false

end VariableSource

/-- What a variable holds. -/
inductive VariableContent where
  | text (s : String)
  /-- A value that needs no reading. -/
  | ready (v : Value)
  /-- The word that stands for no value. -/
  | nothing

/-- Variables by their names in small letters, in order. -/
abbrev Variables := List (String × VariableContent)

namespace Variables

/-- A variable whose JSON cannot be read: the setting and the source. -/
structure Fault where
  setting : String
  source : VariableSource
  deriving DecidableEq

def Fault.message (fault : Fault) : String :=
  s!"error parsing value for field \"{fault.setting}\" from source \"{fault.source.title}\""

/-- The variables of some names in any case.  Of two with one name the later
one counts, in the place of the earlier one. -/
def ofNames (named : List (String × VariableContent)) : Variables :=
  named.foldl (fun built (name, content) =>
    let key := Text.lower name
    if built.any fun known => known.1 == key then
      built.map fun known => if known.1 == key then (key, content) else known
    else built ++ [(key, content)]) []

/-- True when a name in small letters is a setting's. -/
def isNamed (source : VariableSource) (setting : SettingName) (key : String) : Bool :=
  Text.lower setting.field == Text.lower key ||
    Text.lower (if setting.name == setting.field then source.start ++ setting.field
      else setting.name) == Text.lower key

/-- What lies under a name in a section. -/
def under? (source : VariableSource) (outline : Outline) (key : String) : Option Outline :=
  match outline with
  | .section _ fields => (fields.find? fun field => isNamed source field.1 key).map Prod.snd
  | _ => none

/-- What lies at the end of several names. -/
def at? (source : VariableSource) (outline : Outline) (keys : List String) : Option Outline :=
  keys.foldlM (under? source) outline

/-- The value of a variable for what its name leads to, if it can be read. -/
def valueOf? (source : VariableSource) (found : Option Outline) (content : VariableContent) :
    Option Value :=
  match content with
  | .ready v => some v
  | .nothing => some .null
  | .text s =>
    match found with
    | some (.choice spellings) =>
      some (.text (if source.takesSpellings then (spellings.lookup s).getD s else s))
    | some outline =>
      if outline.isCompound && s != "" then
        match Json.read? s with
        | some v => some v
        | none => if outline.isNeeded then none else some (.text s)
      else some (.text s)
    | none => some (.text s)

/-- True of a variable that sets no value where there is one. -/
def isWeak (found : Option Outline) (content : VariableContent) : Bool :=
  match content with
  | .nothing => !(found.map Outline.isCompound).getD false
  | _ => false

/-- Sets the value at the end of several names, making the sections on the way.
What lies inside a value that is no section is not set. -/
def put (value : Value) (weak : Bool) : List String → Mapping → Mapping
  | [], entries => entries
  | [key], entries =>
    match Mapping.field? key entries with
    | some (.map []) | none => Mapping.put (.text key) value entries
    | some _ => if weak then entries else Mapping.put (.text key) value entries
  | key :: rest, entries =>
    match Mapping.field? key entries with
    | none => Mapping.put (.text key) (.map (put value weak rest [])) entries
    | some (.map inner) => Mapping.put (.text key) (.map (put value weak rest inner)) entries
    | some _ => entries

/-- What the variables set inside one setting. -/
def inside? (source : VariableSource) (setting : SettingName) (outline : Outline)
    (found : Variables) : Option Mapping :=
  let start := Text.lower (source.start ++ setting.field) ++ source.separator
  found.foldlM (fun built (name, content) =>
    match Text.dropStart? name start with
    | none => some built
    | some rest => do
      let keys := Text.piecesBy source.separator rest
      let found := at? source outline keys
      let value ← valueOf? source found content
      some (put value (isWeak found content) keys built)) []

mutual

/-- The entries of a section under the names that documents use. -/
def renamed (fields : List (SettingName × Outline)) : Mapping → Mapping
  | [] => []
  | (key, value) :: rest =>
    let found : Option (SettingName × Outline) := match key with
      | .text s => fields.find? fun (setting, _) => Text.lower setting.name == Text.lower s
      | _ => none
    match found with
    | none => (key, value) :: renamed fields rest
    | some (setting, outline) =>
      (.text setting.name, renamedInside outline value) :: renamed fields rest

/-- The same for the value of an entry that is a section with names of its
own. -/
def renamedInside (outline : Outline) : Value → Value
  | .map entries =>
    match outline with
    | .section true inner => .map (Mapping.ofEntries (renamed inner entries))
    | _ => .map entries
  | other => other

end

/-- The same for the value of a setting. -/
def underDocumentNames (outline : Outline) (value : Value) : Value :=
  match outline, value with
  | .section _ fields, .map entries => .map (Mapping.ofEntries (renamed fields entries))
  | _, other => other

/-- What the variables make of one setting, if anything. -/
def setting? (source : VariableSource) (setting : SettingName) (outline : Outline)
    (found : Variables) : Except Fault (Option Value) :=
  let fault : Fault := ⟨setting.field, source⟩
  let inside : Except Fault Mapping :=
    match inside? source setting outline found with
    | some entries => .ok entries
    | none => .error fault
  let fromParts : Except Fault (Option Value) :=
    inside.map fun entries => if entries.isEmpty then none else some (.map entries)
  match found.lookup (Text.lower (source.start ++ setting.field)) with
  | none | some (.ready .null) => fromParts
  | some .nothing => .ok (some .null)
  | some (.ready v) => .ok (some v)
  | some (.text s) =>
    match Json.read? s with
    | some (.map entries) => inside.map fun parts => some (.map (Mapping.merge entries parts))
    | some .null => .ok none
    | some v => .ok (some v)
    | none => if outline.isNeeded then .error fault else .ok (some (.text s))

/-- The settings that variables make. -/
def read (source : VariableSource) (fields : List (SettingName × Outline))
    (found : Variables) : Except Fault Mapping :=
  fields.foldlM (fun built (setting, outline) => do
    match ← setting? source setting outline found with
    | none => return built
    | some value =>
      return Mapping.put (.text setting.field) (underDocumentNames outline value) built) []

end Variables

end Ratchet
