import Ratchet.Settings.ArgumentList
import Ratchet.Settings.Variables
import Ratchet.Text.Digit

namespace Ratchet

/-!
# The command line

Each setting is an option whose name spells out where the setting lies, with
dots between the names.  A switch is put on by its option and off by the same
with `no-` before the name.  A section is an option too and takes JSON.  After
the options may come a command with options of its own.  Options may be written
in any case.

The options read become variables under their names, so that they are read on
like variables of any other source.
-/

namespace Arguments

/-! ## Options -/

/-- What an option takes from the command line. -/
inductive Takes where
  /-- One value; of several the last one counts. -/
  | value
  /-- JSON for a section, which may be left out. -/
  | json
  | items (kind : ItemKind)
  | table
  /-- Nothing: the option itself says on or off. -/
  | switch (on : Bool)
  | help
  deriving DecidableEq

/-- An option: how it is written and the variable that it sets. -/
structure OptionForm where
  spelling : String
  variableName : String
  takes : Takes
  deriving DecidableEq

/-- A dotted name in small letters. -/
def dotted (path : List String) : String :=
  Text.lower (Text.join "." path)

mutual

/-- The options for a setting at a place, and for all that lies in it.  The
names of their variables have a beginning of their own. -/
def optionsAt (start : String) (path : List String) : Outline → List OptionForm
  | .plain | .choice _ => [⟨"--" ++ dotted path, start ++ dotted path, .value⟩]
  | .flag =>
    [⟨"--" ++ dotted path, start ++ dotted path, .switch true⟩,
      ⟨"--no-" ++ dotted path, start ++ dotted path, .switch false⟩]
  | .items _ kind => [⟨"--" ++ dotted path, start ++ dotted path, .items kind⟩]
  | .table => [⟨"--" ++ dotted path, start ++ dotted path, .table⟩]
  | .section _ fields =>
    ⟨"--" ++ dotted path, start ++ dotted path, .json⟩ :: optionsIn start path fields

def optionsIn (start : String) (path : List String) :
    List (SettingName × Outline) → List OptionForm
  | [] => []
  | (setting, outline) :: rest =>
    optionsAt start (path ++ [setting.name]) outline ++ optionsIn start path rest

end

/-- The options that ask for help. -/
def helpOptions : List OptionForm := [⟨"-h", "", .help⟩, ⟨"--help", "", .help⟩]

/-- The options of the program. -/
def programOptions (fields : List (SettingName × Outline)) : List OptionForm :=
  helpOptions ++ optionsIn "" [] fields

/-- The options of a command that sets the fields of one setting. -/
def commandOptions (setting : SettingName) : Outline → List OptionForm
  | .section _ fields => helpOptions ++ optionsIn (setting.name ++ ".") [] fields
  | _ => helpOptions

/-! ## Tokens -/

/-- An argument with the option that it begins with in small letters.  Of what
follows the option only the first line stays. -/
def inSmallLetters (s : String) : String :=
  let isName (c : Char) : Bool := c != '=' && !Blank.isBlank c
  let name := s.toList.takeWhile isName
  if name.head? = some '-' ∧ 1 < name.length then
    Text.lower (String.ofList name) ++
      String.ofList ((s.toList.drop name.length).takeWhile (· != '\n'))
  else s

/-- What one argument is by itself. -/
inductive Token where
  /-- A value or the name of a command, and all arguments after it. -/
  | value (text : String) (after : List String)
  /-- An option, and the value written right behind it. -/
  | option (form : OptionForm) (given : Option String)
  /-- An option of one letter with more letters right behind it. -/
  | letters (form : OptionForm) (more : List Char)
  /-- Two dashes alone. -/
  | dashes
  | unknown
  /-- The beginning of several options. -/
  | ambiguous

/-- A number below zero: a dash, digits, and a point among them or none. -/
def isNegativeNumber (cs : List Char) : Bool :=
  let cs := if cs.getLast? = some '\n' then cs.dropLast else cs
  match cs with
  | '-' :: body =>
    let isDigit (c : Char) : Bool := Digit.isDigit c
    match body.dropWhile isDigit with
    | [] => !body.isEmpty
    | '.' :: fraction => !fraction.isEmpty && fraction.all isDigit
    | _ => false
  | _ => false

/-- An argument cut at its first equals sign. -/
def assignment? (s : String) : Option (String × String) :=
  (Cut.atFirst? '=' s.toList).map fun (name, text) => (String.ofList name, String.ofList text)

/-- What an argument with one dash may be that is no option in full: one of one
letter with more letters behind it, or the beginning of one. -/
def candidates (options : List OptionForm) (s : String) : List Token :=
  if Text.startsWith s "--" then []
  else
    let cs := s.toList
    options.filterMap fun form =>
      if form.spelling.toList = cs.take 2 then some (.letters form (cs.drop 2))
      else if Text.startsWith form.spelling s then some (.option form none)
      else none

/-- What an argument is. -/
def token (options : List OptionForm) (s : String) (after : List String) : Token :=
  let exact (name : String) : Option OptionForm := options.find? fun form => form.spelling == name
  if !Text.startsWith s "-" then .value s after
  else if s = "--" then .dashes
  else
    match exact s with
    | some form => .option form none
    | none =>
      if s = "-" then .value s after
      else
        match assignment? s |>.bind fun (name, text) => (exact name).map fun form => (form, text) with
        | some (form, text) => .option form (some text)
        | none =>
          match candidates options s with
          | [found] => found
          | [] =>
            if isNegativeNumber s.toList || s.toList.contains ' ' then .value s after
            else .unknown
          | _ => .ambiguous

/-- What the arguments are, one by one. -/
def tokens (options : List OptionForm) : List String → List Token
  | [] => []
  | s :: rest => token options s rest :: tokens options rest

/-! ## Reading -/

/-- What was given for a variable. -/
inductive Given where
  | one (s : String)
  | switch (on : Bool)
  | items (kind : ItemKind) (texts : List String)
  | table (texts : List String)

/-- What was given so far, by the variables. -/
abbrev Found := List (String × Given)

/-- One more value for an option. -/
def Found.add (form : OptionForm) (text : String) (found : Found) : Found :=
  let merged (before : Option Given) : Given :=
    match form.takes, before with
    | .items kind, some (.items _ texts) => .items kind (texts ++ [text])
    | .items kind, _ => .items kind [text]
    | .table, some (.table texts) => .table (texts ++ [text])
    | .table, _ => .table [text]
    | .switch on, _ => .switch on
    | _, _ => .one text
  let before := found.lookup form.variableName
  if before.isSome then
    found.map fun entry =>
      if entry.1 == form.variableName then (entry.1, merged before) else entry
  else found ++ [(form.variableName, merged before)]

/-- True when letters behind the letter that asks for help leave it standing:
one that is no option is passed over, but a dash or a value for the letter is a
mistake. -/
def stillHelp : List Char → Bool
  | [] => true
  | 'h' :: '=' :: _ => false
  | 'h' :: rest => stillHelp rest
  | c :: _ => c != '-'

/-- How the reading of the command line ends. -/
inductive Outcome where
  | help
  /-- The command line is not understood. -/
  | wrong
  | read (found : Found) (command : Option String)

/-- What is found when an option that waits for a value gets none: a section
is then an empty one. -/
def settled? (found : Found) : Option OptionForm → Option Found
  | none => some found
  | some form => if form.takes = .json then some (found.add form "\x7b\x7d") else none

/-- Reads tokens one after the other.  A value goes to the option that waits
for one, or else to `command`, or is too much.  What is too much or unknown
shows at the end only, so that a later call for help is still heard. -/
def readTokens (command : String → List String → Option Outcome) :
    (tooMuch : Bool) → Found → (waiting : Option OptionForm) → List Token → Outcome
  | tooMuch, found, waiting, [] =>
    match settled? found waiting with
    | some found => if tooMuch then .wrong else .read found none
    | none => .wrong
  | tooMuch, found, some form, .value text _ :: rest =>
    readTokens command tooMuch (found.add form text) none rest
  | tooMuch, found, waiting, t :: rest =>
    match settled? found waiting with
    | none => .wrong
    | some found =>
      match t with
      | .value text after =>
        match command text after with
        | none => readTokens command true found none rest
        | some (.read inner chosen) => if tooMuch then .wrong else .read (found ++ inner) chosen
        | some other => other
      | .dashes | .ambiguous => .wrong
      | .unknown => readTokens command true found none rest
      | .letters form more => if form.takes = .help && stillHelp more then .help else .wrong
      | .option form given =>
        match form.takes, given with
        | .help, none => .help
        | .switch _, none => readTokens command tooMuch (found.add form "") none rest
        | .help, some _ | .switch _, some _ => .wrong
        | _, some text => readTokens command tooMuch (found.add form text) none rest
        | _, none => readTokens command tooMuch found (some form) rest

/-- The options and the command of a command line. -/
def outcome (fields commands : List (SettingName × Outline)) (arguments : List String) :
    Outcome :=
  let command (name : String) (after : List String) : Option Outcome :=
    if commands.isEmpty then none
    else
      match commands.find? fun entry => entry.1.name == name with
      | none => some .wrong
      | some (setting, outline) =>
        let inner := tokens (commandOptions setting outline) after
        if inner.any fun t => t matches .ambiguous then some .wrong
        else
          match readTokens (fun _ _ => none) false [] none inner with
          | .read found _ => some (.read found (some name))
          | other => some other
  readTokens command false [] none (tokens (programOptions fields) (arguments.map inSmallLetters))

/-- Why a command line sets nothing. -/
inductive Fault where
  | help
  | wrong
  /-- The values of a list or table cannot be told apart. -/
  | list (variableName : String) (fault : ArgumentList.Fault)
  deriving DecidableEq

def Fault.message : Fault → String
  | .help => ""
  | .wrong => ""
  | .list variableName fault =>
    s!"Parsing error encountered for {variableName}: {fault.message}"

/-- What a variable holds by what was given for it. -/
def content (variableName : String) (given : Given) : Except Fault VariableContent :=
  let read {α : Type} (x : Except ArgumentList.Fault α) : Except Fault α :=
    match x with
    | .ok a => .ok a
    | .error fault => .error (.list variableName fault)
  match given with
  | .one s => .ok (if s = ArgumentList.nothingWord then .nothing else .text s)
  | .switch on => .ok (.ready (.bool on))
  | .items kind texts => (read (ArgumentList.listText kind texts)).map .text
  | .table texts => (read (ArgumentList.table texts)).map fun entries => .ready (.map entries)

/-- The variables that a command line sets.  A command that is not given is no
value, and one given without options is an empty section. -/
def read (fields commands : List (SettingName × Outline)) (arguments : List String) :
    Except Fault Variables :=
  match outcome fields commands arguments with
  | .help => .error .help
  | .wrong => .error .wrong
  | .read found chosen => do
    let options ← found.mapM fun (name, given) => do return (name, ← content name given)
    let ofCommands := commands.filterMap fun (setting, _) =>
      if chosen != some setting.name then some (setting.name, VariableContent.nothing)
      else if found.any fun entry => Text.startsWith entry.1 (setting.name ++ ".") then none
      else some (setting.name, .text "\x7b\x7d")
    return options ++ ofCommands

end Arguments

end Ratchet
