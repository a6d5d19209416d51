import Ratchet.Settings.Facts
import Ratchet.Settings.Section
import Ratchet.Template.Supply

namespace Ratchet

/-!
# References

A reference is a dotted name in braces inside a text of the settings.  It
names another setting, a place for files, or a fact about the machine, or
something that is known about one of these, and is replaced by the form of
that thing inside a text.  An operation is applied to the program's name, if it
can be.  A reference that leads to nothing stays as written, so that the fields
of command templates pass through; what was put in is not looked at again.

How a text and a whole tree have their references replaced does not depend on how
names are looked up, so the look-up is a parameter of both.  The look-up given here
knows the settings, the places and the facts, and asks the host about all other
names of the machine.  Of sections and modes it knows what is listed below, and
not what their libraries add for their own use, such as which fields were given,
what types these have, or a section's operations and what is known of them.
-/

namespace Tree

/-- The document value of a part that holds no section, path or mode. -/
def value? : Tree → Option Value
  | .none => some .null
  | .flag b => some (.bool b)
  | .number n => some (.int n)
  | .text s => some (.text s)
  | .list items => (valuesOf? items).map .list
  | .table entries => (valuesIn? entries).map .map
  | _ => Option.none
where
  valuesOf? : List Tree → Option (List Value)
    | [] => some []
    | item :: rest => do return (← value? item) :: (← valuesOf? rest)
  valuesIn? : List (String × Tree) → Option Mapping
    | [] => some []
    | (key, item) :: rest => do return (.text key, ← value? item) :: (← valuesIn? rest)

end Tree

namespace Reference

open Template (Subject Supply)

/-- Why replacing references failed. -/
inductive Failure where
  /-- A table was asked to take in something that is no table. -/
  | tableUpdate
  /-- A text that is a template could not be filled. -/
  | template (error : Template.Error)
  /-- The machine did not say what a name stands for. -/
  | refused (refusal : Host.Refusal)
  deriving DecidableEq

def Failure.message : Failure → String
  | .tableUpdate => "dictionary update sequence element #0 has length 1; 2 is required"
  | .template error => error.message
  | .refused refusal => refusal.message

/-- True if a failure says that the settings are malformed. -/
def Failure.isMalformed : Failure → Bool
  | .tableUpdate => true
  | .template error => error.isMalformed
  | .refused refusal => refusal.isMalformed

/-- A way to look names up in a tree: the text that replaces a name, if there is
one. -/
abbrev Resolver := Tree → String → Except Failure (Option String)

/-- Something that a reference can lead to. -/
inductive Target where
  | part (t : Tree)
  | subject (s : Subject)
  /-- Something known of a list or table that holds sections, paths or modes.  It is
  the same as for an empty one. -/
  | ofWhole (t : Tree) (s : Subject)
  /-- The text of a place, or the place as a path. -/
  | place (area : Host.Area) (asPath : Bool)
  | facts (f : Facts)
  /-- What sections of one name have in common. -/
  | sectionKind (name : String)
  /-- What all ways of attribution have in common. -/
  | modeKind
  /-- Making a section of which nothing is set. -/
  | usualSection (name : String)
  /-- An operation without a result. -/
  | silent

namespace Target

def text (s : String) : Target := .subject (Subject.text s)

def nothing : Target := .subject (.value .null)

end Target

/-- The messages that the logger can record. -/
def recordingNames : List String := Level.all.map Level.name

/-- What sections of one name have in common. -/
def sectionKindStep? (kind name : String) : Option Target :=
  match name with
  | "__doc__" => (Section.description? kind).map .text
  | "__hash__" => some .nothing
  | "__module__" => (Section.home? kind).map .text
  | "model_config" => (Section.manner? kind).map fun fields => .part (.table fields)
  | "model_computed_fields" => some (.part (.table []))
  | "model_construct" | "construct" => some (.usualSection kind)
  | _ => none

/-- What is known of a section besides its fields. -/
def sectionStep? (kind : String) (fields : List (String × Tree)) (name : String) :
    Option Target :=
  let isOff := match fields.lookup "enabled" with
    | some (.flag b) => !b
    | _ => false
  match name with
  | "__class__" => some (.sectionKind kind)
  | "__dict__" => some (.part (.table fields))
  | "model_extra" | "__pydantic_extra__" => some .nothing
  | "_processor" => if kind = "ConsoleSink" || kind = "FileSink" && isOff then some .nothing else none
  | "_file" => if kind = "FileSink" && isOff then some .nothing else none
  | name =>
    if kind = "Logger" && recordingNames.contains name then some .silent
    else sectionKindStep? kind name

/-- The part of the program that ways of attribution belong to. -/
def modeHome : String := "strictify.compiler.correlate"

/-- What is known of a way of attribution. -/
def modeStep? (m : MatchMode) (name : String) : Option Target :=
  match name with
  | "value" | "_value_" => some (.text m.name)
  | "name" | "_name_" => some (.text m.memberName)
  | "_sort_order_" => some (.subject (Subject.ofInt (if m = .substring then 0 else 1)))
  | "format" => some (.text (Tree.inText (.mode m)))
  | "__class__" | "__objclass__" => some .modeKind
  | "__doc__" => some .nothing
  | "__module__" => some (.text modeHome)
  | "__init__" => some .silent
  | _ => none

/-- A list or table without what is in it. -/
def emptied? : Tree → Option Value
  | .list _ => some (.list [])
  | .table _ => some (.map [])
  | _ => none

/-- Something known of a list or table, from what is known of an empty one. -/
def ofEmptied (t : Tree) : Subject → Target
  | .value (.list []) | .value (.map []) => .part t
  | s => .ofWhole t s

/-- One step of a reference. -/
def step? (target : Target) (name : String) : Option Target :=
  match target with
  | .part (.section kind fields) =>
    match fields.lookup name with
    | some t => some (.part t)
    | none => sectionStep? kind fields name
  | .part (.mode m) => modeStep? m name
  | .part (.path p) => ((Subject.path p).attribute? name).map .subject
  | .part t =>
    match t.value? with
    | some v => ((Subject.value v).attribute? name).map .subject
    | none => (emptied? t).bind fun v => ((Subject.value v).attribute? name).map (ofEmptied t)
  | .subject subject => (subject.attribute? name).map .subject
  | .ofWhole t subject => (subject.attribute? name).map (ofEmptied t)
  | .facts f => (f.part? name).map .facts <|> (f.fact? name).map fun v => .subject (.value v)
  | .sectionKind kind =>
    match name with
    | "__name__" | "__qualname__" => some (.text kind)
    | name => sectionKindStep? kind name
  | .modeKind =>
    match name with
    | "__name__" | "__qualname__" => some (.text "MatchMode")
    | "__doc__" => some .nothing
    | "__module__" => some (.text modeHome)
    | _ => none
  | _ => none

/-- What operations are applied to: the program's name, and that its files are
not to be told apart by an author. -/
def applied : Supply where
  ordered := [Subject.text Host.programName]
  named := [("appauthor", .value (.bool false))]

/-- A text filled as a template.  If it asks for what its values do not have, it
is no template. -/
def filled (template : String) : Except Failure (Option String) :=
  match applied.fill template with
  | .ok text => .ok (some text)
  | .error error => if error.isMisfit then .ok none else .error (.template error)

/-- The form of a subject inside a text.  Kinds and operations are applied; most
of them cannot be, and give nothing. -/
def subjectText? : Subject → Except Failure (Option String)
  | .kind .path | .kind .realPath => .ok (some Host.programName)
  | .kind .mapping | .operation none "update" (.value (.map _)) | .operator .mapping "__init__" _ =>
    .error .tableUpdate
  | .operation none "format" (.value (.scalar (.text s))) => filled s
  | .operator .anything "__init__" _ | .member .anything .operator "__init__" =>
    .ok (some "None")
  | .operator _ "__call__" owner => subjectText? owner
  | .member home .part name => .ok (some (Subject.member home .part name).plain)
  | .member home .field name => .ok (some (Subject.member home .field name).plain)
  | .kind _ | .operation .. | .operator .. | .member .. => .ok none
  | s => .ok (some s.plain)

/-- The form of a target inside a text. -/
def text? (host : Host) : Target → Except Failure (Option String)
  | .part t => .ok (some t.inText)
  | .subject s | .ofWhole _ s => subjectText? s
  | .sectionKind _ | .modeKind => .ok none
  | .place area false => .ok (some (host.placeText area (some Host.programName)))
  | .place area true => .ok (some (host.place area (some Host.programName)).text)
  | .facts f => .ok (some f.inText)
  | .usualSection name => .ok ((Section.usual? host name).map Tree.inText)
  | .silent => .ok (some "None")

/-- What a name among the places for files leads to. -/
def placeStep? (name : String) : Option Target :=
  let area? (ending : String) : Option Host.Area :=
    Host.Area.all.find? fun area => name == area.name ++ ending
  match name with
  | "os" => some (.facts .system)
  | "sys" => some (.facts .interpreter)
  | name =>
    ((area? "_dir").map fun area => .place area false) <|>
      ((area? "_path").map fun area => .place area true) <|>
      if name = "__name__" || name = "__package__" then some (.text "platformdirs") else none

/-- True of the names of what belongs to the machine and not to the settings. -/
def isOfMachine (dotted : List String) : Bool :=
  match dotted with
  | "os" :: _ | "platformdirs" :: _ => true
  | _ => false

/-- What the machine says of a name that leads to nothing known. -/
def furtherText? (host : Host) (dotted : String) : Except Failure (Option String) :=
  if isOfMachine (Text.pieces '.' dotted) then (host.further dotted).mapError .refused
  else .ok none

/-- What a dotted name leads to. -/
def target? (root : Tree) (dotted : List String) : Option Target :=
  match dotted with
  | "os" :: rest => rest.foldlM step? (.facts .system)
  | "platformdirs" :: name :: rest => (placeStep? name).bind fun target => rest.foldlM step? target
  | ["platformdirs"] => none
  | names => names.foldlM step? (.part root)

/-- The text that replaces a dotted name, if it names something. -/
def resolve? (host : Host) (root : Tree) (dotted : String) : Except Failure (Option String) :=
  match target? root (Text.pieces '.' dotted) with
  | some target => text? host target
  | none => furtherText? host dotted

/-- The characters of dotted names. -/
def isNameChar (c : Char) : Bool :=
  c.isLower || c == '.' || c == '_'

/-- The dotted name at the start of a text, up to its closing brace, and what
follows. -/
def name? (cs : List Char) : Option (List Char × List Char) :=
  let name := cs.takeWhile isNameChar
  if name.isEmpty then none
  else
    match cs.drop name.length with
    | '}' :: rest => some (name, rest)
    | _ => none

/-- A text with its references replaced.  The fuel is spent once a
character. -/
def expandWithin (resolve : String → Except Failure (Option String)) :
    Nat → List Char → Except Failure (List Char)
  | 0, cs => .ok cs
  | _, [] => .ok []
  | fuel + 1, c :: rest =>
    match if c = '{' then name? rest else none with
    | some (name, after) => do
      let written := '{' :: (name ++ ['}'])
      let replaced ← resolve (String.ofList name)
      let tail ← expandWithin resolve fuel after
      pure ((match replaced with
        | some text => text.toList
        | none => written) ++ tail)
    | none => (expandWithin resolve fuel rest).map (c :: ·)

/-- A text with its references replaced. -/
def expandBy (resolve : String → Except Failure (Option String)) (s : String) :
    Except Failure String :=
  (expandWithin resolve s.length s.toList).map String.ofList

/-- A text with its references replaced by what they lead to from a root. -/
def expand (host : Host) (root : Tree) (s : String) : Except Failure String :=
  expandBy (resolve? host root) s

end Reference

namespace Tree

/-! ## Visiting every text -/

/-- The parts directly inside a part. -/
def children : Tree → List Tree
  | .list items => items
  | .table entries => entries.map Prod.snd
  | .section _ fields => fields.map Prod.snd
  | _ => []

mutual

/-- The addresses of all texts and paths, in order: at each level the position
of the part. -/
def addresses : Tree → List (List Nat)
  | .text _ | .path _ => [[]]
  | .list items => addressesOf 0 items
  | .table entries => addressesIn 0 entries
  | .section _ fields => addressesIn 0 fields
  | _ => []

def addressesOf (position : Nat) : List Tree → List (List Nat)
  | [] => []
  | item :: rest => (addresses item).map (position :: ·) ++ addressesOf (position + 1) rest

def addressesIn (position : Nat) : List (String × Tree) → List (List Nat)
  | [] => []
  | (_, item) :: rest => (addresses item).map (position :: ·) ++ addressesIn (position + 1) rest

end

/-- The part at an address. -/
def at? : List Nat → Tree → Option Tree
  | [], t => some t
  | position :: rest, t => (t.children[position]?).bind (at? rest)

/-- Changes the part at an address. -/
def modifyAt (f : Tree → Tree) : List Nat → Tree → Tree
  | [], t => f t
  | position :: rest, t =>
    match t with
    | .list items => .list (items.modify position (modifyAt f rest))
    | .table entries =>
      .table (entries.modify position fun (key, item) => (key, modifyAt f rest item))
    | .section name fields =>
      .section name (fields.modify position fun (key, item) => (key, modifyAt f rest item))
    | other => other

/-- A text or a path with its references replaced; anything else as it is. -/
def expandedBy (resolve : String → Except Reference.Failure (Option String)) :
    Tree → Except Reference.Failure Tree
  | .text s => (Reference.expandBy resolve s).map .text
  | .path p => (Reference.expandBy resolve p.text).map fun s =>
      if s = p.text then .path p else .path (.ofText s)
  | other => .ok other

/-- Replaces the references of one text after the other, each looked up in the tree
as it then is. -/
def expandAllBy (resolver : Reference.Resolver) (t : Tree) : Except Reference.Failure Tree :=
  t.addresses.foldlM (fun root address =>
    match root.at? address with
    | some part =>
      (expandedBy (resolver root) part).map fun new => modifyAt (fun _ => new) address root
    | Option.none => .ok root) t

/-- A text or a path with its references replaced by what they lead to from a
root. -/
def expanded (host : Host) (root : Tree) : Tree → Except Reference.Failure Tree :=
  expandedBy (Reference.resolve? host root)

/-- Replaces the references of all texts by what they lead to. -/
def expandAll (host : Host) : Tree → Except Reference.Failure Tree :=
  expandAllBy (Reference.resolve? host)

end Tree

end Ratchet
