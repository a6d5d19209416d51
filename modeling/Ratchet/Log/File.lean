import Ratchet.Disk
import Ratchet.Log.Filter
import Ratchet.Log.Record
import Ratchet.Log.Redaction
import Ratchet.Value.Json

namespace Ratchet

/-!
# Log files

Where the file sink writes and what.  The path is a template of the log's root
and the name of the run.  A record becomes a span whose message has its fields
filled from the record's attributes; a message that cannot be filled stays as
it is.  Secrets among the attributes are replaced before anything is written.
-/

namespace LogFile

/-- Why a log file cannot be opened. -/
inductive Fault where
  | template (error : Template.Error)
  | disk (fault : Disk.Fault)
  /-- The path holds the character with number zero. -/
  | nullCharacter
  /-- A message that cannot be recorded. -/
  | clash (clash : Record.Clash)

def Fault.message : Fault → String
  | .template error => error.message
  | .disk fault => fault.message
  | .nullCharacter => "embedded null byte"
  | .clash found => found.message

/-- True of the faults that lie in the path as it is written. -/
def Fault.isMalformed : Fault → Bool
  | .template error => error.isMalformed
  | .disk _ | .clash _ => false
  | .nullCharacter => true

/-- The path of a log file. -/
def path (pattern : String) (root : Path) (run : String) : Except Template.Error Path :=
  (Template.fill [("log_root", .path root), ("run_name", .text run)] pattern).map .ofText

/-- The form in which an attribute is kept: simple values as they are, integers
that no machine integer holds as text, and all others as JSON text. -/
def kept : Value → Value
  | .scalar (.bool b) => .bool b
  | .scalar (.int n) => if Conversion.isMachineInt n then .int n else .text (toString n)
  | .scalar (.float x) => .float x
  | .scalar (.text s) => .text s
  | other => .text (Json.write other)

/-- What a field of a message stands for.  An attribute whose name has the form
of a path is found by its whole name if the path leads nowhere. -/
def field (names : Template.Names) (name : List Char) : Except Template.Error Template.Subject :=
  match Template.subject names name with
  | .error (.noName missing) =>
    match names.lookup (String.ofList name) with
    | some subject => .ok subject
    | none => .error (.noName missing)
  | other => other

/-- The pieces of a message.  A field whose name ends in `=` also shows the
name. -/
def explained : Template.Piece → List Template.Piece
  | .field f =>
    if f.name.getLast? = some '=' then
      [.literal f.name, .field { f with name := f.name.dropLast }]
    else [.field f]
  | other => [other]

/-- The longest text that a field of a message may stand for. -/
def longestField : Nat := 128

/-- A text that is too long for a field loses its middle. -/
def shortened (cs : List Char) : List Char :=
  if cs.length ≤ longestField then cs
  else
    let half := (longestField - 3) / 2
    cs.take half ++ ['.', '.', '.'] ++ cs.drop (cs.length - half)

/-- The text of one piece of a message, and the notes of what was replaced in
it. -/
def pieceText (find : Template.Lookup) (piece : Template.Piece) :
    Except Template.Error (List Char × List Redaction.Note) := do
  let cs ← Template.piece (Template.fillWithin find 1) find piece
  match piece with
  | .field f =>
    let (s, notes) := Redaction.fieldText (String.ofList f.name) (String.ofList cs)
    pure (shortened s.toList, notes)
  | _ => pure (cs, [])

/-- The message of a record with its fields filled, and the notes of what was
replaced in it. -/
def message (r : Record) : String × List Redaction.Note :=
  let find := field (r.attributes.map fun (name, value) => (name, .value value))
  let pieces := (Template.pieces r.message.toList).flatMap explained
  match pieces.mapM (pieceText find) with
  | .ok texts => (String.ofList (texts.flatMap Prod.fst), texts.flatMap Prod.snd)
  | .error _ => (r.message, [])

/-- The attribute that holds the notes of what was replaced. -/
def notesAttribute : String := "logfire.scrubbed"

/-- True when a record brings its message ready to be written. -/
def isReady (r : Record) : Bool :=
  match r.attributes.lookup Span.messageAttribute with
  | none | some (.scalar .null) => false
  | some _ => true

/-- The span of a record.  Attributes without a name are dropped; one that has
the name of an attribute that every span has takes its place. -/
def span (r : Record) : Span :=
  let (message, inMessage) := if isReady r then (r.message, []) else message r
  let (attributes, inAttributes) :=
    Redaction.attributes ((r.attributes.filter fun entry => entry.1 != "").map
      fun (name, value) => (name, kept value))
  let notes := inMessage ++ inAttributes
  let attributes := if notes.isEmpty then attributes
    else attributes.filter (fun entry => entry.1 != notesAttribute) ++
      [(notesAttribute, .text (Redaction.notesText notes))]
  { name := r.message
    attributes :=
      [(Span.levelAttribute, .int r.importance.severity),
        (Span.messageAttribute, .text message)].filter
          (fun entry => (attributes.lookup entry.1).isNone) ++ attributes }

/-- The lines of some spans, up to the first one without a line. -/
def lines (sink : Config.Sink) : List Span → String
  | [] => ""
  | span :: rest =>
    match span.line sink with
    | .ok text => text ++ lines sink rest
    | .error _ => ""

/-- What a file sink writes of some records. -/
def text (sink : Config.Sink) (records : List Record) : String :=
  lines sink (LevelFilter.wanted (sink.level.getD "info") (records.map span))

/-- The name of a run in the paths of its log files. -/
def runName : String := "check"

/-- The file that a sink opens, if it is enabled. -/
def opened (disk : Disk) (directory : Path) (file : Config.LogFile) (root : Path)
    (run : String) : Except Fault (Option Path) :=
  if file.sink.enabled then
    match path file.path root run with
    | .error error => .error (.template error)
    | .ok found =>
      if found.text.toList.contains (Char.ofNat 0) then .error .nullCharacter
      else match disk.writeFault? directory found with
        | some fault => .error (.disk fault)
        | none => .ok (some found)
  else .ok none

/-- The file that a sink writes and its text, if the sink is enabled. -/
def write (disk : Disk) (directory : Path) (file : Config.LogFile) (root : Path)
    (run : String) (records : List Record) : Except Fault (Option (Path × String)) := do
  let found ← opened disk directory file root run
  match records.findSome? Record.clash? with
  | some clash => throw (.clash clash)
  | none => return found.map fun p => (p, text file.sink records)

end LogFile

/-- What the terminal sink asks of the terminal. -/
structure ConsoleOptions where
  level : String
  verbose : Bool
  colors : String
  timestamps : Bool
  deriving DecidableEq

/-- The options of the terminal sink, unless it is off.  The terminal knows no
level below `trace`. -/
def Config.Console.options? (c : Config.Console) : Option ConsoleOptions :=
  if c.sink.enabled then
    let level := match c.sink.level with
      | none | some "" => "info"
      | some "spew" => "trace"
      | some level => level
    some ⟨level, c.verbose, c.colors, true⟩
  else none

end Ratchet
