import Ratchet.Log.Level
import Ratchet.Settings.Config
import Ratchet.Template

namespace Ratchet

/-!
# Spans

What the log finally writes: a name, a start in nanoseconds after the start of
1970, and attributes, some of which carry the message, its level and the place
in the program, while others are the recorder's own business.  A sink writes
one line for a span, by its template and with the remaining attributes after a
bar, or the span's own JSON if it has no template.
-/

/-- One span. -/
structure Span where
  name : String
  start : Int := 0
  attributes : List (String × Value) := []
  json : String := "\x7b\x7d"
  deriving Inhabited

namespace Span

/-- Why a span has no line. -/
inductive Failure where
  | template (error : Template.Error)
  /-- A message that is no text cannot be escaped. -/
  | notText (type : String)
  /-- A level that is no number cannot be compared. -/
  | notNumber (type : String)
  | year (year : Int)
  /-- A start that no floating-point number is near to. -/
  | startTooLarge
  /-- A start whose seconds are no machine integer. -/
  | outOfClock
  /-- A start whose year is no machine integer of half the usual size. -/
  | outOfCalendar
  deriving DecidableEq

def Failure.message : Failure → String
  | .template e => e.message
  | .notText type => s!"'{type}' object has no attribute 'encode'"
  | .notNumber type => (Template.Error.notOrdered type).message
  | .year y => s!"year {y} is out of range"
  | .startTooLarge => Template.FormatError.numberTooLarge.message
  | .outOfClock => "timestamp out of range for platform time_t"
  | .outOfCalendar => "[Errno 75] Value too large for defined data type"

def attribute? (span : Span) (name : String) : Option Value :=
  span.attributes.lookup name

/-- The attribute that holds the number of the level. -/
def levelAttribute : String := "logfire.level_num"

/-- The attribute that holds the message. -/
def messageAttribute : String := "logfire.msg"

/-- Attributes that the recorder adds. -/
def internalNames : List String :=
  ["code.filepath", "code.lineno", "code.function", "logfire.msg", "logfire.msg_template",
    "logfire.level_num", "logfire.span_type", "logfire.json_schema"]

/-- Beginnings of the names of further attributes that the recorder adds. -/
def internalStarts : List String :=
  ["otel.", "telemetry.", "service.", "process."]

def isInternal (name : String) : Bool :=
  internalNames.contains name || internalStarts.any fun start => Text.startsWith name start

/-- The order of texts by their code points. -/
def textLe (a b : String) : Bool :=
  !(b.toList.map Char.toNat < a.toList.map Char.toNat)

/-- The attributes that the caller gave, by name. -/
def userAttributes (span : Span) : List (String × Value) :=
  (span.attributes.filter fun entry => !isInternal entry.1).mergeSort
    fun a b => textLe a.1 b.1

/-- The number of the level, if it is a number; `info`'s if there is none. -/
def severity (span : Span) : Except Failure Int :=
  match span.attribute? levelAttribute with
  | none => .ok Level.info.severity
  | some (.scalar (.int n)) => .ok n
  | some (.scalar (.bool b)) => .ok (if b then 1 else 0)
  | some (.scalar (.float x)) => .ok (match x.toInt? with
      | some n => n
      | none => x.toFloat.floor.toInt64.toInt)
  | some other => .error (.notNumber (Template.Subject.type (.value other)))

/-- A floating-point number rounded to a whole one, a half going to the even
neighbour. -/
def roundedToEven (x : Float) : Float :=
  let rounded := x.round
  if (x - rounded).abs == 0.5 then 2.0 * (x / 2.0).round else rounded

/-- The whole seconds and the microseconds of a start that is first brought to
seconds as a floating-point number.  The part of a second is rounded by itself,
seen from zero. -/
def secondsAndMicroseconds (start : Int) : Float × Float :=
  let seconds := Float.ofInt start / 1e9
  let whole := if seconds < 0.0 then seconds.ceil else seconds.floor
  let part := roundedToEven ((seconds - whole) * 1e6)
  if 1e6 ≤ part then (whole + 1.0, part - 1e6)
  else if part < 0.0 then (whole - 1.0, part + 1e6)
  else (whole, part)

/-- The moment of the start. -/
def moment (span : Span) : Except Failure Moment := do
  if (Float.ofInt span.start).isInf then throw .startTooLarge
  let (seconds, part) := secondsAndMicroseconds span.start
  if seconds < -9223372036854775808.0 || 9223372036854775808.0 ≤ seconds then throw .outOfClock
  let moment := Moment.ofMicroseconds (seconds.toInt64.toInt * 1000000 + part.toInt64.toInt)
  let year := moment.date.year
  if year < -2147481748 ∨ 2147485547 < year then throw .outOfCalendar
  if year < 1 ∨ 9999 < year then throw (.year year)
  pure moment

/-- The message, in visible ASCII characters if it is to be escaped. -/
def shownMessage (span : Span) (escaped : Bool) : Except Failure Value :=
  let message := (span.attribute? messageAttribute).getD (.text span.name)
  if escaped then
    match message with
    | .scalar (.text s) => .ok (.text (Text.escaped s))
    | other => .error (.notText (Template.Subject.type (.value other)))
  else .ok message

/-- The file and the line that a span comes from. -/
def location (span : Span) : String :=
  let file := (span.attribute? "code.filepath").getD (.text "")
  let line := (span.attribute? "code.lineno").getD (.text "")
  if file.isEmpty then "" else file.inText ++ ":" ++ line.inText

/-- The fields that the template of a line may name. -/
def fields (span : Span) (escaped : Bool) : Except Failure Template.Names := do
  let moment ← span.moment
  let severity ← span.severity
  let message ← span.shownMessage escaped
  pure
    [("timestamp", .moment moment), ("level", .text (Level.ofSeverity severity).name),
      ("message", .value message), ("location", .text span.location),
      ("function", .value ((span.attribute? "code.function").getD (.text "")))]

/-- The attributes of the caller, as they follow the bar. -/
def attributeText (attributes : List (String × Value)) : String :=
  Text.join " " (attributes.map fun (name, value) => name ++ "=" ++ value.shown)

/-- The line of a span in a sink.  A template that names an unknown field gives
a line that says so; any other fault of the template leaves the span without
a line. -/
def line (sink : Config.Sink) (span : Span) : Except Failure String :=
  match sink.template with
  | none | some "" => .ok (span.json ++ "\n")
  | some template => do
    let names ← span.fields sink.escaped
    match Template.fill names template with
    | .error (.noName name) =>
      pure ("ERROR: Invalid template field " ++ Text.quoted name ++ "\n")
    | .error (.noKey n) => pure s!"ERROR: Invalid template field {n}\n"
    | .error error => throw (.template error)
    | .ok text =>
      let attributes := span.userAttributes
      if attributes.isEmpty then pure (text ++ "\n")
      else pure (text ++ " │ " ++ attributeText attributes ++ "\n")

end Span

end Ratchet
