import Ratchet.Text.Quoted
import Ratchet.Value

namespace Ratchet

/-!
# The shown form of values

How a value is shown in a log line or inside another text: texts between
quotation marks, lists in square brackets, mappings in braces, and the words
`None`, `True` and `False`.
-/

namespace Date

def shown (d : Date) : String :=
  s!"datetime.date({d.year}, {d.month}, {d.day})"

end Date

namespace Moment

/-- An offset as whole days and the seconds left over. -/
def offsetShown (seconds : Int) : String :=
  if seconds = 0 then "datetime.timezone.utc"
  else
    let days := seconds.fdiv 86400
    let left := seconds - days * 86400
    let parts := (if days = 0 then [] else [s!"days={days}"]) ++
      (if left = 0 then [] else [s!"seconds={left}"])
    "datetime.timezone(datetime.timedelta(" ++ String.intercalate ", " parts ++ "))"

def shown (m : Moment) : String :=
  let fields := [s!"{m.date.year}", s!"{m.date.month}", s!"{m.date.day}", s!"{m.hour}",
    s!"{m.minute}"] ++
    (if m.second = 0 ∧ m.microsecond = 0 then [] else [s!"{m.second}"]) ++
    (if m.microsecond = 0 then [] else [s!"{m.microsecond}"]) ++
    (match m.offset with
      | none => []
      | some seconds => ["tzinfo=" ++ offsetShown seconds])
  "datetime.datetime(" ++ String.intercalate ", " fields ++ ")"

end Moment

namespace Scalar

/-- A byte text: its octets are quoted like the characters of those numbers. -/
def octetsShown (octets : List Nat) : String :=
  "b" ++ String.ofList (Quoted.quote true (octets.map Char.ofNat))

def shown : Scalar → String
  | .null => "None"
  | .bool b => if b then "True" else "False"
  | .int i => toString i
  | .float x => x.text
  | .text s => Text.quoted s
  | .date d => d.shown
  | .moment m => m.shown
  | .bytes octets => octetsShown octets

end Scalar

namespace Value

mutual

/-- The shown form of a value. -/
def shown : Value → String
  | .scalar s => s.shown
  | .list items => "[" ++ shownItems items ++ "]"
  | .map entries => "\x7b" ++ shownEntries entries ++ "\x7d"
  | .set members =>
    if members.isEmpty then "set()"
    else "\x7b" ++ String.intercalate ", " (members.map Scalar.shown) ++ "\x7d"

def shownItems : List Value → String
  | [] => ""
  | [item] => shown item
  | item :: rest => shown item ++ ", " ++ shownItems rest

def shownEntries : List (Scalar × Value) → String
  | [] => ""
  | [(key, value)] => key.shown ++ ": " ++ shown value
  | (key, value) :: rest => key.shown ++ ": " ++ shown value ++ ", " ++ shownEntries rest

end

/-- The form a value takes inside a text: its shown form, but a text as it
is. -/
def inText : Value → String
  | .scalar (.text s) => s
  | other => shown other

end Value

end Ratchet
