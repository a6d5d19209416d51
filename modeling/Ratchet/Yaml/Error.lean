import Ratchet.Number.Numeral
import Ratchet.Text.Quoted

namespace Ratchet

/-!
# Faults of YAML documents

Nearly every fault of a document makes it malformed.  A few have a wording of
their own: numbers, dates and characters that are written in the right form
and still mean nothing.
-/

namespace Yaml

/-- What is wrong with a document. -/
inductive Error where
  | malformed
  /-- A character with a number beyond the last one. -/
  | character
  /-- A character with a number that is no signed word. -/
  | characterTooLarge
  | noYear (year : Nat)
  | noMonth
  | noDay
  | noHour
  | noMinute
  | noSecond
  /-- An offset from universal time of a day or more. -/
  | offset (shown : String)
  | integer (base : Nat) (text : String)
  /-- A number with more digits than are read. -/
  | tooManyDigits (count : Nat)
  | decimal (text : String)
  | emptyNumber
  | truth (word : String)
  | moment
  deriving DecidableEq

/-- The most characters of a text that is quoted for being no number. -/
def longestQuotation : Nat := 200

def Error.message : Error → String
  | .malformed => "malformed document"
  | .character => "chr() arg not in range(0x110000)"
  | .characterTooLarge => "Python int too large to convert to C int"
  | .noYear year => s!"year {year} is out of range"
  | .noMonth => "month must be in 1..12"
  | .noDay => "day is out of range for month"
  | .noHour => "hour must be in 0..23"
  | .noMinute => "minute must be in 0..59"
  | .noSecond => "second must be in 0..59"
  | .offset shown =>
    "offset must be a timedelta strictly between -timedelta(hours=24) and " ++
      s!"timedelta(hours=24), not {shown}"
  | .integer base text =>
    s!"invalid literal for int() with base {base}: " ++
      String.ofList ((Text.quoted text).toList.take longestQuotation)
  | .tooManyDigits count =>
    s!"Exceeds the limit ({Numeral.mostDigits} digits) for integer string conversion: value has " ++
      s!"{count} digits; use sys.set_int_max_str_digits() to increase the limit"
  | .decimal text => s!"could not convert string to float: {Text.quoted text}"
  | .emptyNumber => "string index out of range"
  | .truth word => Text.quoted word
  | .moment => "'NoneType' object has no attribute 'groupdict'"

end Yaml

end Ratchet
