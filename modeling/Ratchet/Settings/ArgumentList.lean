import Ratchet.Number.Numeral
import Ratchet.Settings.Outline
import Ratchet.Value.Json

namespace Ratchet

/-!
# Lists and tables on the command line

An option that takes several values may be given several times, and each time
with several values between commas.  Brackets around them may be there or not,
and without anything between them there is no value.  A value may be one of
the words of JSON, a text in double quotes, an object, a list, a number where
numbers are wanted, or anything else, which is then a text.  A text is put
between quotes as it stands, so it must not hold what JSON has to escape.  For
a table each value is an object or a name and a text with an equals sign
between them.
-/

namespace ArgumentList

/-- Why the values cannot be told apart. -/
inductive Fault where
  /-- An object or list does not end. -/
  | unclosed (delimiter : Char)
  | unclosedQuote
  | noEquals
  /-- A name and a text between one pair of quotes. -/
  | quotedPair (text : String)
  | json (fault : Json.Fault) (text : String)
  /-- A value that holds no entries. -/
  | noEntries (kind : String)
  /-- An entry that is not a pair. -/
  | noPair (position size : Nat)
  | noPairAt (position : Nat)
  deriving DecidableEq

def Fault.message : Fault → String
  | .unclosed delimiter => s!"Missing end delimiter \"{delimiter}\""
  | .unclosedQuote => "Mismatched quotes"
  | .noEquals => "not enough values to unpack (expected 2, got 1)"
  | .quotedPair text => s!"Dictionary key=val parameter is a quoted string: {text}"
  | .json fault text => fault.message text
  | .noEntries kind => s!"'{kind}' object is not iterable"
  | .noPair position size =>
    s!"dictionary update sequence element #{position} has length {size}; 2 is required"
  | .noPairAt position =>
    s!"cannot convert dictionary update sequence element #{position} to a sequence"

/-- The word for no value. -/
def nothingWord : String := "null"

/-- The rest of an object or list whose first character was read, up to the
delimiter that closes it, and what follows. -/
def enclosed? (delimiter : Char) : (depth : Int) → (quoted : Bool) → (previous : Char) →
    List Char → Option (List Char × List Char)
  | _, _, _, [] => none
  | depth, quoted, previous, c :: rest =>
    let continued (depth : Int) (quoted : Bool) : Option (List Char × List Char) :=
      (enclosed? delimiter depth quoted c rest).map fun (content, after) => (c :: content, after)
    if c = '"' ∧ previous ≠ '\\' then continued depth !quoted
    else if quoted then continued depth quoted
    else if c = '{' ∨ c = '[' then continued (depth + 1) quoted
    else if c = '}' ∨ c = ']' then
      if c = delimiter ∧ depth = 1 then some ([c], rest) else continued (depth - 1) quoted
    else continued depth quoted

/-- The text up to a comma outside of quotes, what follows, and whether a
quote is left open. -/
def untilComma : (quoted : Bool) → (previous : Option Char) → List Char →
    List Char × List Char × Bool
  | quoted, _, [] => ([], [], quoted)
  | quoted, previous, c :: rest =>
    let quoted := if c = '"' ∧ previous ≠ some '\\' then !quoted else quoted
    if c = ',' && !quoted then ([], c :: rest, quoted)
    else
      let (content, after, open?) := untilComma quoted (some c) rest
      (c :: content, after, open?)

/-- A text without the double quotes around it, of which there may be any
number. -/
def unquoted (cs : List Char) : List Char :=
  ((cs.dropWhile (· == '"')).reverse.dropWhile (· == '"')).reverse

/-- What the values of an option are collected for. -/
inductive Target where
  | items (kind : ItemKind)
  | table
  deriving DecidableEq

/-- A text between quotes, as it stands. -/
def inQuotes (s : String) : String := "\"" ++ s ++ "\""

/-- One value of a list as JSON. -/
def itemJson (kind : ItemKind) (written : String) : String :=
  if ["true", "false", nothingWord].contains written then written
  else
    match kind with
    | .number =>
      if Numeral.isNumber written || Text.startsWith written "\"" then written
      else inQuotes written
    | .text =>
      if Text.startsWith written "\"" then
        match Json.read? written with
        | some (.text s) => inQuotes s
        | _ => written
      else inQuotes written

/-- A name and a text as a JSON object with one member. -/
def memberJson (cs : List Char) : Except Fault String :=
  let opens (cs : List Char) : Bool := cs.head? == some '"'
  let closes (cs : List Char) : Bool := cs.getLast? == some '"'
  match Cut.atFirst? '=' cs with
  | none => .error .noEquals
  | some (name, text) =>
    if opens name && !closes name && !opens text && closes text then
      .error (.quotedPair (String.ofList cs))
    else
      .ok (Json.writeIn .spaced (.record
        [(String.ofList (unquoted name), .text (String.ofList (unquoted text)))]))

/-- One value as JSON. -/
def asJson (target : Target) (cs : List Char) : Except Fault String :=
  match target with
  | .items kind => .ok (itemJson kind (String.ofList cs))
  | .table => memberJson cs

/-- Values read so far, and whether the last thing read was a value and not a
comma. -/
structure Progress where
  values : List String := []
  afterValue : Bool := false

/-- A comma or the end, which stands for an empty text unless a value comes
before it. -/
def Progress.separate (p : Progress) : Progress where
  values := if p.afterValue then p.values else p.values ++ ["\"\""]
  afterValue := false

/-- Reads the values in one text.  The fuel is spent once a value or comma. -/
def valuesIn (target : Target) : Nat → Progress → List Char → Except Fault Progress
  | 0, p, _ => .ok p
  | fuel + 1, p, cs =>
    match Blank.strip cs with
    | [] => .ok p
    | ',' :: rest => valuesIn target fuel p.separate rest
    | c :: rest =>
      if c = '{' ∨ c = '[' then
        let delimiter := if c = '{' then '}' else ']'
        match enclosed? delimiter 1 false c rest with
        | some (content, after) =>
          valuesIn target fuel
            { values := p.values ++ [String.ofList (c :: content)], afterValue := true } after
        | none => .error (.unclosed delimiter)
      else
        match untilComma false none (c :: rest) with
        | (_, _, true) => .error .unclosedQuote
        | (content, after, false) => do
          let value ← asJson target (Blank.strip content)
          valuesIn target fuel { values := p.values ++ [value], afterValue := true } after

/-- The text between the brackets around a text, if there are any. -/
def insideBrackets? (cs : List Char) : Option (List Char) :=
  match cs with
  | '[' :: rest =>
    if cs.length > 1 ∧ cs.getLast? = some ']' then some (Blank.strip rest.dropLast) else none
  | _ => none

/-- Reads the values of one occurrence of the option. -/
def occurrence (target : Target) (p : Progress) (text : String) : Except Fault Progress := do
  let cs := Blank.strip text.toList
  match insideBrackets? cs with
  | some [] => return p
  | found =>
    let cs := found.getD cs
    let p ← valuesIn target (cs.length + 1) p cs
    return if p.afterValue then p else p.separate

/-- The values of all occurrences, each as JSON. -/
def values (target : Target) (texts : List String) : Except Fault (List String) := do
  let p ← texts.foldlM (occurrence target) {}
  return p.values

/-- The JSON list of all values. -/
def listText (kind : ItemKind) (texts : List String) : Except Fault String :=
  (values (.items kind) texts).map fun all => "[" ++ Text.join "," all ++ "]"

/-- The parts of a value that has parts. -/
def parts? : Value → Option (List Value)
  | .list items => some items
  | .scalar (.text s) => some (s.toList.map fun c => .text (String.ofList [c]))
  | .map entries => some (entries.map fun entry => .scalar entry.1)
  | _ => none

/-- Values as pairs of a name and a value. -/
def pairs (position : Nat) : List Value → Except Fault (List (Value × Value))
  | [] => .ok []
  | item :: rest =>
    match parts? item with
    | some [name, value] => do return (name, value) :: (← pairs (position + 1) rest)
    | some parts => .error (.noPair position parts.length)
    | none => .error (.noPairAt position)

/-- The entries that a value adds to a table. -/
def entries (v : Value) : Except Fault (List (Value × Value)) :=
  match v, parts? v with
  | .map entries, _ => .ok (entries.map fun (key, value) => (.scalar key, value))
  | _, some items => pairs 0 items
  | .scalar .null, none => .error (.noEntries "NoneType")
  | .scalar (.bool _), none => .error (.noEntries "bool")
  | .scalar (.int _), none => .error (.noEntries "int")
  | _, none => .error (.noEntries "float")

/-- The name of an entry as a text. -/
def keyOf : Value → Scalar
  | .scalar (.text s) => .text s
  | other => .text (Json.write other)

/-- The table of all values; of two with one name the later one counts. -/
def table (texts : List String) : Except Fault Mapping := do
  let all ← values .table texts
  all.foldlM (fun built text =>
    match Json.read text with
    | .error fault => .error (.json fault text)
    | .ok v => do
      return (← entries v).foldl (fun built (key, value) => Mapping.put (keyOf key) value built)
        built) []

end ArgumentList

end Ratchet
