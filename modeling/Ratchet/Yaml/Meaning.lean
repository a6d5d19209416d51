import Ratchet.Number.Numeral
import Ratchet.Text.Case
import Ratchet.Value
import Ratchet.Yaml.Node

namespace Ratchet

/-!
# Meaning of nodes

The value that a document stands for.  The tag of a node decides how its text
or its parts are read.  A mapping may take in the entries of others under the
key `<<`: they come first, so that its own entries win over them.

A document can have several faults.  The one nearest to the root is reported,
and of those equally near the first in the text.
-/

namespace Yaml

/-! ## Scalars -/

/-- The sum of numbers that count ones, sixties and so on, from the last
group. -/
def sexagesimal (groups : List Int) : Int :=
  groups.foldl (fun total group => total * 60 + group) 0

/-- The same for numbers with a fraction, added from the last group on. -/
def sexagesimalDecimal (groups : List Binary) : Binary :=
  let (total, _) := groups.reverse.foldl
    (fun (total, unit) group => (total + group.toFloat * unit, unit * 60)) ((0, 1) : Float × Float)
  Binary.ofFloat total

/-- The whole number that a text stands for in a base.  In base ten it cannot
have any number of digits. -/
def integerIn (base : Nat) (text : String) : Except Error Int :=
  let digits := Numeral.leadingDigits text
  if base = 10 ∧ Numeral.mostDigits < digits then .error (.tooManyDigits digits)
  else
    match Numeral.integer? base text with
    | some n => .ok n
    | none => .error (.integer base text)

/-- A whole number: binary, octal, hexadecimal, sexagesimal or decimal.
Underscores do not count. -/
def integer (text : String) : Except Error Int := do
  let written := text.toList.filter (· != '_')
  let (negative, cs) := Numeral.signed written
  let size ← match written, cs with
    | [], _ | _, [] => .error .emptyNumber
    | _, ['0'] => pure 0
    | _, '0' :: 'b' :: digits => integerIn 2 (String.ofList digits)
    | _, '0' :: 'x' :: digits => integerIn 16 (String.ofList digits)
    | _, '0' :: _ => integerIn 8 (String.ofList cs)
    | _, _ =>
      if cs.contains ':' then
        sexagesimal <$> (Cut.pieces ':' cs).mapM fun group => integerIn 10 (String.ofList group)
      else integerIn 10 (String.ofList cs)
  return if negative then -size else size

/-- The number with a fraction that a text stands for. -/
def decimalOf (text : String) : Except Error Binary :=
  match Numeral.decimal? text with
  | some x => .ok x
  | none => .error (.decimal text)

/-- A number with a fraction, or one of the named ones. -/
def decimal (text : String) : Except Error Binary := do
  let written := (Text.lower (String.ofList (text.toList.filter (· != '_')))).toList
  let (negative, cs) := Numeral.signed written
  if written.isEmpty then throw .emptyNumber
  let text := String.ofList cs
  if text = ".nan" then return Binary.notANumber
  let size ←
    if text = ".inf" then pure Binary.infinity
    else if cs.contains ':' then
      sexagesimalDecimal <$> (Cut.pieces ':' cs).mapM fun group => decimalOf (String.ofList group)
    else decimalOf text
  return if negative then Binary.ofFloat (-size.toFloat) else size

/-- A truth value by its word. -/
def truth (text : String) : Except Error Bool :=
  let word := Text.lower text
  if ["yes", "true", "on"].contains word then .ok true
  else if ["no", "false", "off"].contains word then .ok false
  else .error (.truth word)

/-- The offset in seconds that is written as a sign, hours and minutes.  It is
less than a day. -/
def offset (negative : Bool) (hours minutes : Nat) : Except Error Int :=
  let size : Int := (hours * 3600 + minutes * 60 : Nat)
  let seconds := if negative then -size else size
  if -86400 < seconds ∧ seconds < 86400 then .ok seconds
  else
    let days := seconds.fdiv 86400
    let rest := seconds - days * 86400
    let rest := if rest = 0 then "" else s!", seconds={rest}"
    .error (.offset s!"datetime.timedelta(days={days}{rest})")

/-- A date that exists. -/
def dateOf (year month day : Nat) : Except Error Date :=
  if year = 0 then .error (.noYear year)
  else if month = 0 ∨ 12 < month then .error .noMonth
  else if day = 0 ∨ Date.daysIn year month < day then .error .noDay
  else .ok ⟨year, month, day⟩

/-- The first six digits of a fraction, as millionths. -/
def millionths (fraction : List Char) : Nat :=
  let digits := (fraction ++ List.replicate 6 '0').take 6
  digits.foldl (fun n c => n * 10 + (c.toNat - 48)) 0

/-- A date, or a date with a time of day. -/
def stamp (text : String) : Except Error Scalar := do
  match Plain.stamp? true (Plain.beforeBreak text.toList) with
  | none => throw .moment
  | some found =>
    match found.time with
    | none => return .date (← dateOf found.year found.month found.day)
    | some (hour, minute, second) =>
      let shift ← match found.offset with
        | some (negative, hours, minutes) => some <$> offset negative hours minutes
        | none => pure none
      let date ← dateOf found.year found.month found.day
      if 23 < hour then throw .noHour
      if 59 < minute then throw .noMinute
      if 59 < second then throw .noSecond
      return .moment
        { date, hour, minute, second, microsecond := millionths found.fraction, offset := shift }

/-- The six bits that a character of a byte text stands for. -/
def sixBits? (c : Char) : Option Nat :=
  if 'A' ≤ c ∧ c ≤ 'Z' then some (c.toNat - 65)
  else if 'a' ≤ c ∧ c ≤ 'z' then some (c.toNat - 71)
  else if '0' ≤ c ∧ c ≤ '9' then some (c.toNat + 4)
  else if c = '+' then some 62
  else if c = '/' then some 63
  else none

/-- Bytes written four characters for three.  `place` counts the characters of
the group that has begun, `held` is what is left of them, and `marks` counts
the padding since the last of them.  Other characters do not count, and full
padding ends the text. -/
def octetsFrom? (place held marks : Nat) : List Char → Option (List Nat)
  | [] => if place = 0 then some [] else none
  | c :: rest =>
    if c = '=' then
      if 2 ≤ place then
        if 4 ≤ place + (marks + 1) then some [] else octetsFrom? place held (marks + 1) rest
      else octetsFrom? place held marks rest
    else
      match sixBits? c, place with
      | none, _ => octetsFrom? place held marks rest
      | some bits, 0 => octetsFrom? 1 bits 0 rest
      | some bits, 1 => (octetsFrom? 2 (bits % 16) 0 rest).map ((held * 4 + bits / 16) :: ·)
      | some bits, 2 => (octetsFrom? 3 (bits % 4) 0 rest).map ((held * 16 + bits / 4) :: ·)
      | some bits, _ => (octetsFrom? 0 0 0 rest).map ((held * 64 + bits) :: ·)

/-- Bytes as text of the usual alphabet. -/
def octets (text : String) : Except Error (List Nat) :=
  if text.toList.all fun c => c.toNat < 128 then
    match octetsFrom? 0 0 0 text.toList with
    | some bytes => .ok bytes
    | none => .error .malformed
  else .error .malformed

/-- What follows the beginning of the tags that have a meaning. -/
def kindOf (tag : String) : String :=
  (Text.dropStart? tag standardTag).getD ""

/-- The scalar that a text stands for under a tag. -/
def scalarOf (tag text : String) : Except Error Scalar :=
  match kindOf tag with
  | "null" => .ok .null
  | "bool" => Scalar.bool <$> truth text
  | "int" => Scalar.int <$> integer text
  | "float" => Scalar.float <$> decimal text
  | "binary" => Scalar.bytes <$> octets text
  | "timestamp" => stamp text
  | "str" => .ok (.text text)
  | _ => .error .malformed

/-! ## Collections -/

/-- The result of reading a part, where a fault has its distance from the
root. -/
abbrev Found (α : Type) := Except (Nat × Error) α

namespace Found

/-- Two results together; of two faults the nearer one, or else the first. -/
def both {α β γ : Type} (f : α → β → γ) : Found α → Found β → Found γ
  | .ok a, .ok b => .ok (f a b)
  | .ok _, .error fault => .error fault
  | .error fault, .ok _ => .error fault
  | .error first, .error second => .error (if second.1 < first.1 then second else first)

end Found

/-- A fault at a distance from the root. -/
def located {α : Type} (depth : Nat) : Except Error α → Found α
  | .ok a => .ok a
  | .error fault => .error (depth, fault)

namespace Node

/-- True of the key under which other mappings are taken in. -/
def isMerge (key : Node) : Bool := kindOf key.tag == "merge"

/-- The text of a scalar, or that of a mapping's entry `=`. -/
def text? : Node → Option String
  | .scalar _ text => some text
  | .sequence .. => none
  | .mapping _ entries => textAmong? entries
  | .again _ => none
where
  textAmong? : List (Node × Node) → Option String
    | [] => none
    | (key, value) :: rest => if kindOf key.tag == "value" then text? value else textAmong? rest

mutual

/-- True when all that is taken in consists of mappings. -/
def mergeable : List (Node × Node) → Bool
  | [] => true
  | (key, value) :: rest => (!key.isMerge || mergeableFrom value) && mergeable rest

def mergeableFrom : Node → Bool
  | .scalar .. | .again _ => false
  | .sequence _ items => mergeableItems items
  | .mapping _ entries => mergeable entries

def mergeableItems : List Node → Bool
  | [] => true
  | .mapping _ entries :: rest => mergeable entries && mergeableItems rest
  | _ :: _ => false

end

/-- A key: a scalar, and nothing with parts. -/
def asKey (depth : Nat) : Found Value → Found Scalar
  | .ok (.scalar s) => .ok s
  | .ok _ => .error (depth, .malformed)
  | .error (found, fault) => .error (if depth < found then (depth, .malformed) else (found, fault))

/-- All entries of a mapping, those taken in first. -/
def together (depth : Nat) (entries : List (Node × Node))
    (merged own : Found (List (Scalar × Value))) : Found (List (Scalar × Value)) :=
  if mergeable entries then Found.both (· ++ ·) merged own else .error (depth, .malformed)

mutual

/-- The value of a node at a distance from the root. -/
def valueAt (depth : Nat) : Node → Found Value
  | .scalar tag text =>
    if ["map", "set", "seq", "omap", "pairs"].contains (kindOf tag) then
      .error (depth + 1, .malformed)
    else located depth (Value.scalar <$> scalarOf tag text)
  | .sequence tag items =>
    match kindOf tag with
    | "seq" => Value.list <$> itemsAt (depth + 1) items
    | "omap" | "pairs" => Value.list <$> pairsAt (depth + 1) items
    | "map" | "set" => .error (depth + 1, .malformed)
    | _ => .error (depth, .malformed)
  | .mapping tag entries =>
    match kindOf tag with
    | "map" =>
      (fun all => Value.map (Mapping.ofEntries all)) <$>
        together (depth + 1) entries (mergedAt (depth + 1) entries) (ownAt (depth + 1) entries)
    | "set" =>
      (fun all => Value.set (Mapping.keys (Mapping.ofEntries all))) <$>
        together (depth + 1) entries (mergedAt (depth + 1) entries) (ownAt (depth + 1) entries)
    | "seq" | "omap" | "pairs" => .error (depth + 1, .malformed)
    | _ =>
      match text? (.mapping tag entries) with
      | some text => located depth (Value.scalar <$> scalarOf tag text)
      | none => .error (depth, .malformed)
  | .again _ => .error (depth, .malformed)

/-- The values of a sequence's items. -/
def itemsAt (depth : Nat) : List Node → Found (List Value)
  | [] => .ok []
  | item :: rest => Found.both List.cons (valueAt depth item) (itemsAt depth rest)

/-- The items of a sequence of mappings that have one entry each. -/
def pairsAt (depth : Nat) : List Node → Found (List Value)
  | [] => .ok []
  | .mapping _ [(key, value)] :: rest =>
    Found.both List.cons
      (Found.both (fun k v => .list [k, v]) (valueAt depth key) (valueAt depth value))
      (pairsAt depth rest)
  | _ :: _ => .error (depth, .malformed)

/-- The entries that a mapping writes itself. -/
def ownAt (depth : Nat) : List (Node × Node) → Found (List (Scalar × Value))
  | [] => .ok []
  | (key, value) :: rest =>
    if key.isMerge then ownAt depth rest
    else
      let named : Found Scalar :=
        if kindOf key.tag == "value" then
          match text? key with
          | some text => .ok (.text text)
          | none => .error (depth, .malformed)
        else asKey depth (valueAt depth key)
      Found.both List.cons (Found.both Prod.mk named (valueAt depth value)) (ownAt depth rest)

/-- The entries that a mapping takes in. -/
def mergedAt (depth : Nat) : List (Node × Node) → Found (List (Scalar × Value))
  | [] => .ok []
  | (key, value) :: rest =>
    if key.isMerge then Found.both (· ++ ·) (mergedFrom depth value) (mergedAt depth rest)
    else mergedAt depth rest

/-- The entries of a mapping, or of all mappings of a sequence, the last one
first. -/
def mergedFrom (depth : Nat) : Node → Found (List (Scalar × Value))
  | .scalar .. | .again _ => .ok []
  | .sequence _ items => mergedItems depth items
  | .mapping _ entries => Found.both (· ++ ·) (mergedAt depth entries) (ownAt depth entries)

def mergedItems (depth : Nat) : List Node → Found (List (Scalar × Value))
  | [] => .ok []
  | item :: rest => Found.both (· ++ ·) (mergedItems depth rest) (mergedFrom depth item)

end

/-- The value of a document's root. -/
def value (root : Node) : Except Error Value :=
  match valueAt 0 root with
  | .ok v => .ok v
  | .error (_, fault) => .error fault

end Node

/-- The value that a document stands for; an empty document is null. -/
def read (document : String) : Except Error Value := do
  match ← Node.read document with
  | some root => root.value
  | none => return .null

end Yaml

end Ratchet
