import Ratchet.Text.Digit
import Ratchet.Text.Cut

namespace Ratchet

/-!
# Replacement fields

A template is literal text with fields in braces.  A field names a value,
then attributes (`.name`) and items (`[key]`) of it, then optionally a
conversion (`!r`) and a format (`:>8`), which may hold fields itself.  A
doubled brace stands for itself.

A template is read from left to right while it is being filled, so a fault
far to the right goes unnoticed when a field before it cannot be filled.  The
reading therefore never fails as a whole: a fault is the last piece of the
template it was found in.
-/

namespace Template

/-- What can be wrong with the form of a template. -/
inductive Fault where
  | loneOpening
  | loneClosing
  | openingInName
  | unclosed
  | noConversion
  | afterConversion
  | unclosedFormat
  | emptyAttribute
  | afterBracket
  | unclosedBracket
  | tooManyDigits
  | tooDeep
  /-- A field without a position after one with a position. -/
  | countedAfterStated
  /-- A field with a position after one without. -/
  | statedAfterCounted
  deriving DecidableEq

def Fault.message : Fault → String
  | .loneOpening => "Single '\x7b' encountered in format string"
  | .loneClosing => "Single '\x7d' encountered in format string"
  | .openingInName => "unexpected '\x7b' in field name"
  | .unclosed => "expected '\x7d' before end of string"
  | .noConversion => "end of string while looking for conversion specifier"
  | .afterConversion => "expected ':' after conversion specifier"
  | .unclosedFormat => "unmatched '\x7b' in format spec"
  | .emptyAttribute => "Empty attribute in format string"
  | .afterBracket => "Only '.' or '[' may follow ']' in format field specifier"
  | .unclosedBracket => "Missing ']' in format string"
  | .tooManyDigits => "Too many decimal digits in format string"
  | .tooDeep => "Max string recursion exceeded"
  | .countedAfterStated =>
    "cannot switch from manual field specification to automatic field numbering"
  | .statedAfterCounted =>
    "cannot switch from automatic field numbering to manual field specification"

/-- A field as written. -/
structure Field where
  name : List Char
  conversion : Option Char
  format : List Char
  deriving DecidableEq

/-- One piece of a template. -/
inductive Piece where
  | literal (text : List Char)
  | field (field : Field)
  | fault (fault : Fault)
  deriving DecidableEq

/-- The format of a field up to the brace that closes it, and what follows.
`depth` counts the braces opened inside. -/
def formatBody : Nat → List Char → Option (List Char × List Char)
  | _, [] => none
  | 0, '}' :: rest => some ([], rest)
  | depth + 1, '}' :: rest => (formatBody depth rest).map fun (body, after) => ('}' :: body, after)
  | depth, '{' :: rest =>
    (formatBody (depth + 1) rest).map fun (body, after) => ('{' :: body, after)
  | depth, c :: rest => (formatBody depth rest).map fun (body, after) => (c :: body, after)

/-- What ends the name of a field. -/
inductive NameEnd where
  | close (rest : List Char)
  | format (rest : List Char)
  | conversion (rest : List Char)
  | fault (fault : Fault)

/-- The name of a field and what ends it.  Inside square brackets nothing
ends it but the end of the text. -/
def fieldName (bracket : Bool) : List Char → List Char × NameEnd
  | [] => ([], .fault .unclosed)
  | c :: rest =>
    let keep (bracket : Bool) : List Char × NameEnd :=
      let (name, ending) := fieldName bracket rest
      (c :: name, ending)
    if bracket then keep (c != ']')
    else if c = '[' then keep true
    else if c = '{' then ([], .fault .openingInName)
    else if c = '}' then ([], .close rest)
    else if c = ':' then ([], .format rest)
    else if c = '!' then ([], .conversion rest)
    else keep false

/-- A field after its opening brace, and what follows its closing one. -/
def field (cs : List Char) : Except Fault (Field × List Char) :=
  let format (name : List Char) (conversion : Option Char) (cs : List Char) :
      Except Fault (Field × List Char) :=
    match formatBody 0 cs with
    | some (body, after) => .ok (⟨name, conversion, body⟩, after)
    | none => .error .unclosedFormat
  match fieldName false cs with
  | (_, .fault fault) => .error fault
  | (name, .close rest) => .ok (⟨name, none, []⟩, rest)
  | (name, .format rest) => format name none rest
  | (_, .conversion []) => .error .noConversion
  | (_, .conversion [_]) => .error .unclosedFormat
  | (name, .conversion (letter :: '}' :: rest)) => .ok (⟨name, some letter, []⟩, rest)
  | (name, .conversion (letter :: ':' :: rest)) => format name (some letter) rest
  | (_, .conversion _) => .error .afterConversion

/-- A character put in front of a template's pieces. -/
def Piece.pushFront (c : Char) : List Piece → List Piece
  | .literal text :: pieces => .literal (c :: text) :: pieces
  | pieces => .literal [c] :: pieces

/-- The pieces of a template.  The fuel is spent once a character. -/
def piecesWithin : Nat → List Char → List Piece
  | 0, _ | _, [] => []
  | fuel + 1, '{' :: '{' :: rest => Piece.pushFront '{' (piecesWithin fuel rest)
  | fuel + 1, '}' :: '}' :: rest => Piece.pushFront '}' (piecesWithin fuel rest)
  | _ + 1, '}' :: _ => [.fault .loneClosing]
  | _ + 1, ['{'] => [.fault .loneOpening]
  | fuel + 1, '{' :: rest =>
    match field rest with
    | .ok (field, after) => .field field :: piecesWithin fuel after
    | .error fault => [.fault fault]
  | fuel + 1, c :: rest => Piece.pushFront c (piecesWithin fuel rest)

/-- The pieces of a template. -/
def pieces (cs : List Char) : List Piece :=
  piecesWithin cs.length cs

/-! ## The parts of a field's name -/

/-- A step from a value to a part of it. -/
inductive Step where
  | attribute (name : List Char)
  | item (key : List Char)
  | index (position : Nat)
  | fault (fault : Fault)
  deriving DecidableEq

/-- The value of a decimal digit of any script. -/
def digitValue? (c : Char) : Option Nat :=
  (Digit.ranges.find? fun range => range.1 ≤ c.toNat && c.toNat ≤ range.2).map
    fun range => (c.toNat - range.1) % 10

/-- The number that digits spell, read after `n`; nothing if another character
is met before the number has grown too large. -/
def numberFrom (n : Nat) : List Char → Except Fault (Option Nat)
  | [] => .ok (some n)
  | c :: rest =>
    match digitValue? c with
    | none => .ok none
    | some d =>
      if n * 10 + d < 0x8000000000000000 then numberFrom (n * 10 + d) rest else .error .tooManyDigits

/-- What a key between brackets or a leading name means: a position if it is
made of digits alone. -/
def position? (cs : List Char) : Except Fault (Option Nat) :=
  if cs.isEmpty then .ok none else numberFrom 0 cs

/-- The steps that follow the leading name.  The fuel is spent once a
step. -/
def stepsWithin : Nat → List Char → List Step
  | 0, _ | _, [] => []
  | fuel + 1, '.' :: rest =>
    let name := rest.takeWhile fun c => c != '.' && c != '['
    if name.isEmpty then [.fault .emptyAttribute]
    else .attribute name :: stepsWithin fuel (rest.drop name.length)
  | fuel + 1, '[' :: rest =>
    match Cut.atFirst? ']' rest with
    | none => [.fault .unclosedBracket]
    | some (key, after) =>
      match position? key with
      | .error fault => [.fault fault]
      | .ok position =>
        if key.isEmpty then [.fault .emptyAttribute]
        else
          (match position with
            | some n => Step.index n
            | none => Step.item key) :: stepsWithin fuel after
  | _ + 1, _ :: _ => [.fault .afterBracket]

/-- The leading name of a field and the steps after it. -/
def splitName (cs : List Char) : List Char × List Step :=
  let first := cs.takeWhile fun c => c != '.' && c != '['
  (first, stepsWithin cs.length (cs.drop first.length))

end Template

end Ratchet
