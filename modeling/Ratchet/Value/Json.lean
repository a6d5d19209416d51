import Ratchet.Text.Cut
import Ratchet.Text.Quoted
import Ratchet.Value

namespace Ratchet

/-!
# JSON

Reading a value from JSON text and writing one.  A number with
a fraction or an exponent is a floating-point number, every other one an
integer of any size; `NaN`, `Infinity` and `-Infinity` are read as well.  Of
several members with one name the last one wins and the first one's place is
kept.
-/

namespace Json

def isSpace (c : Char) : Bool :=
  c == ' ' || c == '\t' || c == '\n' || c == '\r'

def skipSpace (cs : List Char) : List Char :=
  cs.dropWhile isSpace

/-- What can be wrong with JSON text. -/
inductive Reason where
  | value
  | memberName
  | colon
  | comma
  | unterminated
  | control
  | escape
  | codePoint
  | more
  | mark
  deriving DecidableEq

def Reason.message : Reason → String
  | .value => "Expecting value"
  | .memberName => "Expecting property name enclosed in double quotes"
  | .colon => "Expecting ':' delimiter"
  | .comma => "Expecting ',' delimiter"
  | .unterminated => "Unterminated string starting at"
  | .control => "Invalid control character at"
  | .escape => "Invalid \\escape"
  | .codePoint => "Invalid \\uXXXX escape"
  | .more => "Extra data"
  | .mark => "Unexpected UTF-8 BOM (decode using utf-8-sig)"

/-- What is wrong with a text, and how many characters before its end. -/
structure Fault where
  reason : Reason
  left : Nat
  deriving DecidableEq

/-- The wording of a fault of a text, with its place. -/
def Fault.message (fault : Fault) (text : String) : String :=
  let cs := text.toList
  let before := cs.take (cs.length - fault.left)
  let line := before.count '\n' + 1
  let column := (before.reverse.takeWhile (· != '\n')).length + 1
  s!"{fault.reason.message}: line {line} column {column} (char {before.length})"

/-- The text after an expected word. -/
def expect? (word : List Char) (cs : List Char) : Option (List Char) :=
  if word.isPrefixOf cs then some (cs.drop word.length) else none

/-- The value of a hexadecimal digit. -/
def hexValue? (c : Char) : Option Nat :=
  let n := c.toNat
  if 48 ≤ n && n ≤ 57 then some (n - 48)
  else if 65 ≤ n && n ≤ 70 then some (n - 55)
  else if 97 ≤ n && n ≤ 102 then some (n - 87)
  else none

/-- Four hexadecimal digits with something after them. -/
def hex4? : List Char → Option (Nat × List Char)
  | a :: b :: c :: d :: e :: rest => do
    let a ← hexValue? a
    let b ← hexValue? b
    let c ← hexValue? c
    let d ← hexValue? d
    pure (((a * 16 + b) * 16 + c) * 16 + d, e :: rest)
  | _ => none

/-- The character after a backslash, when it is not a code point. -/
def escapeLetter? : Char → Option Char
  | '"' => some '"'
  | '\\' => some '\\'
  | '/' => some '/'
  | 'b' => some '\x08'
  | 'f' => some '\x0c'
  | 'n' => some '\n'
  | 'r' => some '\r'
  | 't' => some '\t'
  | _ => none

/-- The characters of a string up to its closing mark, and what follows.
`opening` is how many characters before the end the string started.  The fuel
is spent once a character. -/
def stringBody (opening : Nat) : Nat → List Char → Except Fault (List Char × List Char)
  | 0, _ => .error ⟨.unterminated, opening⟩
  | _ + 1, [] => .error ⟨.unterminated, opening⟩
  | fuel + 1, c :: rest =>
    if c = '"' then .ok ([], rest)
    else if c = '\\' then
      match rest with
      | 'u' :: digits =>
        match hex4? digits with
        | none => .error ⟨.codePoint, digits.length + 1⟩
        | some (high, after) => do
          let (code, after) :=
            match after with
            | '\\' :: 'u' :: more =>
              match hex4? more with
              | some (low, beyond) =>
                if 0xD800 ≤ high && high < 0xDC00 && 0xDC00 ≤ low && low < 0xE000 then
                  (0x10000 + (high - 0xD800) * 0x400 + (low - 0xDC00), beyond)
                else (high, after)
              | none => (high, after)
            | _ => (high, after)
          let (cs, tail) ← stringBody opening fuel after
          pure (Char.ofNat code :: cs, tail)
      | letter :: after =>
        match escapeLetter? letter with
        | none => .error ⟨.escape, rest.length + 1⟩
        | some character => do
          let (cs, tail) ← stringBody opening fuel after
          pure (character :: cs, tail)
      | [] => .error ⟨.unterminated, opening⟩
    else if c.toNat < 0x20 then .error ⟨.control, rest.length + 1⟩
    else do
      let (cs, tail) ← stringBody opening fuel rest
      pure (c :: cs, tail)

def digitsValue (cs : List Char) : Nat :=
  cs.foldl (fun n c => n * 10 + (c.toNat - 48)) 0

/-- A number at the start of the text. -/
def number? (cs : List Char) : Option (Value × List Char) :=
  let (negative, cs) := match cs with
    | '-' :: rest => (true, rest)
    | _ => (false, cs)
  let (whole, rest) := match cs with
    | '0' :: rest => (['0'], rest)
    | _ => (cs.takeWhile Char.isDigit, cs.dropWhile Char.isDigit)
  if whole.isEmpty then none
  else
    let (fraction, rest) := match rest with
      | '.' :: more =>
        let ds := more.takeWhile Char.isDigit
        if ds.isEmpty then ([], rest) else (ds, more.dropWhile Char.isDigit)
      | _ => ([], rest)
    let (exponent, rest) : Option Int × List Char := match rest with
      | e :: more =>
        if e = 'e' ∨ e = 'E' then
          let (down, ds) := match more with
            | '-' :: ds => (true, ds)
            | '+' :: ds => (false, ds)
            | ds => (false, ds)
          let digits := ds.takeWhile Char.isDigit
          if digits.isEmpty then (none, rest)
          else
            let size : Int := digitsValue digits
            (some (if down then -size else size), ds.dropWhile Char.isDigit)
        else (none, rest)
      | [] => (none, rest)
    let mantissa := digitsValue (whole ++ fraction)
    if fraction.isEmpty && exponent.isNone then
      some (.int (if negative then -(mantissa : Int) else mantissa), rest)
    else
      some (.float (Binary.ofDecimal negative mantissa (exponent.getD 0 - fraction.length)), rest)

/-- The named values. -/
def word? (cs : List Char) : Option (Value × List Char) :=
  let named (word : String) (value : Value) : Option (Value × List Char) :=
    (expect? word.toList cs).map fun rest => (value, rest)
  named "null" .null <|> named "true" (.bool true) <|> named "false" (.bool false) <|>
    named "NaN" (.float .notANumber) <|> named "Infinity" (.float .infinity) <|>
    named "-Infinity" (.float .negativeInfinity)

mutual

/-- A value at the start of the text, after blanks.  The fuel bounds the
number of steps, of which each takes a character. -/
def readValue : Nat → List Char → Except Fault (Value × List Char)
  | 0, cs => .error ⟨.value, cs.length⟩
  | fuel + 1, cs =>
    match skipSpace cs with
    | '"' :: rest => do
      let (s, rest) ← stringBody (rest.length + 1) (rest.length + 1) rest
      pure (.text (String.ofList s), rest)
    | '[' :: rest =>
      match skipSpace rest with
      | ']' :: after => .ok (.list [], after)
      | inside => do
        let (items, rest) ← readItems fuel inside
        pure (.list items, rest)
    | '{' :: rest =>
      match skipSpace rest with
      | '}' :: after => .ok (.map [], after)
      | inside => do
        let (members, rest) ← readMembers fuel inside
        pure (.map (Mapping.ofEntries members), rest)
    | other =>
      match word? other <|> number? other with
      | some found => .ok found
      | none => .error ⟨.value, other.length⟩

/-- The items of a list up to the closing bracket. -/
def readItems : Nat → List Char → Except Fault (List Value × List Char)
  | 0, cs => .error ⟨.value, cs.length⟩
  | fuel + 1, cs => do
    let (item, rest) ← readValue fuel cs
    match skipSpace rest with
    | ']' :: after => pure ([item], after)
    | ',' :: after => do
      let (items, tail) ← readItems fuel after
      pure (item :: items, tail)
    | other => .error ⟨.comma, other.length⟩

/-- The members of an object up to the closing brace. -/
def readMembers : Nat → List Char → Except Fault (List (Scalar × Value) × List Char)
  | 0, cs => .error ⟨.value, cs.length⟩
  | fuel + 1, cs =>
    match skipSpace cs with
    | '"' :: rest => do
      let (name, rest) ← stringBody (rest.length + 1) (rest.length + 1) rest
      match skipSpace rest with
      | ':' :: rest => do
        let (value, rest) ← readValue fuel rest
        let entry := (Scalar.text (String.ofList name), value)
        match skipSpace rest with
        | '}' :: after => pure ([entry], after)
        | ',' :: after => do
          let (entries, tail) ← readMembers fuel after
          pure (entry :: entries, tail)
        | other => .error ⟨.comma, other.length⟩
      | other => .error ⟨.colon, other.length⟩
    | other => .error ⟨.memberName, other.length⟩

end

/-- The value that a whole text holds. -/
def read (s : String) : Except Fault Value := do
  let cs := s.toList
  if cs.head? == some '\ufeff' then throw ⟨.mark, cs.length⟩
  let (value, rest) ← readValue (2 * cs.length + 2) cs
  let rest := skipSpace rest
  if rest.isEmpty then return value else throw ⟨.more, rest.length⟩

/-- The value that a whole text holds, if it is JSON. -/
def read? (s : String) : Option Value :=
  (read s).toOption

/-! ## Writing -/

/-- How JSON is written: what stands between neighbours and after the name of a
member, and whether all of it is visible ASCII. -/
structure Style where
  between : String
  afterName : String
  ascii : Bool
  deriving DecidableEq

namespace Style

/-- Without spaces. -/
def tight : Style := ⟨",", ":", false⟩

/-- With spaces, in ASCII. -/
def spaced : Style := ⟨", ", ": ", true⟩

end Style

/-- A character by its units of sixteen bits, of which it has one or two. -/
def unitEscapes (c : Char) : List Char :=
  let n := c.toNat
  let escape (unit : Nat) : List Char := '\\' :: 'u' :: Quoted.hex 4 unit
  if n < 0x10000 then escape n
  else escape (0xD800 + (n - 0x10000) / 0x400) ++ escape (0xDC00 + (n - 0x10000) % 0x400)

def writeChar (ascii : Bool) (c : Char) : List Char :=
  if c = '"' then ['\\', '"']
  else if c = '\\' then ['\\', '\\']
  else if c = '\n' then ['\\', 'n']
  else if c = '\r' then ['\\', 'r']
  else if c = '\t' then ['\\', 't']
  else if c = '\x08' then ['\\', 'b']
  else if c = '\x0c' then ['\\', 'f']
  else if c.toNat < 0x20 || (ascii && 0x7e < c.toNat) then unitEscapes c
  else [c]

def writeText (style : Style) (s : String) : String :=
  "\"" ++ String.ofList (s.toList.flatMap (writeChar style.ascii)) ++ "\""

/-- A scalar; dates and bytes have no form of their own and are left out. -/
def writeScalar (style : Style) : Scalar → String
  | .null => "null"
  | .bool b => if b then "true" else "false"
  | .int i => toString i
  | .float x =>
    if x.isNaN then "NaN"
    else if !x.isFinite then (if x.isNegative then "-Infinity" else "Infinity")
    else x.text
  | .text s => writeText style s
  | .date _ | .moment _ | .bytes _ => "null"

/-- The name that a key has in an object. -/
def memberName : Scalar → String
  | .text s => s
  | other => writeScalar .tight other

mutual

/-- JSON text in a style. -/
def writeIn (style : Style) : Value → String
  | .scalar s => writeScalar style s
  | .list items => "[" ++ writeItems style items ++ "]"
  | .map entries => "\x7b" ++ writeMembers style entries ++ "\x7d"
  | .set members => "[" ++ Text.join style.between (members.map (writeScalar style)) ++ "]"

def writeItems (style : Style) : List Value → String
  | [] => ""
  | [item] => writeIn style item
  | item :: rest => writeIn style item ++ style.between ++ writeItems style rest

def writeMembers (style : Style) : List (Scalar × Value) → String
  | [] => ""
  | [(key, value)] => writeMember style key value
  | (key, value) :: rest =>
    writeMember style key value ++ style.between ++ writeMembers style rest

def writeMember (style : Style) (key : Scalar) (value : Value) : String :=
  writeText style (memberName key) ++ style.afterName ++ writeIn style value

end

/-- JSON text without spaces. -/
def write (value : Value) : String := writeIn .tight value

end Json

end Ratchet
