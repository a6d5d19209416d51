import Ratchet.Calendar
import Ratchet.Template.Field
import Ratchet.Text.Case

namespace Ratchet

/-!
# Time patterns

The format of a moment: text in which a percent sign and a letter stand for a
part of the date or the time.  Between the two may stand flags (`-` for no
zeros, `_` for spaces, `0` for zeros, `^` for capitals, `#` for the other
case), a width and a modifier that changes nothing.  A sign with any other
letter, or at the end, stands for itself, brought to its width like any other
text.  A text that outgrows the room that its pattern is given is not written
at all.
-/

namespace Clock

def monthNames : List String :=
  ["January", "February", "March", "April", "May", "June", "July", "August", "September",
    "October", "November", "December"]

def dayNames : List String :=
  ["Monday", "Tuesday", "Wednesday", "Thursday", "Friday", "Saturday", "Sunday"]

/-- The year and the number of the week that a date belongs to when weeks
start on Monday and belong to the year that holds their Thursday. -/
def isoWeek (d : Date) : Int × Nat :=
  let thursday := Date.ofDays (d.toDays + 3 - d.weekday)
  (thursday.year, (thursday.dayOfYear - 1) / 7 + 1)

/-- What the flags for another case do to a text. -/
inductive Change where
  /-- Either flag asks for capitals. -/
  | capitals
  /-- One flag asks for capitals, and the other, which is the stronger, for
  small letters. -/
  | either
  | nothing

/-- What a letter stands for. -/
inductive Part where
  /-- A number with its least count of digits; a `spaced` one is filled with
  spaces unless a flag says otherwise. -/
  | number (n : Int) (digits : Nat) (spaced : Bool)
  | text (s : List Char) (change : Change)
  /-- Several parts by a pattern. -/
  | pattern (letters : List Char)
  /-- An empty text, which the flag for no zeros keeps from being filled. -/
  | blank
  | nothing

def upper (cs : List Char) : List Char := cs.map Case.capital

def lower (cs : List Char) : List Char := cs.map Case.small

/-- An offset from universal time, as hours and minutes. -/
def offsetText (seconds : Int) : List Char :=
  let minutes := seconds.natAbs / 60
  let two (n : Nat) : List Char := if n < 10 then '0' :: Nat.toDigits 10 n else Nat.toDigits 10 n
  (if seconds < 0 then '-' else '+') :: (two (minutes / 60) ++ two (minutes % 60))

/-- The part of a moment that a letter names. -/
def part? (m : Moment) (letter : Char) : Option Part :=
  let d := m.date
  let named (s : String) : Part := .text s.toList .capitals
  let month := monthNames[d.month - 1]?.getD ""
  let day := dayNames[d.weekday]?.getD ""
  let short (s : String) : String := String.ofList (s.toList.take 3)
  let hour12 : Nat := if m.hour % 12 = 0 then 12 else m.hour % 12
  let half := if m.hour < 12 then ['A', 'M'] else ['P', 'M']
  let sunday := (d.weekday + 1) % 7
  let elapsed := d.dayOfYear - 1
  let one (n : Int) : Part := .number n 1 false
  let two (n : Int) : Part := .number n 2 false
  let spaced (n : Int) : Part := .number n 2 true
  match letter with
  | 'Y' => some (one d.year)
  | 'C' => some (one (d.year.fdiv 100))
  | 'y' => some (two (d.year.fmod 100))
  | 'm' => some (two d.month)
  | 'd' => some (two d.day)
  | 'e' => some (spaced d.day)
  | 'j' => some (.number d.dayOfYear 3 false)
  | 'H' => some (two m.hour)
  | 'I' => some (two hour12)
  | 'k' => some (spaced m.hour)
  | 'l' => some (spaced hour12)
  | 'M' => some (two m.minute)
  | 'S' => some (two m.second)
  | 's' => some (.text (toString m.clockSeconds).toList .nothing)
  | 'u' => some (one (d.weekday + 1))
  | 'w' => some (one sunday)
  | 'U' => some (two ((elapsed + 7 - sunday) / 7 : Nat))
  | 'W' => some (two ((elapsed + 7 - d.weekday) / 7 : Nat))
  | 'V' => some (two (isoWeek d).2)
  | 'G' => some (one (isoWeek d).1)
  | 'g' => some (two ((isoWeek d).1.fmod 100))
  | 'B' => some (named month)
  | 'b' | 'h' => some (named (short month))
  | 'A' => some (named day)
  | 'a' => some (named (short day))
  | 'p' => some (.text half .either)
  | 'P' => some (.text (lower half) .nothing)
  | 'Z' => some .blank
  | 'z' => some .nothing
  | 'n' => some (.text ['\n'] .nothing)
  | 't' => some (.text ['\t'] .nothing)
  | '%' => some (.text ['%'] .nothing)
  | 'c' => some (.pattern "%a %b %e %H:%M:%S %Y".toList)
  | 'x' | 'D' => some (.pattern "%m/%d/%y".toList)
  | 'X' | 'T' => some (.pattern "%H:%M:%S".toList)
  | 'R' => some (.pattern "%H:%M".toList)
  | 'r' => some (.pattern "%I:%M:%S %p".toList)
  | 'F' => some (.pattern "%Y-%m-%d".toList)
  | _ => none

/-- The flags and the width written before a letter. -/
structure Style where
  fill : Option Char := none
  capitals : Bool := false
  swap : Bool := false
  width : Nat := 0

/-- A text with filling inside: what goes before it, and how often which
character fills. -/
structure Padded where
  lead : List Char := []
  count : Nat
  fill : Char
  body : List Char

namespace Padded

def length (p : Padded) : Nat := p.lead.length + p.count + p.body.length

def chars (p : Padded) : List Char := p.lead ++ List.replicate p.count p.fill ++ p.body

end Padded

/-- A text in a style, spaces going before it unless zeros are asked for. -/
def Style.ofText (style : Style) (cs : List Char) : Padded where
  count := style.width - cs.length
  fill := if style.fill = some '0' then '0' else ' '
  body := cs

/-- A number in a style. -/
def Style.ofNumber (style : Style) (n : Int) (digits : Nat) (spaced : Bool) : Padded :=
  let shown := Nat.toDigits 10 n.natAbs
  let sign : List Char := if n < 0 then ['-'] else []
  let missing := max digits style.width - sign.length - shown.length
  if style.fill = some '-' then style.ofText (sign ++ shown)
  else if style.fill = some '_' ∨ (spaced ∧ style.fill = none) then
    { count := missing, fill := ' ', body := sign ++ shown }
  else { lead := sign, count := missing, fill := '0', body := shown }

/-- A text after the flags for its case. -/
def Style.cased (style : Style) (change : Change) (cs : List Char) : List Char :=
  match change with
  | .nothing => cs
  | .capitals => if style.swap || style.capitals then upper cs else cs
  | .either => if style.swap then lower cs else if style.capitals then upper cs else cs

/-- The flags at the start of a text, the last filling winning. -/
def flags (style : Style) : List Char → Style × List Char
  | [] => (style, [])
  | c :: rest =>
    if c = '-' ∨ c = '_' ∨ c = '0' then flags { style with fill := some c } rest
    else if c = '^' then flags { style with capitals := true } rest
    else if c = '#' then flags { style with swap := true } rest
    else (style, c :: rest)

/-- The letters that may follow an `E` or an `O`, which ask for another
calendar or other digits and here change nothing. -/
def lettersAfter : Char → List Char
  | 'E' => "cnprstuxyzCPRTXYZ%".toList
  | _ => "bdeghjklmnprstuwyzBCGHIMPRSTUVWZ%".toList

/-- The style written after a percent sign, the `E` or `O` after it, and the
letter with what follows it. -/
def styled (cs : List Char) : Style × Option Char × List Char :=
  let (style, cs) := flags {} cs
  let width := cs.takeWhile Char.isDigit
  let style := { style with width := width.foldl (fun n c => n * 10 + (c.toNat - 48)) 0 }
  match cs.drop width.length with
  | c :: rest => if c = 'E' ∨ c = 'O' then (style, some c, rest) else (style, none, c :: rest)
  | [] => (style, none, [])

/-- The part that a letter after an `E` or an `O` stands for. -/
def partAfter? (m : Moment) (other : Option Char) (letter : Char) : Option Part :=
  match other with
  | some c => if (lettersAfter c).contains letter then part? m letter else none
  | none => part? m letter

/-- A sign that stands for itself, with all that is written after it up to its
letter; a letter that is a sign itself stands alone.  The letters of the month
names heed both flags for another case. -/
def Style.unknown (style : Style) (written : List Char) : Padded :=
  let cs := if written.getLast? = some '%' then ['%'] else '%' :: written
  let month := (written.getLast?).any (['b', 'h', 'B'].contains ·)
  style.ofText (if style.capitals || (style.swap && month) then upper cs else cs)

/-- The text of a pattern for a moment, if it is shorter than the room for it.
The fuel is spent once a character, and a letter that stands for a pattern
gives it the rest. -/
def render (m : Moment) : (fuel room : Nat) → List Char → Option (List Char)
  | 0, _, _ | _, _, [] => some []
  | fuel + 1, room, '%' :: rest =>
    let (style, other, rest') := styled rest
    let after := rest'.drop 1
    let put (p : Padded) : Option (List Char) :=
      if p.length < room then (render m fuel (room - p.length) after).map (p.chars ++ ·) else none
    match rest'.head?.bind (partAfter? m other) with
    | some (.number n digits spaced) => put (style.ofNumber n digits spaced)
    | some (.text cs change) => put (style.ofText (style.cased change cs))
    | some (.pattern letters) =>
      let whole := (render m fuel 100 letters).getD []
      put (style.ofText (if style.capitals then upper whole else whole))
    | some .blank =>
      put ({ style with width := if style.fill = some '-' then 0 else style.width }.ofText [])
    | some .nothing => render m fuel room after
    | none => put (style.unknown (rest.take (rest.length - after.length)))
  | fuel + 1, room, c :: rest =>
    if 1 < room then (render m fuel (room - 1) rest).map (c :: ·) else none

/-- A pattern with its microseconds and its plain marks of the zone replaced,
which is done before anything else in it is read.  A moment without a zone
leaves those marks empty. -/
def settled (m : Moment) : List Char → List Char
  | '%' :: letter :: rest =>
    (match letter with
      | 'f' => (Style.ofNumber {} m.microsecond 6 false).chars
      | 'z' => (m.offset.map offsetText).getD []
      | 'Z' => if m.offset.isSome then ['U', 'T', 'C'] else []
      | other => ['%', other]) ++ settled m rest
  | c :: rest => c :: settled m rest
  | [] => []

/-- The room for the text of a pattern: 1024 characters, or as many times
twice as much as it takes to allow 256 for each of the pattern's. -/
def roomFor (length : Nat) : Nat :=
  (List.range length).foldl (fun room _ => if room < 256 * length then 2 * room else room) 1024

/-- The text of a pattern for a moment. -/
def text (m : Moment) (pattern : List Char) : List Char :=
  let pattern := settled m (pattern.takeWhile (· != '\x00'))
  (render m (pattern.length + 64) (roomFor pattern.length) pattern).getD []

/-- The text of a moment without a pattern. -/
def plain (m : Moment) : List Char :=
  text m "%4Y-%m-%d %H:%M:%S".toList ++
    (if m.microsecond = 0 then [] else text m ".%f".toList) ++
    (match m.offset with
      | none => []
      | some seconds =>
        let digits := offsetText seconds
        digits.take 3 ++ ':' :: digits.drop 3)

end Clock

end Ratchet
