import Ratchet.Yaml.Error

namespace Ratchet

/-!
# Places in a document

A cursor is a place in a document: what lies ahead, and the line and column.
A document has no NUL character, which therefore stands for its end.
-/

namespace Yaml

/-- The characters a document may hold. -/
def isAllowed (c : Char) : Bool :=
  let n := c.toNat
  n == 0x09 || n == 0x0A || n == 0x0D || (0x20 ≤ n && n ≤ 0x7E) || n == 0x85 ||
    (0xA0 ≤ n && n ≤ 0xD7FF) || (0xE000 ≤ n && n ≤ 0xFFFD) || 0x10000 ≤ n

/-- The character that stands for the end. -/
def ending : Char := '\x00'

/-- A line break. -/
def isBreak (c : Char) : Bool :=
  c == '\n' || c == '\r' || c == '\x85' || c == '\u2028' || c == '\u2029'

/-- A line break or the end. -/
def isBreakOrEnd (c : Char) : Bool :=
  isBreak c || c == ending

/-- A line break, the end or a space. -/
def isGap (c : Char) : Bool :=
  isBreakOrEnd c || c == ' '

/-- A line break, the end, a space or a tab. -/
def isWideGap (c : Char) : Bool :=
  isGap c || c == '\t'

/-- A letter, a digit, a hyphen or an underscore. -/
def isWordChar (c : Char) : Bool :=
  c.isAlphanum || c == '-' || c == '_'

/-- A place in a document. -/
structure Cursor where
  ahead : List Char
  index : Nat := 0
  line : Nat := 0
  column : Nat := 0

namespace Cursor

/-- The character a number of places ahead. -/
def peek (c : Cursor) (n : Nat) : Char :=
  c.ahead[n]?.getD ending

/-- The place after the next character. -/
def step (c : Cursor) : Cursor :=
  match c.ahead with
  | [] => c
  | x :: rest =>
    let ends := x == '\n' || x == '\x85' || x == '\u2028' || x == '\u2029' ||
      (x == '\r' && rest.head? != some '\n')
    if ends then ⟨rest, c.index + 1, c.line + 1, 0⟩
    else if x == '\uFEFF' then ⟨rest, c.index + 1, c.line, c.column⟩
    else ⟨rest, c.index + 1, c.line, c.column + 1⟩

/-- The place a number of characters further on. -/
def forward (c : Cursor) : Nat → Cursor
  | 0 => c
  | n + 1 => c.step.forward n

end Cursor

/-- Reading that moves on and may find a fault. -/
abbrev Scan := StateT Cursor (Except Error)

namespace Scan

def malformed {α : Type} : Scan α := throw .malformed

/-- The present place. -/
def here : Scan Cursor := get

/-- The next character. -/
def peek : Scan Char := do return (← get).peek 0

/-- The character a number of places ahead. -/
def peekAt (n : Nat) : Scan Char := do return (← get).peek n

def skip (n : Nat) : Scan Unit := modify fun c => c.forward n

/-- The longest run of characters of a class, which is passed. -/
def run (p : Char → Bool) : Scan (List Char) := do
  let cs := (← get).ahead.takeWhile p
  skip cs.length
  return cs

/-- Passes spaces. -/
def spaces : Scan Unit := do
  let _ ← run (· == ' ')

/-- Passes a character that must be there. -/
def expect (c : Char) : Scan Unit := do
  if (← peek) != c then malformed
  skip 1

/-- Passes one line break, if there is one, and gives its normal form. -/
def lineBreak : Scan (List Char) := do
  let c ← peek
  if c == '\r' && (← peekAt 1) == '\n' then
    skip 2
    return ['\n']
  else if c == '\r' || c == '\n' || c == '\x85' then
    skip 1
    return ['\n']
  else if c == '\u2028' || c == '\u2029' then
    skip 1
    return [c]
  else return []

/-- Passes a comment up to the end of its line. -/
def comment : Scan Unit := do
  if (← peek) == '#' then
    let _ ← run fun c => !isBreakOrEnd c

/-- True at a mark between documents. -/
def atMark : Scan Bool := do
  let c ← get
  let mark := c.ahead.take 3
  return (mark == ['-', '-', '-'] || mark == ['.', '.', '.']) && isWideGap (c.peek 3)

/-- Characters enough to bound any loop from here on. -/
def fuel : Scan Nat := do return (← get).ahead.length + 1

end Scan

end Yaml

end Ratchet
