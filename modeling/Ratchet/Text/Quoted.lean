import Ratchet.Text.Printable

namespace Ratchet

/-!
# Quoted and escaped text

Two ways to write a text so that it stays on one line.

*Quoting* puts a text between quotation marks, escapes the mark and the
backslash, and writes every character without a visible form by its code
point; it uses single marks unless the text holds a single mark and no double
one.  *Escaping* writes no marks, and writes every character outside the
visible ASCII range by its code point.
-/

namespace Quoted

/-- One hexadecimal digit, in lower case. -/
def hexDigit (n : Nat) : Char :=
  if n % 16 < 10 then Char.ofNat (48 + n % 16) else Char.ofNat (87 + n % 16)

/-- The lowest `width` hexadecimal digits of a number. -/
def hex : Nat → Nat → List Char
  | 0, _ => []
  | width + 1, n => hex width (n / 16) ++ [hexDigit n]

/-- A character by its code point, in the shortest of the three forms. -/
def codePoint (c : Char) : List Char :=
  let n := c.toNat
  if n < 0x100 then '\\' :: 'x' :: hex 2 n
  else if n < 0x10000 then '\\' :: 'u' :: hex 4 n
  else '\\' :: 'U' :: hex 8 n

/-- The escapes that have a letter of their own. -/
def lettered? (c : Char) : Option (List Char) :=
  if c = '\n' then some ['\\', 'n']
  else if c = '\r' then some ['\\', 'r']
  else if c = '\t' then some ['\\', 't']
  else if c = '\\' then some ['\\', '\\']
  else none

/-- One character of a quoted text.  With `ascii` no character outside ASCII
is shown as itself. -/
def quoteChar (ascii : Bool) (mark c : Char) : List Char :=
  match lettered? c with
  | some escape => escape
  | none =>
    if c = mark then ['\\', c]
    else if Printable.isPrintable c && (!ascii || c.toNat < 0x80) then [c]
    else codePoint c

/-- The mark that needs the fewest escapes. -/
def markFor (cs : List Char) : Char :=
  if cs.contains '\'' && !cs.contains '"' then '"' else '\''

/-- A text between quotation marks. -/
def quote (ascii : Bool) (cs : List Char) : List Char :=
  let mark := markFor cs
  mark :: (cs.flatMap (quoteChar ascii mark) ++ [mark])

/-- One character of an escaped text. -/
def escapeChar (c : Char) : List Char :=
  match lettered? c with
  | some escape => escape
  | none => if 0x20 ≤ c.toNat && c.toNat < 0x7f then [c] else codePoint c

/-- A text of visible ASCII characters only. -/
def escape (cs : List Char) : List Char :=
  cs.flatMap escapeChar

end Quoted

namespace Text

/-- The text between quotation marks, on one line. -/
def quoted (s : String) : String :=
  String.ofList (Quoted.quote false s.toList)

/-- The text between quotation marks, in ASCII. -/
def quotedAscii (s : String) : String :=
  String.ofList (Quoted.quote true s.toList)

/-- The text in visible ASCII characters, without marks. -/
def escaped (s : String) : String :=
  String.ofList (Quoted.escape s.toList)

end Text

end Ratchet
