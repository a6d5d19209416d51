namespace Ratchet

/-!
# Lines

A text is cut at every line boundary that a terminal or an editor may honour:
the newline, the carriage return (one boundary together with a newline after
it), vertical tab, form feed, three information separators, the next-line
control and the two Unicode separators.  A text that ends in a boundary has
no empty last line.
-/

namespace Lines

/-- The characters that end a line on their own. -/
def isBreak (c : Char) : Bool :=
  let n := c.toNat
  (10 ≤ n && n ≤ 13) || (28 ≤ n && n ≤ 30) || n == 0x85 || n == 0x2028 || n == 0x2029

/-- The lines of a text, without their boundaries. -/
def split : List Char → List (List Char)
  | [] => []
  | '\r' :: '\n' :: rest => [] :: split rest
  | c :: rest =>
    if isBreak c then [] :: split rest
    else
      match split rest with
      | [] => [[c]]
      | line :: lines => (c :: line) :: lines

end Lines

namespace Text

/-- The lines of a text, without their boundaries. -/
def lines (s : String) : List String :=
  (Lines.split s.toList).map String.ofList

end Text

end Ratchet
