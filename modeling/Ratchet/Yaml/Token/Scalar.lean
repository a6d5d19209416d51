import Ratchet.Yaml.Cursor

namespace Ratchet

/-!
# Scalars of a document

How the texts of plain, quoted and block scalars are read.  A single line
break inside a plain or quoted scalar becomes a space, and each further one
stays; in block scalars this holds of folded ones only.
-/

namespace Yaml

open Scan

namespace Scalar

/-- The space or the breaks that some line breaks become. -/
def folded (first : List Char) (further : List (List Char)) : List Char :=
  (if first != ['\n'] then first else if further.isEmpty then [' '] else []) ++ further.flatten

/-! ## Plain scalars -/

/-- The characters that end a part of a plain scalar: a gap, a colon before a
gap, and inside flow collections their own marks. -/
def plainPart (inFlow : Bool) : List Char → List Char
  | [] => []
  | c :: rest =>
    let next := rest.headD ending
    let colonEnds := isWideGap next || (inFlow && [',', '[', ']', '{', '}'].contains next)
    if isWideGap c || (c == ':' && colonEnds) ||
        (inFlow && [',', '?', '[', ']', '{', '}'].contains c) then []
    else c :: plainPart inFlow rest

/-- Breaks and spaces after a line break of a plain scalar; nothing if a mark
between documents is met. -/
def plainBreaks : Nat → Scan (Option (List (List Char)))
  | 0 => return some []
  | fuel + 1 => do
    let c ← peek
    if c == ' ' then
      skip 1
      plainBreaks fuel
    else if isBreak c then
      let broken ← lineBreak
      if ← atMark then return none
      return (← plainBreaks fuel).map (broken :: ·)
    else return some []

/-- What separates two parts of a plain scalar, and whether a line ended.
Nothing ends the scalar. -/
def plainGap : Scan (List Char × Bool) := do
  let blanks ← run (· == ' ')
  if isBreak (← peek) then
    let first ← lineBreak
    if ← atMark then return ([], true)
    match ← plainBreaks (← fuel) with
    | none => return ([], true)
    | some further => return (folded first further, true)
  else return (blanks, false)

/-- The rest of a plain scalar after a gap, and whether a line ended in
it. -/
def plainRest (inFlow : Bool) (indent : Int) : Nat → List Char → Scan (List Char × Bool)
  | 0, _ => return ([], false)
  | fuel + 1, gap => do
    if (← peek) == '#' then return ([], false)
    let part := plainPart inFlow (← get).ahead
    if part.isEmpty then return ([], false)
    skip part.length
    let (next, ended) ← plainGap
    let start := gap ++ part
    if next.isEmpty || (← peek) == '#' || (!inFlow && ((← get).column : Int) < indent) then
      return (start, ended)
    let (rest, endedLater) ← plainRest inFlow indent fuel next
    if rest.isEmpty then return (start, ended)
    return (start ++ rest, endedLater)

/-- A plain scalar in a block of an indentation, and whether a line ended at
its end. -/
def plain (inFlow : Bool) (indent : Int) : Scan (List Char × Bool) := do
  plainRest inFlow (indent + 1) (← fuel) []

/-! ## Quoted scalars -/

/-- The characters that a letter after a backslash stands for. -/
def escape? (c : Char) : Option Char :=
  match c with
  | '0' => some '\x00'
  | 'a' => some '\x07'
  | 'b' => some '\x08'
  | 't' | '\t' => some '\t'
  | 'n' => some '\n'
  | 'v' => some '\x0b'
  | 'f' => some '\x0c'
  | 'r' => some '\r'
  | 'e' => some '\x1b'
  | ' ' => some ' '
  | '"' => some '"'
  | '\\' => some '\\'
  | '/' => some '/'
  | 'N' => some '\x85'
  | '_' => some '\xa0'
  | 'L' => some '\u2028'
  | 'P' => some '\u2029'
  | _ => none

/-- How many hexadecimal digits follow a letter after a backslash. -/
def codeLength? (c : Char) : Option Nat :=
  match c with
  | 'x' => some 2
  | 'u' => some 4
  | 'U' => some 8
  | _ => none

/-- The value of a hexadecimal digit. -/
def hexValue? (c : Char) : Option Nat :=
  if c.isDigit then some (c.toNat - 48)
  else if 'a' ≤ c && c ≤ 'f' then some (c.toNat - 87)
  else if 'A' ≤ c && c ≤ 'F' then some (c.toNat - 55)
  else none

def hexNumber? (cs : List Char) : Option Nat :=
  cs.foldlM (fun n c => (hexValue? c).map (n * 16 + ·)) 0

/-- Line breaks and blanks inside a quoted scalar. -/
def quotedBreaks : Nat → Scan (List (List Char))
  | 0 => return []
  | fuel + 1 => do
    if ← atMark then malformed
    let _ ← run fun c => c == ' ' || c == '\t'
    if isBreak (← peek) then
      let broken ← lineBreak
      return broken :: (← quotedBreaks fuel)
    else return []

/-- The blanks of a quoted scalar, folded if they hold a line break. -/
def quotedGap : Scan (List Char) := do
  let blanks ← run fun c => c == ' ' || c == '\t'
  let c ← peek
  if c == ending then malformed
  else if isBreak c then
    let first ← lineBreak
    let further ← quotedBreaks (← fuel)
    return folded first further
  else return blanks

/-- What a backslash in a scalar between double quotes begins. -/
def quotedEscape : Scan (List Char) := do
  skip 1
  let c ← peek
  match escape? c with
  | some character =>
    skip 1
    return [character]
  | none =>
    match codeLength? c with
    | some count =>
      skip 1
      let digits := (← get).ahead.take count
      match hexNumber? digits with
      | none => malformed
      | some n =>
        if digits.length < count then malformed
        if 0x80000000 ≤ n then throw .characterTooLarge
        if 0x110000 ≤ n then throw .character
        skip count
        return [Char.ofNat n]
    | none =>
      if isBreak c then
        let _ ← lineBreak
        return (← quotedBreaks (← fuel)).flatten
      else malformed

/-- The text of a quoted scalar up to its closing mark. -/
def quotedBody (mark : Char) : Nat → Scan (List Char)
  | 0 => malformed
  | fuel + 1 => do
    let c ← peek
    if c == mark then
      if mark == '\'' && (← peekAt 1) == '\'' then
        skip 2
        return '\'' :: (← quotedBody mark fuel)
      skip 1
      return []
    let part ←
      if isWideGap c then quotedGap
      else if mark == '"' && c == '\\' then quotedEscape
      else do
        skip 1
        pure [c]
    return part ++ (← quotedBody mark fuel)

/-- A scalar between quotation marks. -/
def quoted : Scan (List Char) := do
  let mark ← peek
  skip 1
  quotedBody mark (← fuel)

/-! ## Block scalars -/

/-- What happens to the line breaks at the end of a block scalar. -/
inductive Chomping where
  | strip
  | clip
  | keep
  deriving DecidableEq

def chomping? (c : Char) : Option Chomping :=
  if c = '+' then some .keep else if c = '-' then some .strip else none

/-- The indentation that a block scalar states. -/
def indentationMark : Scan (Option Nat) := do
  let c ← peek
  if c.isDigit then
    if c == '0' then malformed
    skip 1
    return some (c.toNat - 48)
  else return none

/-- The marks after the sign of a block scalar, in either order. -/
def blockHeader : Scan (Chomping × Option Nat) := do
  match chomping? (← peek) with
  | some chomping =>
    skip 1
    let indentation ← indentationMark
    if !isGap (← peek) then malformed
    return (chomping, indentation)
  | none =>
    let indentation ← indentationMark
    let chomping ← match chomping? (← peek) with
      | some chomping => if indentation.isSome then do skip 1; pure chomping else pure .clip
      | none => pure .clip
    if !isGap (← peek) then malformed
    return (chomping, indentation)

/-- The rest of the line after a block scalar's marks. -/
def blockHeaderEnd : Scan Unit := do
  spaces
  comment
  if !isBreakOrEnd (← peek) then malformed
  let _ ← lineBreak

/-- Leading line breaks of a block scalar and the deepest column among
them. -/
def blockIndentation : Nat → Nat → Scan (List (List Char) × Nat)
  | 0, deepest => return ([], deepest)
  | fuel + 1, deepest => do
    let c ← peek
    if c == ' ' then
      skip 1
      blockIndentation fuel (max deepest (← get).column)
    else if isBreak c then
      let broken ← lineBreak
      let (breaks, deepest) ← blockIndentation fuel deepest
      return (broken :: breaks, deepest)
    else return ([], deepest)

/-- Passes spaces up to a column. -/
def indentTo (indent : Nat) : Nat → Scan Unit
  | 0 => return ()
  | fuel + 1 => do
    if (← get).column < indent && (← peek) == ' ' then
      skip 1
      indentTo indent fuel

/-- Line breaks between the lines of a block scalar. -/
def blockBreaks (indent : Nat) : Nat → Scan (List (List Char))
  | 0 => return []
  | fuel + 1 => do
    indentTo indent (indent + 1)
    if isBreak (← peek) then
      let broken ← lineBreak
      return broken :: (← blockBreaks indent fuel)
    else return []

/-- The lines of a block scalar after some line breaks. -/
def blockLines (isFolded : Bool) (chomping : Chomping) (indent : Nat) :
    Nat → (lastBreak : List Char) → (breaks : List (List Char)) → Scan (List Char)
  | 0, _, _ => return []
  | fuel + 1, lastBreak, breaks => do
    if (← get).column == indent && (← peek) != ending then
      let solid (c : Char) : Bool := c != ' ' && c != '\t'
      let starts := solid (← peek)
      let line ← run fun c => !isBreakOrEnd c
      let broken ← lineBreak
      let further ← blockBreaks indent (← Scan.fuel)
      let next ← peek
      let joint : List Char :=
        if (← get).column == indent && next != ending then
          if isFolded && broken == ['\n'] && starts && solid next then
            (if further.isEmpty then [' '] else [])
          else broken
        else []
      let rest ← blockLines isFolded chomping indent fuel broken further
      return breaks.flatten ++ line ++ joint ++ rest
    else
      return match chomping with
        | .strip => []
        | .clip => lastBreak
        | .keep => lastBreak ++ breaks.flatten

/-- A block scalar inside a block of an indentation. -/
def block (indent : Int) : Scan (List Char) := do
  let isFolded := (← peek) == '>'
  skip 1
  let (chomping, stated) ← blockHeader
  blockHeaderEnd
  let least := max (indent + 1).toNat 1
  let (breaks, column) ← match stated with
    | none => do
      let (breaks, deepest) ← blockIndentation (← fuel) 0
      pure (breaks, max least deepest)
    | some extra => do
      let column := least + extra - 1
      pure (← blockBreaks column (← fuel), column)
  blockLines isFolded chomping column (← fuel) [] breaks

end Scalar

end Yaml

end Ratchet
