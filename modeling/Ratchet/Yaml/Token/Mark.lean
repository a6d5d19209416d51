import Ratchet.Yaml.Cursor
import Ratchet.Yaml.Token

namespace Ratchet

/-!
# Directives, anchors and tags

The tokens that say something about what follows them.
-/

namespace Yaml

open Scan

namespace Mark

/-! ## Tags -/

/-- A character of a tag that stands for itself. -/
def isTagChar (c : Char) : Bool :=
  c.isAlphanum || ['-', ';', '/', '?', ':', '@', '&', '=', '+', '$', ',', '_', '.', '!', '~', '*',
    '\'', '(', ')', '[', ']'].contains c

/-- Octets written with percent signs. -/
def octets : Nat → Scan (List UInt8)
  | 0 => return []
  | fuel + 1 => do
    if (← peek) != '%' then return []
    skip 1
    let digits := (← here).ahead.take 2
    match digits.mapM fun c =>
        if c.isDigit then some (c.toNat - 48)
        else if 'a' ≤ c && c ≤ 'f' then some (c.toNat - 87)
        else if 'A' ≤ c && c ≤ 'F' then some (c.toNat - 55)
        else none with
    | some [high, low] =>
      skip 2
      return (high * 16 + low).toUInt8 :: (← octets fuel)
    | _ => malformed

/-- The characters of a tag. -/
def tagBody : Nat → Scan (List Char)
  | 0 => return []
  | fuel + 1 => do
    let c ← peek
    if c == '%' then
      match String.fromUTF8? (ByteArray.mk (← octets (← Scan.fuel)).toArray) with
      | some s => return s.toList ++ (← tagBody fuel)
      | none => malformed
    else if isTagChar c then
      skip 1
      return c :: (← tagBody fuel)
    else return []

/-- The characters of a tag, of which there must be one. -/
def tagText : Scan String := do
  let cs ← tagBody (← fuel)
  if cs.isEmpty then malformed
  return String.ofList cs

/-- The handle of a tag, from one exclamation mark to the next. -/
def tagHandle : Scan String := do
  expect '!'
  if (← peek) == ' ' then return "!"
  let word ← run isWordChar
  if (← peek) == '!' then
    skip 1
    return String.ofList ('!' :: word ++ ['!'])
  else malformed

/-- True if an exclamation mark follows the first one before the next gap. -/
def hasHandle (cs : List Char) : Bool :=
  (cs.drop 1).takeWhile (fun c => !isGap c) |>.contains '!'

/-- A tag. -/
def tag : Scan Token := do
  let next ← peekAt 1
  let token ←
    if next == '<' then do
      skip 2
      let suffix ← tagText
      expect '>'
      pure (.tag none suffix)
    else if isWideGap next then do
      skip 1
      pure (.tag none "!")
    else if hasHandle (← here).ahead then do
      let handle ← tagHandle
      pure (.tag (some handle) (← tagText))
    else do
      skip 1
      pure (.tag (some "!") (← tagText))
  if !isGap (← peek) then malformed
  return token

/-! ## Anchors -/

/-- The name after the sign of an anchor or an alias. -/
def name : Scan String := do
  skip 1
  let word ← run isWordChar
  if word.isEmpty then malformed
  let c ← peek
  if !isWideGap c && !(['?', ':', ',', ']', '}', '%', '@', '`'].contains c) then malformed
  return String.ofList word

/-! ## Directives -/

/-- A number of a version. -/
def versionNumber : Scan Nat := do
  let digits ← run Char.isDigit
  if digits.isEmpty then malformed
  return digits.foldl (fun n c => n * 10 + (c.toNat - 48)) 0

/-- The beginning that a directive gives to tags with a handle. -/
def tagDirective : Scan Token := do
  spaces
  let handle ← tagHandle
  if (← peek) != ' ' then malformed
  spaces
  let start ← tagText
  if !isGap (← peek) then malformed
  return .tagDirective handle start

/-- A directive, to the end of its line. -/
def directive : Scan Token := do
  skip 1
  let word ← run isWordChar
  if word.isEmpty then malformed
  if !isGap (← peek) then malformed
  let token ←
    if word == "YAML".toList then do
      spaces
      let major ← versionNumber
      expect '.'
      let minor ← versionNumber
      if !isGap (← peek) then malformed
      pure (.versionDirective major minor)
    else if word == "TAG".toList then tagDirective
    else do
      let _ ← run fun c => !isBreakOrEnd c
      pure .otherDirective
  spaces
  comment
  if !isBreakOrEnd (← peek) then malformed
  let _ ← lineBreak
  return token

end Mark

end Yaml

end Ratchet
