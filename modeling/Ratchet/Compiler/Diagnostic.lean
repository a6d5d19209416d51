import Ratchet.Text.Blank
import Ratchet.Text.Digit

namespace Ratchet

/-!
# Diagnostic headers

The first line of a compiler diagnostic names a file, a place in it, a
category and a code, in one of two forms:

    src/app.ts(3,5): error TS2322: ...
    src/app.ts:3:5 - error TS2322: ...

The file's name ends where the rest of the line first has the form of such a
place with category and code, so names may hold parentheses and colons.
-/

namespace Diagnostic

/-- The text after one or more decimal digits. -/
def afterDigits? (cs : List Char) : Option (List Char) :=
  match cs with
  | [] => none
  | c :: rest => if Digit.isDigit c then some (rest.dropWhile Digit.isDigit) else none

/-- The text after one or more blanks. -/
def afterBlanks? (cs : List Char) : Option (List Char) :=
  match cs with
  | [] => none
  | c :: rest => if Blank.isBlank c then some (Blank.dropLeading rest) else none

/-- The text after an expected one. -/
def after? (expected cs : List Char) : Option (List Char) :=
  if expected.isPrefixOf cs then some (cs.drop expected.length) else none

/-- The categories of diagnostics. -/
def categories : List (List Char) :=
  ["error".toList, "warning".toList, "message".toList]

/-- The text after a place in either form. -/
def afterPlace? (cs : List Char) : Option (List Char) :=
  match cs with
  | '(' :: rest => do
    let rest ← after? [','] (← afterDigits? rest)
    after? [')', ':'] (← afterDigits? rest)
  | ':' :: rest => do
    let rest ← after? [':'] (← afterDigits? rest)
    after? ['-'] (← afterBlanks? (← afterDigits? rest))
  | _ => none

/-- True of a text that begins with a category and a code, after blanks. -/
def startsCode (cs : List Char) : Bool :=
  let cs := Blank.dropLeading cs
  categories.any fun category =>
    match after? category cs with
    | none => false
    | some rest =>
      (do afterDigits? (← after? ['T', 'S'] (← afterBlanks? rest))).isSome

/-- True of a text that begins with the part of a header that follows the
file's name. -/
def startsTail (cs : List Char) : Bool :=
  match afterPlace? cs with
  | some rest => startsCode rest
  | none => false

/-- The shortest beginning of a line, not empty and on one line, that a
header's tail follows.  `started` says whether a character has been passed. -/
def header? (started : Bool) : List Char → Option (List Char)
  | [] => none
  | c :: rest =>
    if started && startsTail (c :: rest) then some []
    else if c = '\n' then none
    else (header? true rest).map (c :: ·)

end Diagnostic

namespace FileName

/-- A name after any number of leading `./`. -/
def dropDots : List Char → List Char
  | '.' :: '/' :: rest => dropDots rest
  | cs => cs

/-- A backslash counts as a slash. -/
def slash (c : Char) : Char :=
  if c = '\\' then '/' else c

/-- The form in which file names are compared: without blanks around it, with
slashes, and without a leading `./`. -/
def normal (cs : List Char) : List Char :=
  dropDots ((Blank.strip cs).map slash)

/-- The form in which file names are compared. -/
def normalize (name : String) : String :=
  String.ofList (normal name.toList)

end FileName

namespace Diagnostic

/-- The file that a line of compiler output names, if the line is the header
of a diagnostic. -/
def file? (line : String) : Option String :=
  (header? false line.toList).map fun name => String.ofList (FileName.normal name)

end Diagnostic

end Ratchet
