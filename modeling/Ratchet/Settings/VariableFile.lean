import Ratchet.Text.Blank
import Ratchet.Text.Cut

namespace Ratchet

/-!
# Files of variables

A line `NAME=value` sets a variable; `export` before the name is allowed and
means nothing.  The value may stand in quotes of either kind, with backslash
escapes and over several lines, or without quotes up to a comment.  A name
alone is a variable without value.  A line that is none of this is passed
over.

In a value `$\x7bNAME\x7d` stands for another variable, one set earlier in the
file or else one of the environment, and `$\x7bNAME:-text\x7d` for the text
where there is no such variable.
-/

namespace VariableFile

/-- White space inside a line. -/
def isInline (c : Char) : Bool :=
  Blank.isBlank c && c != '\n' && c != '\r'

def isLineEnd (c : Char) : Bool := c == '\n' || c == '\r'

/-- The text after the end of the line at its start, if nothing but white
space and a comment comes first. -/
def afterLine? (cs : List Char) : Option (List Char) :=
  let rest := cs.dropWhile isInline
  let rest := match rest with
    | '#' :: _ => rest.dropWhile fun c => !isLineEnd c
    | _ => rest
  match rest with
  | [] => some []
  | c :: after => if isLineEnd c then some after else none

/-- A name and what follows it; a comment has no name. -/
def name? (cs : List Char) : Option (Option String × List Char) :=
  match cs with
  | '#' :: _ => some (none, cs)
  | '\'' :: rest =>
    match Cut.atFirst? '\'' rest with
    | some (name, after) => if name.isEmpty then none else some (some (String.ofList name), after)
    | none => none
  | _ =>
    let isPart (c : Char) : Bool := c != '=' && c != '#' && !Blank.isBlank c
    let name := cs.takeWhile isPart
    if name.isEmpty then none else some (some (String.ofList name), cs.dropWhile isPart)

/-- A quoted value after its opening mark, and what follows its closing one.  A
mark after a backslash does not close unless there is no other, but two
backslashes stand for one, which says nothing about a mark after it. -/
def quoted? (mark : Char) : List Char → Option (List Char × List Char)
  | [] => none
  | '\\' :: '\\' :: rest =>
    (quoted? mark rest).map fun (content, after) => ('\\' :: '\\' :: content, after)
  | '\\' :: c :: rest =>
    if c = mark then
      match quoted? mark rest with
      | some (content, after) => some ('\\' :: c :: content, after)
      | none => some (['\\'], rest)
    else (quoted? mark (c :: rest)).map fun (content, after) => ('\\' :: content, after)
  | c :: rest =>
    if c = mark then some ([], rest)
    else (quoted? mark rest).map fun (content, after) => (c :: content, after)

/-- What a character stands for after a backslash in double quotes. -/
def escaped? : Char → Option Char
  | '\\' => some '\\'
  | '\'' => some '\''
  | '"' => some '"'
  | 'a' => some '\x07'
  | 'b' => some '\x08'
  | 'f' => some '\x0c'
  | 'n' => some '\n'
  | 'r' => some '\r'
  | 't' => some '\t'
  | 'v' => some '\x0b'
  | _ => none

/-- The same in single quotes. -/
def escapedInSingle? (c : Char) : Option Char :=
  if c = '\\' ∨ c = '\'' then some c else none

/-- A text with its backslash escapes replaced. -/
def unescaped (meaning? : Char → Option Char) : List Char → List Char
  | [] => []
  | [c] => [c]
  | c :: d :: rest =>
    if c = '\\' then
      match meaning? d with
      | some e => e :: unescaped meaning? rest
      | none => c :: unescaped meaning? (d :: rest)
    else c :: unescaped meaning? (d :: rest)

/-- A text up to a `#` after white space. -/
def beforeComment : (afterBlank : Bool) → List Char → List Char
  | _, [] => []
  | afterBlank, c :: rest =>
    if afterBlank && c == '#' then [] else c :: beforeComment (Blank.isBlank c) rest

/-- The value after an equals sign, and what follows it. -/
def value? (cs : List Char) : Option (List Char × List Char) :=
  match cs with
  | '\'' :: rest =>
    (quoted? '\'' rest).map fun (content, after) => (unescaped escapedInSingle? content, after)
  | '"' :: rest =>
    (quoted? '"' rest).map fun (content, after) => (unescaped escaped? content, after)
  | _ =>
    let line := cs.takeWhile fun c => !isLineEnd c
    some (Blank.dropTrailing (beforeComment false line), cs.dropWhile fun c => !isLineEnd c)

/-- The text after an `export` and white space. -/
def afterExport (cs : List Char) : List Char :=
  let word := "export".toList
  if word.isPrefixOf cs then
    let rest := cs.drop word.length
    let after := rest.dropWhile isInline
    if after.length < rest.length then after else cs
  else cs

/-- A variable as written: its name and its value, where it has one. -/
abbrev Line := String × Option (List Char)

/-- The variable at the start of the text, if the line sets one, and what
follows the line.  If the line has none of the known forms, the text from where
that shows. -/
def line (cs : List Char) : Except (List Char) (Option Line × List Char) := do
  let start := afterExport cs
  let (name, rest) ← (name? start).elim (throw start) pure
  let rest := rest.dropWhile isInline
  let (value, rest) ← match rest with
    | '=' :: more =>
      let written := more.dropWhile isInline
      (value? written).elim (throw written) fun (v, after) => pure (some v, after)
    | _ => pure (none, rest)
  let after ← (afterLine? rest).elim (throw rest) pure
  return (name.map fun name => (name, value), after)

/-- The text after the line at its start. -/
def passLine (cs : List Char) : List Char :=
  (cs.dropWhile fun c => !isLineEnd c).drop 1

/-- All variables as written.  The fuel is spent once a line. -/
def lines : Nat → List Char → List Line
  | 0, _ => []
  | fuel + 1, cs =>
    match cs.dropWhile Blank.isBlank with
    | [] => []
    | start =>
      match line start with
      | .ok (some found, rest) => found :: lines fuel rest
      | .ok (none, rest) => lines fuel rest
      | .error rest => lines fuel (passLine rest)

/-- The name between braces, the text for want of it, and what follows the
closing brace. -/
def reference? (cs : List Char) : Option (List Char × List Char × List Char) :=
  let isPart (c : Char) : Bool := c != '}' && c != ':'
  let name := cs.takeWhile isPart
  match cs.dropWhile isPart with
  | '}' :: rest => some (name, [], rest)
  | ':' :: '-' :: more => (Cut.atFirst? '}' more).map fun (usual, rest) => (name, usual, rest)
  | _ => none

/-- A value with its references replaced.  A variable without value stands for
the empty text.  The fuel is spent once a character. -/
def filled (known : String → Option (Option String)) : Nat → List Char → List Char
  | 0, cs => cs
  | _, [] => []
  | fuel + 1, c :: rest =>
    let found := match c, rest with
      | '$', '{' :: more => reference? more
      | _, _ => none
    match found with
    | some (name, usual, after) =>
      (match known (String.ofList name) with
        | some (some text) => text.toList
        | some none => []
        | none => usual) ++ filled known fuel after
    | none => c :: filled known fuel rest

/-- The variables of a file, each with its value where it has one.  A name set
twice has its later value. -/
def read (environment : String → Option String) (text : String) :
    List (String × Option String) :=
  (lines (text.length + 1) text.toList).foldl (fun built (name, value) =>
    let known (other : String) : Option (Option String) :=
      match built.lookup other with
      | some found => some found
      | none => (environment other).map some
    let result := value.map fun cs => String.ofList (filled known cs.length cs)
    if (built.lookup name).isSome then
      built.map fun entry => if entry.1 == name then (name, result) else entry
    else built ++ [(name, result)]) []

end VariableFile

end Ratchet
