import Ratchet.Text.Cut
import Ratchet.Text.Quoted

namespace Ratchet

/-!
# Paths

The text of a file path is brought into one form when it is read: repeated
slashes and components that are a single dot carry no meaning and are dropped,
and the empty path is written as a dot.  A component of two dots is kept,
since without looking at the disk nobody knows whether it crosses a link.
Exactly two leading slashes name a root of their own; any other positive
number of them names the usual one.
-/

/-- Where a path starts. -/
inductive Path.Root where
  | none
  | single
  | double
  deriving DecidableEq, Inhabited

/-- A file path, by its components. -/
structure Path where
  root : Path.Root
  parts : List String
  deriving DecidableEq, Inhabited

namespace Path

/-- The written form of a root. -/
def Root.text : Root → String
  | .none => ""
  | .single => "/"
  | .double => "//"

/-- The root that a text's leading slashes name. -/
def Root.ofLeading (slashes : Nat) : Root :=
  match slashes with
  | 0 => .none
  | 2 => .double
  | _ => .single

/-- A component that says something. -/
def isPart (component : String) : Bool :=
  component != "" && component != "."

/-- The path that a text names. -/
def ofText (s : String) : Path :=
  ⟨.ofLeading (s.toList.takeWhile (· == '/')).length, (Text.pieces '/' s).filter isPart⟩

/-- The written form of a path. -/
def text (p : Path) : String :=
  match p.root, p.parts with
  | .none, [] => "."
  | root, parts => root.text ++ Text.join "/" parts

/-- The shown form of a path inside a value. -/
def shown (p : Path) : String :=
  "PosixPath(" ++ Text.quoted p.text ++ ")"

def isAbsolute (p : Path) : Bool :=
  p.root != .none

/-- The second path as seen from the first one. -/
def join (base p : Path) : Path :=
  if p.isAbsolute then p else ⟨base.root, base.parts ++ p.parts⟩

/-- The last component, empty if there is none. -/
def name (p : Path) : String :=
  p.parts.getLast?.getD ""

/-- The path without its last component. -/
def parent (p : Path) : Path :=
  ⟨p.root, p.parts.dropLast⟩

/-- The paths above a path, nearest first. -/
def parents (p : Path) : List Path :=
  (List.range p.parts.length).map fun i => ⟨p.root, p.parts.take (p.parts.length - 1 - i)⟩

/-- The root, as a component of its own, and then the other components. -/
def components (p : Path) : List String :=
  if p.isAbsolute then p.root.text :: p.parts else p.parts

/-- The last dot of a name with something on both sides, as what stands before
and from it. -/
def cutSuffix (name : String) : String × String :=
  let cs := name.toList
  let tail := (cs.reverse.takeWhile (· != '.')).reverse
  let stem := cs.take (cs.length - tail.length - 1)
  if stem.isEmpty || tail.isEmpty || tail.length == cs.length then (name, "")
  else (String.ofList stem, String.ofList ('.' :: tail))

/-- The ending of the name, with its dot. -/
def suffix (p : Path) : String :=
  (cutSuffix p.name).2

/-- The name without its ending. -/
def stem (p : Path) : String :=
  (cutSuffix p.name).1

/-- Every ending of the name, each with its dot. -/
def suffixes (p : Path) : List String :=
  let cs := p.name.toList
  if cs.getLast? == some '.' then []
  else
    ((Text.pieces '.' (String.ofList (cs.dropWhile (· == '.')))).drop 1).map ("." ++ ·)

/-- The components with every pair of dots resolved against the one before
it. -/
def climb (built : List String) : List String → List String
  | [] => built
  | component :: rest =>
    climb (if component = ".." then built.dropLast else built ++ [component]) rest

/-- The absolute path without dots that a path names from a directory, on a
disk without links and with one root. -/
def resolve (directory p : Path) : Path :=
  ⟨.single, climb [] (directory.join p).parts⟩

end Path

end Ratchet
