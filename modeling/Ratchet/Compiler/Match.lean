import Ratchet.Compiler.Diagnostic
import Ratchet.Text.Cut

namespace Ratchet

/-!
# Attribution of lines to files

Two ways to decide whether a line of compiler output is about a file.  The
lenient one asks only that the file's name occurs in the line, so `a.ts` also
takes lines about `data.ts`.  The exact one asks that the line is the header
of a diagnostic and names just this file.
-/

/-- How lines are attributed to files. -/
inductive MatchMode where
  | substring
  | exact
  deriving DecidableEq, Inhabited

namespace MatchMode

def all : List MatchMode := [.substring, .exact]

def name : MatchMode → String
  | .substring => "substring"
  | .exact => "exact"

/-- The name of a mode where modes are listed by capitals. -/
def memberName : MatchMode → String
  | .substring => "SUBSTRING"
  | .exact => "EXACT"

/-- The mode of a name. -/
def named? (name : String) : Option MatchMode :=
  all.find? fun mode => mode.name == name

/-- True when a line is about a file. -/
def accepts (mode : MatchMode) (file line : String) : Bool :=
  match mode with
  | .exact => Diagnostic.file? line == some (FileName.normalize file)
  | .substring => Text.contains line file

/-- The lines about a file, in order. -/
def linesAbout (mode : MatchMode) (file : String) (lines : List String) : List String :=
  lines.filter (mode.accepts file)

end MatchMode

end Ratchet
