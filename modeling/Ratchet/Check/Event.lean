import Ratchet.Change.Revision

namespace Ratchet

/-!
# Events

What a run of the check tells its listener: first the fork point, then the
changed files, then for each included file that it is being looked at and what
was found.
-/

/-- Something that happened during a check. -/
inductive Event where
  /-- Changes are measured from a revision, if one is known. -/
  | since (revision : Option Revision)
  /-- The changed files of a supported kind, before exclusions. -/
  | changed (files : List String)
  /-- A file is about to be looked at. -/
  | examine (file : String)
  /-- The verdict on a file. -/
  | verdict (file : String) (failing : Bool) (diagnostics : List String)
  deriving DecidableEq

namespace Event

/-- The kinds of events, by the names that reports give them. -/
inductive Kind where
  | foundSinceRevision
  | foundChangedFiles
  | examineFile
  | checkFile
  deriving DecidableEq, Inhabited

namespace Kind

def all : List Kind :=
  [.foundSinceRevision, .foundChangedFiles, .examineFile, .checkFile]

def name : Kind → String
  | .foundSinceRevision => "found_since_revision"
  | .foundChangedFiles => "found_changed_files"
  | .examineFile => "examine_file"
  | .checkFile => "check_file"

/-- The kind of a name. -/
def named? (name : String) : Option Kind :=
  all.find? fun kind => kind.name == name

end Kind

def kind : Event → Kind
  | .since _ => .foundSinceRevision
  | .changed _ => .foundChangedFiles
  | .examine _ => .examineFile
  | .verdict .. => .checkFile

end Event

end Ratchet
