import Ratchet.Text.Cut

namespace Ratchet

/-!
# Working tree status

The status command lists one record for each path that differs: a code of two
characters, one for the index and one for the working tree, a blank and the
path.  A record about a renamed or copied path names the new path, and the
path it came from follows as an entry of its own.  Every entry ends in a NUL
character.

A record contributes its path to the lists of a status: added paths and the
new names of moved ones are created, changed ones are modified, unknown ones
are untracked.  A deletion adds a path to none of the lists and keeps it out of
none, and the paths that moved ones came from are left out.
-/

/-- The paths touched in the working tree. -/
structure Status where
  created : List String
  modified : List String
  untracked : List String
  deriving DecidableEq, Inhabited

namespace Status

/-- The status of a clean working tree. -/
def clean : Status := ⟨[], [], []⟩

/-- The paths of one status before those of another. -/
def append (a b : Status) : Status :=
  ⟨a.created ++ b.created, a.modified ++ b.modified, a.untracked ++ b.untracked⟩

/-- Every path, the created ones first. -/
def paths (s : Status) : List String :=
  s.created ++ s.modified ++ s.untracked

/-- The two characters that say what happened to a path in the index and in
the working tree. -/
structure Code where
  index : Char
  tree : Char
  deriving DecidableEq, Inhabited

namespace Code

/-- True when one of the two characters is the given one. -/
def has (code : Code) (c : Char) : Bool :=
  code.index == c || code.tree == c

/-- The path was renamed or copied from another one. -/
def isMove (code : Code) : Bool :=
  code.has 'R' || code.has 'C'

/-- The path is not known to version control. -/
def isUntracked (code : Code) : Bool :=
  code == ⟨'?', '?'⟩

end Code

/-- What the status command says about one path. -/
inductive Entry where
  | plain (code : Code) (path : List Char)
  | move (code : Code) (path former : List Char)
  deriving DecidableEq

namespace Entry

/-- The paths that an entry contributes. -/
def status : Entry → Status
  | .plain code path =>
    let path := String.ofList path
    if code.isUntracked then ⟨[], [], [path]⟩
    else
      ⟨if code.index = 'A' then [path] else [], if code.has 'M' then [path] else [], []⟩
  | .move code path _ =>
    let path := String.ofList path
    ⟨[path], if code.tree = 'M' then [path] else [], []⟩

/-- The code and the path of a text that is long enough for both. -/
def read? : List Char → Option (Code × List Char)
  | index :: tree :: _ :: c :: path => some (⟨index, tree⟩, c :: path)
  | _ => none

/-- The entries that a list of texts stands for.  A text too short for a code
and a path stands for none, and so does a text used up as the former path of
the one before it. -/
def readAll : List (List Char) → List Entry
  | [] => []
  | text :: rest =>
    match read? text with
    | none => readAll rest
    | some (code, path) =>
      if code.isMove then
        match rest with
        | [] => [.move code path []]
        | former :: others => .move code path former :: readAll others
      else .plain code path :: readAll rest

end Entry

/-- The paths that a list of entries contributes, in order. -/
def ofEntries (entries : List Entry) : Status :=
  entries.foldr (fun entry rest => append entry.status rest) clean

/-- The status that the output of the status command describes. -/
def parse (output : String) : Status :=
  ofEntries (Entry.readAll (Cut.pieces '\x00' output.toList))

end Status

end Ratchet
