import Ratchet.Disk
import Ratchet.Settings.Host
import Ratchet.Value.Merge
import Ratchet.Yaml.Meaning

namespace Ratchet

/-!
# Documents that include others

A settings document may name further documents under `include`, relative to
itself.  They are merged in the listed order, and the document's own entries
lie over all of them.  A document that includes itself, directly or not, is an
error; one that is reached twice along different ways is not.

The reading ends because a chain of documents that include one another holds
no document twice, and there are only so many files.
-/

namespace Include

/-- Why documents cannot be loaded. -/
inductive Error where
  | circular (path : Path)
  | disk (fault : Disk.Fault)
  | document (fault : Yaml.Error)
  /-- The document is not a mapping. -/
  | noMapping (found : Value)
  /-- What stands under `include` is not a list. -/
  | noList (found : Value)
  /-- What stands in the list is not a path. -/
  | noPath (found : Value)
  | noHome
  /-- A path holds the character with number zero. -/
  | nullCharacter

/-- The name of the kind of thing that a value is. -/
def kindName : Value → String
  | .scalar .null => "NoneType"
  | .scalar (.bool _) => "bool"
  | .scalar (.int _) => "int"
  | .scalar (.float _) => "float"
  | .scalar (.text _) => "str"
  | .scalar (.date _) => "datetime.date"
  | .scalar (.moment _) => "datetime.datetime"
  | .scalar (.bytes _) => "bytes"
  | .list _ => "list"
  | .map _ => "dict"
  | .set _ => "set"

/-- The same without what stands before a dot. -/
def shortKindName (v : Value) : String :=
  (Text.pieces '.' (kindName v)).getLastD ""

def Error.message : Error → String
  | .circular path => s!"Circular include: {path.text}"
  | .disk fault => fault.message
  | .document fault => fault.message
  | .noMapping (.list _) => "pop expected at most 1 argument, got 2"
  | .noMapping (.set _) => "set.pop() takes no arguments (2 given)"
  | .noMapping found => s!"'{kindName found}' object has no attribute 'pop'"
  | .noList found => s!"'{kindName found}' object is not iterable"
  | .noPath (.scalar (.bytes _)) =>
    "argument should be a str object or an os.PathLike object returning str, not " ++
      "<class 'bytes'>"
  | .noPath found =>
    s!"expected str, bytes or os.PathLike object, not {shortKindName found}"
  | .noHome => "Could not determine home directory."
  | .nullCharacter => "lstat: embedded null character in path"

/-- A document by itself: what it includes, and its own entries. -/
structure Source where
  includes : List Value
  own : Mapping

/-- The list that stands under `include`.  One text is a list of its own,
nothing is an empty list, and a mapping lists its keys. -/
def listed (v : Value) : Except Error (List Value) :=
  if v.isEmpty then .ok []
  else
    match v with
    | .scalar (.text _) => .ok [v]
    | .scalar (.bytes octets) => .ok (octets.map fun n => .int (n : Nat))
    | .list items => .ok items
    | .map entries => .ok (entries.map fun entry => .scalar entry.1)
    | .set members => .ok (members.map .scalar)
    | other => .error (.noList other)

/-- The name under which a document lists what it includes. -/
def listName : Scalar := .text "include"

/-- A document's parts.  An empty document is an empty mapping. -/
def Source.ofValue (v : Value) : Except Error Source :=
  if v.isEmpty then .ok ⟨[], []⟩
  else
    match v with
    | .map entries => do
      let includes ← listed ((Mapping.get? listName entries).getD .null)
      return ⟨includes, Mapping.without listName entries⟩
    | other => .error (.noMapping other)

/-- The document at an absolute path. -/
def source (disk : Disk) (path : Path) : Except Error Source :=
  match disk.read path with
  | .error fault => .error (.disk fault)
  | .ok text =>
    match Yaml.read text with
    | .error fault => .error (.document fault)
    | .ok v => Source.ofValue v

theorem mem_of_source {disk : Disk} {path : Path} {found : Source}
    (read : source disk path = .ok found) : path ∈ disk.files.map Prod.fst := by
  unfold source at read
  split at read
  · cases read
  · next text readable => exact Disk.mem_of_read readable

/-- The absolute path of a document that another one includes. -/
def target (host : Host) (path : Path) (name : Value) : Except Error Path :=
  match name with
  | .scalar (.text s) =>
    match host.expandHome? (.ofText s) with
    | none => .error .noHome
    | some p =>
      if s.toList.contains '\x00' then .error .nullCharacter
      else .ok (Path.resolve path.parent p)
  | other => .error (.noPath other)

/-- The files that are not in a chain. -/
def unread (disk : Disk) (chain : List Path) : List Path :=
  (disk.files.map Prod.fst).filter fun path => !chain.contains path

theorem unread_cons (disk : Disk) (chain : List Path) (path : Path) :
    unread disk (path :: chain) = (unread disk chain).filter fun other => !(other == path) := by
  simp only [unread, List.filter_filter, List.contains_cons, Bool.not_or]

theorem unread_lt {disk : Disk} {chain : List Path} {path : Path}
    (isFile : path ∈ disk.files.map Prod.fst) (fresh : path ∉ chain) :
    (unread disk (path :: chain)).length < (unread disk chain).length := by
  rw [unread_cons, List.length_filter_lt_length_iff_exists]
  refine ⟨path, ?_, by simp⟩
  simp only [unread, List.mem_filter]
  exact ⟨isFile, by simpa using fresh⟩

/-- The entries of the document at an absolute path with all it includes
beneath them.  The chain holds the documents that led to this one. -/
def loadFrom (host : Host) (disk : Disk) (chain : List Path) (path : Path) :
    Except Error Mapping :=
  if _fresh : path ∈ chain then .error (.circular path)
  else
    match _readable : source disk path with
    | .error fault => .error fault
    | .ok found => do
      let beneath ← found.includes.foldlM (fun merged name => do
        let next ← target host path name
        let inner ← loadFrom host disk (path :: chain) next
        return Mapping.merge merged inner) []
      return Mapping.merge beneath found.own
termination_by (unread disk chain).length
decreasing_by exact unread_lt (mem_of_source ‹_›) ‹_›

/-- The entries of the document that a path leads to, with all it includes
beneath them. -/
def load (host : Host) (disk : Disk) (path : Path) : Except Error Mapping :=
  if path.text.toList.contains '\x00' then .error .nullCharacter
  else loadFrom host disk [] (Path.resolve host.directory path)

end Include

end Ratchet
