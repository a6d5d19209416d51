import Ratchet.Path

namespace Ratchet

/-!
# The disk

The files that a run can read, by their absolute paths, and the directories
that are known to exist: the ones named, and every directory above a file or
above one of these.  Reading a file whose path leads nowhere is an error that
says why.
-/

/-- Files and directories. -/
structure Disk where
  files : List (Path × String)
  directories : List Path := []

namespace Disk

/-- Why a path cannot be read. -/
inductive Fault where
  | missing (path : Path)
  | directory (path : Path)
  /-- Something on the way to the path is a file. -/
  | notDirectory (path : Path)
  /-- Where a directory is to be made there is a file. -/
  | taken (path : Path)
  deriving DecidableEq

def Fault.message : Fault → String
  | .missing path => s!"[Errno 2] No such file or directory: {Text.quoted path.text}"
  | .directory path => s!"[Errno 21] Is a directory: {Text.quoted path.text}"
  | .notDirectory path => s!"[Errno 20] Not a directory: {Text.quoted path.text}"
  | .taken path => s!"[Errno 17] File exists: {Text.quoted path.text}"

/-- True when the first path is the second one or lies above it. -/
def isAbove (upper lower : Path) : Bool :=
  upper.root == lower.root && upper.parts.isPrefixOf lower.parts

def isDirectory (disk : Disk) (path : Path) : Bool :=
  (disk.directories.any fun known => isAbove path known) ||
    disk.files.any fun file => isAbove path file.1.parent

/-- Text with every line end written as one newline. -/
def withNewlines : List Char → List Char
  | [] => []
  | '\r' :: '\n' :: rest => '\n' :: withNewlines rest
  | '\r' :: rest => '\n' :: withNewlines rest
  | c :: rest => c :: withNewlines rest

/-- The text of the file at an absolute path without dots. -/
def read (disk : Disk) (path : Path) : Except Fault String :=
  match disk.files.lookup path with
  | some content => .ok (String.ofList (withNewlines content.toList))
  | none =>
    if disk.isDirectory path then .error (.directory path)
    else if path.parents.any fun upper => (disk.files.lookup upper).isSome then
      .error (.notDirectory path)
    else .error (.missing path)

/-- Why a file cannot be opened for writing from a directory, when the
directories above it are made on the way. -/
def writeFault? (disk : Disk) (directory path : Path) : Option Fault :=
  let parent := Path.resolve directory path.parent
  if (disk.files.lookup parent).isSome then some (.taken path.parent)
  else if parent.parents.any fun upper => (disk.files.lookup upper).isSome then
    some (.notDirectory path.parent)
  else if disk.isDirectory (Path.resolve directory path) then some (.directory path)
  else none

private theorem fst_mem_of_lookup {files : List (Path × String)} {path : Path} {content : String}
    (listed : files.lookup path = some content) : path ∈ files.map Prod.fst := by
  induction files with
  | nil => simp at listed
  | cons file rest ih =>
    obtain ⟨name, body⟩ := file
    by_cases same : path = name
    · simp [same]
    · have apart : (path == name) = false := by simpa using same
      rw [List.lookup_cons, apart] at listed
      exact List.mem_cons_of_mem _ (ih listed)

/-- Only the paths of files can be read. -/
theorem mem_of_read {disk : Disk} {path : Path} {content : String}
    (found : disk.read path = .ok content) : path ∈ disk.files.map Prod.fst := by
  unfold read at found
  split at found
  · next text listed => exact fst_mem_of_lookup listed
  · split at found
    · cases found
    · split at found <;> cases found

/-- The absolute path that a path leads to, one component after the other.
Each step starts from a directory. -/
def follow? (disk : Disk) (current : Path) : List String → Option Path
  | [] => some current
  | component :: rest =>
    if !disk.isDirectory current then none
    else if component = ".." then disk.follow? current.parent rest
    else disk.follow? ⟨current.root, current.parts ++ [component]⟩ rest

/-- True when a path leads from a directory to a file. -/
def isFile (disk : Disk) (directory path : Path) : Bool :=
  let start : Path := if path.isAbsolute then ⟨.single, []⟩ else directory
  match disk.follow? start path.parts with
  | some found => (disk.files.lookup found).isSome
  | none => false

end Disk

end Ratchet
