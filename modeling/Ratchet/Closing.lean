namespace Ratchet

/-!
# Closing

Sections hold resources and further sections.  Closing a section closes
everything in it, field by field and depth first where sections nest; a
resource that fails to close is reported and does not keep the others open.

A section can also be used for a while: whatever becomes of the block that uses
it, the section is closed when the block is left.
-/

/-- What a field of a section can hold. -/
inductive Resource where
  /-- Something that can be closed, with the reason if that fails. -/
  | closeable (failure : Option String)
  /-- Nothing. -/
  | absent
  /-- Something that need not be closed. -/
  | plain
  /-- A section. -/
  | section (fields : List (String × Resource))
  deriving Inhabited

namespace Closing

/-- What closing does. -/
inductive Act where
  /-- A resource is closed, named by the fields that lead to it. -/
  | closed (path : List String)
  /-- A section is closed: closing turns to its fields. -/
  | entered (path : List String)
  /-- A field failed to close. -/
  | warning (field reason : String)
  deriving DecidableEq

/-- Something that is done act by act and may fail.  What was done stays done. -/
abbrev Attempt := ExceptT String (StateM (List Act))

/-- One more act. -/
def act (a : Act) : Attempt Unit := modify fun done => done ++ [a]

/-- What an attempt comes to, and all that is done then. -/
def Attempt.outcome {α : Type} (attempt : Attempt α) (done : List Act) :
    Except String α × List Act :=
  (attempt.run.run done).run

mutual

/-- Closes what a field holds. -/
def close (path : List String) : Resource → Attempt Unit
  | .closeable none => act (.closed path)
  | .closeable (some reason) => do
    act (.closed path)
    throw reason
  | .absent => pure ()
  | .plain => pure ()
  | .section fields => do
    act (.entered path)
    closeFields path fields

/-- Closes the fields of a section.  A failure is reported and goes no further. -/
def closeFields (path : List String) : List (String × Resource) → Attempt Unit
  | [] => pure ()
  | (field, resource) :: rest => do
    tryCatch (close (path ++ [field]) resource) fun reason => act (.warning field reason)
    closeFields path rest

end

/-- All that is done to close the fields of a section. -/
def closeAll (path : List String) (fields : List (String × Resource)) : List Act :=
  ((closeFields path fields).outcome []).2

/-- Closes a section behind a block, and says if what the block raised is held back. -/
def exit (fields : List (String × Resource)) : Attempt Bool := do
  closeFields [] fields
  return false

/-- Leaves a block that used a section, after the block came to a result or raised
something.  There is no result if what the block raised is held back. -/
def leave {ε α : Type} (fields : List (String × Resource)) (block : Except ε α) :
    Attempt (Except ε (Option α)) := do
  let heldBack ← exit fields
  match block with
  | .ok a => return .ok (some a)
  | .error e => if heldBack then return .ok none else return .error e

/-- The path of a resource that an act closes. -/
def Act.closed? : Act → Option (List String)
  | .closed path => some path
  | .entered _ | .warning .. => none

/-- The line that an act writes. -/
def Act.warning? : Act → Option String
  | .closed _ | .entered _ => none
  | .warning field reason => some s!"Warning: Error closing {field}: {reason}\n"

end Closing

end Ratchet
