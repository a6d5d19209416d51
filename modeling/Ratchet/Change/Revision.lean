import Ratchet.Text.Blank

namespace Ratchet

/-!
# Revisions

The name of a commit: a text that is not blank and has no blanks around it.
A fork point that nobody knows is the absence of a revision, never a special
one.
-/

/-- The name of a commit. -/
structure Revision where
  sha : String
  present : sha ≠ ""
  stripped : Text.strip sha = sha
  deriving DecidableEq

namespace Revision

/-- The revision that a text names, unless the text is blank. -/
def ofText? (s : String) : Option Revision :=
  if present : Text.strip s ≠ "" then some ⟨Text.strip s, present, Text.strip_strip s⟩ else none

theorem ofText?_eq_none_iff {s : String} : ofText? s = none ↔ Text.isBlank s = true := by
  simp [ofText?, Text.strip_eq_empty_iff]

theorem sha_of_ofText? {s : String} {revision : Revision} (read : ofText? s = some revision) :
    revision.sha = Text.strip s := by
  simp only [ofText?] at read
  split at read
  · simp only [Option.some.injEq] at read
    rw [← read]
  · simp at read

end Revision

end Ratchet
