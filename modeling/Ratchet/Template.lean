import Ratchet.Template.Subject

namespace Ratchet

/-!
# Filling templates

A template is filled from named subjects.  Its pieces are taken from left to
right, and the first one that cannot be filled decides the error.  The format
of a field is itself a template, filled from the same subjects, but a field
inside the format of a field inside a format is refused.
-/

namespace Template

/-- The subjects that fields may name. -/
abbrev Names := List (String × Subject)

/-- The subject that a leading name stands for.  Positions stand for
nothing; an empty name means the first one. -/
def first (names : Names) (name : List Char) : Except Error Subject :=
  match position? name with
  | .error fault => .error (.fault fault)
  | .ok (some n) => .error (.noPosition n)
  | .ok none =>
    if name.isEmpty then .error (.noPosition 0)
    else
      match names.lookup (String.ofList name) with
      | some subject => .ok subject
      | none => .error (.noName (String.ofList name))

/-- The subject of a field. -/
def subject (names : Names) (name : List Char) : Except Error Subject :=
  let (leading, steps) := splitName name
  match first names leading with
  | .error error => .error error
  | .ok subject => steps.foldlM Subject.step subject

/-- What a template's fields stand for, by their names as written. -/
abbrev Lookup := List Char → Except Error Subject

/-- The text of one piece; `inner` fills the format of a field. -/
def piece (inner : List Char → Except Error (List Char)) (find : Lookup) :
    Piece → Except Error (List Char)
  | .literal cs => .ok cs
  | .fault fault => .error (.fault fault)
  | .field field => do
    let subject ← (← find field.name).converted field.conversion
    let format ← if field.format.contains '{' then inner field.format else pure field.format
    subject.formatted format

/-- The text of a template whose formats may hold fields to a depth. -/
def fillWithin (find : Lookup) : Nat → List Char → Except Error (List Char)
  | 0, _ => .error (.fault .tooDeep)
  | depth + 1, cs => (pieces cs).foldlM
      (fun done next => (piece (fillWithin find depth) find next).map (done ++ ·)) []

/-- The text of a template. -/
def fill (names : Names) (template : String) : Except Error String :=
  (fillWithin (subject names) 2 template.toList).map String.ofList

end Template

end Ratchet
