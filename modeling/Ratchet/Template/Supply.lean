import Ratchet.Template

namespace Ratchet

/-!
# Templates filled in order

A template can also be filled from subjects that have no names but an order.
Its fields then either state positions or leave them out and are counted from
the left, those inside formats with the others; one template cannot do both.
-/

namespace Template

/-- What a template is filled from: subjects in order, and subjects by
name. -/
structure Supply where
  ordered : List Subject
  named : Names := []

/-- How the positions of a template's fields have been found so far. -/
inductive Numbering where
  | undecided
  | stated
  | counted (next : Nat)
  deriving DecidableEq

namespace Supply

/-- The subject at a position. -/
def atPosition (supply : Supply) (n : Nat) : Except Error Subject :=
  match supply.ordered[n]? with
  | some subject => .ok subject
  | none => .error (.noPosition n)

/-- The subject that a leading name stands for, and the numbering after it. -/
def leading (supply : Supply) (numbering : Numbering) (name : List Char) :
    Except Error (Subject × Numbering) :=
  match position? name, numbering with
  | .error fault, _ => .error (.fault fault)
  | .ok (some _), .counted _ => .error (.fault .statedAfterCounted)
  | .ok (some n), _ => (supply.atPosition n).map fun subject => (subject, .stated)
  | .ok none, numbering =>
    if name.isEmpty then
      match numbering with
      | .stated => .error (.fault .countedAfterStated)
      | .undecided => (supply.atPosition 0).map fun subject => (subject, .counted 1)
      | .counted n => (supply.atPosition n).map fun subject => (subject, .counted (n + 1))
    else
      match supply.named.lookup (String.ofList name) with
      | some subject => .ok (subject, numbering)
      | none => .error (.noName (String.ofList name))

/-- The text of one piece, and the numbering after it; `inner` fills the format
of a field. -/
def piece (supply : Supply)
    (inner : Numbering → List Char → Except Error (List Char × Numbering))
    (numbering : Numbering) : Piece → Except Error (List Char × Numbering)
  | .literal cs => .ok (cs, numbering)
  | .fault fault => .error (.fault fault)
  | .field field => do
    let (name, steps) := splitName field.name
    let (whole, numbering) ← supply.leading numbering name
    let subject ← (← steps.foldlM Subject.step whole).converted field.conversion
    let (format, numbering) ←
      if field.format.contains '{' then inner numbering field.format
      else pure (field.format, numbering)
    return (← subject.formatted format, numbering)

/-- The text of a template whose formats may hold fields to a depth, and the
numbering after it. -/
def fillWithin (supply : Supply) :
    Nat → Numbering → List Char → Except Error (List Char × Numbering)
  | 0, _, _ => .error (.fault .tooDeep)
  | depth + 1, numbering, cs =>
    (pieces cs).foldlM (fun (done, numbering) next => do
      let (text, numbering) ← supply.piece (supply.fillWithin depth) numbering next
      return (done ++ text, numbering)) ([], numbering)

/-- The text of a template. -/
def fill (supply : Supply) (template : String) : Except Error String :=
  (supply.fillWithin 2 .undecided template.toList).map fun (cs, _) => String.ofList cs

end Supply

end Template

end Ratchet
