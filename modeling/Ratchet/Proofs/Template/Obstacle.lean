import Ratchet.Proofs.Fallible
import Ratchet.Template

namespace Ratchet

namespace Template

/-!
# What stops a template

A template is filled from left to right, so one thing stops it: the first piece that
comes to nothing.  Such a piece is a fault in how the template is written, or a field
that leads nowhere, or has a conversion that is none, or a format that is none for what
the field stands for.  A format that holds fields is stopped like a template.

Only a field that leads nowhere can be for want of a name or a key: it asks for a name
that nothing has, or for a key that a mapping does not have on the way.  A position, a
part, or an item of a list that is not there is another matter.
-/

/-- True of the errors that say that a name or a key is missing. -/
def Error.isMissing : Error → Bool
  | .noName _ | .noKey _ => true
  | _ => false

/-- The format of a field as it is applied. -/
def applied (inner : List Char → Except Error (List Char)) (format : List Char) :
    Except Error (List Char) :=
  if format.contains '{' then inner format else .ok format

/-- Filling comes to a piece: all pieces before it come to something. -/
def Reaches (find : Lookup) (depth : Nat) (cs : List Char) (p : Piece) : Prop :=
  ∃ before after, pieces cs = before ++ p :: after ∧
    ∀ earlier ∈ before, ∃ text, piece (fillWithin find depth) find earlier = .ok text

/-- What stops a template whose formats may hold fields to a depth. -/
inductive Stops (find : Lookup) : Nat → List Char → Error → Prop
  | tooDeep {cs : List Char} : Stops find 0 cs (.fault .tooDeep)
  | fault {depth : Nat} {cs : List Char} {fault : Fault}
      (reached : Reaches find depth cs (.fault fault)) : Stops find (depth + 1) cs (.fault fault)
  | nowhere {depth : Nat} {cs : List Char} {slot : Field} {error : Error}
      (reached : Reaches find depth cs (.field slot)) (fails : find slot.name = .error error) :
      Stops find (depth + 1) cs error
  | conversion {depth : Nat} {cs : List Char} {slot : Field} {whole : Subject} {error : Error}
      (reached : Reaches find depth cs (.field slot)) (found : find slot.name = .ok whole)
      (fails : whole.converted slot.conversion = .error error) : Stops find (depth + 1) cs error
  | inside {depth : Nat} {cs : List Char} {slot : Field} {whole shown : Subject} {error : Error}
      (reached : Reaches find depth cs (.field slot)) (found : find slot.name = .ok whole)
      (converted : whole.converted slot.conversion = .ok shown) (opens : '{' ∈ slot.format)
      (stops : Stops find depth slot.format error) : Stops find (depth + 1) cs error
  | format {depth : Nat} {cs : List Char} {slot : Field} {whole shown : Subject}
      {format : List Char} {error : Error}
      (reached : Reaches find depth cs (.field slot)) (found : find slot.name = .ok whole)
      (converted : whole.converted slot.conversion = .ok shown)
      (written : applied (fillWithin find depth) slot.format = .ok format)
      (fails : shown.formatted format = .error error) : Stops find (depth + 1) cs error

/-- The name of a field asks for a name that nothing has, or for a key that a mapping
on the way does not have. -/
inductive Lacks (names : Names) (name : List Char) : Error → Prop
  | name {leading : List Char} {steps : List Step} (split : splitName name = (leading, steps))
      (more : leading ≠ []) (noNumber : position? leading = .ok none)
      (unknown : names.lookup (String.ofList leading) = none) :
      Lacks names name (.noName (String.ofList leading))
  | key {leading key : List Char} {before after : List Step} {whole : Subject} {entries : Mapping}
      (split : splitName name = (leading, before ++ .item key :: after))
      (found : first names leading = .ok whole)
      (leads : before.foldlM Subject.step whole = .ok (.value (.map entries)))
      (unknown : Mapping.field? (String.ofList key) entries = none) :
      Lacks names name (.noName (String.ofList key))
  | number {leading : List Char} {before after : List Step} {n : Nat} {whole : Subject}
      {entries : Mapping}
      (split : splitName name = (leading, before ++ .index n :: after))
      (found : first names leading = .ok whole)
      (leads : before.foldlM Subject.step whole = .ok (.value (.map entries)))
      (unknown : Mapping.get? (.int n) entries = none) : Lacks names name (.noKey n)

/-- A template is stopped for want of a name or a key, in one of its fields or in the
format of one. -/
inductive Misses (names : Names) : Nat → List Char → Error → Prop
  | here {depth : Nat} {cs : List Char} {slot : Field} {error : Error}
      (reached : Reaches (subject names) depth cs (.field slot))
      (lacks : Lacks names slot.name error) : Misses names (depth + 1) cs error
  | inside {depth : Nat} {cs : List Char} {slot : Field} {whole shown : Subject} {error : Error}
      (reached : Reaches (subject names) depth cs (.field slot))
      (found : subject names slot.name = .ok whole)
      (converted : whole.converted slot.conversion = .ok shown) (opens : '{' ∈ slot.format)
      (misses : Misses names depth slot.format error) : Misses names (depth + 1) cs error

variable {find : Lookup} {depth : Nat} {cs : List Char} {error : Error} {names : Names}
  {slot : Field}

/-! ## The first piece that comes to nothing -/

theorem exists_foldlM_iff {inner : List Char → Except Error (List Char)} {ps : List Piece}
    {done : List Char} :
    (∃ out, ps.foldlM (fun done next => (piece inner find next).map (done ++ ·)) done = .ok out) ↔
      ∀ p ∈ ps, ∃ text, piece inner find p = .ok text := by
  induction ps generalizing done with
  | nil => exact ⟨fun _ => List.forall_mem_nil _, fun _ => ⟨done, rfl⟩⟩
  | cons p ps ih =>
    rw [List.forall_mem_cons, List.foldlM_cons]
    cases come : piece inner find p with
    | error error =>
      constructor
      · rintro ⟨out, impossible⟩
        cases impossible
      · rintro ⟨⟨text, impossible⟩, -⟩
        cases impossible
    | ok text =>
      exact (@ih (done ++ text)).trans ⟨fun all => ⟨⟨text, rfl⟩, all⟩, And.right⟩

theorem fillWithin_succ_eq_error_iff :
    fillWithin find (depth + 1) cs = .error error ↔
      ∃ p, Reaches find depth cs p ∧ piece (fillWithin find depth) find p = .error error := by
  rw [fillWithin, foldlM_eq_error_iff]
  simp only [map_eq_error_iff]
  constructor
  · rintro ⟨before, p, after, mid, split, filled, fails⟩
    exact ⟨p, ⟨before, after, split, exists_foldlM_iff.mp ⟨mid, filled⟩⟩, fails⟩
  · rintro ⟨p, ⟨before, after, split, filled⟩, fails⟩
    rcases exists_foldlM_iff.mpr filled with ⟨mid, filled⟩
    exact ⟨before, p, after, mid, split, filled, fails⟩

theorem piece_field {inner : List Char → Except Error (List Char)} :
    piece inner find (.field slot) =
      (find slot.name >>= fun whole => whole.converted slot.conversion >>= fun shown =>
        applied inner slot.format >>= fun format => shown.formatted format) := by
  rw [piece, applied]
  split <;> rfl

theorem piece_field_eq_error_iff {inner : List Char → Except Error (List Char)} :
    piece inner find (.field slot) = .error error ↔
      find slot.name = .error error ∨ ∃ whole, find slot.name = .ok whole ∧
        (whole.converted slot.conversion = .error error ∨
          ∃ shown, whole.converted slot.conversion = .ok shown ∧
            (applied inner slot.format = .error error ∨
              ∃ format, applied inner slot.format = .ok format ∧
                shown.formatted format = .error error)) := by
  rw [piece_field]
  simp only [bind_eq_error_iff]

theorem applied_eq_error_iff {inner : List Char → Except Error (List Char)} {format : List Char} :
    applied inner format = .error error ↔ '{' ∈ format ∧ inner format = .error error := by
  rw [applied]
  split <;> simp_all

/-- A template is not filled exactly if something stops it. -/
theorem fillWithin_eq_error_iff :
    fillWithin find depth cs = .error error ↔ Stops find depth cs error := by
  constructor
  · intro fails
    induction depth generalizing cs error with
    | zero =>
      cases fails
      exact .tooDeep
    | succ depth ih =>
      rcases fillWithin_succ_eq_error_iff.mp fails with ⟨p, reached, fails⟩
      cases p with
      | literal text => cases fails
      | fault fault =>
        cases fails
        exact .fault reached
      | field slot =>
        rcases piece_field_eq_error_iff.mp fails with
          fails | ⟨whole, found, fails | ⟨shown, converted, fails | ⟨format, written, fails⟩⟩⟩
        · exact .nowhere reached fails
        · exact .conversion reached found fails
        · rcases applied_eq_error_iff.mp fails with ⟨opens, fails⟩
          exact .inside reached found converted opens (ih fails)
        · exact .format reached found converted written fails
  · intro stops
    induction stops with
    | tooDeep => rfl
    | fault reached => exact fillWithin_succ_eq_error_iff.mpr ⟨_, reached, rfl⟩
    | nowhere reached fails =>
      exact fillWithin_succ_eq_error_iff.mpr
        ⟨_, reached, piece_field_eq_error_iff.mpr (Or.inl fails)⟩
    | conversion reached found fails =>
      exact fillWithin_succ_eq_error_iff.mpr
        ⟨_, reached, piece_field_eq_error_iff.mpr (Or.inr ⟨_, found, Or.inl fails⟩)⟩
    | inside reached found converted opens _ ih =>
      have fails := applied_eq_error_iff.mpr ⟨opens, ih⟩
      exact fillWithin_succ_eq_error_iff.mpr ⟨_, reached, piece_field_eq_error_iff.mpr
        (Or.inr ⟨_, found, Or.inr ⟨_, converted, Or.inl fails⟩⟩)⟩
    | format reached found converted written fails =>
      exact fillWithin_succ_eq_error_iff.mpr ⟨_, reached, piece_field_eq_error_iff.mpr
        (Or.inr ⟨_, found, Or.inr ⟨_, converted, Or.inr ⟨_, written, fails⟩⟩⟩)⟩

theorem fill_eq_error_iff {template : String} :
    fill names template = .error error ↔ Stops (subject names) 2 template.toList error := by
  rw [fill, map_eq_error_iff, fillWithin_eq_error_iff]

/-! ## Names and keys that are missing -/

theorem not_isMissing_of_converted {whole : Subject} {conversion : Option Char}
    (fails : whole.converted conversion = .error error) : error.isMissing ≠ true := by
  unfold Subject.converted at fails
  split at fails
  · cases fails
  · split at fails
    · cases fails
    · cases fails
    · cases fails
    · cases fails
      exact Bool.false_ne_true

theorem not_isMissing_of_formatted {shown : Subject} {format : List Char}
    (fails : shown.formatted format = .error error) : error.isMissing ≠ true := by
  unfold Subject.formatted at fails
  dsimp only at fails
  split at fails
  · split at fails <;> cases fails
    exact Bool.false_ne_true
  · split at fails <;> cases fails
    exact Bool.false_ne_true
  · split at fails <;> cases fails
    exact Bool.false_ne_true
  · split at fails <;> cases fails
    exact Bool.false_ne_true
  · cases fails
  · split at fails <;> cases fails
    exact Bool.false_ne_true

theorem not_isMissing_withoutItems (whole : Subject) : whole.withoutItems.isMissing ≠ true := by
  cases whole <;> exact Bool.false_ne_true

theorem atKey_isMissing {whole : Subject} {key : String} (fails : whole.atKey key = .error error)
    (missing : error.isMissing = true) :
    ∃ entries, whole = .value (.map entries) ∧ Mapping.field? key entries = none ∧
      error = .noName key := by
  unfold Subject.atKey at fails
  split at fails
  · next entries =>
    split at fails
    · cases fails
    · next unknown =>
      cases fails
      exact ⟨entries, rfl, unknown, rfl⟩
  · cases fails
    cases missing
  · cases fails
    cases missing
  · cases fails
    cases missing
  · cases fails
    cases missing
  · cases fails
    exact absurd missing (not_isMissing_withoutItems _)

theorem atPosition_isMissing {whole : Subject} {n : Nat}
    (fails : whole.atPosition n = .error error) (missing : error.isMissing = true) :
    ∃ entries, whole = .value (.map entries) ∧ Mapping.get? (.int n) entries = none ∧
      error = .noKey n := by
  unfold Subject.atPosition at fails
  dsimp only at fails
  split at fails
  · split at fails <;> cases fails
    cases missing
  · split at fails <;> cases fails
    cases missing
  · next entries =>
    split at fails
    · cases fails
    · next unknown =>
      cases fails
      exact ⟨entries, rfl, unknown, rfl⟩
  · split at fails <;> cases fails
    cases missing
  · split at fails <;> cases fails
    cases missing
  · cases fails
    exact absurd missing (not_isMissing_withoutItems _)

/-- A step misses something exactly if it goes into a mapping without the key. -/
theorem step_isMissing_iff {whole : Subject} {step : Step} :
    whole.step step = .error error ∧ error.isMissing = true ↔
      ∃ entries, whole = .value (.map entries) ∧
        ((∃ key, step = .item key ∧ Mapping.field? (String.ofList key) entries = none ∧
            error = .noName (String.ofList key)) ∨
          ∃ n, step = .index n ∧ Mapping.get? (.int n) entries = none ∧ error = .noKey n) := by
  constructor
  · rintro ⟨fails, missing⟩
    cases step with
    | «attribute» name =>
      rw [Subject.step] at fails
      split at fails
      · cases fails
      · cases fails
        cases missing
    | fault fault =>
      cases fails
      cases missing
    | index n =>
      rcases atPosition_isMissing fails missing with ⟨entries, rfl, unknown, rfl⟩
      exact ⟨entries, rfl, Or.inr ⟨n, rfl, unknown, rfl⟩⟩
    | item key =>
      rcases atKey_isMissing fails missing with ⟨entries, rfl, unknown, rfl⟩
      exact ⟨entries, rfl, Or.inl ⟨key, rfl, unknown, rfl⟩⟩
  · rintro ⟨entries, rfl, ⟨key, rfl, unknown, rfl⟩ | ⟨n, rfl, unknown, rfl⟩⟩
    · refine ⟨?_, rfl⟩
      rw [Subject.step, Subject.atKey, unknown]
    · refine ⟨?_, rfl⟩
      rw [Subject.step, Subject.atPosition, unknown]

theorem first_isMissing_iff {leading : List Char} :
    first names leading = .error error ∧ error.isMissing = true ↔
      leading ≠ [] ∧ position? leading = .ok none ∧
        names.lookup (String.ofList leading) = none ∧ error = .noName (String.ofList leading) := by
  constructor
  · rintro ⟨fails, missing⟩
    unfold first at fails
    split at fails
    · cases fails
      cases missing
    · cases fails
      cases missing
    · next noNumber =>
      split at fails
      · cases fails
        cases missing
      · next more =>
        split at fails
        · cases fails
        · next unknown =>
          cases fails
          exact ⟨fun nothing => more (nothing ▸ rfl), noNumber, unknown, rfl⟩
  · rintro ⟨more, noNumber, unknown, rfl⟩
    refine ⟨?_, rfl⟩
    have some : leading.isEmpty = false := List.isEmpty_eq_false_iff.mpr more
    simp only [first, noNumber, some, unknown, Bool.false_eq_true, if_false]

theorem subject_eq {name leading : List Char} {steps : List Step}
    (split : splitName name = (leading, steps)) :
    subject names name = first names leading >>= fun whole => steps.foldlM Subject.step whole := by
  simp only [subject, split]
  cases first names leading <;> rfl

theorem lacks_iff {name : List Char} :
    Lacks names name error ↔ subject names name = .error error ∧ error.isMissing = true := by
  constructor
  · intro lacks
    cases lacks with
    | name split more noNumber unknown =>
      have fails := first_isMissing_iff.mpr ⟨more, noNumber, unknown, rfl⟩
      exact ⟨by rw [subject_eq split, fails.1]; rfl, rfl⟩
    | key split found leads unknown =>
      have fails := step_isMissing_iff.mpr ⟨_, rfl, Or.inl ⟨_, rfl, unknown, rfl⟩⟩
      refine ⟨?_, rfl⟩
      rw [subject_eq split, found]
      exact foldlM_eq_error_iff.mpr ⟨_, _, _, _, rfl, leads, fails.1⟩
    | number split found leads unknown =>
      have fails := step_isMissing_iff.mpr ⟨_, rfl, Or.inr ⟨_, rfl, unknown, rfl⟩⟩
      refine ⟨?_, rfl⟩
      rw [subject_eq split, found]
      exact foldlM_eq_error_iff.mpr ⟨_, _, _, _, rfl, leads, fails.1⟩
  · rintro ⟨fails, missing⟩
    rcases split : splitName name with ⟨leading, steps⟩
    rw [subject_eq split, bind_eq_error_iff] at fails
    rcases fails with fails | ⟨whole, found, fails⟩
    · rcases first_isMissing_iff.mp ⟨fails, missing⟩ with ⟨more, noNumber, unknown, rfl⟩
      exact .name split more noNumber unknown
    · rcases foldlM_eq_error_iff.mp fails with ⟨before, step, after, mid, rfl, leads, fails⟩
      rcases step_isMissing_iff.mp ⟨fails, missing⟩ with
        ⟨entries, rfl, ⟨key, rfl, unknown, rfl⟩ | ⟨n, rfl, unknown, rfl⟩⟩
      · exact .key split found leads unknown
      · exact .number split found leads unknown

/-- Of what stops a template only what is missed says that something is missing. -/
theorem misses_iff :
    Misses names depth cs error ↔
      Stops (subject names) depth cs error ∧ error.isMissing = true := by
  constructor
  · intro misses
    induction misses with
    | here reached lacks =>
      rcases lacks_iff.mp lacks with ⟨fails, missing⟩
      exact ⟨.nowhere reached fails, missing⟩
    | inside reached found converted opens _ ih =>
      exact ⟨.inside reached found converted opens ih.1, ih.2⟩
  · rintro ⟨stops, missing⟩
    induction stops with
    | tooDeep => cases missing
    | fault => cases missing
    | nowhere reached fails => exact .here reached (lacks_iff.mpr ⟨fails, missing⟩)
    | conversion reached found fails =>
      exact absurd missing (not_isMissing_of_converted fails)
    | inside reached found converted opens _ ih =>
      exact .inside reached found converted opens (ih missing)
    | format reached found converted written fails =>
      exact absurd missing (not_isMissing_of_formatted fails)

end Template

end Ratchet
