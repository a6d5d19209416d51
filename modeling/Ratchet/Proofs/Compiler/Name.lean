import Ratchet.Proofs.Compiler.Header

namespace Ratchet

namespace Diagnostic

/-!
# Where the name in a header ends

Nothing marks the end of the file's name in a header.  Several beginnings of
a line may each be followed by something that has the form of a tail, and the
scan along the line settles for the first of them.

The scan stops only where a name may end, and it passes no such place.  So the
name that is read is the shortest of those that could be read, and a line of
which none could be read is no header.
-/

/-- A beginning of a line that may be the name in a header: there is something
of it, it is on one line, and the tail of a header follows. -/
structure IsName (name line : String) : Prop where
  named : name ≠ ""
  oneLine : '\n' ∉ name.toList
  followed : ∃ tail, IsTail tail ∧ name.toList ++ tail <+: line.toList

/-- The tail is followed by anything at all. -/
theorem followed_iff {name line : List Char} :
    (∃ tail, IsTail tail ∧ name ++ tail <+: line) ↔
      ∃ after, startsTail after = true ∧ line = name ++ after := by
  constructor
  · rintro ⟨tail, isTail, rest, rfl⟩
    exact ⟨tail ++ rest, startsTail_iff.mpr ⟨tail, rest, isTail, rfl⟩, List.append_assoc ..⟩
  · rintro ⟨after, starts, rfl⟩
    rcases startsTail_iff.mp starts with ⟨tail, rest, isTail, rfl⟩
    exact ⟨tail, isTail, rest, List.append_assoc ..⟩

/-! ## Names of whole lines -/

variable {line name : String}

theorem isName_iff : IsName name line ↔
    name.toList ≠ [] ∧ '\n' ∉ name.toList ∧
      ∃ after, startsTail after = true ∧ line.toList = name.toList ++ after := by
  rw [← followed_iff, Ne, String.toList_eq_nil_iff]
  constructor
  · rintro ⟨named, oneLine, followed⟩
    exact ⟨named, oneLine, followed⟩
  · rintro ⟨named, oneLine, followed⟩
    exact ⟨named, oneLine, followed⟩

/-- What a scan along a line finds is a name, and no name is shorter. -/
theorem header?_eq_some_iff :
    header? false line.toList = some name.toList ↔
      IsName name line ∧ ∀ other, IsName other line → name.length ≤ other.length := by
  constructor
  · intro found
    rcases header?_sound found with ⟨begun, oneLine, followed⟩
    have named := begun.resolve_left Bool.false_ne_true
    refine ⟨isName_iff.mpr ⟨named, oneLine, followed⟩, ?_⟩
    intro other isName
    rcases isName_iff.mp isName with ⟨otherNamed, otherLine, after, starts, whole⟩
    rcases header?_shortest (Or.inr otherNamed) otherLine starts with ⟨least, scanned, shorter⟩
    rw [← whole, found] at scanned
    cases scanned
    exact shorter.length_le
  · rintro ⟨isName, least⟩
    rcases isName_iff.mp isName with ⟨named, oneLine, after, starts, whole⟩
    rcases header?_shortest (Or.inr named) oneLine starts with ⟨found, scanned, shorter⟩
    rw [← whole] at scanned
    rcases header?_sound scanned with ⟨begun, foundLine, followed⟩
    have foundIsName : IsName (String.ofList found) line := by
      rw [isName_iff, String.toList_ofList]
      exact ⟨begun.resolve_left Bool.false_ne_true, foundLine, followed⟩
    -- Of two beginnings of a line, the shorter one is a beginning of the other.
    have same := shorter.eq_of_length_le (by simpa [String.length_toList] using least _ foundIsName)
    rw [scanned, same]

theorem isSome_header?_iff :
    (header? false line.toList).isSome = true ↔ ∃ name, IsName name line := by
  constructor
  · intro found
    rcases Option.isSome_iff_exists.mp found with ⟨name, scanned⟩
    rw [← String.toList_ofList (l := name)] at scanned
    exact ⟨String.ofList name, (header?_eq_some_iff.mp scanned).1⟩
  · rintro ⟨name, isName⟩
    rcases isName_iff.mp isName with ⟨named, oneLine, after, starts, whole⟩
    rcases header?_shortest (Or.inr named) oneLine starts with ⟨found, scanned, _⟩
    rw [← whole] at scanned
    exact Option.isSome_of_eq_some scanned

/-- A line is a header exactly if it has a name in it, and then its file is the
normal form of the shortest one. -/
theorem file?_of_shortest (line : String) :
    ((∃ path, file? line = some path) ↔ ∃ name, IsName name line) ∧
    (∀ path, file? line = some path ↔ ∃ name, IsName name line ∧
      (∀ other, IsName other line → name.length ≤ other.length) ∧
      path = FileName.normalize name) ∧
    (file? line = none ↔ ¬∃ name, IsName name line) := by
  have accepted : (file? line).isSome = true ↔ ∃ name, IsName name line := by
    rw [file?, Option.isSome_map, isSome_header?_iff]
  refine ⟨?_, ?_, ?_⟩
  · rw [← accepted, Option.isSome_iff_exists]
  · intro path
    rw [file?, Option.map_eq_some_iff]
    constructor
    · rintro ⟨name, found, rfl⟩
      rw [← String.toList_ofList (l := name)] at found
      have shortest := header?_eq_some_iff.mp found
      refine ⟨String.ofList name, shortest.1, shortest.2, ?_⟩
      rw [FileName.normalize, String.toList_ofList]
    · rintro ⟨name, isName, least, rfl⟩
      exact ⟨name.toList, header?_eq_some_iff.mpr ⟨isName, least⟩, rfl⟩
  · rw [← accepted, Option.not_isSome_iff_eq_none]

/-- Two tails, and a place that is none. -/
example : file? "a(1,2): b:3:4 - error TS5(6,7): error TS8" = some "a(1,2): b" := by
  decide +kernel

end Diagnostic

end Ratchet
