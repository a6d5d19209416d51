import Ratchet.Compiler.Match
import Ratchet.Proofs.Compiler.Header
import Ratchet.Proofs.Text.Blank

namespace Ratchet

/-!
# Headers and mentions

The exact way of attributing lines compares normal forms, the lenient one
looks for a text.  The normal form of a name is a part of the name, unless it
holds a backslash: blanks and `./` are only taken off its ends.  So the header
of a file in normal form mentions the file, and what the exact way attributes
to it the lenient way does too.
-/

namespace FileName

theorem dropDots_suffix (cs : List Char) : dropDots cs <:+ cs := by
  fun_induction dropDots cs with
  | case1 rest ih => exact ih.trans ((List.suffix_cons _ _).trans (List.suffix_cons _ _))
  | case2 cs => exact List.suffix_rfl

theorem map_slash_of_notMem {cs : List Char} (plain : '\\' ∉ cs) : cs.map slash = cs := by
  have kept : ∀ c ∈ cs, slash c = c := by
    intro c member
    apply if_neg
    rintro rfl
    exact plain member
  rw [List.map_congr_left kept, List.map_id']

/-- The normal form of a name without backslashes is a part of the name. -/
theorem normal_infix {cs : List Char} (plain : '\\' ∉ cs) : normal cs <:+: cs := by
  have inside := Blank.strip_infix cs
  have stripped : '\\' ∉ Blank.strip cs := fun member => plain (inside.subset member)
  rw [normal, map_slash_of_notMem stripped]
  exact (dropDots_suffix _).isInfix.trans inside

end FileName

namespace Diagnostic

/-- The file of a header without backslashes is a part of the line. -/
theorem file?_infix {line path : String} (plain : '\\' ∉ line.toList)
    (header : file? line = some path) : path.toList <:+: line.toList := by
  rcases Option.map_eq_some_iff.mp header with ⟨name, found, rfl⟩
  rcases header?_sound found with ⟨_, _, after, _, whole⟩
  have named : name <:+: line.toList := whole ▸ (List.prefix_append name after).isInfix
  rw [String.toList_ofList]
  exact (FileName.normal_infix fun member => plain (named.subset member)).trans named

end Diagnostic

namespace MatchMode

theorem accepts_exact_iff {file line : String} :
    exact.accepts file line = true ↔ Diagnostic.file? line = some (FileName.normalize file) :=
  beq_iff_eq

/-- A line that is no header is about no file. -/
theorem accepts_exact_of_no_header {line : String} (noHeader : Diagnostic.file? line = none)
    (file : String) : exact.accepts file line = false := by
  rw [Bool.eq_false_iff]
  intro about
  rw [accepts_exact_iff, noHeader] at about
  cases about

/-- A header is about the files with the name in it. -/
theorem accepts_exact_of_header {line name : String} (header : Diagnostic.file? line = some name)
    (file : String) : exact.accepts file line = (FileName.normalize file == name) := by
  rw [Bool.eq_iff_iff, accepts_exact_iff, header, beq_iff_eq, Option.some.injEq, eq_comm]

/-- A header that is about a file in normal form mentions the file. -/
theorem accepts_substring_of_exact {file line : String} (normal : FileName.normalize file = file)
    (plain : '\\' ∉ line.toList) (about : exact.accepts file line = true) :
    substring.accepts file line = true := by
  rw [accepts_exact_iff, normal] at about
  exact Cut.occurs_iff_infix.mpr (Diagnostic.file?_infix plain about)

/-- Of lines without backslashes, the lenient way attributes to a file in normal
form what the exact way does, and perhaps more. -/
theorem linesAbout_exact_sublist {file : String} {lines : List String}
    (normal : FileName.normalize file = file) (plain : ∀ line ∈ lines, '\\' ∉ line.toList) :
    (exact.linesAbout file lines).Sublist (substring.linesAbout file lines) := by
  have both : exact.linesAbout file lines =
      exact.linesAbout file (substring.linesAbout file lines) := by
    rw [linesAbout, linesAbout, linesAbout, List.filter_filter]
    apply List.filter_congr
    intro line member
    rw [Bool.eq_iff_iff, Bool.and_eq_true]
    constructor
    · intro about
      exact ⟨about, accepts_substring_of_exact normal (plain line member) about⟩
    · intro about
      exact about.1
  rw [both]
  exact List.filter_sublist

end MatchMode

end Ratchet
