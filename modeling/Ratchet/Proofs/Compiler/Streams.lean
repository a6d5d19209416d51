import Ratchet.Compiler.Invocation
import Ratchet.Compiler.Match
import Ratchet.Proofs.Text.Lines

namespace Ratchet

/-!
# The lines of two streams

The output of the compiler is put together from two streams, with a newline
between them unless the first one ends in one.  Texts are cut into lines at
many more characters than the newline, and at two of them together, so the
newline between the streams may be one boundary too many, and it may also
become a part of the boundary in front of it.

A newline behind a text ends the line that the text leaves open.  It leaves
none open if it is empty or ends in a boundary, and then the newline makes an
empty line of its own, unless the boundary is a carriage return, to which it
belongs.  Behind a newline, cutting begins afresh.  So the two streams give
their own lines and at most one empty line between them, and no file is
mentioned in that one.
-/

namespace Text

/-- The empty line that a newline behind a text makes. -/
def gap (s : String) : List String :=
  (Lines.gap s.toList).map String.ofList

theorem lines_append_newline (s rest : String) :
    lines (s ++ "\n" ++ rest) = lines s ++ gap s ++ lines rest := by
  have written : (s ++ "\n" ++ rest).toList = s.toList ++ '\n' :: rest.toList := by simp
  rw [lines, written, Lines.split_append_newline, List.map_append, List.map_append]
  rfl

theorem lines_append_of_newline {s : String} (ends : s.toList.getLast? = some '\n')
    (rest : String) : lines (s ++ rest) = lines s ++ lines rest := by
  rw [lines, String.toList_append, Lines.split_append_of_newline ends, List.map_append]
  rfl

theorem eq_empty_of_mem_gap {s line : String} (member : line ∈ gap s) : line = "" := by
  unfold gap Lines.gap at member
  split at member
  · exact List.mem_singleton.mp member
  · cases member

end Text

namespace Compiler

/-- The empty line that comes between the lines of two streams. -/
def between (stdout stderr : String) : List String :=
  if stdout != "" && stderr != "" && stdout.toList.getLast? != some '\n' then Text.gap stdout
  else []

theorem eq_empty_of_mem_between {stdout stderr line : String}
    (member : line ∈ between stdout stderr) : line = "" := by
  unfold between at member
  split at member
  · exact Text.eq_empty_of_mem_gap member
  · cases member

/-- Two streams give their own lines, and at most an empty line between them. -/
theorem lines_combine (stdout stderr : String) :
    Text.lines (combine stdout stderr) =
      Text.lines stdout ++ between stdout stderr ++ Text.lines stderr := by
  unfold combine between
  split
  · exact Text.lines_append_newline stdout stderr
  · rename_i joined
    rw [List.append_nil]
    by_cases first : stdout = ""
    · rw [first, String.empty_append]
      rfl
    · by_cases second : stderr = ""
      · rw [second, String.append_empty]
        exact (List.append_nil _).symm
      · have ends : stdout.toList.getLast? = some '\n' := by simpa [first, second] using joined
        exact Text.lines_append_of_newline ends stderr

end Compiler

namespace MatchMode

/-- No file is mentioned in an empty line. -/
theorem accepts_empty {file : String} (named : file ≠ "") (mode : MatchMode) :
    mode.accepts file "" = false := by
  cases mode with
  | exact => rfl
  | substring =>
    rw [accepts, Text.contains, Bool.eq_false_iff]
    intro found
    apply named
    rw [← String.toList_eq_nil_iff]
    exact List.infix_nil.mp (Cut.occurs_iff_infix.mp found)

/-- The lines about a file in both streams are those in the first one, and then
those in the second one. -/
theorem linesAbout_combine {file : String} (named : file ≠ "") (mode : MatchMode)
    (stdout stderr : String) :
    mode.linesAbout file (Text.lines (Compiler.combine stdout stderr)) =
      mode.linesAbout file (Text.lines stdout) ++ mode.linesAbout file (Text.lines stderr) := by
  have nothing : mode.linesAbout file (Compiler.between stdout stderr) = [] := by
    apply List.filter_eq_nil_iff.mpr
    intro line member about
    rw [Compiler.eq_empty_of_mem_between member, accepts_empty named mode] at about
    cases about
  calc
    mode.linesAbout file (Text.lines (Compiler.combine stdout stderr)) =
        mode.linesAbout file (Text.lines stdout) ++
          mode.linesAbout file (Compiler.between stdout stderr) ++
          mode.linesAbout file (Text.lines stderr) := by
      rw [Compiler.lines_combine]
      exact (List.filter_append ..).trans
        (congrArg (· ++ mode.linesAbout file (Text.lines stderr)) (List.filter_append ..))
    _ = mode.linesAbout file (Text.lines stdout) ++ mode.linesAbout file (Text.lines stderr) := by
      rw [nothing, List.append_nil]

/-- The first stream ends in a form feed, and the second one begins with a
newline. -/
theorem linesAbout_combine_sample :
    let stdout := "a.ts(1,2): error TS3: x\u2028b.ts(1,2): error TS3: y\x0c"
    let stderr := "\n./a.ts:3:4 - error TS5: z\r"
    Text.lines (Compiler.combine stdout stderr) =
        ["a.ts(1,2): error TS3: x", "b.ts(1,2): error TS3: y", "", "", "./a.ts:3:4 - error TS5: z"] ∧
      exact.linesAbout "a.ts" (Text.lines (Compiler.combine stdout stderr)) =
        exact.linesAbout "a.ts" (Text.lines stdout) ++
          exact.linesAbout "a.ts" (Text.lines stderr) ∧
      exact.linesAbout "a.ts" (Text.lines stdout) ++
          exact.linesAbout "a.ts" (Text.lines stderr) =
        ["a.ts(1,2): error TS3: x", "./a.ts:3:4 - error TS5: z"] := by
  intro stdout stderr
  exact ⟨by decide +kernel, linesAbout_combine (by decide) exact stdout stderr, by decide +kernel⟩

end MatchMode

end Ratchet
