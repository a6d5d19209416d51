import Ratchet.Proofs.Change.Commands
import Ratchet.Proofs.Text.Blank
import Ratchet.Proofs.Text.Lines

namespace Ratchet

/-!
# Answers about fork points

The command for a fork point has three things to say.  There is none, which
takes a blank output and one of two exit codes.  The question is not answered,
which takes any other exit code but zero.  Or there is one, and the first line of
the output names it.

That the first line names a revision is no matter of course, since it has to be
there and must not be blank.  It is the blanks that are taken off the output
beforehand that see to this.  A line boundary is a blank, though not the other way
round, so what is left begins with a character that no line ends at.  The first
line keeps that character, whatever is taken off its other end.
-/

/-! ## The first line of a text that is not blank -/

namespace Blank

/-- Every character that ends a line is a blank.  The unit separator, for one, is
a blank that ends no line. -/
theorem isBlank_of_isBreak {c : Char} (breaks : Lines.isBreak c = true) : isBlank c = true := by
  simp only [Lines.isBreak, Bool.or_eq_true, Bool.and_eq_true, decide_eq_true_eq,
    beq_iff_eq] at breaks
  simp only [isBlank, Bool.or_eq_true, Bool.and_eq_true, decide_eq_true_eq, beq_iff_eq]
  omega

theorem isBreak_of_visible {c : Char} (visible : isBlank c = false) : Lines.isBreak c = false := by
  apply Bool.eq_false_iff.mpr
  intro breaks
  rw [isBlank_of_isBreak breaks] at visible
  cases visible

end Blank

namespace Text

/-- When blanks are taken off a text that is not blank, there is a first line, and
it is not blank either. -/
theorem exists_firstLine {s : String} (written : isBlank s = false) :
    ∃ line, (lines (strip s)).head? = some line ∧ isBlank line = false ∧
      ∀ c ∈ line.toList, Lines.isBreak c = false := by
  cases left : Blank.strip s.toList with
  | nil =>
    have blank : isBlank s = true := Blank.strip_eq_nil_iff.mp left
    rw [blank] at written
    cases written
  | cons c rest =>
    have visible : Blank.isBlank c = false := by
      apply Blank.startsVisible_strip s.toList
      rw [left]
      rfl
    rcases Lines.head?_split_letter (Blank.isBreak_of_visible visible) rest with ⟨others, first⟩
    refine ⟨String.ofList (c :: others), ?_, ?_, ?_⟩
    · rw [lines, strip, String.toList_ofList, left, List.head?_map, first]
      rfl
    · simp [isBlank, Blank.allBlank, visible]
    · intro d inside
      rw [String.toList_ofList] at inside
      exact Lines.isBreak_of_mem_split (List.mem_of_mem_head? first) inside

end Text

namespace Revision

/-- The name is there, on a single line, without blanks around it. -/
structure WellFormed (revision : Revision) : Prop where
  named : revision.sha ≠ ""
  starts : Blank.StartsVisible revision.sha.toList
  ends : Blank.EndsVisible revision.sha.toList
  unbroken : ∀ c ∈ revision.sha.toList, Lines.isBreak c = false

theorem ofText?_of_written {s : String} (written : Text.isBlank s = false) :
    ∃ revision, ofText? s = some revision ∧ revision.sha = Text.strip s := by
  cases read : ofText? s with
  | none =>
    rw [ofText?_eq_none_iff.mp read] at written
    cases written
  | some revision => exact ⟨revision, rfl, sha_of_ofText? read⟩

theorem wellFormed_of_line {revision : Revision} {line : String}
    (unbroken : ∀ c ∈ line.toList, Lines.isBreak c = false)
    (names : revision.sha = Text.strip line) : revision.WellFormed := by
  have letters : revision.sha.toList = Blank.strip line.toList := by
    rw [names, Text.strip, String.toList_ofList]
  refine ⟨revision.present, ?_, ?_, ?_⟩
  · rw [letters]
    exact Blank.startsVisible_strip line.toList
  · rw [letters]
    exact Blank.endsVisible_dropTrailing _
  · intro c inside
    rw [letters] at inside
    exact unbroken c ((Blank.strip_infix line.toList).mem inside)

end Revision

namespace Git

/-! ## What the command says -/

/-- The first line of an output names a revision whenever the output is not
blank. -/
theorem exists_firstRevision {s : String} (written : Text.isBlank s = false) :
    ∃ line revision, (Text.lines (Text.strip s)).head? = some line ∧
      firstRevision (Text.strip s) = .ok revision ∧ revision.sha = Text.strip line ∧
      revision.WellFormed := by
  rcases Text.exists_firstLine written with ⟨line, first, lineWritten, unbroken⟩
  rcases Revision.ofText?_of_written lineWritten with ⟨revision, read, names⟩
  refine ⟨line, revision, first, ?_, names, Revision.wellFormed_of_line unbroken names⟩
  rw [firstRevision, first, Option.bind_some, read]

/-- The three things that the command can say, and what each of them takes. -/
theorem readForkPoint_cases (command : String) (outcome : Shell.Outcome) :
    (Text.isBlank outcome.stdout = true ∧ (outcome.exited = 0 ∨ outcome.exited = 1) ∧
      readForkPoint command outcome = .ok none) ∨
    (outcome.exited ≠ 0 ∧ ¬ (Text.isBlank outcome.stdout = true ∧ outcome.exited = 1) ∧
      readForkPoint command outcome =
        .error (.refused command outcome.exited (Text.strip outcome.stderr))) ∨
    (outcome.exited = 0 ∧ Text.isBlank outcome.stdout = false ∧
      ∃ line revision, (Text.lines (Text.strip outcome.stdout)).head? = some line ∧
        revision.sha = Text.strip line ∧ revision.WellFormed ∧
        readForkPoint command outcome = .ok (some revision)) := by
  have nothing : (Text.strip outcome.stdout == "") = Text.isBlank outcome.stdout := by
    rw [Bool.eq_iff_iff, beq_iff_eq, Text.strip_eq_empty_iff]
  unfold readForkPoint
  simp only [nothing, noForkPoint]
  cases blank : Text.isBlank outcome.stdout with
  | true =>
    by_cases one : outcome.exited = 1
    · exact Or.inl ⟨rfl, Or.inr one, by simp [one]⟩
    · by_cases zero : outcome.exited = 0
      · exact Or.inl ⟨rfl, Or.inl zero, by simp [zero]⟩
      · exact Or.inr (Or.inl ⟨zero, fun denied => one denied.2, by simp [one, zero, refusal]⟩)
  | false =>
    by_cases zero : outcome.exited = 0
    · rcases exists_firstRevision blank with ⟨line, revision, first, read, names, wellFormed⟩
      refine Or.inr (Or.inr ⟨zero, rfl, line, revision, first, names, wellFormed, ?_⟩)
      simp [zero, read, Except.map]
    · exact Or.inr (Or.inl ⟨zero, fun denied => Bool.false_ne_true denied.1,
        by simp [zero, refusal]⟩)

namespace Setup

theorem value_forkPoint {setup : Setup} {branch target command : String}
    (asks : setup.commandFor (.forkPoint branch target) = .ok command) (shell : Shell) :
    ((setup.vcs shell).forkPoint branch target).value =
      readForkPoint command (setup.ending shell command) := by
  rw [commandFor] at asks
  simp only [vcs, value_ask, asks, Except.bind, Noted.value_pure]

/-- What the command for a fork point writes and how it ends decide which of three
answers is given, and there is no fourth.  The answer "none" is never a blank
name taken for one, and a name that is given is well formed. -/
theorem forkPoint_wellFormed {setup : Setup} {branch target command : String}
    (asks : setup.commandFor (.forkPoint branch target) = .ok command) (shell : Shell) :
    let ends := setup.ending shell command
    let answer := ((setup.vcs shell).forkPoint branch target).value
    (answer = .ok none ↔
      Text.isBlank ends.stdout = true ∧ (ends.exited = 0 ∨ ends.exited = 1)) ∧
    (∀ failure, answer = .error failure ↔
      failure = .refused command ends.exited (Text.strip ends.stderr) ∧ ends.exited ≠ 0 ∧
        ¬ (Text.isBlank ends.stdout = true ∧ ends.exited = 1)) ∧
    ((∃ revision, answer = .ok (some revision)) ↔
      ends.exited = 0 ∧ Text.isBlank ends.stdout = false) ∧
    (∀ revision, answer = .ok (some revision) →
      revision.WellFormed ∧ ∃ line, (Text.lines (Text.strip ends.stdout)).head? = some line ∧
        revision.sha = Text.strip line) := by
  intro ends answer
  have told : answer = readForkPoint command ends := value_forkPoint asks shell
  rw [told]
  rcases readForkPoint_cases command ends with ⟨blank, code, tells⟩ | ⟨failed, undenied, tells⟩ |
    ⟨zero, written, line, revision, first, names, wellFormed, tells⟩
  · rw [tells]
    refine ⟨iff_of_true rfl ⟨blank, code⟩, fun failure => iff_of_false (by simp) ?_,
      iff_of_false (by simp) (by simp [blank]), by simp⟩
    rintro ⟨_, failed, undenied⟩
    exact undenied ⟨blank, code.resolve_left failed⟩
  · rw [tells]
    refine ⟨iff_of_false (by simp) ?_, fun failure => ?_, iff_of_false (by simp) (by simp [failed]),
      by simp⟩
    · rintro ⟨blank, code⟩
      exact undenied ⟨blank, code.resolve_left failed⟩
    · rw [Except.error.injEq, eq_comm]
      exact (and_iff_left ⟨failed, undenied⟩).symm
  · rw [tells]
    refine ⟨iff_of_false (by simp) (by simp [written]), fun failure => iff_of_false (by simp) ?_,
      iff_of_true ⟨revision, rfl⟩ ⟨zero, written⟩, ?_⟩
    · rintro ⟨_, failed, _⟩
      exact failed zero
    · intro other same
      cases same
      exact ⟨wellFormed, line, first, names⟩

/-- The output has blanks of several kinds in front, one of them a unit separator,
and goes on after the first line. -/
theorem forkPoint_wellFormed_ragged :
    let setup : Setup := ⟨Path.ofText "/srv", [], some 5⟩
    let shell : Shell := fun _ => ⟨"\x85\x1f\x0b c0ffee\xa0\u2028 deadbeef\n", "", 0, false⟩
    setup.commandFor (.forkPoint "HEAD" "main") = .ok "git merge-base --fork-point main HEAD" ∧
      ∃ revision, ((setup.vcs shell).forkPoint "HEAD" "main").value = .ok (some revision) ∧
        revision.WellFormed ∧ revision.sha = "c0ffee" := by
  intro setup shell
  have usual : usualCommand (.forkPoint "HEAD" "main") =
      "git merge-base --fork-point main HEAD" := by
    decide +kernel
  have asks := (setup.commandFor_usual rfl (.forkPoint "HEAD" "main")).trans
    (congrArg Except.ok usual)
  rcases forkPoint_wellFormed asks shell with ⟨_, _, named, wellFormed⟩
  rcases named.mpr (by decide +kernel) with ⟨revision, tells⟩
  rcases wellFormed revision tells with ⟨clean, line, first, names⟩
  have found : (Text.lines (Text.strip (setup.ending shell
      "git merge-base --fork-point main HEAD").stdout)).head? = some "c0ffee\xa0" := by
    decide +kernel
  have same : line = "c0ffee\xa0" := Option.some.inj (first.symm.trans found)
  refine ⟨asks, revision, tells, clean, ?_⟩
  rw [names, same]
  decide +kernel

end Setup

end Git

end Ratchet
