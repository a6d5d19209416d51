import Mathlib.Data.List.Basic
import Ratchet.Proofs.Check.Alike
import Ratchet.Proofs.Check.Views

namespace Ratchet

namespace Check

/-!
# Lines that do not matter

A compiler says a good deal about files that nobody touched.  To a check, a
line matters if it is about an included file, and all that is counted or told
is taken from the lines that matter.  Two outputs with the same such lines, in
the same order, are one and the same to every check, whatever else they hold
and wherever they hold it.
-/

namespace Setting

variable (setting : Setting)

/-- The lines that are about some included file. -/
def relevant (lines : List String) : List String :=
  lines.filter fun line =>
    setting.included.any fun file => setting.request.matchMode.accepts file line

/-- The setting with another compiler. -/
def compiledBy (compiler : Compiler) : Setting :=
  { setting with compiler }

variable {setting}

theorem relevant_of_accepts {file line : String} (included : file ∈ setting.included)
    (about : setting.request.matchMode.accepts file line = true) :
    (setting.included.any fun file => setting.request.matchMode.accepts file line) = true :=
  List.any_eq_true.mpr ⟨file, included, about⟩

/-- The lines about an included file are all among those that matter. -/
theorem linesAbout_relevant {file : String} (included : file ∈ setting.included)
    (lines : List String) :
    setting.request.matchMode.linesAbout file (setting.relevant lines) =
      setting.request.matchMode.linesAbout file lines := by
  rw [relevant, MatchMode.linesAbout, MatchMode.linesAbout, List.filter_filter]
  apply List.filter_congr
  intro line _
  cases about : setting.request.matchMode.accepts file line with
  | false => rfl
  | true => rw [relevant_of_accepts included about]; rfl

theorem fileEvents_relevant {file : String} (included : file ∈ setting.included)
    (lines : List String) :
    setting.fileEvents (setting.relevant lines) file = setting.fileEvents lines file := by
  rw [fileEvents, fileEvents, linesAbout_relevant included]

variable {first second : List String}

theorem flatMap_fileEvents_congr (same : setting.relevant first = setting.relevant second) :
    setting.included.flatMap (setting.fileEvents first) =
      setting.included.flatMap (setting.fileEvents second) := by
  apply List.flatMap_congr
  intro file included
  rw [← fileEvents_relevant included first, same, fileEvents_relevant included second]

theorem lineCount_congr (same : setting.relevant first = setting.relevant second) :
    setting.lineCount first setting.included = setting.lineCount second setting.included := by
  rw [lineCount_eq_length, lineCount_eq_length]
  apply congrArg List.length
  apply List.flatMap_congr
  intro file included
  rw [← linesAbout_relevant included first, same, linesAbout_relevant included second]

end Setting

variable (setting : Setting)

theorem alike_compiledBy (first second : Compiler) :
    (setting.compiledBy first).Alike (setting.compiledBy second) where
  request := rfl
  listener := rfl
  vcs := .refl setting.vcs

section Compiled

variable {compiler : Compiler} {output : String}
  (writes : (compiler setting.request.options.arguments).value = .ok output)

include writes

theorem compiled_compiledBy : (setting.compiledBy compiler).compiled = .ok (Text.lines output) :=
  congrArg (Except.map Text.lines) writes

theorem remainder_compiledBy :
    (setting.compiledBy compiler).remainder =
      if setting.changed.isEmpty then []
      else .compile setting.request.options.arguments ::
        (setting.included.flatMap (setting.fileEvents (Text.lines output))).map .heard := by
  rw [Setting.remainder, compiled_compiledBy setting writes]
  rfl

theorem conclusion_compiledBy :
    (setting.compiledBy compiler).conclusion =
      if setting.changed.isEmpty then .ok ⟨0⟩
      else .ok ⟨setting.lineCount (Text.lines output) setting.included⟩ := by
  rw [conclusion_eq, compiled_compiledBy setting writes]
  rfl

end Compiled

/-- What the compiler says about other files has no influence on a check. -/
theorem run_relevant {first second : Compiler} {output other : String}
    (writes : (first setting.request.options.arguments).value = .ok output)
    (writesToo : (second setting.request.options.arguments).value = .ok other)
    (same : setting.relevant (Text.lines output) = setting.relevant (Text.lines other)) :
    (run (setting.compiledBy first)).value = (run (setting.compiledBy second)).value ∧
    (run (setting.compiledBy first)).journal.heard =
      (run (setting.compiledBy second)).journal.heard ∧
    (run (setting.compiledBy first)).journal.dealings =
      (run (setting.compiledBy second)).journal.dealings := by
  have remainder : (setting.compiledBy first).remainder =
      (setting.compiledBy second).remainder := by
    rw [remainder_compiledBy setting writes, remainder_compiledBy setting writesToo,
      Setting.flatMap_fileEvents_congr same]
  have conclusion : (setting.compiledBy first).conclusion =
      (setting.compiledBy second).conclusion := by
    rw [conclusion_compiledBy setting writes, conclusion_compiledBy setting writesToo,
      Setting.lineCount_congr same]
  have ends := (alike_compiledBy setting second first).run_of_remainder remainder conclusion
  refine ⟨ends.1, ?_, ends.2⟩
  rw [← Journal.heard_dealings, ends.2, Journal.heard_dealings]

/-- An output with the one line that matters, among others and with other line
ends. -/
theorem run_relevant_sample :
    let output := "a.ts(1,1): error TS7006\nb.ts(2,2): error TS7006\n"
    let other := "c.ts(3,3): error TS1\r\na.ts(1,1): error TS7006\rFound 2 errors."
    Setting.sample.relevant (Text.lines other) = Setting.sample.relevant (Text.lines output) ∧
      (run (Setting.sample.compiledBy fun _ => pure (.ok other))).value =
        .ok ⟨⟨1⟩, Setting.sample.events⟩ := by
  intro output other
  have same : Setting.sample.relevant (Text.lines other) =
    Setting.sample.relevant (Text.lines output) := by decide +kernel
  have returned : (run .sample).value = .ok ⟨⟨1⟩, Setting.sample.events⟩ := rfl
  have alike : (run (Setting.sample.compiledBy fun _ => pure (.ok other))).value =
      (run (Setting.sample.compiledBy Setting.sample.compiler)).value :=
    (run_relevant .sample rfl rfl same).1
  exact ⟨same, alike.trans returned⟩

end Check

end Ratchet
