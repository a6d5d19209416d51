import Ratchet.Proofs.Log.Line
import Ratchet.Proofs.Template.Obstacle

namespace Ratchet

/-!
# Lines of templates that cannot be filled

A template that asks for a name or a key that is missing still gives a line, which says
what is missing.  Whatever else stops a template leaves the span without a line: a
position in the place of a name, braces that do not match, a part or an item that is
not there, a conversion or a format that is none.  Only the first thing in the way
counts, so a missing name hides what comes behind it, and is itself hidden by what
comes before.
-/

namespace Span

open Template (Misses Stops fill subject)

variable {span : Span} {sink : Config.Sink} {template : String}

/-- The line that says what a template asks for and nothing has. -/
def missingLine (error : Template.Error) : String :=
  "ERROR: Invalid template field " ++ error.message ++ "\n"

/-- What becomes of a line once its fields are known. -/
def lineBy (span : Span) (template : String) (names : Template.Names) : Except Failure String :=
  match fill names template with
  | .ok filled => .ok (filled ++ span.tail ++ "\n")
  | .error error => if error.isMissing then .ok (missingLine error) else .error (.template error)

theorem line_eq (form : sink.template = some template) (more : template ≠ "") :
    span.line sink = span.fields sink.escaped >>= span.lineBy template := by
  unfold line
  rw [form]
  split
  · next none => cases none
  · next empty => exact absurd (Option.some.inj empty) more
  · next other _ same =>
    cases same
    apply congrArg (span.fields sink.escaped >>= ·)
    funext names
    rw [lineBy]
    cases fill names template with
    | ok filled =>
      dsimp only
      rw [tail]
      split
      · rw [String.append_empty]
        rfl
      · rw [← String.append_assoc]
        rfl
    | error error => cases error <;> rfl

variable {names : Template.Names} {error : Template.Error}

theorem lineBy_of_filled {filled : String} (done : fill names template = .ok filled) :
    span.lineBy template names = .ok (filled ++ span.tail ++ "\n") := by
  rw [lineBy, done]

theorem lineBy_of_missing (fails : fill names template = .error error)
    (missing : error.isMissing = true) : span.lineBy template names = .ok (missingLine error) := by
  simp only [lineBy, fails, missing, if_true]

theorem lineBy_of_other (fails : fill names template = .error error)
    (other : error.isMissing ≠ true) :
    span.lineBy template names = .error (.template error) := by
  simp only [lineBy, fails, if_neg other]

theorem lineBy_eq_ok_iff {text : String} :
    span.lineBy template names = .ok text ↔
      (∃ filled, fill names template = .ok filled ∧ text = filled ++ span.tail ++ "\n") ∨
        ∃ error, Misses names 2 template.toList error ∧ text = missingLine error := by
  simp only [Template.misses_iff, ← Template.fill_eq_error_iff]
  constructor
  · intro done
    cases filling : fill names template with
    | ok filled =>
      cases (lineBy_of_filled filling).symm.trans done
      exact Or.inl ⟨filled, rfl, rfl⟩
    | error error =>
      by_cases missing : error.isMissing = true
      · cases (lineBy_of_missing filling missing).symm.trans done
        exact Or.inr ⟨error, ⟨rfl, missing⟩, rfl⟩
      · cases (lineBy_of_other filling missing).symm.trans done
  · rintro (⟨filled, filling, rfl⟩ | ⟨error, ⟨fails, missing⟩, rfl⟩)
    · exact lineBy_of_filled filling
    · exact lineBy_of_missing fails missing

theorem lineBy_eq_error_iff {failure : Failure} :
    span.lineBy template names = .error failure ↔
      ∃ error, Stops (subject names) 2 template.toList error ∧
        ¬ Misses names 2 template.toList error ∧ failure = .template error := by
  simp only [Template.misses_iff, ← Template.fill_eq_error_iff]
  constructor
  · intro fails
    cases filling : fill names template with
    | ok filled => cases (lineBy_of_filled filling).symm.trans fails
    | error error =>
      by_cases missing : error.isMissing = true
      · cases (lineBy_of_missing filling missing).symm.trans fails
      · cases (lineBy_of_other filling missing).symm.trans fails
        exact ⟨error, rfl, fun both => missing both.2, rfl⟩
  · rintro ⟨error, fails, other, rfl⟩
    exact lineBy_of_other fails fun missing => other ⟨fails, missing⟩

theorem ends_lineBy {text : String}
    (done : span.lineBy template names = .ok text) : ∃ line, text = line ++ "\n" := by
  rcases lineBy_eq_ok_iff.mp done with ⟨filled, -, rfl⟩ | ⟨error, -, rfl⟩
  · exact ⟨_, rfl⟩
  · exact ⟨_, rfl⟩

/-- Every line ends with a newline.  A span whose fields are known has one exactly if
its template is filled or is stopped for want of a name or a key, which the line then
says.  All else that stops the template is the reason why there is no line. -/
theorem line_of_template (form : sink.template = some template) (more : template ≠ "") :
    (∀ text, span.line sink = .ok text → ∃ line, text = line ++ "\n") ∧
      (∀ text, span.line sink = .ok text ↔ ∃ names, span.fields sink.escaped = .ok names ∧
        ((∃ filled, fill names template = .ok filled ∧ text = filled ++ span.tail ++ "\n") ∨
          ∃ error, Misses names 2 template.toList error ∧ text = missingLine error)) ∧
      ∀ failure, span.line sink = .error failure ↔
        span.fields sink.escaped = .error failure ∨
          ∃ names error, span.fields sink.escaped = .ok names ∧
            Stops (subject names) 2 template.toList error ∧
            ¬ Misses names 2 template.toList error ∧ failure = .template error := by
  rw [line_eq form more]
  cases known : span.fields sink.escaped with
  | error failure =>
    refine ⟨fun text impossible => (nomatch impossible), fun text => ?_, fun other => ?_⟩
    · simp [bind, Except.bind]
    · simp [bind, Except.bind]
  | ok names =>
    have whole : (Except.ok names >>= span.lineBy template) = span.lineBy template names := rfl
    rw [whole]
    refine ⟨fun text done => ends_lineBy done, fun text => ?_, fun failure => ?_⟩
    · rw [lineBy_eq_ok_iff]
      simp
    · rw [lineBy_eq_error_iff]
      simp

/-- A name that no line has, behind a level and in front of a field that asks for a
position, which nobody comes to. -/
theorem line_of_template_unknown :
    let sink : Config.Sink :=
      { enabled := true, template := some "\x7blevel\x7d \x7bmesage\x7d \x7b\x7d" }
    let span : Span :=
      { name := "x", attributes := [(messageAttribute, .text "hello"), ("count", .int 3)] }
    span.line sink = span.moment.map fun _ => "ERROR: Invalid template field 'mesage'\n" := by
  intro sink span
  have form : sink.template = some "\x7blevel\x7d \x7bmesage\x7d \x7b\x7d" := rfl
  rcases line_of_template form (by decide) with ⟨-, written, failed⟩
  cases start : span.moment with
  | error failure =>
    have unknown : span.fields sink.escaped = .error failure := by
      rw [fields, start]
      rfl
    exact (failed failure).mpr (Or.inl unknown)
  | ok moment =>
    let names : Template.Names := [("timestamp", .moment moment), ("level", .text "info"),
      ("message", .value (.text "hello")), ("location", .text ""), ("function", .value (.text ""))]
    have known : span.fields sink.escaped = .ok names := by
      rw [fields, start]
      rfl
    have stops : fill names "\x7blevel\x7d \x7bmesage\x7d \x7b\x7d" = .error (.noName "mesage") :=
      rfl
    have misses :
        Misses names 2 "\x7blevel\x7d \x7bmesage\x7d \x7b\x7d".toList (.noName "mesage") :=
      Template.misses_iff.mpr ⟨Template.fill_eq_error_iff.mp stops, rfl⟩
    have shows : missingLine (.noName "mesage") =
        "ERROR: Invalid template field 'mesage'\n" := by decide +kernel
    exact (written _).mpr ⟨names, known, Or.inr ⟨_, misses, shows.symm⟩⟩

/-- A field without a name asks for a position, and a line has none. -/
theorem line_positional :
    let sink : Config.Sink := { enabled := true, template := some "\x7b\x7d" }
    let span : Span := { name := "x" }
    (∀ text, span.line sink ≠ .ok text) ∧
      span.line sink = span.moment >>= fun _ => .error (.template (.noPosition 0)) := by
  intro sink span
  have form : sink.template = some "\x7b\x7d" := rfl
  have fails (names : Template.Names) :
      span.lineBy "\x7b\x7d" names = .error (.template (.noPosition 0)) :=
    lineBy_of_other rfl Bool.false_ne_true
  have whole : span.line sink = span.moment >>= fun _ => .error (.template (.noPosition 0)) := by
    rw [line_eq form (by decide), funext fails, fields]
    cases span.moment <;> rfl
  refine ⟨fun text done => ?_, whole⟩
  rw [whole] at done
  cases start : span.moment with
  | error failure =>
    rw [start] at done
    cases done
  | ok moment =>
    rw [start] at done
    cases done

end Span

end Ratchet
