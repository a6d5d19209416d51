import Ratchet.Proofs.Check.Refusals

namespace Ratchet

/-!
# Whatever is answered first

When the answers come has no influence on what a check finds out.  The questions
that are on their way at the same time all stand between two events, and so the
listener hears the same, and objects to the same if it does.  What is asked,
compiled and told is the same too, but for the order of questions and answers.
-/

namespace Check

variable {listener : Option Listener} {earlier : List Event}

/-- What is no event is either performed as a whole, whatever it is, or hidden by an
objection before it. -/
theorem perform_around (before after : Journal) :
    (∃ done : Journal, ∀ middle : Journal, middle.heard = [] →
      (perform listener earlier (before ++ (middle ++ after))).1 = done) ∨
    ∃ done : Journal, ∀ middle : Journal, middle.heard = [] →
      (perform listener earlier (before ++ (middle ++ after))).1 = before ++ (middle ++ done) := by
  cases ends : (perform listener earlier before).2 with
  | some failure =>
    refine Or.inl ⟨(perform listener earlier before).1, fun middle _ => ?_⟩
    rw [perform_append_objected (middle ++ after) ends]
  | none =>
    refine Or.inr ⟨(perform listener (earlier ++ before.heard) after).1, fun middle silent => ?_⟩
    have quiet := @perform_silent listener (earlier ++ before.heard) middle silent
    rw [perform_append_undisturbed _ ends,
      perform_append_undisturbed _ (congrArg Prod.snd quiet), silent, List.append_nil]

theorem perm_noted (listener : Option Listener) {script other : Journal}
    (permuted : script.Perm other) : (noted listener script).Perm (noted listener other) := by
  unfold noted
  split
  · exact permuted
  · exact permuted.filter _

/-- The setting with answers that come at other times. -/
def Setting.retimed (setting : Setting) (timing : Timing) : Setting :=
  { setting with vcs := { setting.vcs with timing } }

variable (setting : Setting) (timing : Timing)

theorem questions_retimed : (setting.retimed timing).questions.Perm setting.questions :=
  ((Journal.perm_together ..).append (Journal.perm_together ..)).trans
    ((Journal.perm_together ..).append (Journal.perm_together ..)).symm

theorem script_retimed :
    ∃ before after : Journal,
      setting.script = before ++ (setting.questions ++ after) ∧
      (setting.retimed timing).script = before ++ ((setting.retimed timing).questions ++ after) := by
  refine ⟨(Query.forkPoint Discovery.head setting.request.targetBranch).exchange ++
      [.heard (.since setting.revision)],
    [.heard (.changed setting.changed)] ++ setting.remainder, ?_, ?_⟩
  · rw [script_eq, Setting.overture]
    simp
  · rw [script_eq, Setting.overture, List.append_assoc, List.append_assoc]
    exact congrArg _ (congrArg _ (List.append_assoc ..))

/-- What a run finds out and tells does not depend on when the answers come, and what
it does is the same up to the order. -/
theorem run_retimed :
    (run (setting.retimed timing)).value = (run setting).value ∧
      (run (setting.retimed timing)).journal.heard = (run setting).journal.heard ∧
      (run (setting.retimed timing)).journal.dealings.Perm (run setting).journal.dealings := by
  have silent := (inquires_questions setting).heard
  have silentToo := (inquires_questions (setting.retimed timing)).heard
  have permuted := questions_retimed setting timing
  have sameListener : (setting.retimed timing).listener = setting.listener := rfl
  rcases script_retimed setting timing with ⟨before, after, script, scriptToo⟩
  refine ⟨value_run_congr rfl ?_ rfl, ?_, ?_⟩
  · simp only [script, scriptToo, Journal.heard_append, silent, silentToo]
  · rw [heard_run, heard_run, script, scriptToo, sameListener]
    rcases perform_around before after with ⟨done, same⟩ | ⟨done, same⟩
    · rw [same _ silent, same _ silentToo]
    · rw [same _ silent, same _ silentToo]
      simp only [noted_append, Journal.heard_append, noted_silent _ silent,
        noted_silent _ silentToo, silent, silentToo]
  · rw [(run_performs _).dealings, (run_performs _).dealings, script, scriptToo, sameListener]
    apply perm_noted
    rcases perform_around before after with ⟨done, same⟩ | ⟨done, same⟩
    · rw [same _ silent, same _ silentToo]
    · rw [same _ silent, same _ silentToo]
      exact (permuted.append_right done).append_left before

end Check

namespace Verdict

/-- The exit code and the screen are the same whichever commands end first, and the same
commands are given, in some order. -/
theorem run_reordered (config : Config) (command : Override) (shell : Shell)
    (order other : List (List Query) → List Nat) :
    (run config command shell order).value = (run config command shell other).value ∧
      screen (run config command shell order).journal =
        screen (run config command shell other).journal ∧
      (run config command shell order).journal.commands.Perm
        (run config command shell other).journal.commands := by
  let timing := (setting config command shell order).vcs.timing
  have same : (setting config command shell other).retimed timing =
    setting config command shell order := rfl
  rcases Check.run_retimed (setting config command shell other) timing with
    ⟨value, heard, dealings⟩
  rw [same] at value heard dealings
  refine ⟨?_, ?_, ?_⟩
  · rw [value_run, value_run, value]
  · rw [screen, screen, heard_eq_check, heard_eq_check, heard]
  · rw [commands_run, commands_run]
    exact dealings.flatMap_right _

end Verdict

end Ratchet
