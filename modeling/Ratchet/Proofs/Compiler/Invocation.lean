import Ratchet.Compiler.Invocation

namespace Ratchet

/-!
# What the end of the compiler's command means

The compiler is a command of the shell, and a code is all that tells a project
with diagnostics from a compiler that did not do its work.  The code of a
command that ran out of its time is -1, like that of any other command.

So the end of the time is not told from a code that a command may end with, and
the codes that mean diagnostics are looked up first.  A list of codes with -1
in it turns what the compiler wrote up to the end of its time into diagnostics.
That is the only way in which the result differs from what is to be expected of
the ending.
-/

namespace Shell

/-- How a command has ended. -/
inductive Ending where
  | expired
  | finished (code : Int)
  deriving DecidableEq

/-- The exit code under which an ending counts. -/
def Ending.code : Ending → Int
  | .expired => -1
  | .finished code => code

namespace Call

/-- How a command has ended, by the reply to it. -/
def ending (call : Call) (reply : Reply) : Ending :=
  if call.expired reply then .expired else .finished reply.exited

theorem exited_eq_code (call : Call) (reply : Reply) :
    call.exited reply = (call.ending reply).code := by
  unfold exited ending
  split
  · rfl
  · rfl

end Call

end Shell

namespace Compiler

/-! ## Codes -/

/-- What the compiler is taken to say when its command has ended with a code
that is no failure: nothing if there is nothing to report, and otherwise what
it wrote. -/
def captured (outcome : Shell.Outcome) : String :=
  if outcome.exited = 0 then "" else combine outcome.stdout outcome.stderr

/-- The compiler fails exactly if its command ends with a code that is neither
zero nor one of those that mean diagnostics. -/
theorem Setup.read_cases (setup : Setup) (command : String) (outcome : Shell.Outcome) :
    (outcome.exited ≠ 0 ∧ outcome.exited ∉ setup.codes ∧
      ∃ failure, setup.read command outcome = .error failure) ∨
    ((outcome.exited = 0 ∨ outcome.exited ∈ setup.codes) ∧
      setup.read command outcome = .ok (captured outcome)) := by
  unfold Setup.read captured
  by_cases nothing : outcome.exited = 0
  · simp [nothing]
  · by_cases reported : outcome.exited ∈ setup.codes
    · simp [nothing, reported]
    · refine Or.inl ⟨nothing, reported, ?_⟩
      rw [if_neg (by simpa using nothing), if_neg (by simpa using reported)]
      split <;> exact ⟨_, rfl⟩

theorem Setup.value_compile (setup : Setup) (shell : Shell) (arguments : List String) :
    (setup.compile shell arguments).value =
      setup.read (setup.call arguments).command
        ((setup.call arguments).outcome (shell (setup.call arguments).fullText)) := by
  have ends := Shell.value_execute_of_unchecked shell (setup.call arguments) rfl
  simp only [compile, Noted.value_bind, ends, Noted.value_pure]

theorem Setup.commands_compile (setup : Setup) (shell : Shell) (arguments : List String) :
    (setup.compile shell arguments).journal.commands = [(setup.call arguments).fullText] := by
  have gives := Shell.commands_execute shell (setup.call arguments)
  have ends := Shell.value_execute_of_unchecked shell (setup.call arguments) rfl
  simp only [compile, Noted.journal_bind, Journal.commands_append, gives, ends]
  rfl

/-! ## Endings -/

/-- What an ending of the compiler's command is to mean: the text to look for
diagnostics in, and nothing if the compiler has failed. -/
def meaning? (codes : List Int) (written : String) : Shell.Ending → Option String
  | .expired => none
  | .finished code =>
    if code = 0 then some "" else if code ∈ codes then some written else none

/-- A code is taken for one that the command has finished with. -/
theorem Setup.toOption_read (setup : Setup) (command : String) (outcome : Shell.Outcome) :
    (setup.read command outcome).toOption =
      meaning? setup.codes (combine outcome.stdout outcome.stderr) (.finished outcome.exited) := by
  rcases setup.read_cases command outcome with ⟨failed, unlisted, failure, fails⟩ | ⟨accepted, gives⟩
  · rw [fails, meaning?, if_neg failed, if_neg unlisted]
    rfl
  · rw [gives, meaning?, captured]
    by_cases nothing : outcome.exited = 0
    · rw [if_pos nothing, if_pos nothing]
      rfl
    · rw [if_neg nothing, if_neg nothing, if_pos (accepted.resolve_left nothing)]
      rfl

theorem Setup.read_of_expired (setup : Setup) (command : String) {outcome : Shell.Outcome}
    (code : outcome.exited = Shell.Ending.expired.code) :
    setup.read command outcome =
      if -1 ∈ setup.codes then .ok (combine outcome.stdout outcome.stderr)
      else .error (.timedOut command setup.timeout (detail outcome)) := by
  rw [Shell.Ending.code] at code
  simp [read, code]

/-- Nothing is lost by reading an ending off its code, unless -1 is listed. -/
theorem meaning?_code_eq_iff (codes : List Int) (written : String) (ending : Shell.Ending) :
    meaning? codes written (.finished ending.code) = meaning? codes written ending ↔
      ¬(ending = .expired ∧ -1 ∈ codes) := by
  cases ending with
  | expired => by_cases listed : -1 ∈ codes <;> simp [Shell.Ending.code, meaning?, listed]
  | finished code => simp [Shell.Ending.code]

theorem Setup.toOption_compile (setup : Setup) (shell : Shell) (arguments : List String) :
    let call := setup.call arguments
    let reply := shell call.fullText
    (setup.compile shell arguments).value.toOption =
      meaning? setup.codes (combine reply.stdout reply.stderr)
        (.finished (call.ending reply).code) := by
  intro call reply
  rw [value_compile, toOption_read, ← Shell.Call.exited_eq_code]
  rfl

/-- The compiler gives what the ending of its command is to mean, unless the
command has run out of its time and -1 is listed.  At the end of the time, what
has been written is given in that case, and otherwise the compiler fails. -/
theorem Setup.compile_classifies_iff (setup : Setup) (shell : Shell) (arguments : List String) :
    let call := setup.call arguments
    let reply := shell call.fullText
    let written := combine reply.stdout reply.stderr
    ((setup.compile shell arguments).value.toOption =
        meaning? setup.codes written (call.ending reply) ↔
      ¬(call.ending reply = .expired ∧ -1 ∈ setup.codes)) ∧
    (call.ending reply = .expired →
      (setup.compile shell arguments).value =
        if -1 ∈ setup.codes then .ok written
        else .error (.timedOut call.command setup.timeout (detail (call.outcome reply)))) := by
  intro call reply written
  constructor
  · rw [toOption_compile]
    exact meaning?_code_eq_iff setup.codes written (call.ending reply)
  · intro expired
    have code : (call.outcome reply).exited = Shell.Ending.expired.code := by
      rw [Shell.Call.outcome, Shell.Call.exited_eq_code, expired]
    rw [value_compile]
    exact setup.read_of_expired call.command code

/-- The compiler has written a part of a line when its time is over. -/
theorem Setup.compile_expired_listed :
    let setup : Setup := ⟨Path.ofText "/srv", "tsc", [-1], some 1⟩
    let shell : Shell := fun _ => ⟨"partial", "", 0, true⟩
    (setup.call []).ending (shell (setup.call []).fullText) = .expired ∧
      meaning? setup.codes "partial" .expired = none ∧
      (setup.compile shell []).value.toOption = some "partial" := by
  intro setup shell
  decide +kernel

end Compiler

end Ratchet
