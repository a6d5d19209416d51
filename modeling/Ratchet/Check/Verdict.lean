import Ratchet.Check.Run
import Ratchet.Check.Screen
import Ratchet.Settings.Override

namespace Ratchet

/-!
# The check command

A check of a configured project by way of a shell, shown on the screen, and
its exit code: 0 if no changed file has diagnostics, 1 if one has, and 2 if
the compiler could not do its work.
-/

namespace Verdict

def clean : Nat := 0

def diagnostics : Nat := 1

def compilerFailed : Nat := 2

/-- The setting of a check by way of a shell, in which commands that run beside each
other end in some order. -/
def setting (config : Config) (command : Override) (shell : Shell)
    (order : List (List Query) → List Nat := fun _ => []) : Check.Setting where
  request := command.request config.git config.compiler
  vcs := config.gitSetup.vcs shell order
  compiler := config.compilerSetup.compiler shell
  listener := some .patient

/-- The exit code of a check. -/
def run (config : Config) (command : Override) (shell : Shell)
    (order : List (List Query) → List Nat := fun _ => []) : Noted Nat := do
  match ← Check.run (setting config command shell order) with
  | .error (.compiler failure) =>
    .log .error "Compiler could not run" [("error", .text failure.message)]
    pure compilerFailed
  | .error (.listener reason) =>
    .log .error "Compiler could not run" [("error", .text reason)]
    pure compilerFailed
  | .ok report =>
    if report.outcome.success then
      .log .info "No diagnostics in changed files" []
      pure clean
    else
      .log .error "Diagnostics found in changed files"
        [("errors", .int report.outcome.errorCount)]
      pure diagnostics

/-- What the screen shows of a run. -/
def screen (j : Journal) : String :=
  Screen.text j.heard

end Verdict

end Ratchet
