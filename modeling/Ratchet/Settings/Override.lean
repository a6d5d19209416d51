import Ratchet.Settings.Config

namespace Ratchet

/-!
# Overrides of the check command

The check command may name another target branch, other ignored branches and
another way of attribution than the configuration does.
-/

open Conversion

/-- What the check command sets itself. -/
structure Override where
  targetBranch : Option String := none
  ignoreBranch : Option (List String) := none
  matchMode : Option MatchMode := none

namespace Override

def read : Value → Checked Override :=
  record "CheckCommand" fun entries =>
    Override.mk <$> defaulted ["target-branch"] none (nullable Conversion.text) entries <*>
      defaulted ["ignore-branch"] none (nullable (list Conversion.text)) entries <*>
      defaulted ["match-mode"] none (nullable Conversion.matchMode) entries

/-- The request that a configuration and the command's own settings make.  An
empty target branch counts as none. -/
def request (o : Override) (git : Config.Git) (compiler : Config.CompilerSection) : Request where
  options := compiler.options
  targetBranch := match o.targetBranch with
    | none | some "" => git.targetBranch
    | some branch => branch
  ignoreBranches := o.ignoreBranch.getD git.ignoreBranches
  matchMode := o.matchMode.getD compiler.matchMode

end Override

end Ratchet
