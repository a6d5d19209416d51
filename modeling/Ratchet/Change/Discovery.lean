import Ratchet.Change.Extension
import Ratchet.Change.Vcs

namespace Ratchet

/-!
# Discovering changes

Which files a branch changed.  Nothing here fails: a question that version
control does not answer is reported in the log and taken as answered by
"unknown" or "nothing".  Lists of files hold each file once, where it was
first met.

Questions that do not depend on each other, about several branches or about
the working tree and the commits, are on their way at the same time.  What is
found does not depend on which of them is answered first, but what is said about
those without an answer stands in the order in which they fail.
-/

namespace Discovery

/-- The name of the current commit. -/
def head : String := "HEAD"

/-- Each element once, at its first place. -/
def firsts : List String → List String
  | [] => []
  | path :: rest => path :: (firsts rest).filter (· != path)

theorem mem_firsts {path : String} {paths : List String} : path ∈ firsts paths ↔ path ∈ paths := by
  induction paths with
  | nil => simp [firsts]
  | cons first rest ih =>
    by_cases same : path = first <;> simp [firsts, ih, same]

theorem nodup_firsts (paths : List String) : (firsts paths).Nodup := by
  induction paths with
  | nil => simp [firsts]
  | cons first rest ih =>
    rw [firsts, List.nodup_cons]
    exact ⟨by simp, ih.filter _⟩

/-- Puts a question and takes its answer. -/
def asking {α : Type} (query : Query) (answer : Answered α) : Noted α := do
  .note (.query query)
  let result ← answer.toNoted
  .note (.answered query)
  pure result

/-- What is made of the answer where a branch forked from its target. -/
def settleForkPoint (branch target : String) :
    Except Vcs.Failure (Option Revision) → Noted (Option Revision)
  | .error failure => do
    .log .warn "Can not find fork point"
      [("branch", .text branch), ("target_branch", .text target),
        ("error", .text failure.message)]
    pure none
  | .ok none => do
    .log .debug "No fork point" [("branch", .text branch), ("target_branch", .text target)]
    pure none
  | .ok (some revision) => pure (some revision)

/-- Where a branch forked from its target, if that is known. -/
def findForkPoint (vcs : Vcs) (branch target : String) : Noted (Option Revision) := do
  settleForkPoint branch target
    (← asking (.forkPoint branch target) (vcs.forkPoint branch target))

/-- What is made of the answer which files the working tree touches. -/
def settleWorkingTree : Except Vcs.Failure Status → Noted (List String)
  | .error failure => do
    .log .warn "Can not find modified and untracked files" [("error", .text failure.message)]
    pure []
  | .ok status => pure (firsts status.paths)

/-- The files that the working tree touches. -/
def workingTreeChanges (vcs : Vcs) : Noted (List String) := do
  settleWorkingTree (← asking .workingTree vcs.workingTree)

/-- What is made of the answer which files differ between a revision and a
head. -/
def settleDiff (base : Revision) (head : String) :
    Except Vcs.Failure (List String) → Noted (List String)
  | .error failure => do
    .log .error "Can not find files changed since revision"
      [("base", .text base.sha), ("head", .text head), ("error", .text failure.message)]
    pure []
  | .ok files => pure (firsts files)

/-- The files that differ between a revision and a head, none if the revision
is unknown. -/
def diffFiles (vcs : Vcs) (base : Option Revision) (head : String) : Noted (List String) :=
  match base with
  | none => pure []
  | some base => do settleDiff base head (← asking (.diff base head) (vcs.diff base head))

/-- The changed files of a supported kind: those of the working tree and then
those committed since a revision. -/
def collectChangeSet (vcs : Vcs) (base : Option Revision) : Noted (List String) := do
  let files ← Noted.gather vcs.timing [workingTreeChanges vcs, diffFiles vcs base head]
  pure ((firsts files.flatten).filter Extension.isSupported)

/-- The files changed on a branch since it forked from a target. -/
def changedOnBranch (vcs : Vcs) (target branch : String) : Noted (List String) := do
  let base ← findForkPoint vcs branch target
  diffFiles vcs base branch

/-- The files changed on any of some branches. -/
def computeExclusions (vcs : Vcs) (branches : List String) (target : String) :
    Noted (List String) := do
  let files ← Noted.gather vcs.timing (branches.map (changedOnBranch vcs target))
  pure (firsts files.flatten)

end Discovery

end Ratchet
