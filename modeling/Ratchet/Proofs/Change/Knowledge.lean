import Ratchet.Change.Discovery
import Ratchet.Proofs.Timing

namespace Ratchet

/-!
# What version control lets the check know

A question may be answered or not, and the check goes on in either case.  What
it then works with is a plain value: the fork point of a branch, if one is
known, the status of the working tree, and the files that differ from a base.
A question without an answer counts as the one that brings no information.

The results below say that discovery yields exactly these values, whatever is
answered first, and that it puts each question once, and none about an unknown
base.
-/

/-- A question and its answer. -/
def Query.exchange (question : Query) : Journal := [.query question, .answered question]

theorem Query.inquires_exchange (question : Query) : question.exchange.Inquires :=
  List.forall_mem_cons.mpr ⟨rfl, List.forall_mem_singleton.mpr rfl⟩

namespace Vcs

/-- The fork point of a branch, as far as it is known. -/
def base? (vcs : Vcs) (branch target : String) : Option Revision :=
  match (vcs.forkPoint branch target).value with
  | .ok revision => revision
  | .error _ => none

/-- The status of the working tree; a clean one if the question fails. -/
def status (vcs : Vcs) : Status :=
  match vcs.workingTree.value with
  | .ok status => status
  | .error _ => .clean

/-- The files that differ between a base and a head.  There are none if the
base is unknown or the question fails. -/
def differing (vcs : Vcs) (base : Option Revision) (head : String) : List String :=
  match base with
  | none => []
  | some base =>
    match (vcs.diff base head).value with
    | .ok files => files
    | .error _ => []

/-- The files that differ between a branch and its own fork point. -/
def branchFiles (vcs : Vcs) (target branch : String) : List String :=
  vcs.differing (vcs.base? branch target) branch

/-- The checked files among those that the working tree touches and those
committed since a base, each at its first place. -/
def changedSince (vcs : Vcs) (base : Option Revision) : List String :=
  ((vcs.status.paths ++ vcs.differing base Discovery.head).filter Extension.isSupported).eraseDups

/-- The question about the files that differ from a base, if the base is
known, and its answer. -/
def diffExchange (base : Option Revision) (head : String) : Journal :=
  base.toList.flatMap fun base => (Query.diff base head).exchange

/-- The questions about a branch and their answers. -/
def branchExchange (vcs : Vcs) (target branch : String) : Journal :=
  (Query.forkPoint branch target).exchange ++ diffExchange (vcs.base? branch target) branch

/-- The questions about some branches and their answers. -/
def branchExchanges (vcs : Vcs) (branches : List String) (target : String) : Journal :=
  .together vcs.timing (branches.map (vcs.branchExchange target))

/-- The questions about the changes since a base and their answers. -/
def changeExchanges (vcs : Vcs) (base : Option Revision) : Journal :=
  .together vcs.timing [Query.workingTree.exchange, diffExchange base Discovery.head]

/-- The commands that answering a question takes. -/
def commands (vcs : Vcs) : Query → List String
  | .forkPoint branch target => (vcs.forkPoint branch target).journal.commands
  | .workingTree => vcs.workingTree.journal.commands
  | .diff base head => (vcs.diff base head).journal.commands

theorem inquires_diffExchange (base : Option Revision) (head : String) :
    (diffExchange base head).Inquires := by
  intro entry member
  rcases List.mem_flatMap.mp member with ⟨base, _, asked⟩
  exact (Query.diff base head).inquires_exchange entry asked

theorem inquires_branchExchange (vcs : Vcs) (target branch : String) :
    (vcs.branchExchange target branch).Inquires :=
  (Query.inquires_exchange _).append (inquires_diffExchange _ _)

theorem inquires_changeExchanges (vcs : Vcs) (base : Option Revision) :
    (vcs.changeExchanges base).Inquires :=
  .together (List.forall_mem_cons.mpr ⟨Query.inquires_exchange _,
    List.forall_mem_singleton.mpr (inquires_diffExchange base Discovery.head)⟩)

theorem inquires_branchExchanges (vcs : Vcs) (branches : List String) (target : String) :
    (vcs.branchExchanges branches target).Inquires :=
  .together (List.forall_mem_map.mpr fun branch _ => vcs.inquires_branchExchange target branch)

end Vcs

namespace Discovery

/-! ## First places -/

theorem filter_firsts (keep : String → Bool) (paths : List String) :
    (firsts paths).filter keep = firsts (paths.filter keep) := by
  induction paths with
  | nil => rfl
  | cons path rest ih =>
    by_cases kept : keep path = true
    · simp only [firsts, List.filter_cons_of_pos kept, ← ih, List.filter_filter, Bool.and_comm]
    · simp only [firsts, List.filter_cons_of_neg kept, ← ih, List.filter_filter]
      apply List.filter_congr
      intro other _
      by_cases same : other = path
      · subst same
        simp [kept]
      · simp [same]

/-- First places are those that the library's own removal of repetitions
keeps. -/
theorem firsts_eq_eraseDups (paths : List String) : firsts paths = paths.eraseDups := by
  match paths with
  | [] => rfl
  | path :: rest =>
    have shorter : (rest.filter (· != path)).length ≤ rest.length := List.length_filter_le _ _
    rw [firsts, filter_firsts, List.eraseDups_cons, firsts_eq_eraseDups (rest.filter (· != path))]
    rfl
termination_by paths.length

theorem firsts_append (paths others : List String) :
    firsts (paths ++ others) =
      firsts paths ++ (firsts others).filter fun path => !paths.contains path := by
  induction paths with
  | nil => exact (List.filter_eq_self.mpr fun _ _ => rfl).symm
  | cons path rest ih =>
    rw [List.cons_append, firsts, ih, List.filter_append, firsts, List.cons_append,
      List.filter_filter]
    congr 2
    apply List.filter_congr
    intro other _
    by_cases same : other = path <;> simp [same]

theorem firsts_of_nodup {paths : List String} (nodup : paths.Nodup) : firsts paths = paths := by
  induction paths with
  | nil => rfl
  | cons path rest ih =>
    rw [List.nodup_cons] at nodup
    rw [firsts, ih nodup.2, List.filter_eq_self.mpr]
    intro other member
    simp only [bne_iff_ne, ne_eq]
    rintro rfl
    exact nodup.1 member

theorem firsts_firsts (paths : List String) : firsts (firsts paths) = firsts paths :=
  firsts_of_nodup (nodup_firsts paths)

/-- Removing repetitions from the parts first does not matter. -/
theorem firsts_append_firsts (paths others : List String) :
    firsts (firsts paths ++ firsts others) = firsts (paths ++ others) := by
  rw [firsts_append, firsts_append, firsts_firsts, firsts_firsts]
  congr 1
  apply List.filter_congr
  intro path _
  simp [mem_firsts]

theorem firsts_flatten_firsts (groups : List (List String)) :
    firsts (groups.map firsts).flatten = firsts groups.flatten := by
  induction groups with
  | nil => rfl
  | cons group rest ih =>
    rw [List.map_cons, List.flatten_cons, List.flatten_cons, ← firsts_append_firsts,
      firsts_firsts, ih, firsts_append_firsts]

end Discovery

namespace Vcs

/-! ## Changed files -/

variable (vcs : Vcs) (base : Option Revision)

theorem changedSince_eq_firsts :
    vcs.changedSince base =
      Discovery.firsts ((vcs.status.paths ++ vcs.differing base Discovery.head).filter
        Extension.isSupported) :=
  (Discovery.firsts_eq_eraseDups _).symm

theorem nodup_changedSince : (vcs.changedSince base).Nodup := by
  rw [changedSince_eq_firsts]
  exact Discovery.nodup_firsts _

theorem isSupported_of_mem_changedSince {path : String} (member : path ∈ vcs.changedSince base) :
    Extension.isSupported path = true := by
  rw [changedSince_eq_firsts, Discovery.mem_firsts] at member
  exact (List.mem_filter.mp member).2

end Vcs

/-! ## Knowing the same -/

namespace Vcs

/-- Version control that lets a check know the same as another one. -/
structure Agrees (vcs other : Vcs) : Prop where
  base? : ∀ branch target, other.base? branch target = vcs.base? branch target
  status : other.status = vcs.status
  differing : ∀ base head, other.differing base head = vcs.differing base head
  timing : other.timing = vcs.timing

namespace Agrees

variable {vcs other : Vcs} (agrees : vcs.Agrees other)

theorem refl (vcs : Vcs) : vcs.Agrees vcs :=
  ⟨fun _ _ => rfl, rfl, fun _ _ => rfl, rfl⟩

include agrees

theorem branchFiles (target : String) : other.branchFiles target = vcs.branchFiles target := by
  funext branch
  rw [Vcs.branchFiles, agrees.base?, agrees.differing, Vcs.branchFiles]

theorem branchExchanges : other.branchExchanges = vcs.branchExchanges := by
  funext branches target
  have each : other.branchExchange target = vcs.branchExchange target := by
    funext branch
    rw [Vcs.branchExchange, agrees.base?, Vcs.branchExchange]
  rw [Vcs.branchExchanges, agrees.timing, each, Vcs.branchExchanges]

theorem changeExchanges : other.changeExchanges = vcs.changeExchanges := by
  funext base
  rw [Vcs.changeExchanges, agrees.timing, Vcs.changeExchanges]

theorem changedSince (base : Option Revision) :
    other.changedSince base = vcs.changedSince base := by
  rw [Vcs.changedSince, agrees.status, agrees.differing, Vcs.changedSince]

end Agrees

end Vcs

namespace Discovery

/-! ## Single questions -/

theorem chats_settleForkPoint (branch target : String)
    (answer : Except Vcs.Failure (Option Revision)) :
    (settleForkPoint branch target answer).journal.Chats := by
  rcases answer with failure | _ | revision
  · exact .cons .nil
  · exact .cons .nil
  · exact .nil

theorem chats_settleWorkingTree (answer : Except Vcs.Failure Status) :
    (settleWorkingTree answer).journal.Chats := by
  cases answer with
  | error failure => exact .cons .nil
  | ok status => exact .nil

theorem chats_settleDiff (base : Revision) (head : String)
    (answer : Except Vcs.Failure (List String)) :
    (settleDiff base head answer).journal.Chats := by
  cases answer with
  | error failure => exact .cons .nil
  | ok files => exact .nil

/-- Of a question and what is made of its answer, the check itself does no more than
to ask and to be answered. -/
theorem dealings_asking {α β : Type} (question : Query) (answer : Answered α) {f : α → Noted β}
    (chats : ∀ a, (f a).journal.Chats) :
    (asking question answer >>= f).journal.dealings = question.exchange := by
  simp [asking, (chats _).dealings, Query.exchange]

variable (vcs : Vcs)

theorem value_findForkPoint (branch target : String) :
    (findForkPoint vcs branch target).value = vcs.base? branch target := by
  simp only [findForkPoint, asking, Noted.value_bind, Vcs.base?]
  rcases (vcs.forkPoint branch target).value with failure | _ | revision <;> rfl

theorem dealings_findForkPoint (branch target : String) :
    (findForkPoint vcs branch target).journal.dealings =
      (Query.forkPoint branch target).exchange :=
  dealings_asking _ _ (chats_settleForkPoint branch target)

theorem value_workingTreeChanges :
    (workingTreeChanges vcs).value = firsts vcs.status.paths := by
  simp only [workingTreeChanges, asking, Noted.value_bind, Vcs.status]
  cases vcs.workingTree.value <;> rfl

theorem dealings_workingTreeChanges :
    (workingTreeChanges vcs).journal.dealings = Query.workingTree.exchange :=
  dealings_asking _ _ chats_settleWorkingTree

theorem value_diffFiles (base : Option Revision) (head : String) :
    (diffFiles vcs base head).value = firsts (vcs.differing base head) := by
  cases base with
  | none => rfl
  | some base =>
    simp only [diffFiles, asking, Noted.value_bind, Vcs.differing]
    cases (vcs.diff base head).value <;> rfl

theorem dealings_diffFiles (base : Option Revision) (head : String) :
    (diffFiles vcs base head).journal.dealings = Vcs.diffExchange base head := by
  cases base with
  | none => rfl
  | some base => exact dealings_asking _ _ (chats_settleDiff base head)

/-! ## Questions that belong together -/

theorem value_collectChangeSet (base : Option Revision) :
    (collectChangeSet vcs base).value = vcs.changedSince base := by
  simp only [collectChangeSet, Noted.value_bind, Noted.value_pure, Noted.value_gather,
    List.map_cons, List.map_nil, List.flatten_cons, List.flatten_nil, List.append_nil,
    value_workingTreeChanges, value_diffFiles]
  rw [firsts_append_firsts, filter_firsts, firsts_eq_eraseDups]
  rfl

theorem dealings_collectChangeSet (base : Option Revision) :
    (collectChangeSet vcs base).journal.dealings = vcs.changeExchanges base := by
  simp only [collectChangeSet, Noted.journal_bind, Noted.journal_pure, List.append_nil,
    Noted.journal_gather, Journal.dealings_together, List.map_cons, List.map_nil,
    dealings_workingTreeChanges, dealings_diffFiles, Vcs.changeExchanges]

theorem value_changedOnBranch (target branch : String) :
    (changedOnBranch vcs target branch).value = firsts (vcs.branchFiles target branch) := by
  simp only [changedOnBranch, Noted.value_bind, value_findForkPoint, value_diffFiles,
    Vcs.branchFiles]

theorem dealings_changedOnBranch (target branch : String) :
    (changedOnBranch vcs target branch).journal.dealings = vcs.branchExchange target branch := by
  simp [changedOnBranch, dealings_findForkPoint, value_findForkPoint, dealings_diffFiles,
    Vcs.branchExchange]

theorem value_computeExclusions (branches : List String) (target : String) :
    (computeExclusions vcs branches target).value =
      firsts (branches.flatMap (vcs.branchFiles target)) := by
  simp only [computeExclusions, Noted.value_bind, Noted.value_gather, Noted.value_pure,
    List.map_map, Function.comp_def, value_changedOnBranch]
  rw [List.flatMap_def, ← firsts_flatten_firsts (branches.map (vcs.branchFiles target)),
    List.map_map]
  rfl

theorem dealings_computeExclusions (branches : List String) (target : String) :
    (computeExclusions vcs branches target).journal.dealings =
      vcs.branchExchanges branches target := by
  simp only [computeExclusions, Noted.journal_bind, Noted.journal_pure, List.append_nil,
    Noted.journal_gather, Journal.dealings_together, List.map_map, Function.comp_def,
    dealings_changedOnBranch, Vcs.branchExchanges]

end Discovery

end Ratchet
