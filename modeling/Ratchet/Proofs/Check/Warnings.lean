import Mathlib.Data.List.Basic
import Ratchet.Proofs.Check.Run
import Ratchet.Proofs.Check.Tally

namespace Ratchet

/-!
# What a check says about failed questions

A question that is not answered counts as one that brings no information, and
only the log tells the two apart.  For each such question there is one message,
which names what was asked and why there is no answer.  The messages stand in the
order in which it turns out that there is none, and if answers come at once that is
the order of the questions.  Nothing else is reported as a failure: of the
other messages only one is a warning, and it is about the fork point from which
changes are measured.

This is about what a check says by itself, so it is stated for ports that say
nothing.
-/

namespace Answered

/-- Why there is no answer. -/
def failure? {α ε : Type} (answer : Answered (Except ε α)) : Option ε :=
  match answer.value with
  | .error failure => some failure
  | .ok _ => none

end Answered

/-- Why a question is not answered, if it is not. -/
def Vcs.failure? (vcs : Vcs) : Query → Option Vcs.Failure
  | .forkPoint branch target => (vcs.forkPoint branch target).failure?
  | .workingTree => vcs.workingTree.failure?
  | .diff base head => (vcs.diff base head).failure?

/-- What is said about a question that is not answered. -/
def Query.regret (question : Query) (failure : Vcs.Failure) : Record :=
  match question with
  | .forkPoint branch target =>
    .ofLevel .warn "Can not find fork point"
      [("branch", .text branch), ("target_branch", .text target),
        ("error", .text failure.message)]
  | .workingTree =>
    .ofLevel .warn "Can not find modified and untracked files" [("error", .text failure.message)]
  | .diff base head =>
    .ofLevel .error "Can not find files changed since revision"
      [("base", .text base.sha), ("head", .text head), ("error", .text failure.message)]

theorem Query.isRegret_regret (question : Query) (failure : Vcs.Failure) :
    (question.regret failure).isRegret = true := by
  cases question <;> rfl

namespace Check

/-- What is said about a question. -/
def Setting.regret? (setting : Setting) (question : Query) : Option Record :=
  (setting.vcs.failure? question).map question.regret

/-- A message about a question that was not answered, or a warning. -/
def remark? (entry : Journal.Entry) : Option Record :=
  entry.record?.filter Record.isRemark

/-- Remarks, and what is to be said when there is no answer. -/
def Setting.remarkTally (setting : Setting) : Tally Record where
  counted := remark?
  due entry := (entry.answered?.bind setting.regret?).toList

/-- Ports that say nothing in the log. -/
structure Setting.Reticent (setting : Setting) : Prop where
  forkPoint : ∀ branch target, (setting.vcs.forkPoint branch target).journal.records = []
  workingTree : setting.vcs.workingTree.journal.records = []
  diff : ∀ base head, (setting.vcs.diff base head).journal.records = []
  compiler : ∀ arguments, (setting.compiler arguments).journal.records = []

variable {setting : Setting}

/-- What is said about an unknown fork point. -/
def unknownForkPoint (target : String) : Record :=
  .ofLevel .warn "Fork point unknown" [("target_branch", .text target)]

theorem filterMap_remark? (journal : Journal) :
    journal.filterMap remark? = journal.records.filter Record.isRemark :=
  List.filter_filterMap.symm

theorem remarks_of_records {journal : Journal} (silent : journal.records = []) :
    journal.filterMap remark? = [] := by
  rw [filterMap_remark?, silent, List.filter_nil]

theorem remark?_of_isRemark {record : Record} (remarkable : record.isRemark = true) :
    remark? (.record record) = some record :=
  Option.filter_eq_some_iff.mpr ⟨rfl, remarkable⟩

theorem remark?_of_quiet {record : Record} (quiet : record.isRemark = false) :
    remark? (.record record) = none := by
  apply Option.filter_eq_none_iff.mpr
  intro other same
  cases same
  exact Bool.eq_false_iff.mp quiet

theorem remark?_progress {level : Level} {message : String}
    (quiet : level.severity < Level.warn.severity) (routine : message ∉ Discovery.regrets)
    (attributes : List (String × Value)) :
    remark? (.record (.ofLevel level message attributes)) = none :=
  remark?_of_quiet (Record.isRemark_ofLevel quiet routine attributes)

theorem remark?_regret (question : Query) (failure : Vcs.Failure) :
    remark? (.record (question.regret failure)) = some (question.regret failure) := by
  apply remark?_of_isRemark
  rw [Record.isRemark, question.isRegret_regret failure, Bool.true_or]

/-- Whether anything is said about a question is decided when the answer is
known. -/
theorem asked_remarks {α β : Type} {question : Query} {answer : Answered (Except Vcs.Failure α)}
    (asked : setting.vcs.failure? question = answer.failure?) (silent : answer.journal.records = [])
    {f : Except Vcs.Failure α → Noted β} (chats : ∀ a, (f a).journal.Chats)
    (refused : ∀ failure, (f (.error failure)).journal.filterMap remark? = [question.regret failure])
    (answered : ∀ a, (f (.ok a)).journal.filterMap remark? = []) :
    Journal.InTurns (Accounted setting.remarkTally) setting.vcs.timing
      (Discovery.asking question answer >>= f).journal := by
  refine inTurns_asking (chats _) rfl
    (Accounted.of_entry (show _ = [Journal.Entry.answered question] from ?_) ?_)
  · simp [(chats _).dealings]
  · change List.filterMap remark? _ = (setting.regret? question).toList
    rw [List.filterMap_append, remarks_of_records silent, List.nil_append,
      List.filterMap_cons_none rfl, Setting.regret?, asked, Answered.failure?]
    cases answer.value with
    | error failure => exact refused failure
    | ok a => exact answered a

theorem remarkTally_fits (reticent : setting.Reticent) : setting.remarkTally.Fits setting where
  forkPoint branch target := by
    apply asked_remarks rfl (reticent.forkPoint branch target)
      (Discovery.chats_settleForkPoint branch target)
    · intro failure
      exact List.filterMap_cons_some (remark?_regret (.forkPoint branch target) failure)
    · rintro (_ | revision)
      · have quiet : remark? (.record (.ofLevel .debug "No fork point"
            [("branch", .text branch), ("target_branch", .text target)])) = none :=
          remark?_progress (by decide) (by decide) _
        exact List.filterMap_cons_none quiet
      · rfl
  workingTree := by
    apply asked_remarks rfl reticent.workingTree Discovery.chats_settleWorkingTree
    · intro failure
      exact List.filterMap_cons_some (remark?_regret .workingTree failure)
    · intro status
      rfl
  diff base head := by
    apply asked_remarks rfl (reticent.diff base head) (Discovery.chats_settleDiff base head)
    · intro failure
      exact List.filterMap_cons_some (remark?_regret (.diff base head) failure)
    · intro files
      rfl
  compile := by
    apply Accounted.of_entry (dealings_diagnosticLines setting)
    have silent := remarks_of_records (reticent.compiler setting.request.options.arguments)
    change List.filterMap remark? _ = []
    simp only [Compiler.diagnosticLines, Noted.journal_bind, Noted.journal_note,
      List.filterMap_append, silent]
    cases (setting.compiler setting.request.options.arguments).value with
    | error failure => rfl
    | ok output =>
      have quiet : remark? (.record (.ofLevel .info "Compiler finished"
          [("diagnostic_lines", .int (Text.lines output).length)])) = none :=
        remark?_progress (by decide) (by decide) _
      exact List.filterMap_cons_none quiet
  event _ := rfl
  progress _ quiet := remark?_of_quiet quiet

/-! ## Runs -/

/-- What is due for some dealings is what is to be said when there is no answer. -/
theorem due_dealings (journal : Journal) :
    journal.dealings.flatMap setting.remarkTally.due = journal.answers.filterMap setting.regret? := by
  rw [← Journal.answers_dealings, Journal.answers, List.filterMap_filterMap,
    List.filterMap_eq_flatMap_toList]
  rfl

theorem dealings_opening :
    (opening setting).journal.dealings =
      (Query.forkPoint Discovery.head setting.request.targetBranch).exchange ++
        noted setting.listener
          [.heard (.since (setting.vcs.base? Discovery.head setting.request.targetBranch))] := by
  simp [opening, resolveRevision, Discovery.dealings_findForkPoint, Discovery.value_findForkPoint,
    (chats_logForkPoint _ _).dealings, dealings_emit]

theorem answers_opening :
    (opening setting).journal.answers =
      [.forkPoint Discovery.head setting.request.targetBranch] := by
  rw [← Journal.answers_dealings, dealings_opening]
  unfold noted
  cases setting.listener <;> rfl

theorem isWarning_unknownForkPoint (target : String) :
    (unknownForkPoint target).isWarning = true := by
  rw [unknownForkPoint, Record.isWarning_ofLevel]
  decide

theorem isRegret_unknownForkPoint (target : String) :
    (unknownForkPoint target).isRegret = false :=
  rfl

theorem remarks_logForkPoint (target : String) (revision : Option Revision) :
    (logForkPoint target revision).journal.filterMap remark? =
      if revision = none then [unknownForkPoint target] else [] := by
  cases revision with
  | none =>
    have remarkable : (unknownForkPoint target).isRemark = true := by
      rw [Record.isRemark, isWarning_unknownForkPoint, Bool.or_true]
    exact List.filterMap_cons_some (remark?_of_isRemark remarkable)
  | some found =>
    have quiet : remark? (.record (.ofLevel .info "Found fork point"
        [("revision", .text found.sha), ("target_branch", .text target)])) = none :=
      remark?_progress (by decide) (by decide) _
    exact List.filterMap_cons_none quiet

theorem remarks_findForkPoint (reticent : setting.Reticent) (branch target : String) :
    (Discovery.findForkPoint setting.vcs branch target).journal.filterMap remark? =
      [Query.forkPoint branch target].filterMap setting.regret? := by
  have asks := (remarkTally_fits reticent).throughout.forkPoint branch target
  unfold Accounted at asks
  rw [due_dealings, ← Journal.answers_dealings, Discovery.dealings_findForkPoint] at asks
  exact asks

theorem remarks_emit (reticent : setting.Reticent) (state : State) (event : Event) :
    (emit setting state event).journal.filterMap remark? = [] := by
  have tells := (remarkTally_fits reticent).throughout.emit state event
  unfold Accounted at tells
  rw [due_dealings, ← Journal.answers_dealings, dealings_emit] at tells
  refine Eq.trans tells ?_
  unfold noted
  cases setting.listener <;> rfl

theorem remarks_opening (reticent : setting.Reticent) :
    let target := setting.request.targetBranch
    (opening setting).journal.filterMap remark? =
      [Query.forkPoint Discovery.head target].filterMap setting.regret? ++
        if setting.vcs.base? Discovery.head target = none then [unknownForkPoint target] else [] := by
  intro target
  have quiet : remark? (.record (.ofLevel .debug "Building workflow graph" [])) = none :=
    remark?_progress (by decide) (by decide) []
  have begins : [Journal.Entry.record (.ofLevel .debug "Building workflow graph" [])].filterMap
      remark? = [] := List.filterMap_cons_none quiet
  simp only [opening, resolveRevision, Noted.journal_bind, Noted.journal_log, Noted.journal_pure,
    List.filterMap_append, Discovery.value_findForkPoint, begins, remarks_findForkPoint reticent,
    remarks_logForkPoint, remarks_emit reticent, List.append_nil, List.nil_append]
  rfl

/-- The remarks of a run: on the first question, on the fork point, and on the
other questions. -/
theorem exists_others (reticent : setting.Reticent) :
    let target := setting.request.targetBranch
    ∃ others : List Query,
      (run setting).journal.answers = .forkPoint Discovery.head target :: others ∧
      (run setting).journal.records.filter Record.isRemark =
        [Query.forkPoint Discovery.head target].filterMap setting.regret? ++
          (if setting.vcs.base? Discovery.head target = none then [unknownForkPoint target] else []) ++
          others.filterMap setting.regret? := by
  intro target
  rcases (remarkTally_fits reticent).throughout.exists_later with ⟨later, accounted, whole⟩
  unfold Accounted at accounted
  rw [due_dealings] at accounted
  refine ⟨later.journal.answers, ?_, ?_⟩
  · rw [whole, Journal.answers_append]
    exact congrArg (· ++ later.journal.answers) answers_opening
  · rw [← filterMap_remark?, whole, List.filterMap_append, remarks_opening reticent]
    exact congrArg _ accounted

/-! ## Questions and their answers -/

theorem answers_exchange (question : Query) : question.exchange.answers = question.exchange.queries :=
  rfl

theorem answers_diffExchange (base : Option Revision) (head : String) :
    (Vcs.diffExchange base head).answers = (Vcs.diffExchange base head).queries := by
  cases base <;> rfl

theorem answers_branchExchange (vcs : Vcs) (target branch : String) :
    (vcs.branchExchange target branch).answers = (vcs.branchExchange target branch).queries := by
  rw [Vcs.branchExchange, Journal.answers_append, Journal.queries_append, answers_exchange,
    answers_diffExchange]

/-- Every question that is put is answered, and if answers come at once they come in
the order of the questions. -/
structure Settled (timing : Timing) (j : Journal) : Prop where
  permuted : j.answers.Perm j.queries
  prompt : (∀ question, timing.atOnce question = true) → j.answers = j.queries

namespace Settled

variable {timing : Timing}

theorem additive (timing : Timing) : Journal.Additive (Settled timing) where
  nil := ⟨.refl _, fun _ => rfl⟩
  append {j k} first second := by
    constructor
    · rw [Journal.answers_append, Journal.queries_append]
      exact first.permuted.append second.permuted
    · intro atOnce
      rw [Journal.answers_append, Journal.queries_append, first.prompt atOnce,
        second.prompt atOnce]

theorem of_eq {j : Journal} (same : j.answers = j.queries) : Settled timing j :=
  ⟨.of_eq same, fun _ => same⟩

/-- What does not ask or answer settles nothing. -/
theorem of_dealings {j : Journal} (settled : Settled timing j.dealings) : Settled timing j := by
  rcases settled with ⟨permuted, prompt⟩
  rw [Journal.answers_dealings, Journal.queries_dealings] at permuted prompt
  exact ⟨permuted, prompt⟩

/-- Tasks in each of which the answers follow the questions. -/
theorem together {tasks : List Journal} (each : ∀ task ∈ tasks, task.answers = task.queries) :
    Settled timing (.together timing tasks) := by
  have flat : Journal.answers tasks.flatten = Journal.queries tasks.flatten := by
    induction tasks with
    | nil => rfl
    | cons task rest ih =>
      rw [List.forall_mem_cons] at each
      rw [List.flatten_cons, Journal.answers_append, Journal.queries_append, each.1, ih each.2]
  have done := Journal.perm_together timing tasks
  constructor
  · exact ((done.filterMap _).trans (.of_eq flat)).trans (done.symm.filterMap _)
  · intro atOnce
    rw [Journal.together_of_unpaused fun task _ => Journal.unpaused_of_atOnce atOnce task, flat]

/-- Whatever a check does, its questions are answered. -/
theorem throughout (setting : Setting) : Throughout (Settled setting.vcs.timing) setting where
  toAdditive := additive setting.vcs.timing
  forkPoint branch target := by
    apply of_dealings
    rw [Discovery.dealings_findForkPoint]
    exact of_eq (answers_exchange _)
  exclusions branches target := by
    apply of_dealings
    rw [Discovery.dealings_computeExclusions]
    exact together (List.forall_mem_map.mpr fun branch _ => answers_branchExchange _ _ branch)
  changeSet base := by
    apply of_dealings
    rw [Discovery.dealings_collectChangeSet]
    exact together (List.forall_mem_cons.mpr
      ⟨answers_exchange _, List.forall_mem_singleton.mpr (answers_diffExchange _ _)⟩)
  compile := by
    apply of_dealings
    rw [dealings_diagnosticLines]
    exact of_eq rfl
  event event := of_eq rfl
  progress record _ := of_eq rfl

theorem run (setting : Setting) : Settled setting.vcs.timing (Check.run setting).journal :=
  (throughout setting).run fun revision => of_dealings ((chats_logForkPoint _ revision).dealings ▸
    of_eq rfl)

end Settled

/-! ## Messages -/

theorem filter_isRegret (questions : List Query) :
    (questions.filterMap setting.regret?).filter Record.isRegret =
      questions.filterMap setting.regret? := by
  apply List.filter_eq_self.mpr
  intro record member
  rcases List.mem_filterMap.mp member with ⟨question, _, told⟩
  rcases Option.map_eq_some_iff.mp told with ⟨failure, _, rfl⟩
  exact question.isRegret_regret failure

theorem filter_not_isRegret (questions : List Query) :
    (questions.filterMap setting.regret?).filter
      (fun record => record.isWarning && !record.isRegret) = [] := by
  apply List.filter_eq_nil_iff.mpr
  intro record member
  rcases List.mem_filterMap.mp member with ⟨question, _, told⟩
  rcases Option.map_eq_some_iff.mp told with ⟨failure, _, rfl⟩
  rw [question.isRegret_regret failure, Bool.not_true, Bool.and_false]
  exact Bool.false_ne_true

/-- The messages about questions that were not answered stand for these questions, in
the order in which that turned out.  Each question that is put is answered or turns
out to be unanswered once, and in the order of the questions if that happens at once.
The only other warning says that the fork point is unknown, if it is. -/
theorem run_remarks (reticent : setting.Reticent) :
    let journal := (run setting).journal
    let target := setting.request.targetBranch
    journal.records.filter Record.isRegret = journal.answers.filterMap setting.regret? ∧
      journal.answers.Perm journal.queries ∧
      ((∀ question, setting.vcs.timing.atOnce question = true) →
        journal.answers = journal.queries) ∧
      (journal.records.filter fun record => record.isWarning && !record.isRegret) =
        if setting.vcs.base? Discovery.head target = none then [unknownForkPoint target] else [] := by
  intro journal target
  rcases exists_others reticent with ⟨others, asked, remarks⟩
  have settled := Settled.run setting
  refine ⟨?_, settled.permuted, settled.prompt, ?_⟩
  · have remarked : journal.records.filter Record.isRegret =
        (journal.records.filter Record.isRemark).filter Record.isRegret := by
      rw [List.filter_filter]
      apply List.filter_congr
      intro record _
      cases regret : record.isRegret <;> simp [Record.isRemark, regret]
    have noRegret : (if setting.vcs.base? Discovery.head target = none then
        [unknownForkPoint target] else []).filter Record.isRegret = [] := by
      split <;> rfl
    rw [remarked, remarks, asked, List.filter_append, List.filter_append, filter_isRegret,
      filter_isRegret, noRegret, List.append_nil, ← List.filterMap_append]
    rfl
  · have remarked : (journal.records.filter fun record => record.isWarning && !record.isRegret) =
        (journal.records.filter Record.isRemark).filter
          (fun record => record.isWarning && !record.isRegret) := by
      rw [List.filter_filter]
      apply List.filter_congr
      intro record _
      cases warning : record.isWarning <;> simp [Record.isRemark, warning]
    rw [remarked, remarks, List.filter_append, List.filter_append, filter_not_isRegret,
      filter_not_isRegret, List.nil_append, List.append_nil]
    split
    · apply List.filter_cons_of_pos
      rw [isWarning_unknownForkPoint, isRegret_unknownForkPoint]
      rfl
    · rfl

/-- Only the fork points of two ignored branches are known.  The second one is known
first, and what differs is not known of either; nor is the working tree. -/
def Setting.stranded : Setting :=
  { Setting.sample with
    request := { targetBranch := "main", ignoreBranches := ["wip", "old"] }
    vcs :=
      { forkPoint := fun branch _ =>
          pure (if branch = "HEAD" then .error (.stated "no reflog")
            else .ok (Revision.ofText? "c0ffee"))
        workingTree := pure (.error (.stated "no working tree"))
        diff := fun _ _ => pure (.error .malformed)
        timing := { atOnce := fun _ => false, order := fun _ => [1, 1] } } }

theorem reticent_stranded : Setting.stranded.Reticent where
  forkPoint _ _ := rfl
  workingTree := rfl
  diff _ _ := rfl
  compiler _ := rfl

theorem run_remarks_stranded :
    Setting.stranded.Reticent ∧
      (run .stranded).journal.records.filter Record.isRegret =
        [.ofLevel .warn "Can not find fork point"
            [("branch", .text "HEAD"), ("target_branch", .text "main"),
              ("error", .text "no reflog")],
          .ofLevel .error "Can not find files changed since revision"
            [("base", .text "c0ffee"), ("head", .text "old"), ("error", .text "malformed answer")],
          .ofLevel .error "Can not find files changed since revision"
            [("base", .text "c0ffee"), ("head", .text "wip"), ("error", .text "malformed answer")],
          .ofLevel .warn "Can not find modified and untracked files"
            [("error", .text "no working tree")]] ∧
      ((run .stranded).journal.records.filter fun record => record.isWarning && !record.isRegret) =
        [unknownForkPoint "main"] := by
  rcases run_remarks reticent_stranded with ⟨regrets, _, _, warnings⟩
  exact ⟨reticent_stranded, regrets.trans rfl, warnings.trans rfl⟩

end Check

end Ratchet
