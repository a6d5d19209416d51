import Ratchet.Timing

namespace Ratchet

namespace Journal

/-!
# What tasks do together

Whatever the order in which the answers come, all that the tasks do is done, and
nothing else.  If nobody has to wait, the tasks are done one after the other.
What a view does not look at makes no difference to the order, as long as the
view sees the questions.

A property of the whole that is to hold in any order must hold of every turn,
and must be handed on from parts to what they make together.  Both are
properties of journals that can be proved of the parts of a computation one by
one.
-/

variable {timing : Timing}

/-! ## Turns -/

/-- A turn ends with a question that is waited for. -/
theorem turns_of_pauses {entry : Entry} (waits : entry.pauses timing = true) (rest : Journal) :
    turns timing (entry :: rest) = ([entry], (turns timing rest).1 :: (turns timing rest).2) :=
  if_pos waits

theorem turns_of_not_pauses {entry : Entry} (goesOn : entry.pauses timing = false)
    (rest : Journal) :
    turns timing (entry :: rest) = (entry :: (turns timing rest).1, (turns timing rest).2) :=
  if_neg (Bool.eq_false_iff.mp goesOn)

theorem append_turns (timing : Timing) (j : Journal) :
    (turns timing j).1 ++ (turns timing j).2.flatten = j := by
  induction j with
  | nil => rfl
  | cons entry rest ih =>
    cases waits : entry.pauses timing with
    | true =>
      rw [turns_of_pauses waits]
      exact congrArg (entry :: ·) ih
    | false =>
      rw [turns_of_not_pauses waits]
      exact congrArg (entry :: ·) ih

/-- True of a journal in which nobody waits. -/
def Unpaused (timing : Timing) (j : Journal) : Prop :=
  ∀ entry ∈ j, entry.pauses timing = false

theorem unpaused_of_atOnce (atOnce : ∀ query, timing.atOnce query = true) (j : Journal) :
    j.Unpaused timing := by
  intro entry _
  cases entry with
  | query q => exact congrArg not (atOnce q)
  | record | command | answered | compile | heard => rfl

/-- Who does not deal with anything does not wait either. -/
theorem unpaused_of_dealings {j : Journal} (idle : j.dealings = []) : j.Unpaused timing := by
  intro entry member
  have apart := List.filter_eq_nil_iff.mp idle entry member
  cases entry with
  | query => exact absurd rfl apart
  | record | command | answered | compile | heard => rfl

theorem turns_of_unpaused {j : Journal} (unpaused : j.Unpaused timing) :
    turns timing j = (j, []) := by
  induction j with
  | nil => rfl
  | cons entry rest ih =>
    rw [turns_of_not_pauses (unpaused entry List.mem_cons_self),
      ih fun other member => unpaused other (List.mem_cons_of_mem _ member)]

/-! ## All that the tasks do -/

theorem perm_of_turn {tasks : List (List Journal)} {position : Nat} {turn : Journal}
    {rest : List Journal} (next : tasks[position]? = some (turn :: rest)) :
    (turn ++ (tasks.set position rest).flatten.flatten).Perm tasks.flatten.flatten := by
  induction tasks generalizing position with
  | nil => cases next
  | cons task others ih =>
    cases position with
    | zero =>
      cases next
      simp
    | succ position =>
      rw [List.getElem?_cons_succ] at next
      rw [List.set_cons_succ, List.flatten_cons, List.flatten_append, List.flatten_cons,
        List.flatten_append, ← List.append_assoc]
      refine (List.perm_append_comm.append_right _).trans ?_
      rw [List.append_assoc]
      exact (ih next).append_left _

theorem perm_resume (order : List Nat) (tasks : List (List Journal)) :
    (resume order tasks).Perm tasks.flatten.flatten := by
  induction order generalizing tasks with
  | nil => exact .refl _
  | cons position order ih =>
    rw [resume]
    split
    · next turn rest next => exact ((ih _).append_left turn).trans (perm_of_turn next)
    · exact ih tasks

/-- Tasks that are under way at the same time do all that each of them does, and
nothing else. -/
theorem perm_together (timing : Timing) (tasks : List Journal) :
    (together timing tasks).Perm tasks.flatten := by
  refine ((perm_resume _ _).append_left _).trans ?_
  induction tasks with
  | nil => exact .refl _
  | cons task others ih =>
    let first := (turns timing task).1
    let later := (turns timing task).2.flatten
    let firsts := (others.map fun task => (turns timing task).1).flatten
    let rests := (others.map fun task => (turns timing task).2).flatten.flatten
    have apart : ((first ++ firsts) ++ (later ++ rests)).Perm ((first ++ later) ++ (firsts ++ rests)) := by
      rw [List.append_assoc, List.append_assoc]
      exact List.Perm.append_left _ (List.perm_append_comm_assoc firsts later rests)
    have whole : first ++ later = task := append_turns timing task
    rw [whole] at apart
    simp only [List.map_cons, List.flatten_cons, List.flatten_append]
    exact apart.trans (ih.append_left task)

theorem mem_together {tasks : List Journal} {entry : Entry} :
    entry ∈ together timing tasks ↔ ∃ task ∈ tasks, entry ∈ task :=
  (perm_together timing tasks).mem_iff.trans List.mem_flatten

theorem Inquires.together {tasks : List Journal} (inquires : ∀ task ∈ tasks, task.Inquires) :
    (together timing tasks).Inquires := by
  intro entry member
  rcases mem_together.mp member with ⟨task, listed, inside⟩
  exact inquires task listed entry inside

/-- Tasks that never wait are done one after the other. -/
theorem together_of_unpaused {tasks : List Journal}
    (unpaused : ∀ task ∈ tasks, task.Unpaused timing) : together timing tasks = tasks.flatten := by
  have first : (tasks.map fun task => (turns timing task).1) = tasks := by
    refine (List.map_congr_left fun task member => ?_).trans (List.map_id tasks)
    rw [turns_of_unpaused (unpaused task member), id]
  have others : (tasks.map fun task => (turns timing task).2).flatten.flatten = [] := by
    rw [List.flatten_eq_nil_iff]
    intro turn member
    rcases List.mem_flatten.mp member with ⟨later, listed, inside⟩
    rcases List.mem_map.mp listed with ⟨task, task_mem, rfl⟩
    rw [turns_of_unpaused (unpaused task task_mem)] at inside
    cases inside
  have nothing := perm_resume (timing.order (tasks.map queries))
    (tasks.map fun task => (turns timing task).2)
  rw [others] at nothing
  rw [together, first, nothing.eq_nil, List.append_nil]

/-! ## Views -/

section Views

variable {keep : Entry → Bool} (asks : ∀ query, keep (.query query) = true)

include asks

theorem queries_filter (j : Journal) : queries (j.filter keep) = queries j := by
  apply filterMap_filter_of_blind
  intro entry hidden
  cases entry with
  | query q =>
    rw [asks] at hidden
    cases hidden
  | record | command | answered | compile | heard => rfl

theorem not_pauses_of_hidden {entry : Entry} (hidden : keep entry = false) :
    entry.pauses timing = false := by
  cases entry with
  | query q =>
    rw [asks] at hidden
    cases hidden
  | record | command | answered | compile | heard => rfl

theorem turns_filter (j : Journal) :
    turns timing (j.filter keep) =
      ((turns timing j).1.filter keep, (turns timing j).2.map (List.filter keep)) := by
  induction j with
  | nil => rfl
  | cons entry rest ih =>
    cases kept : keep entry with
    | true =>
      rw [List.filter_cons_of_pos kept]
      cases waits : entry.pauses timing with
      | true => simp [turns_of_pauses waits, ih, kept]
      | false => simp [turns_of_not_pauses waits, ih, kept]
    | false =>
      rw [List.filter_cons_of_neg (Bool.eq_false_iff.mp kept), ih,
        turns_of_not_pauses (not_pauses_of_hidden asks kept),
        List.filter_cons_of_neg (Bool.eq_false_iff.mp kept)]

omit asks in
theorem resume_filter (order : List Nat) (tasks : List (List Journal)) :
    (resume order tasks).filter keep = resume order (tasks.map (List.map (List.filter keep))) := by
  induction order generalizing tasks with
  | nil => simp [resume, List.filter_flatten, List.map_flatten]
  | cons position order ih =>
    rw [resume, resume, List.getElem?_map]
    rcases tasks[position]? with _ | _ | ⟨turn, rest⟩
    · exact ih tasks
    · exact ih tasks
    · simp [ih, List.map_set]

/-- What is seen of tasks together is what is seen of each of them. -/
theorem together_filter (tasks : List Journal) :
    (together timing tasks).filter keep = together timing (tasks.map (List.filter keep)) := by
  have asked (task : Journal) : queries (task.filter keep) = queries task := queries_filter asks task
  have cut (task : Journal) : turns timing (task.filter keep) =
      ((turns timing task).1.filter keep, (turns timing task).2.map (List.filter keep)) :=
    turns_filter asks task
  simp only [together, List.filter_append, List.filter_flatten, List.map_map, resume_filter,
    Function.comp_def, asked, cut]

end Views

theorem dealings_together (timing : Timing) (tasks : List Journal) :
    (together timing tasks).dealings = together timing (tasks.map dealings) :=
  together_filter (fun _ => rfl) tasks

/-- A property that parts of a journal hand on to the whole. -/
structure Additive (P : Journal → Prop) : Prop where
  nil : P []
  append : ∀ {j k : Journal}, P j → P k → P (j ++ k)

/-- True if each turn of a journal has a property. -/
structure InTurns (P : Journal → Prop) (timing : Timing) (j : Journal) : Prop where
  first : P (turns timing j).1
  others : ∀ turn ∈ (turns timing j).2, P turn

section Turns

variable {P : Journal → Prop} (additive : Additive P)

include additive

theorem Additive.flatten {parts : List Journal} (each : ∀ part ∈ parts, P part) :
    P parts.flatten := by
  induction parts with
  | nil => exact additive.nil
  | cons part rest ih =>
    rw [List.forall_mem_cons] at each
    exact additive.append each.1 (ih each.2)

theorem Additive.whole {j : Journal} (turns : InTurns P timing j) : P j := by
  rw [← append_turns timing j]
  exact additive.append turns.first (additive.flatten turns.others)

theorem Additive.inTurns_append {j k : Journal} (left : InTurns P timing j)
    (right : InTurns P timing k) : InTurns P timing (j ++ k) := by
  -- The last turn of the first part goes on in the second one, so what comes
  -- before it has to be taken along.
  suffices goesOn : ∀ before : Journal, P (before ++ (turns timing j).1) →
      P (before ++ (turns timing (j ++ k)).1) ∧ ∀ turn ∈ (turns timing (j ++ k)).2, P turn by
    rcases goesOn [] left.first with ⟨first, others⟩
    exact ⟨first, others⟩
  have later := left.others
  clear left
  induction j with
  | nil =>
    intro before done
    rw [turns, List.append_nil] at done
    exact ⟨additive.append done right.first, right.others⟩
  | cons entry rest ih =>
    intro before done
    rw [List.cons_append]
    cases waits : entry.pauses timing with
    | true =>
      rw [turns_of_pauses waits] at done later ⊢
      rw [List.forall_mem_cons] at later
      rcases ih later.2 [] later.1 with ⟨first, others⟩
      exact ⟨done, List.forall_mem_cons.mpr ⟨first, others⟩⟩
    | false =>
      rw [turns_of_not_pauses waits] at done later ⊢
      rw [List.append_cons] at done ⊢
      exact ih later (before ++ [entry]) done

theorem Additive.resume {order : List Nat} {tasks : List (List Journal)}
    (each : ∀ task ∈ tasks, ∀ turn ∈ task, P turn) : P (resume order tasks) := by
  induction order generalizing tasks with
  | nil =>
    refine additive.flatten fun turn member => ?_
    rcases List.mem_flatten.mp member with ⟨task, listed, inside⟩
    exact each task listed turn inside
  | cons position order ih =>
    rw [Journal.resume]
    split
    · next turn rest next =>
      have here := each _ (List.mem_of_getElem? next)
      rw [List.forall_mem_cons] at here
      refine additive.append here.1 (ih fun task member => ?_)
      rcases List.mem_or_eq_of_mem_set member with listed | rfl
      · exact each task listed
      · exact here.2
    · exact ih each

/-- What all turns of some tasks have in common is true of the tasks together. -/
theorem Additive.together {tasks : List Journal}
    (each : ∀ task ∈ tasks, InTurns P timing task) : P (together timing tasks) := by
  refine additive.append (additive.flatten ?_) (additive.resume ?_)
  · exact List.forall_mem_map.mpr fun task member => (each task member).first
  · exact List.forall_mem_map.mpr fun task member => (each task member).others

end Turns

theorem InTurns.of_unpaused {P : Journal → Prop} {j : Journal} (unpaused : j.Unpaused timing)
    (holds : P j) : InTurns P timing j := by
  constructor
  · rw [turns_of_unpaused unpaused]
    exact holds
  · intro turn member
    rw [turns_of_unpaused unpaused] at member
    cases member

/-- A question, and what comes of its answer.  In between there may be others at
their turns. -/
theorem Additive.inTurns_query {P : Journal → Prop} (additive : Additive P) {query : Query}
    {rest : Journal} (asks : P [.query query]) (unpaused : rest.Unpaused timing) (holds : P rest) :
    InTurns P timing (.query query :: rest) := by
  cases waits : (Entry.query query).pauses timing with
  | true =>
    constructor
    · rw [turns_of_pauses waits]
      exact asks
    · rw [turns_of_pauses waits, turns_of_unpaused unpaused]
      exact List.forall_mem_singleton.mpr holds
  | false =>
    constructor
    · rw [turns_of_not_pauses waits, turns_of_unpaused unpaused]
      exact additive.append asks holds
    · rw [turns_of_not_pauses waits, turns_of_unpaused unpaused]
      exact fun turn member => absurd member List.not_mem_nil

end Journal

end Ratchet
