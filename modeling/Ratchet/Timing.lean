import Ratchet.Journal

namespace Ratchet

/-!
# Questions that are on their way at the same time

Several tasks may be under way at once.  They are begun one after the other.  A
task that puts a question goes on if the answer comes at once, and waits for it
otherwise; meanwhile the next task is begun.  When all have begun, each goes on
as its answer comes, up to the next question that it has to wait for.

So the journal of a task falls into turns, and the journal of all of them is
made of their turns: first the first ones, in the order of the tasks, and then
the others in the order in which the answers come.  What it takes to find an
answer stands where the answer comes.
-/

/-- When answers come. -/
structure Timing where
  /-- True of a question that is answered at once. -/
  atOnce : Query → Bool := fun _ => true
  /-- Which of the tasks that wait goes on next, again and again, by their
  positions.  It may depend on what the tasks ask.  If nothing is said any more,
  they go on one after the other. -/
  order : List (List Query) → List Nat := fun _ => []

namespace Journal

/-- True of a question that is waited for. -/
def Entry.pauses (timing : Timing) : Entry → Bool
  | .query q => !timing.atOnce q
  | .record _ | .command .. | .answered _ | .compile _ | .heard _ => false

/-- The turns of a journal: the first one, and the others. -/
def turns (timing : Timing) : Journal → Journal × List Journal
  | [] => ([], [])
  | entry :: rest =>
    let (first, others) := turns timing rest
    if entry.pauses timing then ([entry], first :: others) else (entry :: first, others)

/-- The turns that are left of some tasks, as their positions are called. -/
def resume : (order : List Nat) → (tasks : List (List Journal)) → Journal
  | [], tasks => tasks.flatten.flatten
  | position :: order, tasks =>
    match tasks[position]? with
    | some (turn :: rest) => turn ++ resume order (tasks.set position rest)
    | _ => resume order tasks

/-- The journal of tasks that are under way at the same time. -/
def together (timing : Timing) (tasks : List Journal) : Journal :=
  (tasks.map fun task => (task.turns timing).1).flatten ++
    resume (timing.order (tasks.map queries)) (tasks.map fun task => (task.turns timing).2)

end Journal

/-- The results of tasks that are under way at the same time, in the order of the
tasks. -/
def Noted.gather {α : Type} (timing : Timing) (tasks : List (Noted α)) : Noted (List α) :=
  ⟨tasks.map Noted.value, .together timing (tasks.map Noted.journal)⟩

@[simp] theorem Noted.value_gather {α : Type} (timing : Timing) (tasks : List (Noted α)) :
    (gather timing tasks).value = tasks.map Noted.value := rfl

@[simp] theorem Noted.journal_gather {α : Type} (timing : Timing) (tasks : List (Noted α)) :
    (gather timing tasks).journal = .together timing (tasks.map Noted.journal) := rfl

end Ratchet
