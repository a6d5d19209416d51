import Ratchet.Change.Query
import Ratchet.Check.Event
import Ratchet.Log.Record

namespace Ratchet

/-!
# Journals

Everything that a run does to the world outside is an entry of its journal,
in order: a message for the log, a command given to the shell, a query to
version control and its answer, a call of the compiler, an event that the
listener hears.
`Noted` is a value together with the journal of how it came about; its
sequencing puts journals one after the other, and that is all it does.
-/

namespace Journal

/-- Something that a run does. -/
inductive Entry where
  | record (record : Record)
  | command (text : String) (environment : List (String × String))
  | query (query : Query)
  /-- The answer to a query has come, or the news that there is none. -/
  | answered (query : Query)
  | compile (arguments : List String)
  | heard (event : Event)

namespace Entry

def record? : Entry → Option Record
  | .record r => some r
  | _ => none

def command? : Entry → Option String
  | .command text _ => some text
  | _ => none

def query? : Entry → Option Query
  | .query q => some q
  | _ => none

def answered? : Entry → Option Query
  | .answered q => some q
  | _ => none

def compile? : Entry → Option (List String)
  | .compile arguments => some arguments
  | _ => none

def heard? : Entry → Option Event
  | .heard event => some event
  | _ => none

theorem eq_heard {entry : Entry} {event : Event} (hears : entry.heard? = some event) :
    entry = .heard event := by
  cases entry with
  | heard told => exact congrArg heard (Option.some.inj hears)
  | record | command | query | answered | compile => cases hears

/-- True of what a check does by itself: it asks and is answered, has the project
compiled and tells events.  The rest is what answering takes. -/
def isDealing : Entry → Bool
  | .record _ | .command .. => false
  | .query _ | .answered _ | .compile _ | .heard _ => true

/-- True of what a check wants from outside: an answer or a compilation. -/
def isCall : Entry → Bool
  | .query _ | .compile _ => true
  | .record _ | .command .. | .answered _ | .heard _ => false

/-- True of a question and of its answer. -/
def isInquiry : Entry → Bool
  | .query _ | .answered _ => true
  | .record _ | .command .. | .compile _ | .heard _ => false

end Entry

end Journal

/-- The entries of a run, in order. -/
abbrev Journal := List Journal.Entry

namespace Journal

/-- The messages. -/
def records (j : Journal) : List Record := j.filterMap Entry.record?

/-- The commands. -/
def commands (j : Journal) : List String := j.filterMap Entry.command?

/-- The queries to version control. -/
def queries (j : Journal) : List Query := j.filterMap Entry.query?

/-- The queries that have their answers, in the order of the answers. -/
def answers (j : Journal) : List Query := j.filterMap Entry.answered?

/-- The arguments of every call of the compiler. -/
def compiles (j : Journal) : List (List String) := j.filterMap Entry.compile?

/-- The events heard. -/
def heard (j : Journal) : List Event := j.filterMap Entry.heard?

/-- The queries and the calls of the compiler, in their common order. -/
def calls (j : Journal) : Journal := j.filter Entry.isCall

/-- What the check does by itself, in order. -/
def dealings (j : Journal) : Journal := j.filter Entry.isDealing

@[simp] theorem dealings_nil : dealings [] = [] := rfl

@[simp] theorem dealings_append (j k : Journal) :
    dealings (j ++ k) = dealings j ++ dealings k :=
  List.filter_append ..

@[simp] theorem dealings_cons_record (record : Record) (j : Journal) :
    dealings (.record record :: j) = dealings j := rfl

@[simp] theorem dealings_cons_command (text : String) (environment : List (String × String))
    (j : Journal) : dealings (.command text environment :: j) = dealings j := rfl

@[simp] theorem dealings_cons_query (query : Query) (j : Journal) :
    dealings (.query query :: j) = .query query :: dealings j := rfl

@[simp] theorem dealings_cons_answered (query : Query) (j : Journal) :
    dealings (.answered query :: j) = .answered query :: dealings j := rfl

@[simp] theorem dealings_cons_compile (arguments : List String) (j : Journal) :
    dealings (.compile arguments :: j) = .compile arguments :: dealings j := rfl

@[simp] theorem dealings_cons_heard (event : Event) (j : Journal) :
    dealings (.heard event :: j) = .heard event :: dealings j := rfl

@[simp] theorem commands_append (j k : Journal) : commands (j ++ k) = commands j ++ commands k :=
  List.filterMap_append ..

@[simp] theorem records_append (j k : Journal) : records (j ++ k) = records j ++ records k :=
  List.filterMap_append ..

theorem compiles_append (j k : Journal) : compiles (j ++ k) = compiles j ++ compiles k :=
  List.filterMap_append ..

theorem queries_append (j k : Journal) : queries (j ++ k) = queries j ++ queries k :=
  List.filterMap_append ..

theorem answers_append (j k : Journal) : answers (j ++ k) = answers j ++ answers k :=
  List.filterMap_append ..

theorem commands_cons_command (text : String) (environment : List (String × String))
    (j : Journal) : commands (.command text environment :: j) = text :: commands j := rfl

/-- A view sees all that it can see when only entries hidden from it are left
out. -/
theorem filterMap_filter_of_blind {α : Type} {keep : Entry → Bool} {view : Entry → Option α}
    (blind : ∀ entry, keep entry = false → view entry = none) (j : Journal) :
    (j.filter keep).filterMap view = j.filterMap view := by
  have same : (fun entry => if keep entry = true then view entry else none) = view := by
    funext entry
    cases kept : keep entry with
    | true => rfl
    | false => exact (blind entry kept).symm
  rw [List.filterMap_filter, same]

theorem heard_dealings (j : Journal) : j.dealings.heard = j.heard := by
  apply filterMap_filter_of_blind
  intro entry apart
  cases entry with
  | record | command => rfl
  | query | answered | compile | heard => cases apart

theorem compiles_dealings (j : Journal) : j.dealings.compiles = j.compiles := by
  apply filterMap_filter_of_blind
  intro entry apart
  cases entry with
  | record | command => rfl
  | query | answered | compile | heard => cases apart

theorem queries_dealings (j : Journal) : j.dealings.queries = j.queries := by
  apply filterMap_filter_of_blind
  intro entry apart
  cases entry with
  | record | command => rfl
  | query | answered | compile | heard => cases apart

theorem answers_dealings (j : Journal) : j.dealings.answers = j.answers := by
  apply filterMap_filter_of_blind
  intro entry apart
  cases entry with
  | record | command => rfl
  | query | answered | compile | heard => cases apart

theorem heard_cons (entry : Entry) (j : Journal) :
    heard (entry :: j) = entry.heard?.toList ++ heard j := by
  cases entry <;> rfl

@[simp] theorem heard_append (j k : Journal) : heard (j ++ k) = heard j ++ heard k :=
  List.filterMap_append ..

theorem heard_map_heard (events : List Event) : heard (events.map Entry.heard) = events := by
  induction events with
  | nil => rfl
  | cons event rest ih => exact congrArg (event :: ·) ih

/-- True of a journal of messages alone. -/
def Chats (j : Journal) : Prop :=
  ∀ entry ∈ j, entry.record?.isSome = true

namespace Chats

variable {j k : Journal}

theorem nil : Chats [] := fun _ member => absurd member List.not_mem_nil

theorem cons {record : Record} (chats : j.Chats) : Chats (.record record :: j) := by
  intro entry member
  rcases List.mem_cons.mp member with rfl | later
  · rfl
  · exact chats entry later

theorem append (left : j.Chats) (right : k.Chats) : (j ++ k).Chats := by
  intro entry member
  rcases List.mem_append.mp member with first | second
  · exact left entry first
  · exact right entry second

/-- A view that sees no messages sees nothing of it. -/
theorem filterMap_eq_nil {α : Type} {view : Entry → Option α}
    (blind : ∀ record, view (.record record) = none) (chats : j.Chats) : j.filterMap view = [] := by
  rw [List.filterMap_eq_nil_iff]
  intro entry member
  have told := chats entry member
  cases entry with
  | record record => exact blind record
  | command | query | answered | compile | heard => cases told

theorem commands (chats : j.Chats) : j.commands = [] :=
  chats.filterMap_eq_nil fun _ => rfl

theorem heard (chats : j.Chats) : j.heard = [] :=
  chats.filterMap_eq_nil fun _ => rfl

theorem dealings (chats : j.Chats) : j.dealings = [] := by
  rw [Journal.dealings, List.filter_eq_nil_iff]
  intro entry member
  have told := chats entry member
  cases entry with
  | record => exact Bool.false_ne_true
  | command | query | answered | compile | heard => cases told

end Chats

/-- True of a journal that puts questions, has them answered and does nothing
else. -/
def Inquires (j : Journal) : Prop :=
  ∀ entry ∈ j, entry.isInquiry = true

namespace Inquires

variable {j k : Journal}

theorem append (left : j.Inquires) (right : k.Inquires) : (j ++ k).Inquires := by
  intro entry member
  rcases List.mem_append.mp member with first | second
  · exact left entry first
  · exact right entry second

/-- A view that sees neither questions nor answers sees nothing of it. -/
theorem filterMap_eq_nil {α : Type} {view : Entry → Option α}
    (blind : ∀ entry, entry.isInquiry = true → view entry = none) (inquires : j.Inquires) :
    j.filterMap view = [] :=
  List.filterMap_eq_nil_iff.mpr fun entry member => blind entry (inquires entry member)

theorem heard (inquires : j.Inquires) : j.heard = [] := by
  apply inquires.filterMap_eq_nil
  intro entry asks
  cases entry with
  | query | answered => rfl
  | record | command | compile | heard => cases asks

theorem compiles (inquires : j.Inquires) : j.compiles = [] := by
  apply inquires.filterMap_eq_nil
  intro entry asks
  cases entry with
  | query | answered => rfl
  | record | command | compile | heard => cases asks

end Inquires

/-- Where the events heard fall apart, so does the journal. -/
theorem split_of_heard {j : Journal} {earlier later : List Event} {event : Event}
    (split : j.heard = earlier ++ event :: later) :
    ∃ before after : Journal, j = before ++ .heard event :: after ∧ before.heard = earlier := by
  rw [heard, List.filterMap_eq_append_iff] at split
  rcases split with ⟨first, second, whole, firstHeard, secondHeard⟩
  rw [List.filterMap_eq_cons_iff] at secondHeard
  rcases secondHeard with ⟨silent, entry, after, rest, unheard, hears, _⟩
  refine ⟨first ++ silent, after, ?_, ?_⟩
  · rw [whole, rest, Entry.eq_heard hears, List.append_assoc]
  · rw [heard_append, heard, firstHeard, heard, List.filterMap_eq_nil_iff.mpr unheard,
      List.append_nil]

end Journal

/-- A value and the journal of how it came about. -/
structure Noted (α : Type) where
  value : α
  journal : Journal

namespace Noted

instance : Monad Noted where
  pure a := ⟨a, []⟩
  bind x f := ⟨(f x.value).value, x.journal ++ (f x.value).journal⟩

@[simp] theorem value_pure {α : Type} (a : α) : (pure a : Noted α).value = a := rfl

@[simp] theorem journal_pure {α : Type} (a : α) : (pure a : Noted α).journal = [] := rfl

@[simp] theorem value_bind {α β : Type} (x : Noted α) (f : α → Noted β) :
    (x >>= f).value = (f x.value).value := rfl

@[simp] theorem journal_bind {α β : Type} (x : Noted α) (f : α → Noted β) :
    (x >>= f).journal = x.journal ++ (f x.value).journal := rfl

/-- Puts one entry into the journal. -/
def note (entry : Journal.Entry) : Noted Unit := ⟨(), [entry]⟩

@[simp] theorem value_note (entry : Journal.Entry) : (note entry).value = () := rfl

@[simp] theorem journal_note (entry : Journal.Entry) : (note entry).journal = [entry] := rfl

/-- Sends a message to the log. -/
def log (level : Level) (message : String) (attributes : List (String × Value)) : Noted Unit :=
  note (.record (.ofLevel level message attributes))

@[simp] theorem journal_log (level : Level) (message : String)
    (attributes : List (String × Value)) :
    (log level message attributes).journal = [.record (.ofLevel level message attributes)] := rfl

/-- The results of one step after another over a list. -/
def each {α β : Type} (f : α → Noted β) : List α → Noted (List β)
  | [] => pure []
  | a :: rest => do
    let b ← f a
    let others ← each f rest
    pure (b :: others)

@[simp] theorem value_each {α β : Type} (f : α → Noted β) (items : List α) :
    (each f items).value = items.map fun a => (f a).value := by
  induction items with
  | nil => rfl
  | cons a rest ih => simp [each, ih]

@[simp] theorem journal_each {α β : Type} (f : α → Noted β) (items : List α) :
    (each f items).journal = items.flatMap fun a => (f a).journal := by
  induction items with
  | nil => rfl
  | cons a rest ih => simp [each, ih]

end Noted

/-- An answer and the journal of how it was found.  Finding it takes messages
and commands; asking, compiling and telling are left to the check. -/
structure Answered (α : Type) extends Noted α where
  apart : journal.dealings = []

namespace Answered

instance : Pure Answered := ⟨fun a => ⟨pure a, rfl⟩⟩

instance : MonadLift Answered Noted := ⟨Answered.toNoted⟩

@[simp] theorem value_pure {α : Type} (a : α) : (pure a : Answered α).value = a := rfl

attribute [simp] Answered.apart

end Answered

end Ratchet
