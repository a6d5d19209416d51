import Ratchet.Check.Step

namespace Ratchet

namespace Check

/-!
# Performing a script

A script is what a part of a check does as long as nobody objects.  Performing
it means going through it up to the first event to which the listener objects,
and no further.

`Performs` relates a computation to its script.  It has one rule for each way
in which computations are put together, so that the script of a whole is read
off the scripts of its parts, and objections need not be thought of again.
-/

/-! ## Objections -/

/-- The failure that the listener answers an event with, if any. -/
def objection? (listener : Option Listener) (earlier : List Event) (event : Event) :
    Option Failure :=
  listener.bind fun listener => (listener earlier event).map .listener

/-- The entries of a script that reach the journal: events are told to a
listener only if there is one. -/
def noted (listener : Option Listener) (script : Journal) : Journal :=
  if listener.isSome then script else script.filter fun entry => entry.heard?.isNone

theorem noted_append (listener : Option Listener) (first second : Journal) :
    noted listener (first ++ second) = noted listener first ++ noted listener second := by
  unfold noted
  split
  · rfl
  · exact List.filter_append ..

theorem noted_silent (listener : Option Listener) {script : Journal}
    (silent : script.heard = []) : noted listener script = script := by
  unfold noted
  split
  · rfl
  · rw [List.filter_eq_self]
    intro entry member
    rw [List.filterMap_eq_nil_iff.mp silent entry member]
    rfl

/-- A listener misses nothing. -/
theorem noted_of_isSome {listener : Option Listener} (present : listener.isSome = true)
    (script : Journal) : noted listener script = script :=
  if_pos present

theorem heard_noted_prefix_heard (listener : Option Listener) (script : Journal) :
    (noted listener script).heard <+: script.heard := by
  unfold noted
  split
  · exact List.prefix_rfl
  · have nothing : Journal.heard (script.filter fun entry => entry.heard?.isNone) = [] := by
      rw [Journal.heard, List.filterMap_eq_nil_iff]
      intro entry member
      exact Option.isNone_iff_eq_none.mp (List.mem_filter.mp member).2
    rw [nothing]
    exact List.nil_prefix

theorem compiles_noted (listener : Option Listener) (script : Journal) :
    (noted listener script).compiles = script.compiles := by
  unfold noted
  split
  · rfl
  · apply Journal.filterMap_filter_of_blind
    intro entry told
    cases entry with
    | heard => rfl
    | record | command | query | answered | compile => cases told

theorem value_emit (setting : Setting) (state : State) (event : Event) :
    (emit setting state event).value =
      ({ state with events := state.events ++ [event] },
        objection? setting.listener state.events event) := by
  unfold emit objection?
  cases setting.listener <;> rfl

theorem dealings_emit (setting : Setting) (state : State) (event : Event) :
    (emit setting state event).journal.dealings = noted setting.listener [.heard event] := by
  unfold emit noted
  cases setting.listener <;> rfl

/-- Goes through a script up to the first event that is objected to: what is
done of it, and the objection. -/
def perform (listener : Option Listener) (earlier : List Event) :
    Journal → Journal × Option Failure
  | [] => ([], none)
  | entry :: rest =>
    match entry.heard?.bind (objection? listener earlier) with
    | some failure => ([entry], some failure)
    | none =>
      let later := perform listener (earlier ++ entry.heard?.toList) rest
      (entry :: later.1, later.2)

variable {listener : Option Listener} {earlier : List Event}

theorem perform_cons_objected (entry : Journal.Entry) (rest : Journal) {failure : Failure}
    (objected : entry.heard?.bind (objection? listener earlier) = some failure) :
    perform listener earlier (entry :: rest) = ([entry], some failure) := by
  rw [perform, objected]

theorem perform_cons_free (entry : Journal.Entry) (rest : Journal)
    (free : entry.heard?.bind (objection? listener earlier) = none) :
    perform listener earlier (entry :: rest) =
      (entry :: (perform listener (earlier ++ entry.heard?.toList) rest).1,
        (perform listener (earlier ++ entry.heard?.toList) rest).2) := by
  rw [perform, free]

/-- An undisturbed script is performed whole. -/
theorem perform_undisturbed {script : Journal}
    (undisturbed : (perform listener earlier script).2 = none) :
    (perform listener earlier script).1 = script := by
  induction script generalizing earlier with
  | nil => rfl
  | cons entry rest ih =>
    cases found : entry.heard?.bind (objection? listener earlier) with
    | some failure =>
      rw [perform_cons_objected entry rest found] at undisturbed
      cases undisturbed
    | none =>
      rw [perform_cons_free entry rest found] at undisturbed ⊢
      exact congrArg (entry :: ·) (ih undisturbed)

/-- After an undisturbed script the next one is performed. -/
theorem perform_append_undisturbed {first : Journal} (second : Journal)
    (undisturbed : (perform listener earlier first).2 = none) :
    perform listener earlier (first ++ second) =
      (first ++ (perform listener (earlier ++ first.heard) second).1,
        (perform listener (earlier ++ first.heard) second).2) := by
  induction first generalizing earlier with
  | nil => simp [Journal.heard]
  | cons entry rest ih =>
    cases found : entry.heard?.bind (objection? listener earlier) with
    | some failure =>
      rw [perform_cons_objected entry rest found] at undisturbed
      cases undisturbed
    | none =>
      rw [perform_cons_free entry rest found] at undisturbed
      rw [List.cons_append, perform_cons_free entry _ found, ih undisturbed, Journal.heard_cons,
        List.append_assoc]
      rfl

/-- A script that is objected to hides the next one. -/
theorem perform_append_objected {first : Journal} (second : Journal) {failure : Failure}
    (objected : (perform listener earlier first).2 = some failure) :
    perform listener earlier (first ++ second) = perform listener earlier first := by
  induction first generalizing earlier with
  | nil => cases objected
  | cons entry rest ih =>
    rw [List.cons_append]
    cases found : entry.heard?.bind (objection? listener earlier) with
    | some failure =>
      rw [perform_cons_objected entry _ found, perform_cons_objected entry rest found]
    | none =>
      rw [perform_cons_free entry rest found] at objected
      rw [perform_cons_free entry _ found, perform_cons_free entry rest found, ih objected]

/-- A script that is objected to ends with the event in question, and the
listener objects to none before. -/
theorem perform_objected {script : Journal} {failure : Failure}
    (objected : (perform listener earlier script).2 = some failure) :
    ∃ (before after : Journal) (event : Event),
      script = before ++ .heard event :: after ∧
      (perform listener earlier script).1 = before ++ [.heard event] ∧
      (perform listener earlier before).2 = none ∧
      objection? listener (earlier ++ before.heard) event = some failure := by
  induction script generalizing earlier with
  | nil => cases objected
  | cons entry rest ih =>
    cases found : entry.heard?.bind (objection? listener earlier) with
    | some reason =>
      rw [perform_cons_objected entry rest found] at objected ⊢
      cases objected
      rcases Option.bind_eq_some_iff.mp found with ⟨event, hears, objects⟩
      have told := Journal.Entry.eq_heard hears
      subst told
      exact ⟨[], rest, event, rfl, rfl, rfl, by simpa [Journal.heard] using objects⟩
    | none =>
      rw [perform_cons_free entry rest found] at objected ⊢
      rcases ih objected with ⟨before, after, event, whole, done, undisturbed, objects⟩
      refine ⟨entry :: before, after, event, congrArg (entry :: ·) whole,
        congrArg (entry :: ·) done, ?_, ?_⟩
      · rw [perform_cons_free entry before found]
        exact undisturbed
      · rw [Journal.heard_cons, ← List.append_assoc]
        exact objects

/-- A script is undisturbed exactly when the listener objects to none of its
events. -/
theorem perform_snd_eq_none_iff {script : Journal} :
    (perform listener earlier script).2 = none ↔
      ∀ (before after : Journal) (event : Event), script = before ++ .heard event :: after →
        objection? listener (earlier ++ before.heard) event = none := by
  constructor
  · rintro undisturbed before after event rfl
    cases first : (perform listener earlier before).2 with
    | some failure =>
      rw [perform_append_objected _ first, first] at undisturbed
      cases undisturbed
    | none =>
      rw [perform_append_undisturbed _ first] at undisturbed
      cases found : objection? listener (earlier ++ before.heard) event with
      | none => rfl
      | some failure =>
        rw [perform_cons_objected (.heard event) after found] at undisturbed
        cases undisturbed
  · intro free
    cases ends : (perform listener earlier script).2 with
    | none => rfl
    | some failure =>
      rcases perform_objected ends with ⟨before, after, event, whole, _, _, objects⟩
      rw [free before after event whole] at objects
      cases objects

/-- An event that was told and is objected to is the last one of all. -/
theorem perform_of_objection {script before after : Journal} {event : Event} {failure : Failure}
    (done : (perform listener earlier script).1 = before ++ .heard event :: after)
    (objects : objection? listener (earlier ++ before.heard) event = some failure) :
    (perform listener earlier script).2 = some failure ∧ after = [] := by
  cases ends : (perform listener earlier script).2 with
  | none =>
    rw [perform_undisturbed ends] at done
    rw [perform_snd_eq_none_iff.mp ends before after event done] at objects
    cases objects
  | some reason =>
    rcases perform_objected ends with ⟨first, _, last, _, whole, undisturbed, stops⟩
    rw [whole] at done
    rcases List.eq_nil_or_concat after with rfl | ⟨middle, entry, rfl⟩
    · have parts := List.append_inj' done rfl
      cases parts.1
      cases parts.2
      exact ⟨stops.symm.trans objects, rfl⟩
    · rw [List.concat_eq_append, ← List.cons_append, ← List.append_assoc] at done
      have earlierPart := (List.append_inj' done rfl).1
      have free := perform_snd_eq_none_iff.mp undisturbed before middle event earlierPart
      rw [free] at objects
      cases objects

/-- A script without events is undisturbed. -/
theorem perform_silent {script : Journal} (silent : script.heard = []) :
    perform listener earlier script = (script, none) := by
  have undisturbed : (perform listener earlier script).2 = none := by
    rw [perform_snd_eq_none_iff]
    rintro before after event rfl
    simp [Journal.heard_cons, Journal.Entry.heard?] at silent
  exact Prod.ext (perform_undisturbed undisturbed) undisturbed

/-- Of a single event, everything is done, and the listener has its say. -/
theorem perform_event (listener : Option Listener) (earlier : List Event) (event : Event) :
    perform listener earlier [.heard event] =
      ([.heard event], objection? listener earlier event) := by
  cases found : objection? listener earlier event with
  | some failure => exact perform_cons_objected (.heard event) [] found
  | none => exact perform_cons_free (.heard event) [] found

/-- Only its events decide whether a script is objected to, and how. -/
theorem perform_snd_eq_of_heard (script : Journal) :
    (perform listener earlier script).2 =
      (perform listener earlier (script.heard.map Journal.Entry.heard)).2 := by
  induction script generalizing earlier with
  | nil => rfl
  | cons entry rest ih =>
    rw [Journal.heard_cons]
    cases hears : entry.heard? with
    | none =>
      have free : entry.heard?.bind (objection? listener earlier) = none := by
        rw [hears]
        rfl
      rw [perform_cons_free entry rest free, hears, Option.toList_none, List.nil_append,
        List.append_nil]
      exact ih
    | some event =>
      cases Journal.Entry.eq_heard hears
      rw [Option.toList_some, List.singleton_append, List.map_cons]
      cases objects : objection? listener earlier event with
      | some failure =>
        rw [perform_cons_objected (.heard event) _ objects,
          perform_cons_objected (.heard event) _ objects]
      | none =>
        rw [perform_cons_free (.heard event) _ objects, perform_cons_free (.heard event) _ objects]
        exact ih

/-- What is performed begins the script. -/
theorem perform_prefix_script (listener : Option Listener) (earlier : List Event)
    (script : Journal) : (perform listener earlier script).1 <+: script := by
  cases ends : (perform listener earlier script).2 with
  | none => exact ⟨[], (List.append_nil _).trans (perform_undisturbed ends)⟩
  | some failure =>
    rcases perform_objected ends with ⟨before, after, event, whole, done, _, _⟩
    exact ⟨after, by rw [done, whole, List.append_assoc]; rfl⟩

/-! ## Computations and their scripts -/

/-- A computation that begins after some events goes through a script.  If
nobody objects it comes to a certain value, and otherwise to one that tells of
the objection. -/
structure Performs {α : Type} (listener : Option Listener) (earlier : List Event)
    (script : Journal) (x : Noted α) (fine : α) (stopped : Failure → α → Prop) : Prop where
  dealings : x.journal.dealings = noted listener (perform listener earlier script).1
  undisturbed : (perform listener earlier script).2 = none → x.value = fine
  objected : ∀ failure, (perform listener earlier script).2 = some failure →
    stopped failure x.value

namespace Performs

variable {α β : Type} {stopped : Failure → α → Prop}

/-- What is no event is done whatever the listener says. -/
theorem of_silent {script : Journal} {x : Noted α} (silent : script.heard = [])
    (does : x.journal.dealings = script) : Performs listener earlier script x x.value stopped where
  dealings := by rw [perform_silent silent, noted_silent listener silent, does]
  undisturbed _ := rfl
  objected failure objects := by
    rw [perform_silent silent] at objects
    cases objects

/-- A part that is stopped lets nothing else be done; otherwise the next part
goes on where it ended. -/
theorem bind {first second : Journal} {x : Noted α} {g : α → Noted β} {a : α} {b : β}
    {halted : Failure → β → Prop} (left : Performs listener earlier first x a stopped)
    (right : Performs listener (earlier ++ first.heard) second (g a) b halted)
    (halts : ∀ failure result, stopped failure result →
      (g result).journal.dealings = [] ∧ halted failure (g result).value) :
    Performs listener earlier (first ++ second) (x >>= g) b halted := by
  cases ends : (perform listener earlier first).2 with
  | none =>
    have whole := perform_append_undisturbed second ends
    have value := left.undisturbed ends
    refine ⟨?_, ?_, ?_⟩
    · rw [Noted.journal_bind, Journal.dealings_append, left.dealings, value, right.dealings, whole,
        perform_undisturbed ends, noted_append]
    · intro quiet
      rw [whole] at quiet
      rw [Noted.value_bind, value]
      exact right.undisturbed quiet
    · intro failure objects
      rw [whole] at objects
      rw [Noted.value_bind, value]
      exact right.objected failure objects
  | some reason =>
    have whole := perform_append_objected second ends
    have stop := halts reason x.value (left.objected reason ends)
    refine ⟨?_, ?_, ?_⟩
    · rw [Noted.journal_bind, Journal.dealings_append, left.dealings, stop.1, whole,
        List.append_nil]
    · intro quiet
      rw [whole, ends] at quiet
      cases quiet
    · intro failure objects
      rw [whole, ends] at objects
      cases objects
      exact stop.2

/-- A part may be followed by one that does nothing. -/
theorem bind_last {script : Journal} {x : Noted α} {g : α → Noted β} {a : α} {b : β}
    {halted : Failure → β → Prop} (left : Performs listener earlier script x a stopped)
    (does : (g a).journal.dealings = []) (ends : (g a).value = b)
    (halts : ∀ failure result, stopped failure result →
      (g result).journal.dealings = [] ∧ halted failure (g result).value) :
    Performs listener earlier script (x >>= g) b halted := by
  have idle : Performs listener (earlier ++ script.heard) [] (g a) b halted :=
    ends ▸ of_silent rfl does
  have whole := left.bind idle halts
  rwa [List.append_nil] at whole

/-- What is no event comes first. -/
theorem silent_bind {first second : Journal} {y : Noted α} {g : α → Noted β} {b : β}
    {halted : Failure → β → Prop} (silent : first.heard = [])
    (does : y.journal.dealings = first)
    (right : Performs listener earlier second (g y.value) b halted) :
    Performs listener earlier (first ++ second) (y >>= g) b halted := by
  have done : Performs listener earlier first y y.value (fun _ _ => False) :=
    of_silent silent does
  refine done.bind ?_ ?_
  · rw [silent, List.append_nil]
    exact right
  · intro _ _ impossible
    cases impossible

/-- An entry that is no event comes first. -/
theorem silent_cons {entry : Journal.Entry} {script : Journal} {y : Noted α} {g : α → Noted β}
    {b : β} {halted : Failure → β → Prop} (silent : entry.heard? = none)
    (does : y.journal.dealings = [entry])
    (right : Performs listener earlier script (g y.value) b halted) :
    Performs listener earlier (entry :: script) (y >>= g) b halted := by
  have alone : Journal.heard [entry] = [] := by
    rw [Journal.heard_cons, silent]
    rfl
  exact silent_bind alone does right

/-- A part that does nothing comes first. -/
theorem idle_bind {script : Journal} {y : Noted α} {g : α → Noted β} {b : β}
    {halted : Failure → β → Prop} (does : y.journal.dealings = [])
    (right : Performs listener earlier script (g y.value) b halted) :
    Performs listener earlier script (y >>= g) b halted := by
  have silent : Journal.heard [] = [] := rfl
  exact silent_bind silent does right

/-- A message is no part of a script. -/
theorem log_bind {script : Journal} {level : Level} {message : String}
    {attributes : List (String × Value)} {x : Noted β} {b : β} {halted : Failure → β → Prop}
    (right : Performs listener earlier script x b halted) :
    Performs listener earlier script (Noted.log level message attributes >>= fun _ => x) b halted :=
  idle_bind rfl right

/-- Emitting an event is a script of that event alone. -/
theorem emit (setting : Setting) (state : State) (event : Event) :
    Performs setting.listener state.events [.heard event] (Check.emit setting state event)
      ({ state with events := state.events ++ [event] }, none)
      (fun failure result => result.2 = some failure) where
  dealings := by rw [perform_event, dealings_emit]
  undisturbed quiet := by
    rw [perform_event] at quiet
    rw [value_emit]
    exact congrArg (Prod.mk _) quiet
  objected failure objects := by
    rw [perform_event] at objects
    rw [value_emit]
    exact objects

end Performs

end Check

end Ratchet
