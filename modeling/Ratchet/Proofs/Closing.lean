import Ratchet.Closing

namespace Ratchet

/-!
# Closing everything once

A tree of sections is closed by a walk through its fields.  A place in the tree is told
by positions: of a field, of a field of what is there, and so on.  The walk comes to the
places in their order, the fields of a section right behind the section, so that it comes
to each of them once.

A failure ends only the attempt that it belongs to, and the section around it reports it
under the name of its own field.  No section fails, so nothing is reported twice.
-/

namespace Resource

/-- The fields of a section; nothing else has any. -/
def fields : Resource → List (String × Resource)
  | .section fields => fields
  | _ => []

/-- True of what has to be closed. -/
def isCloseable : Resource → Bool
  | .closeable _ | .section _ => true
  | .absent | .plain => false

/-- What lies at a place. -/
def at? : List Nat → Resource → Option Resource
  | [], r => some r
  | i :: place, r => (r.fields[i]?).bind fun entry => at? place entry.2

mutual

/-- The places of what has to be closed, in the order of the walk. -/
def places : Resource → List (List Nat)
  | .closeable _ => [[]]
  | .absent => []
  | .plain => []
  | .section fields => [] :: placesIn 0 fields

def placesIn (i : Nat) : List (String × Resource) → List (List Nat)
  | [] => []
  | (_, r) :: rest => (places r).map (i :: ·) ++ placesIn (i + 1) rest

end

variable {r : Resource} {rest : List (String × Resource)} {place : List Nat} {i : Nat}

theorem mem_placesIn_iff :
    place ∈ placesIn i rest ↔ ∃ j entry inner,
      place = (i + j) :: inner ∧ rest[j]? = some entry ∧ inner ∈ places entry.2 := by
  induction rest generalizing i with
  | nil => simp [placesIn]
  | cons first others ih =>
    rw [placesIn, List.mem_append, List.mem_map, ih]
    constructor
    · rintro (⟨inner, listed, rfl⟩ | ⟨j, entry, inner, rfl, found, listed⟩)
      · exact ⟨0, first, inner, rfl, rfl, listed⟩
      · exact ⟨j + 1, entry, inner, by rw [Nat.add_right_comm, Nat.add_assoc], found, listed⟩
    · rintro ⟨j, entry, inner, rfl, found, listed⟩
      cases j with
      | zero =>
        cases found
        exact Or.inl ⟨inner, listed, rfl⟩
      | succ j =>
        refine Or.inr ⟨j, entry, inner, ?_, found, listed⟩
        rw [Nat.add_right_comm, Nat.add_assoc]

theorem nil_mem_places_iff : [] ∈ places r ↔ r.isCloseable = true := by
  cases r <;> simp [places, isCloseable]

theorem cons_mem_places_iff :
    i :: place ∈ places r ↔ ∃ entry, r.fields[i]? = some entry ∧ place ∈ places entry.2 := by
  cases r with
  | closeable | absent | plain => simp [places, fields]
  | «section» fields =>
    rw [places, List.mem_cons, mem_placesIn_iff, Resource.fields]
    constructor
    · rintro (impossible | ⟨j, entry, inner, same, found, listed⟩)
      · cases impossible
      · rw [Nat.zero_add] at same
        rcases List.cons.inj same with ⟨rfl, rfl⟩
        exact ⟨entry, found, listed⟩
    · rintro ⟨entry, found, listed⟩
      exact Or.inr ⟨i, entry, place, by rw [Nat.zero_add], found, listed⟩

/-- The walk comes to all that has to be closed and to nothing else. -/
theorem mem_places_iff :
    place ∈ places r ↔ ∃ part, at? place r = some part ∧ part.isCloseable = true := by
  induction place generalizing r with
  | nil => simp [nil_mem_places_iff, at?]
  | cons i place ih =>
    simp only [cons_mem_places_iff, at?, Option.bind_eq_some_iff, ih]
    constructor
    · rintro ⟨entry, found, part, reached, closes⟩
      exact ⟨part, ⟨entry, found, reached⟩, closes⟩
    · rintro ⟨part, ⟨entry, found, reached⟩, closes⟩
      exact ⟨entry, found, part, reached, closes⟩

theorem lt_of_mem_placesIn {one : List Nat} (behind : place ∈ placesIn (i + 1) rest) :
    i :: one < place := by
  rcases mem_placesIn_iff.mp behind with ⟨j, entry, inner, rfl, -, -⟩
  apply List.cons_lt_cons_iff.mpr
  omega

mutual

/-- The places stand in their order. -/
theorem sorted_places : ∀ r : Resource, (places r).Pairwise (· < ·)
  | .closeable _ => List.pairwise_singleton _ _
  | .absent | .plain => List.Pairwise.nil
  | .section fields => by
    refine List.pairwise_cons.mpr ⟨fun place listed => ?_, sorted_placesIn 0 fields⟩
    rcases mem_placesIn_iff.mp listed with ⟨j, entry, inner, rfl, -, -⟩
    exact List.nil_lt_cons _ _

theorem sorted_placesIn (i : Nat) : ∀ rest : List (String × Resource),
    (placesIn i rest).Pairwise (· < ·)
  | [] => List.Pairwise.nil
  | (_, r) :: rest => by
    refine List.pairwise_append.mpr ⟨?_, sorted_placesIn (i + 1) rest, ?_⟩
    · exact (sorted_places r).map _ fun _ _ => List.cons_lt_cons_self.mpr
    · intro place inside other behind
      rcases List.mem_map.mp inside with ⟨inner, -, rfl⟩
      exact lt_of_mem_placesIn behind

end

end Resource

namespace Closing

open Resource (places placesIn)

/-! ## What is done at one place -/

/-- What is done at a place below a field: closing what is there and, if that fails, one
warning by the name of the last field on the way. -/
def actsAt (path : List String) (field : String) : List Nat → Resource → List Act
  | [], .closeable none => [.closed path]
  | [], .closeable (some reason) => [.closed path, .warning field reason]
  | [], .section _ => [.entered path]
  | [], _ => []
  | i :: place, r =>
    match r.fields[i]? with
    | some (name, inner) => actsAt (path ++ [name]) name place inner
    | none => []

/-- What is done for a field. -/
def trace (path : List String) (entry : String × Resource) : List Act :=
  (places entry.2).flatMap fun place => actsAt (path ++ [entry.1]) entry.1 place entry.2

theorem flatMap_placesIn (path : List String) (field : String)
    (before rest : List (String × Resource)) :
    (placesIn before.length rest).flatMap
        (fun place => actsAt path field place (.section (before ++ rest))) =
      rest.flatMap (trace path) := by
  induction rest generalizing before with
  | nil => rfl
  | cons entry rest ih =>
    have here (place : List Nat) :
        actsAt path field (before.length :: place) (.section (before ++ entry :: rest)) =
          actsAt (path ++ [entry.1]) entry.1 place entry.2 := by
      simp [actsAt, Resource.fields]
    have later := ih (before ++ [entry])
    rw [List.length_append, List.length_singleton, List.append_assoc,
      List.singleton_append] at later
    rw [placesIn, List.flatMap_append, List.flatMap_map, later, List.flatMap_cons, trace]
    simp only [here]

theorem trace_section (path : List String) (field : String) (fields : List (String × Resource)) :
    trace path (field, .section fields) =
      .entered (path ++ [field]) :: fields.flatMap (trace (path ++ [field])) := by
  have inside := flatMap_placesIn (path ++ [field]) field [] fields
  rw [List.length_nil, List.nil_append] at inside
  rw [trace, places, List.flatMap_cons, inside]
  rfl

/-! ## Attempts that do not fail -/

/-- An attempt comes to a result and does some acts, whatever was done before. -/
def Does {α : Type} (attempt : Attempt α) (a : α) (acts : List Act) : Prop :=
  ∀ done, attempt.outcome done = (.ok a, done ++ acts)

theorem outcome_bind {α β : Type} (attempt : Attempt α) (next : α → Attempt β) (done : List Act) :
    (attempt >>= next).outcome done =
      match attempt.outcome done with
      | (.ok a, acts) => (next a).outcome acts
      | (.error reason, acts) => (.error reason, acts) := by
  simp only [Attempt.outcome, ExceptT.run_bind, StateT.run_bind, Id.run_bind]
  rcases (attempt.run.run done).run with ⟨_ | _, acts⟩
  · rfl
  · rfl

theorem outcome_tryCatch {α : Type} (attempt : Attempt α) (handler : String → Attempt α)
    (done : List Act) :
    (tryCatch attempt handler).outcome done =
      match attempt.outcome done with
      | (.ok a, acts) => (.ok a, acts)
      | (.error reason, acts) => (handler reason).outcome acts := by
  simp only [Attempt.outcome, tryCatch, tryCatchThe, MonadExceptOf.tryCatch, ExceptT.tryCatch,
    ExceptT.run, ExceptT.mk, StateT.run_bind, Id.run_bind]
  rcases (StateT.run attempt done).run with ⟨_ | _, acts⟩
  · rfl
  · rfl

theorem Does.bind {α β : Type} {attempt : Attempt α} {next : α → Attempt β} {a : α} {b : β}
    {first second : List Act} (does : Does attempt a first) (later : Does (next a) b second) :
    Does (attempt >>= next) b (first ++ second) := by
  intro done
  rw [outcome_bind, does done, ← List.append_assoc]
  exact later (done ++ first)

theorem Does.tryCatch {α : Type} {attempt : Attempt α} {a : α} {acts : List Act}
    (does : Does attempt a acts) (handler : String → Attempt α) :
    Does (tryCatch attempt handler) a acts := by
  intro done
  rw [outcome_tryCatch, does done]

theorem does_act (a : Act) : Does (act a) () [a] := fun _ => rfl

theorem does_pure {α : Type} (a : α) : Does (pure a) a [] := by
  intro done
  rw [List.append_nil]
  rfl

/-- Whatever a block came to, closing behind it fails neither and holds nothing back. -/
theorem Does.leave {fields : List (String × Resource)} {acts : List Act}
    (does : Does (closeFields [] fields) () acts) {ε α : Type} (block : Except ε α) :
    Does (leave fields block) (block.map some) acts := by
  have closing : Does (exit fields) false acts := by
    rw [← List.append_nil acts]
    exact does.bind (does_pure false)
  rw [← List.append_nil acts]
  cases block with
  | ok a => exact closing.bind (does_pure _)
  | error e => exact closing.bind (does_pure _)

mutual

/-- Whatever a field holds, it is closed without a failure that goes further. -/
theorem does_field (path : List String) (field : String) : ∀ r : Resource,
    Does (tryCatch (close (path ++ [field]) r) fun reason => act (.warning field reason)) ()
      (trace path (field, r))
  | .closeable none => (does_act _).tryCatch _
  | .closeable (some reason) => by
    intro done
    rw [outcome_tryCatch, close, outcome_bind, does_act]
    -- The resource counts as closed although it fails, and the warning follows it.
    have both := List.append_assoc done [.closed (path ++ [field])] [.warning field reason]
    exact congrArg (Prod.mk (Except.ok ())) both
  | .absent | .plain => (does_pure ()).tryCatch _
  | .section fields => by
    rw [trace_section]
    exact ((does_act _).bind (does_closeFields (path ++ [field]) fields)).tryCatch _

theorem does_closeFields (path : List String) : ∀ fields : List (String × Resource),
    Does (closeFields path fields) () (fields.flatMap (trace path))
  | [] => does_pure ()
  | (field, r) :: rest => (does_field path field r).bind (does_closeFields path rest)

end

/-! ## The whole cascade -/

/-- The places below a section that hold something to close are each come to once and in
their order, what is done there is what that place calls for, and nothing raised goes
further.  Leaving a block does the same and hands on whatever the block came to. -/
theorem close_cascades (fields : List (String × Resource)) :
    ∃ visited : List (List Nat), visited.Pairwise (· < ·) ∧
      (∀ place, place ∈ visited ↔ place ≠ [] ∧
        ∃ part, (Resource.section fields).at? place = some part ∧ part.isCloseable = true) ∧
      Does (closeFields [] fields) ()
        (visited.flatMap fun place => actsAt [] "" place (.section fields)) ∧
      ∀ (ε α : Type) (block : Except ε α), Does (leave fields block) (block.map some)
        (visited.flatMap fun place => actsAt [] "" place (.section fields)) := by
  have sorted := List.pairwise_cons.mp (Resource.sorted_places (.section fields))
  have does : Does (closeFields [] fields) ()
      ((placesIn 0 fields).flatMap fun place => actsAt [] "" place (.section fields)) := by
    have acts := flatMap_placesIn [] "" [] fields
    rw [List.length_nil, List.nil_append] at acts
    rw [acts]
    exact does_closeFields [] fields
  refine ⟨placesIn 0 fields, sorted.2, fun place => ?_, does, fun ε α block => does.leave block⟩
  rw [← Resource.mem_places_iff, places, List.mem_cons]
  constructor
  · intro listed
    have below := sorted.1 place listed
    exact ⟨fun here => by simp [here] at below, Or.inr listed⟩
  · rintro ⟨below, here | listed⟩
    · exact absurd here below
    · exact listed

example :
    closeAll [] [("sink", .section [("file", .closeable (some "lost")), ("console", .plain)]),
        ("last", .closeable none)] =
      [.entered ["sink"], .closed ["sink", "file"], .warning "file" "lost", .closed ["last"]] := by
  rfl

end Closing

end Ratchet
