import Ratchet.Proofs.Value.Merge
import Ratchet.Yaml.Meaning

namespace Ratchet

namespace Yaml

/-!
# Mappings of documents

A document may write a key twice, and may take in entries under keys that it
writes itself.  The mapping that it stands for has each key once all the same.
-/

namespace Found

theorem both_eq_ok_iff {α β γ : Type} {f : α → β → γ} {left : Found α} {right : Found β} {c : γ} :
    both f left right = .ok c ↔ ∃ a b, left = .ok a ∧ right = .ok b ∧ f a b = c := by
  unfold both
  split <;> simp

theorem map_eq_ok_iff {α β : Type} {f : α → β} {found : Found α} {b : β} :
    f <$> found = .ok b ↔ ∃ a, found = .ok a ∧ f a = b := by
  cases found with
  | ok a => simp [Functor.map, Except.map]
  | error fault => simp [Functor.map, Except.map]

end Found

namespace Node

theorem keyed_scalar {depth : Nat} {found : Except Error Scalar} {value : Value}
    (read : located depth (Value.scalar <$> found) = .ok value) : value.Keyed := by
  cases found with
  | error fault => cases read
  | ok s =>
    cases read
    exact .scalar s

/-- The values of two lists of entries together. -/
theorem keyed_append {left right : Found (List (Scalar × Value))} {all : List (Scalar × Value)}
    (read : Found.both (· ++ ·) left right = .ok all)
    (first : ∀ some, left = .ok some → ∀ entry ∈ some, Value.Keyed entry.2)
    (second : ∀ some, right = .ok some → ∀ entry ∈ some, Value.Keyed entry.2) :
    ∀ entry ∈ all, Value.Keyed entry.2 := by
  obtain ⟨before, after, foundBefore, foundAfter, rfl⟩ := Found.both_eq_ok_iff.mp read
  intro entry listed
  rcases List.mem_append.mp listed with listed | listed
  · exact first before foundBefore entry listed
  · exact second after foundAfter entry listed

mutual

theorem keyed_valueAt {depth : Nat} :
    ∀ {node : Node} {value : Value}, valueAt depth node = .ok value → value.Keyed
  | .scalar tag text, value, read => by
    rw [valueAt] at read
    split at read
    · cases read
    · exact keyed_scalar read
  | .sequence tag items, value, read => by
    rw [valueAt] at read
    split at read
    · obtain ⟨all, -, rfl⟩ := Found.map_eq_ok_iff.mp read
      exact .list all
    · obtain ⟨all, -, rfl⟩ := Found.map_eq_ok_iff.mp read
      exact .list all
    · obtain ⟨all, -, rfl⟩ := Found.map_eq_ok_iff.mp read
      exact .list all
    all_goals cases read
  | .mapping tag entries, value, read => by
    rw [valueAt] at read
    split at read
    · -- A mapping takes in others and writes entries itself; the last of equal keys wins.
      obtain ⟨all, found, rfl⟩ := Found.map_eq_ok_iff.mp read
      rw [together] at found
      split at found
      · exact Mapping.keyed_ofEntries (keyed_append found (fun _ => keyed_mergedAt)
          fun _ => keyed_ownAt)
      · cases found
    · obtain ⟨all, -, rfl⟩ := Found.map_eq_ok_iff.mp read
      exact .set _
    · cases read
    · cases read
    · cases read
    · split at read
      · exact keyed_scalar read
      · cases read
  | .again _, value, read => by
    rw [valueAt] at read
    cases read

theorem keyed_ownAt {depth : Nat} : ∀ {entries : List (Node × Node)} {all : List (Scalar × Value)},
    ownAt depth entries = .ok all → ∀ entry ∈ all, Value.Keyed entry.2
  | [], all, read => by
    cases read
    exact fun _ listed => nomatch listed
  | (key, value) :: rest, all, read => by
    rw [ownAt] at read
    split at read
    · exact keyed_ownAt read
    · obtain ⟨first, others, foundFirst, foundOthers, rfl⟩ := Found.both_eq_ok_iff.mp read
      obtain ⟨name, written, -, foundWritten, rfl⟩ := Found.both_eq_ok_iff.mp foundFirst
      intro entry listed
      rcases List.mem_cons.mp listed with rfl | listed
      · exact keyed_valueAt foundWritten
      · exact keyed_ownAt foundOthers entry listed

theorem keyed_mergedAt {depth : Nat} :
    ∀ {entries : List (Node × Node)} {all : List (Scalar × Value)},
      mergedAt depth entries = .ok all → ∀ entry ∈ all, Value.Keyed entry.2
  | [], all, read => by
    cases read
    exact fun _ listed => nomatch listed
  | (key, value) :: rest, all, read => by
    rw [mergedAt] at read
    split at read
    · exact keyed_append read (fun _ => keyed_mergedFrom) fun _ => keyed_mergedAt
    · exact keyed_mergedAt read

theorem keyed_mergedFrom {depth : Nat} : ∀ {node : Node} {all : List (Scalar × Value)},
    mergedFrom depth node = .ok all → ∀ entry ∈ all, Value.Keyed entry.2
  | .scalar _ _, all, read | .again _, all, read => by
    cases read
    exact fun _ listed => nomatch listed
  | .sequence _ items, all, read => by
    rw [mergedFrom] at read
    exact keyed_mergedItems read
  | .mapping _ entries, all, read => by
    rw [mergedFrom] at read
    exact keyed_append read (fun _ => keyed_mergedAt) fun _ => keyed_ownAt

theorem keyed_mergedItems {depth : Nat} : ∀ {items : List Node} {all : List (Scalar × Value)},
    mergedItems depth items = .ok all → ∀ entry ∈ all, Value.Keyed entry.2
  | [], all, read => by
    cases read
    exact fun _ listed => nomatch listed
  | item :: rest, all, read => by
    rw [mergedItems] at read
    exact keyed_append read (fun _ => keyed_mergedItems) fun _ => keyed_mergedFrom

end

end Node

/-- The value of a document repeats no key. -/
theorem keyed_read {document : String} {value : Value} (found : read document = .ok value) :
    value.Keyed := by
  unfold read at found
  cases parsed : Node.read document with
  | error fault =>
    rw [parsed] at found
    cases found
  | ok root =>
    rw [parsed] at found
    cases root with
    | none =>
      cases found
      exact .scalar .null
    | some root =>
      change Node.value root = .ok value at found
      unfold Node.value at found
      split at found
      · next whole =>
        cases found
        exact Node.keyed_valueAt whole
      · cases found

end Yaml

end Ratchet
