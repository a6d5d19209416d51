import Mathlib.Data.List.Nodup
import Mathlib.Data.List.Induction
import Mathlib.Data.List.Infix
import Ratchet.Value.Merge

namespace Ratchet

/-!
# Merged mappings, path by path

What stands at a path of keys after mappings were laid over one another.  A
mapping settles a path if it has a value there, or a value that is no mapping
on the way to it; it then hides all mappings below it.  So the value at a path,
unless it is a mapping itself, is that of the last mapping which has it and
over which no other settles the path.

All this takes mappings without repeated keys.  Merging keeps them so.
-/

/-- No two entries of a mapping have the same key. -/
def Mapping.Unrepeated (entries : Mapping) : Prop :=
  (entries.map fun entry => entry.1.canonical).Nodup

/-- Neither a mapping nor a mapping that is a value in it repeats a key.  Lists
are not looked into, because merging does not. -/
inductive Value.Keyed : Value → Prop
  | scalar (s : Scalar) : Keyed (.scalar s)
  | list (items : List Value) : Keyed (.list items)
  | set (members : List Scalar) : Keyed (.set members)
  | map {entries : Mapping} (unrepeated : Mapping.Unrepeated entries)
      (values : ∀ entry ∈ entries, Keyed entry.2) : Keyed (.map entries)

namespace Value

theorem Keyed.unrepeated {entries : Mapping} (keyed : Keyed (.map entries)) :
    Mapping.Unrepeated entries := by
  cases keyed with
  | map unrepeated _ => exact unrepeated

theorem Keyed.value {entries : Mapping} (keyed : Keyed (.map entries)) {entry : Scalar × Value}
    (listed : entry ∈ entries) : Keyed entry.2 := by
  cases keyed with
  | map _ values => exact values entry listed

theorem isMap_eq_false_or_eq_map (value : Value) :
    value.isMap = false ∨ ∃ entries, value = .map entries := by
  cases value with
  | map entries => exact Or.inr ⟨entries, rfl⟩
  | scalar | list | set => exact Or.inl rfl

theorem over_of_isMap_eq_false {value : Value} (leaf : value.isMap = false)
    (current : Option Value) : Value.over current value = value := by
  cases value with
  | map entries => cases leaf
  | scalar | list | set => rfl

@[simp] theorem over_map_map (lower upper : Mapping) :
    Value.over (some (.map lower)) (.map upper) = .map (Mapping.merge lower upper) := by
  simp only [Value.over]

/-- What is no mapping lets nothing of itself through. -/
theorem over_map_of_leaf {current : Option Value} (leaf : ∀ lower, current ≠ some (.map lower))
    (upper : Mapping) : Value.over current (.map upper) = .map upper := by
  unfold Value.over
  split
  · next lower => exact absurd rfl (leaf lower)
  · rfl

/-- The value at a path of keys below a value. -/
def at? (path : List Scalar) (value : Value) : Option Value :=
  match path, value with
  | [], value => some value
  | _ :: _, .map inner => Mapping.at? path inner
  | _ :: _, _ => none

@[simp] theorem at?_nil (value : Value) : at? [] value = some value := by
  cases value <;> rfl

@[simp] theorem at?_map (path : List Scalar) (inner : Mapping) :
    at? path (.map inner) = Mapping.at? path inner := by
  cases path <;> rfl

theorem at?_cons_of_isMap_eq_false {value : Value} (leaf : value.isMap = false) (key : Scalar)
    (path : List Scalar) : at? (key :: path) value = none := by
  cases value with
  | map inner => cases leaf
  | scalar | list | set => rfl

end Value

namespace Mapping

/-! ## Looking up a key -/

theorem get?_congr {key other : Scalar} (same : key.canonical = other.canonical)
    (entries : Mapping) : get? key entries = get? other entries := by
  induction entries with
  | nil => rfl
  | cons entry rest ih =>
    have alike : Scalar.sameKey entry.1 key = Scalar.sameKey entry.1 other := by
      rw [Scalar.sameKey, Scalar.sameKey, same]
    rw [get?, get?, alike, ih]

theorem get?_eq_none_of_notMem {key : Scalar} {entries : Mapping}
    (absent : key.canonical ∉ entries.map fun entry => entry.1.canonical) :
    get? key entries = none := by
  induction entries with
  | nil => rfl
  | cons entry rest ih =>
    simp only [List.map_cons, List.mem_cons, not_or] at absent
    have apart : Scalar.sameKey entry.1 key = false := by
      simpa [Scalar.sameKey] using Ne.symm absent.1
    simp only [get?, apart, Bool.false_eq_true, if_false]
    exact ih absent.2

theorem mem_of_get? {key : Scalar} {entries : Mapping} {value : Value}
    (found : get? key entries = some value) :
    ∃ entry ∈ entries, entry.1.canonical = key.canonical ∧ entry.2 = value := by
  induction entries with
  | nil => cases found
  | cons entry rest ih =>
    simp only [get?] at found
    split at found
    · next same =>
      cases found
      exact ⟨entry, List.mem_cons_self, Scalar.sameKey_iff.mp same, rfl⟩
    · rcases ih found with ⟨other, listed, alike⟩
      exact ⟨other, List.mem_cons_of_mem _ listed, alike⟩

theorem keyed_get? {entries : Mapping} (keyed : Value.Keyed (.map entries)) {key : Scalar}
    {value : Value} (found : get? key entries = some value) : value.Keyed := by
  rcases mem_of_get? found with ⟨entry, listed, -, same⟩
  exact same ▸ keyed.value listed

/-- After merging, a key has its upper value laid over its lower one. -/
theorem get?_merge {upper : Mapping} (unrepeated : Unrepeated upper) (key : Scalar)
    (lower : Mapping) :
    get? key (merge lower upper) =
      match get? key upper with
      | some value => some (Value.over (get? key lower) value)
      | none => get? key lower := by
  induction upper generalizing lower with
  | nil => rw [merge_nil]; rfl
  | cons entry rest ih =>
    obtain ⟨first, value⟩ := entry
    obtain ⟨fresh, others⟩ := List.nodup_cons.mp unrepeated
    rw [merge_cons, ih others, get?_put]
    by_cases same : Scalar.sameKey first key = true
    · have equal : first.canonical = key.canonical := Scalar.sameKey_iff.mp same
      -- No later entry has this key, so the first one decides.
      have last : get? key rest = none := by
        apply get?_eq_none_of_notMem
        rw [← equal]
        exact fresh
      simp only [get?, same, if_true, last, get?_congr equal]
    · simp only [get?, same, Bool.false_eq_true, if_false]

/-! ## Looking up a path -/

theorem at?_cons (key : Scalar) (path : List Scalar) (entries : Mapping) :
    at? (key :: path) entries = (get? key entries).bind (Value.at? path) := by
  cases path with
  | nil =>
    rw [at?]
    cases get? key entries <;> simp
  | cons next rest =>
    rw [at?]
    · cases get? key entries with
      | none => rfl
      | some value => cases value <;> rfl
    · exact fun same => nomatch same

/-- A longer path leads through a mapping. -/
theorem at?_cons_cons {key next : Scalar} {rest : List Scalar} {entries : Mapping}
    {value : Value} :
    at? (key :: next :: rest) entries = some value ↔
      ∃ inner, get? key entries = some (.map inner) ∧ at? (next :: rest) inner = some value := by
  rw [at?_cons, Option.bind_eq_some_iff]
  constructor
  · rintro ⟨top, found, there⟩
    rcases Value.isMap_eq_false_or_eq_map top with leaf | ⟨inner, rfl⟩
    · rw [Value.at?_cons_of_isMap_eq_false leaf] at there
      cases there
    · exact ⟨inner, found, there⟩
  · rintro ⟨inner, found, there⟩
    exact ⟨.map inner, found, there⟩

/-- A mapping decides what stands at a path: it has a value there, or a value
that is no mapping on the way. -/
def Settles (path : List Scalar) (entries : Mapping) : Prop :=
  (at? path entries).isSome ∨
    ∃ above ∈ path.inits, above ≠ path ∧ ∃ value ∈ at? above entries, value.isMap = false

instance (path : List Scalar) (entries : Mapping) : Decidable (Settles path entries) :=
  inferInstanceAs (Decidable ((at? path entries).isSome ∨
    ∃ above ∈ path.inits, above ≠ path ∧ ∃ value ∈ at? above entries, value.isMap = false))

theorem settles_nil (entries : Mapping) : Settles [] entries :=
  Or.inl rfl

section Cons

variable {key : Scalar} {path : List Scalar} {entries : Mapping}

theorem not_settles_of_get?_eq_none (absent : get? key entries = none)
    (path : List Scalar) : ¬ Settles (key :: path) entries := by
  have nothing (path : List Scalar) : at? (key :: path) entries = none := by
    rw [at?_cons, absent]
    rfl
  rintro (there | ⟨above, leads, -, value, there, leaf⟩)
  · rw [nothing] at there
    cases there
  · rcases List.prefix_cons_iff.mp ((List.mem_inits _ _).mp leads) with rfl | ⟨upper, rfl, -⟩
    · cases there
      cases leaf
    · rw [nothing] at there
      cases there

theorem settles_of_isMap_eq_false {value : Value} (found : get? key entries = some value)
    (leaf : value.isMap = false) (path : List Scalar) : Settles (key :: path) entries := by
  have here : at? [key] entries = some value := by
    rw [at?_cons, found]
    exact Value.at?_nil value
  cases path with
  | nil =>
    refine Or.inl ?_
    rw [here]
    rfl
  | cons next rest =>
    have leads : [key] <+: key :: next :: rest := List.prefix_append [key] _
    exact Or.inr ⟨[key], (List.mem_inits _ _).mpr leads, by simp, value, here, leaf⟩

theorem settles_cons_of_map {inner : Mapping} (found : get? key entries = some (.map inner)) :
    Settles (key :: path) entries ↔ Settles path inner := by
  have below (path : List Scalar) : at? (key :: path) entries = at? path inner := by
    rw [at?_cons, found]
    exact Value.at?_map path inner
  constructor
  · rintro (there | ⟨above, leads, apart, value, there, leaf⟩)
    · exact Or.inl (below path ▸ there)
    · have begins := List.prefix_cons_iff.mp ((List.mem_inits _ _).mp leads)
      rcases begins with rfl | ⟨upper, rfl, shorter⟩
      · cases there
        cases leaf
      · rw [below] at there
        refine Or.inr ⟨upper, (List.mem_inits _ _).mpr shorter, ?_, value, there, leaf⟩
        exact fun same => apart (same ▸ rfl)
  · rintro (there | ⟨above, leads, apart, value, there, leaf⟩)
    · exact Or.inl (below path ▸ there)
    · refine Or.inr ⟨key :: above, ?_, ?_, value, (below above).trans there, leaf⟩
      · have begins := (List.mem_inits _ _).mp leads
        exact (List.mem_inits _ _).mpr ((List.prefix_cons_inj key).mpr begins)
      · exact fun same => apart (List.cons.inj same).2

end Cons

/-! ## Two mappings -/

/-- What is at a path after merging: the upper value, or the lower one where
the upper mapping does not settle the path. -/
theorem at?_merge_eq_some_iff {path : List Scalar} {lower upper : Mapping} {value : Value}
    (keyed : Value.Keyed (.map upper)) (leaf : value.isMap = false) :
    at? path (merge lower upper) = some value ↔
      at? path upper = some value ∨ at? path lower = some value ∧ ¬ Settles path upper := by
  induction path generalizing lower upper with
  | nil =>
    have whole (entries : Mapping) : at? [] entries ≠ some value := by
      intro same
      cases same
      cases leaf
    simp only [whole, false_and, or_self]
  | cons key path ih =>
    have merged := get?_merge keyed.unrepeated key lower
    rcases found : get? key upper with _ | top
    · -- The upper mapping says nothing about this key.
      rw [found] at merged
      have silent := not_settles_of_get?_eq_none found path
      simp [at?_cons, merged, found, silent]
    rw [found] at merged
    rcases Value.isMap_eq_false_or_eq_map top with above | ⟨inner, rfl⟩
    · -- It has something there that is no mapping, which hides the lower value.
      have settled := settles_of_isMap_eq_false found above path
      simp [at?_cons, merged, found, settled, Value.over_of_isMap_eq_false above]
    have keyedInner : Value.Keyed (.map inner) := keyed_get? keyed found
    by_cases both : ∃ low, get? key lower = some (.map low)
    · -- Both have a mapping there, and the two are merged in turn.
      rcases both with ⟨low, there⟩
      simp only [at?_cons, merged, found, there, Option.bind_some, Value.over_map_map,
        Value.at?_map, ih keyedInner, settles_cons_of_map found]
    · -- Only the upper one has a mapping, so nothing can be below this key in the lower one.
      have alone : Value.over (get? key lower) (.map inner) = .map inner :=
        Value.over_map_of_leaf (fun low there => both ⟨low, there⟩) inner
      have hidden : at? (key :: path) lower = some value → Settles path inner := by
        intro there
        cases path with
        | nil => exact settles_nil inner
        | cons next rest =>
          rw [at?_cons_cons] at there
          rcases there with ⟨low, there, -⟩
          exact absurd ⟨low, there⟩ both
      have upper : at? (key :: path) (merge lower upper) = at? (key :: path) upper := by
        simp only [at?_cons, merged, alone, found]
      rw [upper, settles_cons_of_map found]
      constructor
      · exact Or.inl
      · rintro (there | ⟨there, unsettled⟩)
        · exact there
        · exact absurd (hidden there) unsettled

/-- Merging sets nothing that neither mapping sets, and makes no mapping of what
is none. -/
theorem exists_at?_of_merge {path : List Scalar} {lower upper : Mapping} {value : Value}
    (keyed : Value.Keyed (.map upper)) (found : at? path (merge lower upper) = some value) :
    (∃ other, at? path lower = some other ∧ other.isMap = value.isMap) ∨
      ∃ other, at? path upper = some other ∧ other.isMap = value.isMap := by
  induction path generalizing lower upper with
  | nil =>
    cases found
    exact Or.inl ⟨.map lower, rfl, rfl⟩
  | cons key path ih =>
    rw [at?_cons, get?_merge keyed.unrepeated key lower] at found
    rcases there : get? key upper with _ | top
    · rw [there] at found
      exact Or.inl ⟨value, (at?_cons key path lower).trans found, rfl⟩
    rw [there, Option.bind_some] at found
    rcases Value.isMap_eq_false_or_eq_map top with leaf | ⟨inner, rfl⟩
    · rw [Value.over_of_isMap_eq_false leaf] at found
      refine Or.inr ⟨value, ?_, rfl⟩
      rw [at?_cons, there]
      exact found
    by_cases both : ∃ low, get? key lower = some (.map low)
    · rcases both with ⟨low, below⟩
      have keyedInner : Value.Keyed (.map inner) := keyed_get? keyed there
      rw [below, Value.over_map_map, Value.at?_map] at found
      simp only [at?_cons, there, below, Option.bind_some, Value.at?_map]
      exact ih keyedInner found
    · rw [Value.over_map_of_leaf fun low below => both ⟨low, below⟩] at found
      refine Or.inr ⟨value, ?_, rfl⟩
      rw [at?_cons, there]
      exact found

/-! ## Any number of mappings -/

theorem layered_concat (layers : List Mapping) (top : Mapping) :
    layered (layers ++ [top]) = merge (layered layers) top := by
  rw [layered, List.foldl_append]
  rfl

/-- A value that is no mapping stands at a path after merging exactly if some
layer has it there and no later one settles the path. -/
theorem at?_layered_eq_some_iff {layers : List Mapping} {path : List Scalar} {value : Value}
    (keyed : ∀ layer ∈ layers, Value.Keyed (.map layer)) (leaf : value.isMap = false) :
    at? path (layered layers) = some value ↔
      ∃ lower layer upper, layers = lower ++ layer :: upper ∧ at? path layer = some value ∧
        ∀ later ∈ upper, ¬ Settles path later := by
  induction layers using List.reverseRecOn with
  | nil =>
    constructor
    · intro found
      cases path with
      | nil =>
        cases found
        cases leaf
      | cons key path =>
        rw [at?_cons] at found
        cases found
    · rintro ⟨lower, layer, upper, none, -⟩
      simp at none
  | append_singleton layers top ih =>
    have keyedTop : Value.Keyed (.map top) := keyed top (by simp)
    have below := ih fun layer listed => keyed layer (List.mem_append_left _ listed)
    rw [layered_concat, at?_merge_eq_some_iff keyedTop leaf, below]
    constructor
    · rintro (found | ⟨⟨lower, layer, upper, rfl, found, unsettled⟩, open'⟩)
      · exact ⟨layers, top, [], rfl, found, by simp⟩
      · refine ⟨lower, layer, upper ++ [top], by simp, found, ?_⟩
        intro later listed
        rcases List.mem_append.mp listed with listed | last
        · exact unsettled later listed
        · rw [List.mem_singleton.mp last]
          exact open'
    · rintro ⟨lower, layer, upper, split, found, unsettled⟩
      rcases List.eq_nil_or_concat' upper with rfl | ⟨upper, last, rfl⟩
      · obtain ⟨-, rfl⟩ := List.append_singleton_inj.mp split
        exact Or.inl found
      · rw [← List.cons_append, ← List.append_assoc] at split
        obtain ⟨rfl, rfl⟩ := List.append_singleton_inj.mp split
        refine Or.inr ⟨⟨lower, layer, upper, rfl, found, ?_⟩, unsettled top (by simp)⟩
        exact fun later listed => unsettled later (List.mem_append_left _ listed)

/-- What no layer sets is not set after merging. -/
theorem exists_at?_of_layered {layers : List Mapping} {path : List Scalar} {value : Value}
    (keyed : ∀ layer ∈ layers, Value.Keyed (.map layer)) (proper : path ≠ [])
    (found : at? path (layered layers) = some value) :
    ∃ layer ∈ layers, ∃ other, at? path layer = some other := by
  induction layers using List.reverseRecOn generalizing value with
  | nil =>
    obtain ⟨key, path, rfl⟩ := List.exists_cons_of_ne_nil proper
    rw [at?_cons] at found
    cases found
  | append_singleton layers top ih =>
    rw [layered_concat] at found
    rcases exists_at?_of_merge (keyed top (by simp)) found with
      ⟨other, below, -⟩ | ⟨other, above, -⟩
    · rcases ih (fun layer listed => keyed layer (List.mem_append_left _ listed)) below with
        ⟨layer, listed, sets⟩
      exact ⟨layer, List.mem_append_left _ listed, sets⟩
    · exact ⟨top, by simp, other, above⟩

/-! ## Keys stay unrepeated -/

theorem canonical_put (key : Scalar) (value : Value) (entries : Mapping) :
    ((put key value entries).map fun entry => entry.1.canonical) =
      let keys := entries.map fun entry => entry.1.canonical
      if key.canonical ∈ keys then keys else keys ++ [key.canonical] := by
  induction entries with
  | nil => rfl
  | cons entry rest ih =>
    by_cases same : entry.1.canonical = key.canonical
    · simp [put, Scalar.sameKey, same]
    · have apart : ¬ key.canonical = entry.1.canonical := Ne.symm same
      simp only [put, Scalar.sameKey, beq_iff_eq, same, if_false, List.map_cons, ih,
        List.mem_cons, apart, false_or]
      split <;> rfl

theorem unrepeated_put {entries : Mapping} (unrepeated : Unrepeated entries) (key : Scalar)
    (value : Value) : Unrepeated (put key value entries) := by
  unfold Unrepeated at unrepeated ⊢
  rw [canonical_put]
  dsimp only
  split
  · exact unrepeated
  · next fresh =>
    rw [← List.concat_eq_append]
    exact unrepeated.concat fresh

theorem mem_put {key : Scalar} {value : Value} {entries : Mapping} {entry : Scalar × Value}
    (listed : entry ∈ put key value entries) : entry ∈ entries ∨ entry.2 = value := by
  induction entries with
  | nil =>
    rw [put, List.mem_singleton] at listed
    exact Or.inr (listed ▸ rfl)
  | cons first rest ih =>
    rw [put] at listed
    split at listed
    · rcases List.mem_cons.mp listed with rfl | listed
      · exact Or.inr rfl
      · exact Or.inl (List.mem_cons_of_mem _ listed)
    · rcases List.mem_cons.mp listed with rfl | listed
      · exact Or.inl List.mem_cons_self
      · exact (ih listed).imp_left (List.mem_cons_of_mem _)

theorem keyed_put {entries : Mapping} (keyed : Value.Keyed (.map entries)) (key : Scalar)
    {value : Value} (keyedValue : value.Keyed) :
    Value.Keyed (.map (put key value entries)) := by
  refine .map (unrepeated_put keyed.unrepeated key value) ?_
  intro entry listed
  rcases mem_put listed with old | new
  · exact keyed.value old
  · exact new ▸ keyedValue

/-- A mapping in which the last entry wins repeats no key. -/
theorem keyed_ofEntries {entries : List (Scalar × Value)}
    (values : ∀ entry ∈ entries, Value.Keyed entry.2) : Value.Keyed (.map (ofEntries entries)) := by
  have built (start : Mapping) (keyed : Value.Keyed (.map start)) : Value.Keyed (.map
      (entries.foldl (fun built entry => put entry.1 entry.2 built) start)) := by
    induction entries generalizing start with
    | nil => exact keyed
    | cons entry rest ih =>
      refine ih (fun entry listed => values entry (List.mem_cons_of_mem _ listed)) _ ?_
      exact keyed_put keyed entry.1 (values entry List.mem_cons_self)
  exact built [] (.map List.nodup_nil fun _ listed => nomatch listed)

theorem keyed_without {entries : Mapping} (keyed : Value.Keyed (.map entries)) (key : Scalar) :
    Value.Keyed (.map (without key entries)) := by
  refine .map ?_ fun entry listed => keyed.value (List.mem_filter.mp listed).1
  exact keyed.unrepeated.sublist (List.filter_sublist.map _)

mutual

theorem keyed_merge {lower : Mapping} (keyed : Value.Keyed (.map lower)) :
    ∀ {upper : Mapping}, (∀ entry ∈ upper, Value.Keyed entry.2) →
      Value.Keyed (.map (merge lower upper))
  | [], _ => by
    rw [merge_nil]
    exact keyed
  | (key, value) :: rest, values => by
    rw [merge_cons]
    have top : Value.Keyed value := values _ List.mem_cons_self
    have below : ∀ found, get? key lower = some found → Value.Keyed found :=
      fun found there => keyed_get? keyed there
    exact keyed_merge (keyed_put keyed key (keyed_over below top))
      fun entry listed => values entry (List.mem_cons_of_mem _ listed)

theorem keyed_over {current : Option Value} (below : ∀ found, current = some found → found.Keyed) :
    ∀ {value : Value}, value.Keyed → Value.Keyed (Value.over current value)
  | .scalar s, _ => .scalar s
  | .list items, _ => .list items
  | .set members, _ => .set members
  | .map entries, keyed => by
    by_cases both : ∃ lower, current = some (.map lower)
    · rcases both with ⟨lower, rfl⟩
      rw [Value.over_map_map]
      exact keyed_merge (below _ rfl) fun entry listed => keyed.value listed
    · rw [Value.over_map_of_leaf fun lower there => both ⟨lower, there⟩]
      exact keyed

end

theorem keyed_layered {layers : List Mapping}
    (keyed : ∀ layer ∈ layers, Value.Keyed (.map layer)) : Value.Keyed (.map (layered layers)) := by
  induction layers using List.reverseRecOn with
  | nil => exact .map List.nodup_nil fun _ listed => nomatch listed
  | append_singleton layers top ih =>
    rw [layered_concat]
    refine keyed_merge (ih fun layer listed => keyed layer (List.mem_append_left _ listed)) ?_
    exact fun entry listed => (keyed top (by simp)).value listed

end Mapping

end Ratchet
