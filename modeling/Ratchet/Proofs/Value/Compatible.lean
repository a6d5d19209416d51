import Ratchet.Proofs.Value.Merge

namespace Ratchet

/-!
# Merging in groups

Laying three mappings over one another, it does not matter which two are merged
first, unless a value that is no mapping lies between two mappings.  Then the
uppermost mapping lies over nothing if the values below it are settled first,
and over the lowest mapping if it has taken the place of the value between them
before.  Where the mappings are compatible this does not happen, and compatible
mappings stay so when they are merged.
-/

/-- Wherever both values have something, both have a mapping or neither has. -/
def Value.Compatible (first second : Value) : Prop :=
  ∀ path one other, Value.at? path first = some one → Value.at? path second = some other →
    one.isMap = other.isMap

/-- At every path of keys where both mappings have a value, both values are
mappings or neither is. -/
def Mapping.Compatible (first second : Mapping) : Prop :=
  ∀ path one other, at? path first = some one → at? path second = some other →
    one.isMap = other.isMap

namespace Value

theorem Compatible.isMap_eq {first second : Value} (compatible : Compatible first second) :
    first.isMap = second.isMap :=
  compatible [] first second (at?_nil first) (at?_nil second)

theorem compatible_map {first second : Mapping} :
    Compatible (.map first) (.map second) ↔ Mapping.Compatible first second := by
  simp only [Compatible, Mapping.Compatible, at?_map]

theorem compatible_of_leaf {first second : Value} (one : first.isMap = false)
    (other : second.isMap = false) : Compatible first second := by
  intro path here there found alike
  cases path with
  | nil =>
    rw [at?_nil, Option.some_inj] at found alike
    rw [← found, ← alike, one, other]
  | cons key path =>
    rw [at?_cons_of_isMap_eq_false one] at found
    cases found

@[simp] theorem over_none (value : Value) : Value.over none value = value := by
  cases value <;> rfl

end Value

namespace Mapping

/-! ## Compatible mappings -/

/-- Mappings are compatible if their values under each key are. -/
theorem compatible_iff {first second : Mapping} :
    Compatible first second ↔ ∀ key one other, get? key first = some one →
      get? key second = some other → Value.Compatible one other := by
  constructor
  · intro compatible key one other here there path inner outer found alike
    apply compatible (key :: path) inner outer
    · rw [at?_cons, here]
      exact found
    · rw [at?_cons, there]
      exact alike
  · intro values path one other found alike
    cases path with
    | nil =>
      cases found
      cases alike
      rfl
    | cons key path =>
      rw [at?_cons, Option.bind_eq_some_iff] at found alike
      obtain ⟨here, listed, inner⟩ := found
      obtain ⟨there, member, outer⟩ := alike
      exact values key here there listed member path one other inner outer

theorem Compatible.symm {first second : Mapping} (compatible : Compatible first second) :
    Compatible second first :=
  fun path one other found alike => (compatible path other one alike found).symm

theorem compatible_nil (second : Mapping) : Compatible [] second :=
  compatible_iff.mpr fun _ _ _ here => nomatch here

/-- What is compatible with two mappings is compatible with the two merged. -/
theorem Compatible.merge {first lower upper : Mapping} (keyed : Value.Keyed (.map upper))
    (below : Compatible first lower) (above : Compatible first upper) :
    Compatible first (merge lower upper) := by
  intro path one other found merged
  rcases exists_at?_of_merge keyed merged with ⟨value, there, kind⟩ | ⟨value, there, kind⟩
  · exact (below path one value found there).trans kind
  · exact (above path one value found there).trans kind

theorem Compatible.layered {first : Mapping} {layers : List Mapping}
    (keyed : ∀ layer ∈ layers, Value.Keyed (.map layer))
    (each : ∀ layer ∈ layers, Compatible first layer) : Compatible first (layered layers) := by
  induction layers using List.reverseRecOn with
  | nil => exact (compatible_nil first).symm
  | append_singleton layers top ih =>
    rw [layered_concat]
    refine Compatible.merge (keyed top (by simp)) (ih ?_ ?_) (each top (by simp))
    · exact fun layer listed => keyed layer (List.mem_append_left _ listed)
    · exact fun layer listed => each layer (List.mem_append_left _ listed)

section Cons

variable {first rest : Mapping} {key : Scalar} {value : Value}

theorem get?_cons_of_apart {other : Scalar} (apart : Scalar.sameKey key other = false) :
    get? other ((key, value) :: rest) = get? other rest := by
  simp only [get?, apart, Bool.false_eq_true, if_false]

theorem get?_cons_self : get? key ((key, value) :: rest) = some value := by
  have same : Scalar.sameKey key key = true := Scalar.sameKey_iff.mpr rfl
  simp only [get?, same, if_true]

/-- A key that a mapping has later is not its first one. -/
theorem sameKey_of_fresh {other : Scalar} {found : Value} (fresh : get? key rest = none)
    (there : get? other rest = some found) : Scalar.sameKey key other = false := by
  rw [Bool.eq_false_iff]
  intro same
  rw [get?_congr (Scalar.sameKey_iff.mp same), there] at fresh
  cases fresh

theorem Compatible.of_cons (fresh : get? key rest = none)
    (compatible : Compatible first ((key, value) :: rest)) : Compatible first rest := by
  refine compatible_iff.mpr fun other one found here there => ?_
  have apart := sameKey_of_fresh fresh there
  have behind : get? other ((key, value) :: rest) = get? other rest := get?_cons_of_apart apart
  rw [← behind] at there
  exact compatible_iff.mp compatible other one found here there

theorem Compatible.put (fresh : get? key rest = none) (compatible : Compatible first rest) :
    Compatible (put key value first) rest := by
  refine compatible_iff.mpr fun other one found here there => ?_
  rw [get?_put, sameKey_of_fresh fresh there] at here
  exact compatible_iff.mp compatible other one found here there

end Cons

end Mapping

/-! ## Checking that mappings are compatible -/

mutual

/-- A check whether two values are compatible. -/
def Value.agrees : Value → Value → Bool
  | .map entries, other =>
    match other with
    | .map others => Mapping.agrees others entries
    | _ => false
  | _, other => !other.isMap

/-- A check whether the entries of a mapping are compatible with those of another
one. -/
def Mapping.agrees (others : Mapping) : Mapping → Bool
  | [] => true
  | (key, value) :: rest =>
    (match Mapping.get? key others with
      | some other => Value.agrees value other
      | none => true) && Mapping.agrees others rest

end

mutual

theorem Value.compatible_of_agrees {other : Value} :
    ∀ {value : Value}, value.agrees other = true → Value.Compatible value other
  | .scalar _, agrees | .list _, agrees | .set _, agrees => by
    exact Value.compatible_of_leaf rfl
      (by simpa only [Value.agrees, Bool.not_eq_true'] using agrees)
  | .map entries, agrees => by
    cases other with
    | scalar | list | set => cases agrees
    | map others =>
      rw [Value.agrees] at agrees
      refine Value.compatible_map.mpr (Mapping.compatible_iff.mpr fun key one two here there => ?_)
      obtain ⟨entry, listed, same, rfl⟩ := Mapping.mem_of_get? here
      rw [← Mapping.get?_congr same] at there
      exact Mapping.compatible_of_mem agrees entry listed two there

theorem Mapping.compatible_of_mem {others : Mapping} :
    ∀ {entries : Mapping}, Mapping.agrees others entries = true → ∀ entry ∈ entries, ∀ other,
      Mapping.get? entry.1 others = some other → Value.Compatible entry.2 other
  | [], _ => fun _ listed => nomatch listed
  | (key, value) :: rest, agree => by
    intro entry listed other there
    rw [Mapping.agrees, Bool.and_eq_true] at agree
    rcases List.mem_cons.mp listed with rfl | listed
    · have first := agree.1
      rw [there] at first
      exact Value.compatible_of_agrees first
    · exact Mapping.compatible_of_mem agree.2 entry listed other there

end

namespace Mapping

theorem compatible_of_agrees {first second : Mapping} (agree : agrees second first = true) :
    Compatible first second :=
  Value.compatible_map.mp (Value.compatible_of_agrees (by rw [Value.agrees]; exact agree))

/-! ## Setting a key before and after merging -/

theorem put_put {key other : Scalar} (same : Scalar.sameKey key other = true) (value last : Value)
    (entries : Mapping) : put other last (put key value entries) = put key last entries := by
  have equal := Scalar.sameKey_iff.mp same
  induction entries with
  | nil => simp only [put, same, if_true]
  | cons entry rest ih =>
    have alike : Scalar.sameKey entry.1 other = Scalar.sameKey entry.1 key := by
      rw [Scalar.sameKey, Scalar.sameKey, equal]
    by_cases first : Scalar.sameKey entry.1 key = true
    · simp only [put, alike, first, if_true]
    · simp only [put, alike, first, Bool.false_eq_true, if_false, ih]

/-- Two keys may be set in either order if the first one has its place. -/
theorem put_comm {key other : Scalar} (apart : Scalar.sameKey key other = false)
    (value found : Value) {entries : Mapping} (present : (get? key entries).isSome) :
    put key value (put other found entries) = put other found (put key value entries) := by
  induction entries with
  | nil => cases present
  | cons entry rest ih =>
    by_cases mine : Scalar.sameKey entry.1 key = true
    · have notOther : Scalar.sameKey entry.1 other = false := by
        rw [Scalar.sameKey, Scalar.sameKey_iff.mp mine]
        exact apart
      simp only [put, mine, notOther, Bool.false_eq_true, if_true, if_false]
    · simp only [get?, mine, Bool.false_eq_true, if_false] at present
      by_cases theirs : Scalar.sameKey entry.1 other = true
      · simp only [put, mine, theirs, Bool.false_eq_true, if_true, if_false]
      · simp only [put, mine, theirs, Bool.false_eq_true, if_false, ih present]

/-- A key that the upper mapping does not have may be set before it is laid over
the lower one. -/
theorem put_merge {key : Scalar} {lower upper : Mapping} (value : Value)
    (present : (get? key lower).isSome) (absent : get? key upper = none) :
    put key value (merge lower upper) = merge (put key value lower) upper := by
  induction upper generalizing lower with
  | nil => simp only [merge_nil]
  | cons entry rest ih =>
    obtain ⟨first, top⟩ := entry
    have apart : Scalar.sameKey first key = false := by
      rw [Bool.eq_false_iff]
      intro same
      rw [get?, if_pos same] at absent
      cases absent
    have apart' : Scalar.sameKey key first = false := by
      rw [Scalar.sameKey, Bool.eq_false_iff, Ne, beq_iff_eq] at apart ⊢
      exact fun same => apart same.symm
    rw [get?_cons_of_apart apart] at absent
    have kept : get? key (put first (Value.over (get? first lower) top) lower) =
        get? key lower := by
      rw [get?_put, apart]
      rfl
    rw [merge_cons, merge_cons, ih (kept ▸ present) absent, put_comm apart' _ _ present, get?_put,
      apart']
    rfl

/-- One more value laid over a merged mapping may be laid over its upper part
before, if that makes no difference to the value. -/
theorem merge_put {key : Scalar} {lower upper : Mapping} {value : Value}
    (unrepeated : Unrepeated upper)
    (grouped : ∀ found, get? key upper = some found → ∀ current,
      Value.over (some (Value.over current found)) value =
        Value.over current (Value.over (some found) value)) :
    put key (Value.over (get? key (merge lower upper)) value) (merge lower upper) =
      merge lower (put key (Value.over (get? key upper) value) upper) := by
  induction upper generalizing lower with
  | nil => simp only [merge_nil, put, get?, Value.over_none, merge_cons]
  | cons entry rest ih =>
    obtain ⟨first, top⟩ := entry
    obtain ⟨fresh, others⟩ := List.nodup_cons.mp unrepeated
    by_cases same : Scalar.sameKey first key = true
    · -- The value lies over the first entry, and nothing behind it has this key.
      have absent : get? key rest = none := by
        rw [← get?_congr (Scalar.sameKey_iff.mp same)]
        exact get?_eq_none_of_notMem fresh
      have here : get? key (put first (Value.over (get? first lower) top) lower) =
          some (Value.over (get? first lower) top) := by
        rw [get?_put, if_pos same]
      have merged : get? key (merge lower ((first, top) :: rest)) =
          some (Value.over (get? first lower) top) := by
        rw [merge_cons, get?_merge others, absent]
        exact here
      have found : get? key ((first, top) :: rest) = some top := by
        simp only [get?, same, if_true]
      have present : (get? key (put first (Value.over (get? first lower) top) lower)).isSome := by
        rw [here]
        rfl
      rw [merged, found, merge_cons, put_merge _ present absent, put_put same,
        grouped top found]
      simp only [put, same, if_true, merge_cons]
    · -- It lies over something behind the first entry or is new.
      have apart := Bool.eq_false_iff.mpr same
      rw [get?_cons_of_apart apart] at grouped ⊢
      simp only [put, apart, Bool.false_eq_true, if_false, merge_cons]
      exact ih others grouped

/-! ## Grouping -/

mutual

/-- Three mappings may be merged from below or from above if the upper two are
compatible. -/
theorem merge_assoc {lower : Mapping} :
    ∀ {middle upper : Mapping}, Value.Keyed (.map middle) → Unrepeated upper →
      (∀ entry ∈ upper, Value.Keyed entry.2) → Compatible middle upper →
      merge (merge lower middle) upper = merge lower (merge middle upper)
  | middle, [], _, _, _, _ => by
    rw [merge_nil, merge_nil]
  | middle, (key, value) :: rest, keyed, unrepeated, values, compatible => by
    obtain ⟨fresh, others⟩ := List.nodup_cons.mp unrepeated
    have absent : get? key rest = none := get?_eq_none_of_notMem fresh
    have keyedValue : Value.Keyed value := values _ List.mem_cons_self
    have alike : ∀ found, get? key middle = some found → Value.Compatible found value :=
      fun found there => compatible_iff.mp compatible key found value there get?_cons_self
    have keyedOver : Value.Keyed (Value.over (get? key middle) value) :=
      keyed_over (fun found there => keyed_get? keyed there) keyedValue
    rw [merge_cons, merge_cons, merge_put keyed.unrepeated]
    · exact merge_assoc (keyed_put keyed key keyedOver) others
        (fun entry listed => values entry (List.mem_cons_of_mem _ listed))
        (compatible.of_cons absent |>.put absent)
    · intro found there current
      exact over_assoc (keyed_get? keyed there) keyedValue (alike found there)

theorem over_assoc {current : Option Value} {found : Value} :
    ∀ {value : Value}, found.Keyed → value.Keyed → Value.Compatible found value →
      Value.over (some (Value.over current found)) value =
        Value.over current (Value.over (some found) value)
  | .scalar s, _, _, _ => by simp only [Value.over]
  | .list items, _, _, _ => by simp only [Value.over]
  | .set members, _, _, _ => by simp only [Value.over]
  | .map entries, keyedFound, keyed, compatible => by
    rcases Value.isMap_eq_false_or_eq_map found with leaf | ⟨middle, rfl⟩
    · have kinds := compatible.isMap_eq
      rw [leaf] at kinds
      cases kinds
    by_cases both : ∃ lower, current = some (.map lower)
    · rcases both with ⟨lower, rfl⟩
      simp only [Value.over_map_map]
      rw [merge_assoc keyedFound keyed.unrepeated (fun entry listed => keyed.value listed)
        (Value.compatible_map.mp compatible)]
    · have nothing (upper : Mapping) : Value.over current (.map upper) = .map upper :=
        Value.over_map_of_leaf (fun lower there => both ⟨lower, there⟩) upper
      simp only [Value.over_map_map, nothing]

end

/-- Layers over a base may be merged before they are laid over it. -/
theorem merge_layered {layers : List Mapping} (base : Mapping)
    (keyed : ∀ layer ∈ layers, Value.Keyed (.map layer))
    (compatible : layers.Pairwise Compatible) :
    merge base (layered layers) = layers.foldl merge base := by
  induction layers using List.reverseRecOn with
  | nil => exact merge_nil base
  | append_singleton layers top ih =>
    have keyedLower : ∀ layer ∈ layers, Value.Keyed (.map layer) :=
      fun layer listed => keyed layer (List.mem_append_left _ listed)
    have keyedTop : Value.Keyed (.map top) := keyed top (by simp)
    obtain ⟨lower, -, across⟩ := List.pairwise_append.mp compatible
    have below : Compatible (layered layers) top := by
      refine (Compatible.layered keyedLower ?_).symm
      exact fun layer listed => (across layer listed top (by simp)).symm
    rw [layered_concat, List.foldl_concat, ← ih keyedLower lower]
    exact (merge_assoc (keyed_layered keyedLower) keyedTop.unrepeated
      (fun entry listed => keyedTop.value listed) below).symm

end Mapping

end Ratchet
