import Ratchet.Log.Filter

namespace Ratchet

/-!
# Filtering and displayed levels

Two things are made of the number of a span's level.  It is compared with the
start of the least level that a sink writes, and it is looked up among the levels
to be displayed.  A level starts where its numbers begin and goes on up to the
start of the next one, so both come to the same from the first level on: what is
passed on is what is displayed at the least level or above.  Below the first level
they do not, because such numbers are displayed as the first level without
reaching it.
-/

namespace Level

/-- How many levels are less important. -/
def rank (level : Level) : Nat := all.idxOf level

instance : LE Level := ⟨fun one other => one.rank ≤ other.rank⟩

instance (one other : Level) : Decidable (one ≤ other) :=
  inferInstanceAs (Decidable (one.rank ≤ other.rank))

theorem mem_all (level : Level) : level ∈ all := by
  cases level <;> decide

theorem severity_le_severity_iff {one other : Level} :
    one.severity ≤ other.severity ↔ one ≤ other := by
  cases one <;> cases other <;> decide

/-- From the first level on, a number is displayed as the most important level
that it reaches. -/
theorem ofSeverity_greatest {number : Int} (started : 1 ≤ number) :
    (ofSeverity number).severity ≤ number ∧
      ∀ level : Level, level.severity ≤ number → level ≤ ofSeverity number := by
  have descending : all.reverse.Pairwise fun one other => other ≤ one := by decide
  rw [ofSeverity]
  cases found : all.reverse.find? fun level => level.severity ≤ number with
  | none =>
    rw [List.find?_eq_none] at found
    exact absurd (decide_eq_true started) (found spew (by decide))
  | some greatest =>
    rcases List.find?_eq_some_iff_append.mp found with ⟨reached, above, below, split, notReached⟩
    refine ⟨of_decide_eq_true reached, fun level reaches => ?_⟩
    rw [split, List.pairwise_append, List.pairwise_cons] at descending
    have listed : level ∈ above ++ greatest :: below :=
      split ▸ List.mem_reverse.mpr (mem_all level)
    rw [List.mem_append, List.mem_cons] at listed
    rcases listed with inside | rfl | inside
    · have missed := notReached level inside
      rw [decide_eq_true reaches] at missed
      cases missed
    · exact Nat.le_refl _
    · exact descending.2.1.1 level inside

/-- A number reaches a level exactly if it is displayed as that level or a more
important one. -/
theorem severity_le_iff {level : Level} {number : Int} (started : 1 ≤ number) :
    level.severity ≤ number ↔ level ≤ ofSeverity number := by
  rcases ofSeverity_greatest started with ⟨reached, greatest⟩
  constructor
  · exact greatest level
  · intro least
    exact Int.le_trans (severity_le_severity_iff.mpr least) reached

end Level

namespace Span

/-- The level that is displayed for a span, if its level is a number. -/
def shownLevel? (span : Span) : Option Level :=
  span.severity.toOption.map Level.ofSeverity

/-- Lines name the displayed level. -/
theorem lookup_level_of_fields {span : Span} {escaped : Bool} {names : Template.Names}
    (shown : span.fields escaped = .ok names) :
    names.lookup "level" = span.shownLevel?.map fun shown => .text shown.name := by
  unfold fields at shown
  cases start : span.moment with
  | error failure => simp [start, bind, Except.bind] at shown
  | ok moment =>
    cases number : span.severity with
    | error failure => simp [start, number, bind, Except.bind] at shown
    | ok n =>
      cases message : span.shownMessage escaped with
      | error failure => simp [start, number, message, bind, Except.bind] at shown
      | ok value =>
        simp only [start, number, message, bind, Except.bind, pure, Except.pure] at shown
        cases shown
        rw [shownLevel?, number]
        rfl

end Span

namespace LevelFilter

variable {level : String} {batches : List (List Span)}

theorem toList_passOn (level : String) (batch : List Span) :
    (passOn level batch).toList.flatten = wanted level batch := by
  rw [passOn]
  cases wanted level batch with
  | nil => rfl
  | cons => simp

/-- How spans are put into batches makes no difference to what is passed on. -/
theorem flatten_passAll (level : String) (batches : List (List Span)) :
    (passAll level batches).flatten = wanted level batches.flatten := by
  induction batches with
  | nil => rfl
  | cons batch rest ih =>
    rw [passAll, List.filterMap_cons, List.flatten_cons, wanted, List.filter_append, ← wanted,
      ← wanted, ← ih, ← toList_passOn]
    cases passOn level batch with
    | none => rfl
    | some spans => simp [passAll]

/-- Of several batches the exporter behind takes those that are passed on. -/
theorem forM_take_above {m : Type → Type} [Monad m] [LawfulMonad m] (level : String)
    (inner : Exporter m) (batches : List (List Span)) :
    (forM batches fun batch => discard ((inner.above level).take batch)) =
      forM (passAll level batches) fun batch => discard (inner.take batch) := by
  induction batches with
  | nil => rfl
  | cons batch rest ih =>
    have passes :
        passAll level (batch :: rest) = (passOn level batch).toList ++ passAll level rest := by
      rw [passAll, List.filterMap_cons]
      cases passOn level batch <;> rfl
    rw [List.forM_cons, ih, passes]
    cases passed : passOn level batch with
    | none => simp [Exporter.above, passed, discard, LawfulFunctor.map_const]
    | some spans => simp [Exporter.above, passed]

theorem ne_nil_of_passOn {batch spans : List Span} (passes : passOn level batch = some spans) :
    spans ≠ [] := by
  rw [passOn] at passes
  cases found : wanted level batch with
  | nil =>
    rw [found] at passes
    cases passes
  | cons first others =>
    rw [found] at passes
    cases passes
    exact List.cons_ne_nil first others

theorem reaches_eq {span : Span} {n : Int} (number : span.severity = .ok n) (started : 1 ≤ n)
    (least : Level) :
    reaches least.severity span = span.shownLevel?.any fun shown => decide (least ≤ shown) := by
  rw [reaches, Span.shownLevel?, number]
  exact decide_eq_decide.mpr (Level.severity_le_iff started)

/-- Of spans whose numbers do not lie below the first level, those are passed on, in
order, that are displayed at the least level or above, however they come in
batches.  No batch that is passed on is empty. -/
theorem passAll_displayed
    (numbered : ∀ batch ∈ batches, ∀ span ∈ batch, ∃ n, span.severity = .ok n ∧ 1 ≤ n) :
    (passAll level batches).flatten = batches.flatten.filter (fun span =>
        span.shownLevel?.any fun shown => decide (Level.ofName level ≤ shown)) ∧
      (∀ batch ∈ passAll level batches, batch ≠ []) ∧
      ∀ (span : Span) escaped names, span.fields escaped = .ok names →
        names.lookup "level" = span.shownLevel?.map fun shown => .text shown.name := by
  refine ⟨?_, ?_, fun span escaped names shown => Span.lookup_level_of_fields shown⟩
  · rw [flatten_passAll, wanted]
    apply List.filter_congr
    intro span inside
    rcases List.mem_flatten.mp inside with ⟨batch, listed, member⟩
    rcases numbered batch listed span member with ⟨n, number, started⟩
    exact reaches_eq number started _
  · intro batch passed
    rcases List.mem_filterMap.mp passed with ⟨whole, -, passes⟩
    exact ne_nil_of_passOn passes

/-- Numbers between two levels, beyond the last one, at a start and right below it,
with a span that has none. -/
theorem passAll_displayed_between :
    let span (name : String) (n : Int) : Span :=
      { name, attributes := [(Span.levelAttribute, .int n)] }
    let batches := [[span "between" 8, span "beyond" 1000], [span "below" 12], [],
      [span "start" 13, { name := "absent" }]]
    (passAll "WARN" batches).flatten = batches.flatten.filter (fun span =>
        span.shownLevel?.any fun shown => decide (Level.ofName "WARN" ≤ shown)) ∧
      (passAll "WARN" batches).map (·.map Span.name) = [["beyond"], ["start"]] := by
  intro span batches
  have numbered : ∀ batch ∈ batches, ∀ span ∈ batch, ∃ n, span.severity = .ok n ∧ 1 ≤ n := by
    have number (name : String) (n : Int) (started : 1 ≤ n) :
        ∃ m, (span name n).severity = .ok m ∧ 1 ≤ m := ⟨n, rfl, started⟩
    have absent : ∃ n, ({ name := "absent" } : Span).severity = .ok n ∧ 1 ≤ n :=
      ⟨9, rfl, by decide⟩
    refine List.forall_mem_cons.mpr ⟨?_, List.forall_mem_cons.mpr ⟨?_, List.forall_mem_cons.mpr
      ⟨List.forall_mem_nil _, List.forall_mem_singleton.mpr ?_⟩⟩⟩
    · exact List.forall_mem_cons.mpr ⟨number _ 8 (by decide),
        List.forall_mem_singleton.mpr (number _ 1000 (by decide))⟩
    · exact List.forall_mem_singleton.mpr (number _ 12 (by decide))
    · exact List.forall_mem_cons.mpr ⟨number _ 13 (by decide),
        List.forall_mem_singleton.mpr absent⟩
  exact ⟨(passAll_displayed numbered).1, by decide +kernel⟩

end LevelFilter

end Ratchet
