import Ratchet.Proofs.Compiler.Match
import Ratchet.Proofs.Compiler.Name

namespace Ratchet

/-!
# Normal forms of names

Names are compared by their normal forms, and a normal form is reached by three
rewrites that are made once each and in a fixed order: blanks are taken off both
ends, backslashes become slashes, and the leading `./` are dropped.  Neither of
the last two leaves anything to do for itself or for one that comes before it,
with one exception.  What stands behind a leading `./` may be a blank, and when
the `./` is gone, it is too late to take the blank off.

So the result is a normal form of its own unless it begins with a blank.  For the
same reason a leading `./` makes no difference to a name exactly if the name does
not begin with a blank, or has nothing but blanks, which go from the other end.
-/

namespace FileName

/-! ## What the rewrites leave -/

theorem isBlank_slash (c : Char) : Blank.isBlank (slash c) = Blank.isBlank c := by
  unfold slash
  split
  · next same =>
    rw [same]
    decide
  · rfl

theorem endsVisible_normal (cs : List Char) : Blank.EndsVisible (normal cs) := by
  apply Blank.EndsVisible.of_suffix _ (dropDots_suffix _)
  intro c member
  rw [List.getLast?_map] at member
  rcases Option.map_eq_some_iff.mp member with ⟨last, ends, rfl⟩
  rw [isBlank_slash]
  exact Blank.endsVisible_dropTrailing _ last ends

theorem backslash_notMem_normal (cs : List Char) : '\\' ∉ normal cs := by
  intro member
  rcases List.mem_map.mp ((dropDots_suffix _).mem member) with ⟨c, _, turned⟩
  unfold slash at turned
  split at turned
  · exact absurd turned (by decide)
  · contradiction

theorem dropDots_dropDots (cs : List Char) : dropDots (dropDots cs) = dropDots cs := by
  fun_induction dropDots cs with
  | case1 rest ih => exact ih
  | case2 cs plain => exact dropDots.eq_2 cs plain

theorem length_normal_le (cs : List Char) : (normal cs).length ≤ (Blank.strip cs).length := by
  have shorter := (dropDots_suffix ((Blank.strip cs).map slash)).length_le
  rwa [List.length_map] at shorter

/-- A normal form is its own normal form unless it begins with a blank. -/
theorem normal_normal_iff {cs : List Char} :
    normal (normal cs) = normal cs ↔ Blank.StartsVisible (normal cs) := by
  constructor
  · intro same c begins
    cases blank : Blank.isBlank c with
    | false => rfl
    | true =>
      rcases List.head?_eq_some_iff.mp begins with ⟨rest, whole⟩
      have shorter : (normal (c :: rest)).length ≤ rest.length :=
        calc
          (normal (c :: rest)).length ≤ (Blank.strip (c :: rest)).length := length_normal_le _
          _ = (Blank.strip rest).length := by rw [Blank.strip_cons_of_blank blank]
          _ ≤ rest.length := (Blank.strip_infix rest).length_le
      rw [whole] at same
      rw [same] at shorter
      exact absurd shorter (Nat.not_succ_le_self _)
  · intro visible
    have stripped : Blank.strip (normal cs) = normal cs := by
      rw [Blank.strip_of_startsVisible visible,
        Blank.dropTrailing_of_endsVisible (endsVisible_normal cs)]
    rw [normal, stripped, map_slash_of_notMem (backslash_notMem_normal cs), normal,
      dropDots_dropDots]

/-! ## A leading dot -/

theorem dropDots_of_ne {c : Char} (other : c ≠ '.') (rest : List Char) :
    dropDots (c :: rest) = c :: rest :=
  dropDots.eq_2 (c :: rest) fun _ same => other (List.cons.inj same).1

/-- What is left of a name behind a leading `./`. -/
theorem normal_dot {separator : Char} (turns : slash separator = '/') (cs : List Char) :
    normal ('.' :: separator :: cs) = dropDots ((Blank.dropTrailing cs).map slash) := by
  have visible : Blank.isBlank separator = false := by
    rw [← isBlank_slash, turns]
    decide
  have dot : Blank.isBlank '.' = false := by decide
  have kept : Blank.dropTrailing ('.' :: separator :: cs) =
      '.' :: separator :: Blank.dropTrailing cs := by
    rw [Blank.dropTrailing_cons, Blank.dropTrailing_cons]
    simp [dot, visible]
  have same : slash '.' = '.' := rfl
  rw [normal, Blank.strip_of_startsVisible (Blank.startsVisible_cons dot _), kept, List.map_cons,
    List.map_cons, turns, same, dropDots]

/-- A blank behind the `./` is in the way of taking off anything else in front. -/
theorem length_normal_dot {separator c : Char} (turns : slash separator = '/')
    (blank : Blank.isBlank c = true) {rest : List Char} (written : Blank.allBlank rest = false) :
    (normal ('.' :: separator :: c :: rest)).length = (Blank.dropTrailing (c :: rest)).length := by
  have other : slash c ≠ '.' := by
    intro dot
    rw [← isBlank_slash, dot] at blank
    exact absurd blank (by decide)
  rw [normal_dot turns, Blank.dropTrailing_cons_of_written written, List.map_cons,
    dropDots_of_ne other, List.length_cons, List.length_map, List.length_cons]

/-- A leading `./` makes no difference exactly if no blank comes to stand in front
of the name. -/
theorem normal_dot_iff {separator : Char} (turns : slash separator = '/') {cs : List Char} :
    normal ('.' :: separator :: cs) = normal cs ↔
      Blank.allBlank cs = true ∨ Blank.StartsVisible cs := by
  constructor
  · intro same
    cases cs with
    | nil => exact Or.inl rfl
    | cons c rest =>
      cases blank : Blank.isBlank c with
      | false => exact Or.inr (Blank.startsVisible_cons blank rest)
      | true =>
        left
        rw [Blank.allBlank, List.all_cons, blank, Bool.true_and]
        by_contra written
        have lengths := length_normal_dot turns blank (Bool.eq_false_iff.mpr written)
        have shorter := Blank.length_strip_lt blank (Bool.eq_false_iff.mpr written)
        have atMost := length_normal_le (c :: rest)
        rw [same] at lengths
        omega
  · rintro (nothing | visible)
    · rw [normal_dot turns, normal, Blank.strip_eq_nil_iff.mpr nothing,
        Blank.dropTrailing_eq_nil_iff.mpr nothing]
    · rw [normal_dot turns, normal, Blank.strip_of_startsVisible visible]

end FileName

namespace Diagnostic

/-- The line is a header with this name in it: no shorter beginning of the line
may be the name. -/
def Names (line name : String) : Prop :=
  IsName name line ∧ ∀ other, IsName other line → name.length ≤ other.length

theorem file?_of_names {line name : String} (names : Names line name) :
    file? line = some (FileName.normalize name) := by
  rw [file?, header?_eq_some_iff.mpr names]
  rfl

end Diagnostic

namespace FileName

theorem normalize_lead_iff {lead : String} (member : lead ∈ ["./", ".\\"]) {path : String} :
    normalize (lead ++ path) = normalize path ↔
      Text.isBlank path = true ∨ Text.beginsBlank path = false := by
  have turned : ∃ separator, slash separator = '/' ∧ lead.toList = ['.', separator] := by
    rcases List.mem_pair.mp member with rfl | rfl
    · exact ⟨'/', rfl, rfl⟩
    · exact ⟨'\\', rfl, rfl⟩
  rcases turned with ⟨separator, turns, written⟩
  rw [normalize, normalize, String.ofList_inj, String.toList_append, written, List.cons_append,
    List.singleton_append, normal_dot_iff turns, Text.beginsBlank_eq_false_iff]
  rfl

/-- The normal form of a path is a normal form of its own exactly if it begins
with no blank.  A leading `./`, with either slash, makes no difference to the
normal form of a path exactly if the path begins with no blank or has nothing but
blanks, and these are the paths to which a header is attributed that names them
with the `./`. -/
theorem normalize_canonical_iff (path : String) :
    (normalize (normalize path) = normalize path ↔
      Text.beginsBlank (normalize path) = false) ∧
    ∀ lead ∈ ["./", ".\\"],
      (normalize (lead ++ path) = normalize path ↔
        Text.isBlank path = true ∨ Text.beginsBlank path = false) ∧
      ∀ line, Diagnostic.Names line (lead ++ path) →
        (MatchMode.exact.accepts path line = true ↔
          Text.isBlank path = true ∨ Text.beginsBlank path = false) := by
  constructor
  · rw [Text.beginsBlank_eq_false_iff, normalize, normalize, String.ofList_inj,
      String.toList_ofList]
    exact normal_normal_iff
  · intro lead member
    refine ⟨normalize_lead_iff member, ?_⟩
    intro line names
    rw [MatchMode.accepts_exact_iff, Diagnostic.file?_of_names names, Option.some.injEq]
    exact normalize_lead_iff member

/-- The path ends in a blank and has one in it. -/
theorem normalize_canonical_iff_sample :
    let path := "src\\my file.ts "
    let line := ".\\src\\my file.ts :3:5 - error TS2322: Type"
    Diagnostic.Names line (".\\" ++ path) ∧
      normalize (normalize path) = normalize path ∧
      normalize (".\\" ++ path) = normalize path ∧
      MatchMode.exact.accepts path line = true := by
  intro path line
  have names : Diagnostic.Names line (".\\" ++ path) :=
    Diagnostic.header?_eq_some_iff.mp (by decide +kernel)
  have visible : Text.beginsBlank path = false := by decide
  have whole : Text.beginsBlank (normalize path) = false := by decide +kernel
  rcases normalize_canonical_iff path with ⟨again, led⟩
  rcases led ".\\" (by decide) with ⟨same, about⟩
  exact ⟨names, again.mpr whole, same.mpr (Or.inr visible), (about line names).mpr (Or.inr visible)⟩

/-- The blank behind the `./` is taken off the second time only. -/
theorem normalize_uncovered :
    normalize "./ a.ts" = " a.ts" ∧ normalize (normalize "./ a.ts") = "a.ts" ∧
      normalize " a.ts" = "a.ts" ∧
      Diagnostic.Names "./ a.ts(1,2): error TS3: x" "./ a.ts" ∧
      MatchMode.exact.accepts " a.ts" "./ a.ts(1,2): error TS3: x" = false := by
  have names : Diagnostic.Names "./ a.ts(1,2): error TS3: x" "./ a.ts" :=
    Diagnostic.header?_eq_some_iff.mp (by decide +kernel)
  exact ⟨by decide +kernel, by decide +kernel, by decide +kernel, names, by decide +kernel⟩

end FileName

end Ratchet
