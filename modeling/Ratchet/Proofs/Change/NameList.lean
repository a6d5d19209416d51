import Ratchet.Change.NameList

namespace Ratchet

/-!
# Writing lists of names

Names are written with a character behind each of them, or with one between
neighbours, and the character is a NUL or a newline.  The reader is not told which
of the four it has before it.  It goes by the output alone, and takes a NUL for the
separator wherever there is one.

So names with newlines in them are not cut if a NUL is written with them, and the
names are given back each as it was written.  The empty text behind the last
separator is dropped as blank, and names that are blank themselves would be dropped
with it.  There is one list whose output has no separator in it although NUL is the
one agreed on, and that is a single name with nothing behind it: then newlines in
the name count as separators.
-/

namespace Cut

/-- No piece has the separator in it. -/
theorem notMem_of_mem_pieces {separator : Char} {cs piece : List Char}
    (member : piece ∈ pieces separator cs) : separator ∉ piece := by
  fun_induction pieces separator cs generalizing piece with
  | case1 =>
    rw [List.mem_singleton.mp member]
    exact List.not_mem_nil
  | case2 rest ih =>
    rcases List.mem_cons.mp member with rfl | later
    · exact List.not_mem_nil
    · exact ih later
  | case3 c rest other none =>
    exact absurd none (pieces_ne_nil separator rest)
  | case4 c rest other first pieces cut ih =>
    rw [cut] at ih
    rcases List.mem_cons.mp member with rfl | later
    · rw [List.mem_cons, not_or]
      exact ⟨Ne.symm other, ih List.mem_cons_self⟩
    · exact ih (List.mem_cons_of_mem first later)

end Cut

namespace NameList

/-- Names with a character behind each of them. -/
def terminated (separator : Char) (names : List String) : String :=
  String.ofList ((names.map String.toList).flatMap (· ++ [separator]))

/-- Names with a character between neighbours. -/
def joined (separator : Char) (names : List String) : String :=
  Text.join (String.singleton separator) names

theorem toList_joined_cons (separator : Char) (name : String) {others : List String}
    (more : others ≠ []) :
    (joined separator (name :: others)).toList =
      name.toList ++ separator :: (joined separator others).toList := by
  rw [joined, Text.toList_join_cons _ name more, String.toList_singleton]
  rfl

/-- A character behind each name stands between the names and the empty text behind
them. -/
theorem terminated_eq_joined (separator : Char) (names : List String) :
    terminated separator names = joined separator (names ++ [""]) := by
  apply String.toList_injective
  induction names with
  | nil => rfl
  | cons name others ih =>
    rw [List.cons_append, toList_joined_cons separator name (by simp), ← ih]
    simp [terminated]

theorem apart_append_empty {c : Char} {names : List String}
    (apart : ∀ name ∈ names, c ∉ name.toList) : ∀ name ∈ names ++ [""], c ∉ name.toList := by
  rw [List.forall_mem_append]
  exact ⟨apart, by simp⟩

/-! ## The separator of what was written -/

theorem separator_of_notMem {cs : List Char} (absent : '\x00' ∉ cs) : separator cs = '\n' :=
  if_neg absent

theorem separator_joined {names : List String} (several : 2 ≤ names.length) :
    separator (joined '\x00' names).toList = '\x00' := by
  apply if_pos
  cases names with
  | nil => simp at several
  | cons name others =>
    have more : others ≠ [] := by
      rintro rfl
      simp at several
    rw [toList_joined_cons '\x00' name more]
    simp

theorem notMem_joined {separator c : Char} (other : c ≠ separator) {names : List String}
    (absent : ∀ name ∈ names, c ∉ name.toList) : c ∉ (joined separator names).toList := by
  induction names with
  | nil => simp [joined, Text.join]
  | cons name others ih =>
    have first := absent name List.mem_cons_self
    by_cases alone : others = []
    · subst alone
      exact first
    · have behind := ih fun next member => absent next (List.mem_cons_of_mem name member)
      rw [toList_joined_cons separator name alone, List.mem_append, List.mem_cons]
      rintro (inside | same | later)
      · exact first inside
      · exact other same
      · exact behind later

/-! ## Reading what was written -/

theorem pieces_joined {separator : Char} {names : List String} (some : names ≠ [])
    (apart : ∀ name ∈ names, separator ∉ name.toList) :
    Text.pieces separator (joined separator names) = names := by
  have cut : Cut.pieces separator (joined separator names).toList = names.map String.toList := by
    induction names with
    | nil => exact absurd rfl some
    | cons name others ih =>
      have first := apart name List.mem_cons_self
      by_cases alone : others = []
      · subst alone
        exact Cut.pieces_of_not_mem separator first
      · have behind := ih alone fun other member => apart other (List.mem_cons_of_mem name member)
        rw [toList_joined_cons separator name alone, Cut.pieces_append_separator separator first,
          behind, List.map_cons]
  rw [Text.pieces, cut, List.map_map]
  simp

/-- Joined names are read as they are, but for blank ones, if the character between
them is taken for the separator. -/
theorem parse_joined {mark : Char} {names : List String} (some : names ≠ [])
    (apart : ∀ name ∈ names, mark ∉ name.toList)
    (taken : separator (joined mark names).toList = mark) :
    parse (joined mark names) = names.filter fun name => !Text.isBlank name := by
  rw [parse, taken, pieces_joined some apart]

section Visible

variable {names : List String} (visible : ∀ name ∈ names, Text.isBlank name = false)

include visible

theorem filter_visible : names.filter (fun name => !Text.isBlank name) = names := by
  rw [List.filter_eq_self]
  intro name member
  rw [visible name member]
  rfl

/-- The empty text behind the names is dropped. -/
theorem filter_append_empty :
    (names ++ [""]).filter (fun name => !Text.isBlank name) = names := by
  rw [List.filter_append, filter_visible visible]
  exact List.append_nil names

/-- Reading the names gives them back, each as it was written. -/
theorem parse_terminated (apart : ∀ name ∈ names, '\x00' ∉ name.toList) :
    parse (terminated '\x00' names) = names := by
  cases names with
  | nil => rfl
  | cons name rest =>
    have several : 2 ≤ (name :: rest ++ [""]).length := by simp
    rw [terminated_eq_joined, parse_joined (by simp) (apart_append_empty apart)
      (separator_joined several), filter_append_empty visible]

theorem parse_newlines (apart : ∀ name ∈ names, '\x00' ∉ name.toList)
    (unbroken : ∀ name ∈ names, '\n' ∉ name.toList) :
    parse (joined '\n' names) = names ∧ parse (terminated '\n' names) = names := by
  have other : '\x00' ≠ '\n' := by decide
  constructor
  · by_cases none : names = []
    · subst none
      rfl
    · rw [parse_joined none unbroken (separator_of_notMem (notMem_joined other apart)),
        filter_visible visible]
  · have behind := apart_append_empty apart
    rw [terminated_eq_joined, parse_joined (by simp) (apart_append_empty unbroken)
      (separator_of_notMem (notMem_joined other behind)), filter_append_empty visible]

end Visible

/-- A single name with nothing behind it is given back if it has no newline. -/
theorem parse_single_iff {name : String} (apart : '\x00' ∉ name.toList)
    (visible : Text.isBlank name = false) : parse name = [name] ↔ '\n' ∉ name.toList := by
  have cut : parse name =
      (Text.pieces '\n' name).filter fun name => !Text.isBlank name := by
    rw [parse, separator_of_notMem apart]
  constructor
  · intro same
    have listed : name ∈ parse name := by
      rw [same]
      exact List.mem_singleton_self name
    rw [cut] at listed
    rcases List.mem_map.mp (List.mem_filter.mp listed).1 with ⟨piece, member, rfl⟩
    rw [String.toList_ofList]
    exact Cut.notMem_of_mem_pieces member
  · intro absent
    have whole : Text.pieces '\n' name = [name] := by
      rw [Text.pieces, Cut.pieces_of_not_mem '\n' absent]
      simp
    rw [cut, whole]
    simp [visible]

/-- Names without a NUL that are not blank are given back by the reader, whichever
way they were written with NULs, and with newlines if they have none in them.  Only a
single name that no NUL is written with must have no newline either. -/
theorem parse_written {names : List String} (apart : ∀ name ∈ names, '\x00' ∉ name.toList)
    (visible : ∀ name ∈ names, Text.isBlank name = false) :
    parse (terminated '\x00' names) = names ∧
    (2 ≤ names.length → parse (joined '\x00' names) = names) ∧
    (∀ name, names = [name] → (parse (joined '\x00' names) = names ↔ '\n' ∉ name.toList)) ∧
    ((∀ name ∈ names, '\n' ∉ name.toList) →
      parse (joined '\n' names) = names ∧ parse (terminated '\n' names) = names) := by
  refine ⟨parse_terminated visible apart, fun several => ?_, ?_, parse_newlines visible apart⟩
  · have some : names ≠ [] := by
      rintro rfl
      simp at several
    rw [parse_joined some apart (separator_joined several), filter_visible visible]
  · rintro name rfl
    exact parse_single_iff (apart name (List.mem_singleton_self name))
      (visible name (List.mem_singleton_self name))

/-- The first two names have newlines and blanks at their ends; the others have
line boundaries of other kinds. -/
theorem parse_written_sample :
    parse " a\n.ts\x00\n\nb.ts \x00" = [" a\n.ts", "\n\nb.ts "] ∧
      parse " a\n.ts\x00\n\nb.ts " = [" a\n.ts", "\n\nb.ts "] ∧
      parse "\rc.ts\n\x85d.ts " = ["\rc.ts", "\x85d.ts "] ∧
      parse "\rc.ts\n\x85d.ts \n" = ["\rc.ts", "\x85d.ts "] := by
  have broken := @parse_written [" a\n.ts", "\n\nb.ts "] (by decide) (by decide)
  have unbroken := @parse_written ["\rc.ts", "\x85d.ts "] (by decide) (by decide)
  rcases unbroken.2.2.2 (by decide) with ⟨together, behind⟩
  exact ⟨broken.1, broken.2.1 (by decide), together, behind⟩

end NameList

end Ratchet
