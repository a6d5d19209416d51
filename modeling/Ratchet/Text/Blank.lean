namespace Ratchet

/-!
# Blank characters

White space as the commands' output is trimmed by: the Unicode characters
with the white-space property together with the four information separators.
A zero-width space, a word joiner and a byte order mark are not blank, so a
name made of them is a name.

Trimming is stated on character lists, where nothing has to be said about
encodings; `Text.strip` carries it to strings.
-/

namespace Blank

/-- The blank characters, by code point. -/
def isBlank (c : Char) : Bool :=
  let n := c.toNat
  (9 ≤ n && n ≤ 13) || (28 ≤ n && n ≤ 32) || n == 0x85 || n == 0xA0 || n == 0x1680 ||
    (0x2000 ≤ n && n ≤ 0x200A) || n == 0x2028 || n == 0x2029 || n == 0x202F ||
    n == 0x205F || n == 0x3000

/-- The text after its leading blanks. -/
def dropLeading (cs : List Char) : List Char :=
  cs.dropWhile isBlank

/-- The text before its trailing blanks. -/
def dropTrailing : List Char → List Char
  | [] => []
  | c :: rest =>
    match dropTrailing rest with
    | [] => if isBlank c then [] else [c]
    | kept => c :: kept

/-- The text between its leading and trailing blanks. -/
def strip (cs : List Char) : List Char :=
  dropTrailing (dropLeading cs)

/-- Nothing but blanks. -/
def allBlank (cs : List Char) : Bool :=
  cs.all isBlank

theorem dropTrailing_eq_nil_iff {cs : List Char} :
    dropTrailing cs = [] ↔ allBlank cs = true := by
  induction cs with
  | nil => simp [dropTrailing, allBlank]
  | cons c rest ih =>
    simp only [allBlank, List.all_cons, Bool.and_eq_true] at ih ⊢
    cases kept : dropTrailing rest with
    | nil =>
      have restBlank := ih.mp kept
      by_cases blank : isBlank c = true <;> simp [dropTrailing, kept, blank, restBlank]
    | cons k ks =>
      have restNotBlank : ¬ rest.all isBlank = true := fun all => by
        simp [ih.mpr all] at kept
      simp [dropTrailing, kept, restNotBlank]

theorem dropLeading_eq_nil_iff {cs : List Char} :
    dropLeading cs = [] ↔ allBlank cs = true := by
  induction cs with
  | nil => simp [dropLeading, allBlank]
  | cons c rest ih =>
    by_cases blank : isBlank c = true <;> simp_all [dropLeading, allBlank, List.dropWhile]

theorem dropTrailing_idem (cs : List Char) :
    dropTrailing (dropTrailing cs) = dropTrailing cs := by
  induction cs with
  | nil => rfl
  | cons c rest ih =>
    cases kept : dropTrailing rest with
    | nil => by_cases blank : isBlank c = true <;> simp [dropTrailing, kept, blank]
    | cons k ks =>
      rw [kept] at ih
      simp only [dropTrailing, kept] at ih ⊢
      rw [ih]

/-- What is left of a text after its trailing blanks begins as the text
does. -/
theorem head?_dropTrailing {cs : List Char} (kept : dropTrailing cs ≠ []) :
    (dropTrailing cs).head? = cs.head? := by
  cases cs with
  | nil => simp [dropTrailing] at kept
  | cons c rest =>
    simp only [dropTrailing] at kept ⊢
    split
    · rename_i none
      simp only [none] at kept
      split <;> simp_all
    · simp

theorem dropLeading_of_head? {cs : List Char} {c : Char} (starts : cs.head? = some c)
    (visible : isBlank c = false) : dropLeading cs = cs := by
  cases cs with
  | nil => simp at starts
  | cons d rest =>
    simp only [List.head?_cons, Option.some.injEq] at starts
    subst starts
    simp [dropLeading, List.dropWhile, visible]

theorem head?_dropLeading {cs : List Char} {c : Char} (starts : (dropLeading cs).head? = some c) :
    isBlank c = false := by
  induction cs with
  | nil => simp [dropLeading] at starts
  | cons d rest ih =>
    by_cases blank : isBlank d = true
    · simp only [dropLeading, List.dropWhile, blank] at starts ih
      exact ih starts
    · simp only [dropLeading, List.dropWhile, blank, List.head?_cons, Option.some.injEq] at starts
      subst starts
      simpa using blank

/-- A stripped text has nothing left to strip. -/
theorem strip_idem (cs : List Char) : strip (strip cs) = strip cs := by
  unfold strip
  by_cases kept : dropTrailing (dropLeading cs) = []
  · rw [kept]
    rfl
  · obtain ⟨c, starts⟩ : ∃ c, (dropTrailing (dropLeading cs)).head? = some c := by
      cases found : dropTrailing (dropLeading cs) with
      | nil => exact absurd found kept
      | cons c rest => exact ⟨c, rfl⟩
    have visible := head?_dropLeading (head?_dropTrailing kept ▸ starts)
    rw [dropLeading_of_head? starts visible, dropTrailing_idem]

/-- Stripping leaves nothing of a text exactly when it is blank. -/
theorem strip_eq_nil_iff {cs : List Char} : strip cs = [] ↔ allBlank cs = true := by
  unfold strip
  rw [dropTrailing_eq_nil_iff]
  constructor
  · intro blank
    by_cases kept : dropLeading cs = []
    · exact dropLeading_eq_nil_iff.mp kept
    · obtain ⟨c, starts⟩ : ∃ c, (dropLeading cs).head? = some c := by
        cases found : dropLeading cs with
        | nil => exact absurd found kept
        | cons c rest => exact ⟨c, rfl⟩
      have visible := head?_dropLeading starts
      have : isBlank c = true := by
        simp only [allBlank, List.all_eq_true] at blank
        exact blank c (List.mem_of_mem_head? (by simp [starts]))
      simp [visible] at this
  · intro blank
    rw [dropLeading_eq_nil_iff.mpr blank]
    rfl

end Blank

namespace Text

/-- Leading and trailing blanks removed. -/
def strip (s : String) : String :=
  String.ofList (Blank.strip s.toList)

/-- Trailing blanks removed. -/
def stripEnd (s : String) : String :=
  String.ofList (Blank.dropTrailing s.toList)

/-- True of the empty text and of blanks alone. -/
def isBlank (s : String) : Bool :=
  Blank.allBlank s.toList

@[simp] theorem strip_strip (s : String) : strip (strip s) = strip s := by
  simp [strip, Blank.strip_idem]

theorem strip_eq_empty_iff {s : String} : strip s = "" ↔ isBlank s = true := by
  rw [isBlank, ← Blank.strip_eq_nil_iff, strip]
  constructor
  · intro h
    simpa using congrArg String.toList h
  · intro h
    rw [h]

end Text

end Ratchet
