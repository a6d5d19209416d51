import Ratchet.Text.Blank

namespace Ratchet

namespace Blank

/-!
# Blanks at the ends of a text

Blanks are taken off both ends of a text, and what is left is a part of the
text that neither begins nor ends with a blank.  Taking them off one end only
keeps the other end as it is.  So a text is shorter when it is stripped than
when blanks are taken off its end alone, if it begins with a blank and is not
made of blanks only.
-/

/-- The text begins with no blank. -/
def StartsVisible (cs : List Char) : Prop :=
  ∀ c ∈ cs.head?, isBlank c = false

/-- The text ends in no blank. -/
def EndsVisible (cs : List Char) : Prop :=
  ∀ c ∈ cs.getLast?, isBlank c = false

theorem startsVisible_cons {c : Char} (visible : isBlank c = false) (rest : List Char) :
    StartsVisible (c :: rest) := by
  intro first member
  cases member
  exact visible

theorem endsVisible_nil : EndsVisible [] := by
  intro c member
  cases member

theorem EndsVisible.cons {c : Char} {rest : List Char} (visible : EndsVisible rest)
    (alone : rest = [] → isBlank c = false) : EndsVisible (c :: rest) := by
  intro last member
  cases rest with
  | nil =>
    cases member
    exact alone rfl
  | cons d others =>
    rw [List.getLast?_cons_cons] at member
    exact visible last member

theorem EndsVisible.of_suffix {cs rest : List Char} (visible : EndsVisible cs)
    (ends : rest <:+ cs) : EndsVisible rest := by
  rcases ends with ⟨before, rfl⟩
  intro c member
  apply visible
  rw [List.getLast?_append, Option.mem_def.mp member]
  rfl

/-! ## One end -/

theorem dropTrailing_cons (c : Char) (rest : List Char) :
    dropTrailing (c :: rest) =
      if dropTrailing rest = [] ∧ isBlank c = true then [] else c :: dropTrailing rest := by
  rw [dropTrailing]
  cases dropTrailing rest with
  | nil => simp
  | cons d others => simp

theorem dropTrailing_cons_of_written {rest : List Char} (written : allBlank rest = false)
    (c : Char) : dropTrailing (c :: rest) = c :: dropTrailing rest := by
  have kept : dropTrailing rest ≠ [] := by
    intro nothing
    rw [dropTrailing_eq_nil_iff.mp nothing] at written
    cases written
  rw [dropTrailing_cons, if_neg fun nothing => kept nothing.1]

theorem dropTrailing_prefix (cs : List Char) : dropTrailing cs <+: cs := by
  induction cs with
  | nil => exact List.prefix_rfl
  | cons c rest ih =>
    rw [dropTrailing_cons]
    split
    · exact List.nil_prefix
    · exact List.cons_prefix_cons.mpr ⟨rfl, ih⟩

theorem dropTrailing_suffix_cons (c : Char) (rest : List Char) :
    dropTrailing rest <:+ dropTrailing (c :: rest) := by
  rw [dropTrailing_cons]
  split
  · next nothing => exact List.suffix_nil.mpr nothing.1
  · exact List.suffix_cons c _

theorem endsVisible_dropTrailing (cs : List Char) : EndsVisible (dropTrailing cs) := by
  induction cs with
  | nil => exact endsVisible_nil
  | cons c rest ih =>
    rw [dropTrailing_cons]
    split
    · exact endsVisible_nil
    · next kept =>
      apply ih.cons
      intro nothing
      exact Bool.eq_false_iff.mpr fun blank => kept ⟨nothing, blank⟩

theorem dropTrailing_of_endsVisible {cs : List Char} (visible : EndsVisible cs) :
    dropTrailing cs = cs := by
  induction cs with
  | nil => rfl
  | cons c rest ih =>
    rw [dropTrailing_cons, ih (visible.of_suffix (List.suffix_cons c rest)), if_neg]
    rintro ⟨rfl, blank⟩
    rw [visible c rfl] at blank
    cases blank

/-! ## Both ends -/

theorem strip_infix (cs : List Char) : strip cs <:+: cs := by
  have ends : dropLeading cs <:+ cs := List.dropWhile_suffix isBlank
  have begins : strip cs <+: dropLeading cs := dropTrailing_prefix (dropLeading cs)
  exact begins.isInfix.trans ends.isInfix

theorem strip_cons_of_blank {c : Char} (blank : isBlank c = true) (rest : List Char) :
    strip (c :: rest) = strip rest := by
  rw [strip, dropLeading, List.dropWhile_cons_of_pos blank]
  rfl

theorem strip_of_startsVisible {cs : List Char} (visible : StartsVisible cs) :
    strip cs = dropTrailing cs := by
  cases cs with
  | nil => rfl
  | cons c rest => rw [strip, dropLeading_of_head? rfl (visible c rfl)]

theorem startsVisible_strip (cs : List Char) : StartsVisible (strip cs) := by
  intro c member
  have kept : dropTrailing (dropLeading cs) ≠ [] := by
    intro nothing
    rw [strip, nothing] at member
    cases member
  rw [strip, head?_dropTrailing kept] at member
  exact head?_dropLeading member

/-- The blanks in front are all that stripping takes off besides those at the
end. -/
theorem strip_suffix (cs : List Char) : strip cs <:+ dropTrailing cs := by
  induction cs with
  | nil => exact List.suffix_rfl
  | cons c rest ih =>
    cases blank : isBlank c with
    | true =>
      rw [strip_cons_of_blank blank]
      exact ih.trans (dropTrailing_suffix_cons c rest)
    | false =>
      have same := strip_of_startsVisible (startsVisible_cons blank rest)
      exact same ▸ List.suffix_rfl

/-- Where something is left behind blanks in front, stripping makes a text
shorter than taking blanks off its end. -/
theorem length_strip_lt {c : Char} {rest : List Char} (blank : isBlank c = true)
    (written : allBlank rest = false) :
    (strip (c :: rest)).length < (dropTrailing (c :: rest)).length := by
  rw [strip_cons_of_blank blank, dropTrailing_cons_of_written written, List.length_cons]
  exact Nat.lt_succ_of_le (strip_suffix rest).length_le

end Blank

namespace Text

/-- The text begins with a blank. -/
def beginsBlank (s : String) : Bool :=
  s.toList.head?.any Blank.isBlank

theorem beginsBlank_eq_false_iff {s : String} :
    beginsBlank s = false ↔ Blank.StartsVisible s.toList := by
  rw [beginsBlank, Blank.StartsVisible]
  cases s.toList.head? <;> simp

end Text

end Ratchet
