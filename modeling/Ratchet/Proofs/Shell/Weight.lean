import Mathlib.Algebra.GroupWithZero.Nat
import Ratchet.Proofs.Shell.Reading

namespace Ratchet

namespace Shell

/-!
# What reading gains and loses

Give every glyph a weight.  What a text weighs when it has been read is what its
characters gain, one by one, no matter where the tokens end.  A character that is
not a backslash gains at most itself, so a character that is lost on the way, as
the end of a word, an operator, a quote or the beginning of an expansion, is
missing in the end.  Backslashes are different: one may come out between quotes
where it only protected something, but then the quotes are lost.
-/

/-- What the words among some tokens weigh. -/
def weigh (weight : Glyph → Nat) (tokens : List Token) : Nat :=
  (tokens.map fun token => (((token.word?.getD []).map weight).sum)).sum

section Weigh

variable (weight : Glyph → Nat)

@[simp] theorem weigh_nil : weigh weight [] = 0 := rfl

@[simp] theorem weigh_append (first second : List Token) :
    weigh weight (first ++ second) = weigh weight first + weigh weight second := by
  rw [weigh, List.map_append, List.sum_append]
  rfl

@[simp] theorem weigh_word (glyphs : List Glyph) :
    weigh weight [.word glyphs] = (glyphs.map weight).sum := by
  simp [weigh, Token.word?]

@[simp] theorem weigh_operator (symbol : String) : weigh weight [.operator symbol] = 0 := rfl

@[simp] theorem weigh_comment (text : List Char) : weigh weight [.comment text] = 0 := rfl

/-- The glyphs that a character adds to a word. -/
def Act.glyphs : Act → List Glyph
  | .put glyphs => glyphs
  | .nothing | .stop | .symbol _ | .remark _ => []

/-- What a character does to the pending token changes the weight by its
glyphs. -/
theorem weigh_perform (pending : Pending) (act : Act) :
    weigh weight (pending.perform act).1 + weigh weight (pending.perform act).2.tokens =
      weigh weight pending.tokens + (act.glyphs.map weight).sum := by
  cases act with
  | nothing | stop => cases pending <;> simp [Pending.perform, Pending.tokens, Act.glyphs]
  | put glyphs =>
    cases pending <;>
      simp [Pending.perform, Pending.tokens, Pending.before, Pending.glyphs, Act.glyphs]
  | symbol c =>
    cases pending with
    | operator symbol =>
      unfold Pending.perform
      dsimp only
      split <;> simp [Pending.tokens, Act.glyphs]
    | nothing | word | comment => simp [Pending.perform, Pending.tokens, Act.glyphs]
  | remark c => cases pending <;> simp [Pending.perform, Pending.tokens, Act.glyphs]

/-- What has been read weighs, up to a place and with the pending token. -/
def weighRead (result : List Token × Reader) : Nat :=
  weigh weight result.1 + weigh weight result.2.pending.tokens

variable (rules : Rules)

theorem weighRead_step (reader : Reader) (c : Char) :
    weighRead weight (rules.step reader c) =
      weigh weight reader.pending.tokens + ((rules.act reader c).1.glyphs.map weight).sum :=
  weigh_perform weight reader.pending (rules.act reader c).1

theorem weighRead_cons (reader : Reader) (c : Char) (cs : List Char) :
    weighRead weight (rules.read reader (c :: cs)) =
      weigh weight (rules.step reader c).1 +
        weighRead weight (rules.read (rules.step reader c).2 cs) := by
  rw [weighRead, Rules.read_cons, weigh_append, Nat.add_assoc]
  rfl

end Weigh

/-! ## A character that is lost -/

/-- The weight that counts how often a character stands for itself. -/
def countOf (c : Char) (glyph : Glyph) : Nat :=
  if glyph = .plain c then 1 else 0

theorem sum_countOf (c : Char) (cs : List Char) :
    ((plainly cs).map (countOf c)).sum = cs.count c := by
  induction cs with
  | nil => rfl
  | cons first rest ih =>
    rw [plainly_cons, List.map_cons, List.sum_cons, ih, List.count_cons, Nat.add_comm]
    simp [countOf]

section Count

variable (rules : Rules) (reader : Reader)

/-- A character adds nothing, or itself in one way or the other, or itself after
the backslash before it. -/
theorem glyphs_act (c : Char) :
    (rules.act reader c).1.glyphs ∈
      [[], [.plain c], [.active c], [.plain '\\', .plain c]] := by
  unfold Rules.act Rules.escaped Rules.bare Rules.quoted
  grind [Act.glyphs]

variable {q : Char} (noBackslash : q ≠ '\\')

include noBackslash

theorem sum_countOf_act_le (c : Char) :
    ((rules.act reader c).1.glyphs.map (countOf q)).sum ≤ if c = q then 1 else 0 := by
  have adds := glyphs_act rules reader c
  simp only [List.mem_cons, List.not_mem_nil, or_false] at adds
  rcases adds with adds | adds | adds | adds <;> rw [adds] <;>
    simp [countOf, noBackslash.symm]

/-- A character other than a backslash does not get more. -/
theorem weighRead_countOf_le (cs : List Char) :
    weighRead (countOf q) (rules.read reader cs) ≤
      weigh (countOf q) reader.pending.tokens + cs.count q := by
  induction cs generalizing reader with
  | nil => simp [weighRead]
  | cons c rest ih =>
    have here := weighRead_step (countOf q) rules reader c
    have later := ih (rules.step reader c).2
    have gain := sum_countOf_act_le rules reader noBackslash c
    rw [weighRead_cons, List.count_cons]
    simp only [beq_iff_eq]
    unfold weighRead at here
    omega

/-- A character that is not taken for itself is missing in the end. -/
theorem weighRead_countOf_lt (lost : ((rules.act reader q).1.glyphs.map (countOf q)).sum = 0)
    (cs : List Char) :
    weighRead (countOf q) (rules.read reader (q :: cs)) <
      weigh (countOf q) reader.pending.tokens + (q :: cs).count q := by
  have here := weighRead_step (countOf q) rules reader q
  have later := weighRead_countOf_le rules (rules.step reader q).2 noBackslash cs
  rw [weighRead_cons, List.count_cons_self]
  unfold weighRead at here
  omega

end Count

/-! ## A backslash that is lost -/

/-- What stands for itself after a backslash, weighed by the backslashes that
this takes outside of quotes. -/
def backslashes (glyph : Glyph) : Nat :=
  if glyph = .plain '\\' then 2 else if glyph = .plain ' ' then 1 else 0

@[simp] theorem backslashes_active (c : Char) : backslashes (.active c) = 0 := rfl

theorem backslashes_plain_le (c : Char) :
    backslashes (.plain c) ≤ 1 + if c = '\\' then 1 else 0 := by
  by_cases backslash : c = '\\'
  · simp [backslashes, backslash]
  · by_cases blank : c = ' ' <;> simp [backslashes, backslash, blank]

theorem sum_backslashes (cs : List Char) :
    ((plainly cs).map backslashes).sum = 2 * cs.count '\\' + cs.count ' ' := by
  induction cs with
  | nil => rfl
  | cons c rest ih =>
    rw [plainly_cons, List.map_cons, List.sum_cons, ih, List.count_cons, List.count_cons]
    by_cases backslash : c = '\\'
    · subst backslash
      simp [backslashes]
      omega
    by_cases blank : c = ' '
    · subst blank
      simp [backslashes]
      omega
    · simp [backslashes, backslash, blank]

/-- The backslash that waits for its character. -/
def Mode.owed (mode : Mode) : Nat :=
  if mode.last = .backslash then 1 else 0

section Backslash

variable (rules : Rules)

theorem eq_of_kind_escape {c : Char} (escapes : rules.kind c = .escape) : c = '\\' := by
  have only : ∀ mark ∈ rules.marks, mark.2 = .escape → mark.1 = '\\' := by
    cases rules <;> decide +kernel
  exact Rules.of_kind (P := (· = '\\')) (by decide) only escapes

theorem mem_of_kind_quote {c : Char} {q : Quote} (quotes : rules.kind c = .quote q) :
    c ∈ ['\'', '"'] := by
  have only : ∀ mark ∈ rules.marks, mark.2 = .quote q → mark.1 ∈ ['\'', '"'] := by
    cases rules <;> cases q <;> decide +kernel
  have marked : Kind.quote q ≠ .letter := by
    cases q <;> decide
  exact Rules.of_kind (P := (· ∈ ['\'', '"'])) marked only quotes

theorem ne_of_mem_quotes {q : Char} (quotes : q ∈ ['\'', '"']) : q ≠ '\\' ∧ q ≠ ' ' := by
  constructor
  all_goals
    rintro rfl
    exact absurd quotes (by decide)

/-- What may stand for itself outside of quotes is no backslash and no blank. -/
theorem backslashes_of_kind {c : Char} (stands : rules.kind c ∈ [.letter, .hash, .tilde]) :
    backslashes (.plain c) = 0 := by
  have noBackslash : c ≠ '\\' := by
    rintro rfl
    cases rules <;> exact absurd stands (by decide)
  have noBlank : c ≠ ' ' := by
    rintro rfl
    cases rules <;> exact absurd stands (by decide)
  simp [backslashes, noBackslash, noBlank]

/-- Outside of quotes a character takes the backslash that it needs from those
before it, or it begins quotes and is lost. -/
theorem backslashes_bare (pending : Pending) (c : Char) :
    ((rules.bare pending c).2.quote = none ∧
      ((rules.bare pending c).1.glyphs.map backslashes).sum + (rules.bare pending c).2.owed ≤
        if c = '\\' then 1 else 0) ∨
    (c ∈ ['\'', '"'] ∧ ((rules.bare pending c).1.glyphs.map (countOf c)).sum = 0) := by
  unfold Rules.bare
  split
  · left
    split <;> exact ⟨rfl, Nat.zero_le _⟩
  split
  · next letter =>
    left
    have weightless := backslashes_of_kind rules (c := c) (by rw [letter]; decide)
    simp [Act.glyphs, Mode.owed, weightless]
  · exact .inl ⟨rfl, Nat.zero_le _⟩
  · next escapes =>
    left
    rw [if_pos (eq_of_kind_escape rules escapes)]
    exact ⟨rfl, Nat.le_refl _⟩
  · next quotes => exact .inr ⟨mem_of_kind_quote rules quotes, rfl⟩
  · exact .inl ⟨rfl, Nat.zero_le _⟩
  · exact .inl ⟨rfl, Nat.zero_le _⟩
  · exact .inl ⟨rfl, Nat.zero_le _⟩
  · exact .inl ⟨rfl, Nat.zero_le _⟩
  · next hash =>
    left
    have weightless := backslashes_of_kind rules (c := c) (by rw [hash]; decide)
    split <;> simp [Act.glyphs, Mode.owed, weightless]
  · next tilde =>
    left
    have weightless := backslashes_of_kind rules (c := c) (by rw [tilde]; decide)
    split <;> simp [Act.glyphs, Mode.owed, weightless]

theorem backslash_of_advance {top : Enclosure} {outer : List Enclosure} {last : Last} {c : Char}
    (waits : (top.advance outer last c).2 = .backslash) : c = '\\' := by
  unfold Enclosure.advance at waits
  grind

variable (reader : Reader) (unquoted : reader.mode.quote = none)

include unquoted

theorem backslashes_act (c : Char) :
    ((rules.act reader c).2.quote = none ∧
      ((rules.act reader c).1.glyphs.map backslashes).sum + (rules.act reader c).2.owed ≤
        reader.mode.owed + if c = '\\' then 1 else 0) ∨
    (c ∈ ['\'', '"'] ∧ ((rules.act reader c).1.glyphs.map (countOf c)).sum = 0) := by
  obtain ⟨pending, quote, expansion, last⟩ := reader
  simp only at unquoted
  subst unquoted
  cases expansion with
  | cons top outer =>
    left
    refine ⟨rfl, ?_⟩
    by_cases waits : (top.advance outer last c).2 = .backslash
    · have backslash := backslash_of_advance waits
      simp only [Rules.act, Act.glyphs, Mode.owed, waits, if_pos backslash]
      exact Nat.le_add_left _ _
    · simp [Rules.act, Act.glyphs, Mode.owed, waits]
  | nil =>
    by_cases protects : last = .backslash
    · left
      subst protects
      unfold Rules.act Rules.escaped
      by_cases newline : c = '\n'
      · simp [newline, Act.glyphs, Mode.owed]
      · have gain := backslashes_plain_le c
        simpa [newline, Act.glyphs, Mode.owed] using gain
    · unfold Rules.act
      simp only [if_neg protects]
      split
      · exact .inl ⟨rfl, Nat.zero_le _⟩
      split
      · exact .inl ⟨rfl, Nat.zero_le _⟩
      · rcases backslashes_bare rules pending c with ⟨same, gain⟩ | lost
        · exact .inl ⟨same, Nat.le_trans gain (Nat.le_add_left _ _)⟩
        · exact .inr lost

/-- Outside of quotes a text takes no more backslashes than it has, unless it
begins quotes, and then they are lost. -/
theorem weighRead_backslashes_le (cs : List Char) :
    weighRead backslashes (rules.read reader cs) + (rules.read reader cs).2.mode.owed ≤
      weigh backslashes reader.pending.tokens + reader.mode.owed + cs.count '\\' ∨
    ∃ q ∈ ['\'', '"'], weighRead (countOf q) (rules.read reader cs) <
      weigh (countOf q) reader.pending.tokens + cs.count q := by
  induction cs generalizing reader with
  | nil =>
    left
    simp [weighRead]
  | cons c rest ih =>
    rcases backslashes_act rules reader unquoted c with ⟨stays, gain⟩ | ⟨quotes, lost⟩
    · -- the first character is like any other outside of quotes
      rcases ih (rules.step reader c).2 stays with later | ⟨q, listed, later⟩
      · left
        have here := weighRead_step backslashes rules reader c
        have owes : (rules.step reader c).2.mode.owed = (rules.act reader c).2.owed := rfl
        rw [weighRead_cons, List.count_cons]
        simp only [beq_iff_eq, Rules.read_cons]
        unfold weighRead at here
        omega
      · right
        refine ⟨q, listed, ?_⟩
        have here := weighRead_step (countOf q) rules reader c
        have most := sum_countOf_act_le rules reader (ne_of_mem_quotes listed).1 c
        rw [weighRead_cons, List.count_cons]
        simp only [beq_iff_eq]
        unfold weighRead at here
        omega
    · right
      exact ⟨c, quotes, weighRead_countOf_lt rules reader (ne_of_mem_quotes quotes).1 lost rest⟩

end Backslash

end Shell

end Ratchet
