import Ratchet.Proofs.Template.Filling
import Ratchet.Proofs.Text.Unbroken

namespace Ratchet

namespace Template

/-!
# Texts in a layout

A field may say on which side its text stands, what fills the rest, and how wide all
of it is.  Then the text is put in with copies of one character before or behind it.
It is not put in if the width is no machine integer, or if the filling is to go
between a sign and digits, which a text does not have.
-/

/-- The letter of an alignment. -/
def Align.letter : Align → Char
  | .left => '<'
  | .right => '>'
  | .center => '^'
  | .inside => '='

theorem Align.ofChar?_letter (align : Align) : ofChar? align.letter = some align := by
  cases align <;> rfl

/-- A side with or without a filling character, and the decimal digits of a width. -/
structure Layout where
  side : Option (Option Char × Align) := none
  width : List Char := []
  deriving DecidableEq

namespace Layout

def fill? (l : Layout) : Option Char := l.side.bind Prod.fst

def align? (l : Layout) : Option Align := l.side.map Prod.snd

/-- The layout as it is written in a field. -/
def written (l : Layout) : List Char :=
  l.fill?.toList ++ (l.align?.map Align.letter).toList ++ l.width

/-- The number that the width spells. -/
def size (l : Layout) : Nat := Nat.ofDigitChars 10 l.width 0

/-- True if a zero in front of the width asks for zeros as filling. -/
def isZeroPadded (l : Layout) : Bool := l.fill?.isNone && l.width.head? == some '0'

/-- The character that fills a text up. -/
def filling (l : Layout) : Char :=
  l.fill?.getD (if l.isZeroPadded then '0' else ' ')

/-- True if a text can be brought into a layout. -/
def Drawable (l : Layout) : Prop := l.size < 0x8000000000000000 ∧ l.align? ≠ some .inside

instance (l : Layout) : Decidable l.Drawable := inferInstanceAs (Decidable (_ ∧ _))

/-- A text in a layout. -/
def drawn (l : Layout) (cs : List Char) : List Char :=
  let missing := l.size - cs.length
  match l.align?.getD .left with
  | .left => cs ++ List.replicate missing l.filling
  | .right | .inside => List.replicate missing l.filling ++ cs
  | .center =>
    List.replicate (missing / 2) l.filling ++ cs ++
      List.replicate (missing - missing / 2) l.filling

variable {l : Layout} {cs : List Char}

theorem unbroken_drawn (letter : Lines.isBreak l.filling = false) (unbroken : Lines.Unbroken cs) :
    Lines.Unbroken (l.drawn cs) := by
  have filled (n : Nat) := Lines.unbroken_replicate n letter
  unfold drawn
  extract_lets missing
  split <;> simp [filled, unbroken]

end Layout

/-! ## Reading a layout -/

theorem digitValue?_of_isDigit {c : Char} (digit : c.isDigit = true) :
    digitValue? c = some (c.toNat - 48) := by
  have within : 48 ≤ c.toNat ∧ c.toNat ≤ 57 := Char.isDigit_iff_toNat.mp digit
  rw [digitValue?, Digit.ranges, List.find?_cons_of_pos (by simp [within])]
  rw [Option.map_some, Nat.mod_eq_of_lt (by omega)]

theorem le_ofDigitChars (cs : List Char) (n : Nat) : n ≤ Nat.ofDigitChars 10 cs n := by
  induction cs generalizing n with
  | nil => exact Nat.le_refl n
  | cons c cs ih =>
    rw [Nat.ofDigitChars_cons]
    exact Nat.le_trans (by omega) (ih _)

/-- Digits are read as the number that they spell, if that is a machine integer. -/
theorem digits_of_isDigit {ds : List Char} (digit : ∀ c ∈ ds, c.isDigit = true) {n : Nat}
    (small : n < 0x8000000000000000) :
    Format.digits n ds =
      if Nat.ofDigitChars 10 ds n < 0x8000000000000000 then .ok (Nat.ofDigitChars 10 ds n, [])
      else .error .tooManyDigits := by
  induction ds generalizing n with
  | nil => simp [Format.digits, small]
  | cons c ds ih =>
    rw [List.forall_mem_cons] at digit
    rw [Format.digits, digitValue?_of_isDigit digit.1, Nat.ofDigitChars_cons]
    dsimp only
    have same : n * 10 + (c.toNat - 48) = 10 * n + (c.toNat - '0'.toNat) := by
      rw [Nat.mul_comm]
      rfl
    rw [same]
    split
    · next fits => exact ih digit.2 fits
    · next large =>
      rw [if_neg]
      exact fun fits => large (Nat.lt_of_le_of_lt (le_ofDigitChars ds _) fits)

variable {l : Layout}

theorem alignment_written (digit : ∀ c ∈ l.width, c.isDigit = true) :
    Format.alignment l.written = (l.fill?, l.align?, l.width) := by
  have plain {c : Char} (digit : c.isDigit = true) : Align.ofChar? c = none := by
    unfold Align.ofChar?
    split <;> first | rfl | cases digit
  rcases l with ⟨side, width⟩
  cases side with
  | none =>
    match width, digit with
    | [], _ => rfl
    | [c], digit => simp [Layout.written, Layout.fill?, Layout.align?, Format.alignment,
        plain (digit c (by simp))]
    | c :: d :: rest, digit => simp [Layout.written, Layout.fill?, Layout.align?, Format.alignment,
        plain (digit c (by simp)), plain (digit d (by simp))]
  | some side =>
    rcases side with ⟨fill, align⟩
    cases fill with
    | none =>
      cases width with
      | nil => simp [Layout.written, Layout.fill?, Layout.align?, Format.alignment,
          Align.ofChar?_letter]
      | cons c rest => simp [Layout.written, Layout.fill?, Layout.align?, Format.alignment,
          Align.ofChar?_letter, plain (digit c (by simp))]
    | some fill => simp [Layout.written, Layout.fill?, Layout.align?, Format.alignment,
        Align.ofChar?_letter]

theorem take?_of_isDigit {ds : List Char} (digit : ∀ c ∈ ds, c.isDigit = true) {wanted : Char}
    (other : wanted.isDigit = false) : Format.take? wanted ds = (false, ds) := by
  cases ds with
  | nil => rfl
  | cons c ds =>
    have apart : c ≠ wanted := by
      rintro rfl
      exact absurd (digit c List.mem_cons_self) (by simp [other])
    rw [Format.take?, if_neg apart]

/-- The digits of the width behind a zero that asks for zeros. -/
def Layout.digits (l : Layout) : List Char := if l.isZeroPadded then l.width.tail else l.width

/-- A zero in front counts nothing. -/
theorem ofDigitChars_digits (l : Layout) : Nat.ofDigitChars 10 l.digits 0 = l.size := by
  rw [Layout.digits, Layout.size]
  split
  · next zeros =>
    rw [Layout.isZeroPadded, Bool.and_eq_true, beq_iff_eq] at zeros
    rcases List.head?_eq_some_iff.mp zeros.2 with ⟨rest, width⟩
    rw [width, Nat.ofDigitChars_cons]
    rfl
  · rfl

theorem number?_digits (digit : ∀ c ∈ l.width, c.isDigit = true) :
    Format.number? l.digits = if l.size < 0x8000000000000000 then
      .ok (if l.digits = [] then none else some l.size, []) else .error .tooManyDigits := by
  have below : ∀ c ∈ l.digits, c.isDigit = true := by
    rw [Layout.digits]
    split
    · exact fun c inside => digit c (List.mem_of_mem_tail inside)
    · exact digit
  rw [Format.number?, digits_of_isDigit below (by decide), ofDigitChars_digits]
  split
  · cases l.digits <;> simp [bind, Except.bind, pure, Except.pure]
  · rfl

/-- A layout as a format that was read. -/
def Layout.format (l : Layout) : Format where
  fill := l.filling
  align := l.align?
  sign := none
  noNegativeZero := false
  alternate := false
  zeroPadded := l.isZeroPadded
  width := if l.digits = [] then none else some l.size
  grouping := none
  precision := none
  kind := some 's'

theorem read_written (digit : ∀ c ∈ l.width, c.isDigit = true) :
    Format.read "str" (some 's') l.written =
      if l.size < 0x8000000000000000 then .ok l.format else .error .tooManyDigits := by
  have noSign {c : Char} (inside : c ∈ l.width) : ¬ (c = ' ' ∨ c = '+' ∨ c = '-') := by
    rintro (rfl | rfl | rfl) <;> exact absurd (digit _ inside) (by decide)
  have zero : (if l.fill?.isSome = true then (false, l.width) else Format.take? '0' l.width) =
      (l.isZeroPadded, l.digits) := by
    rw [Layout.digits, Layout.isZeroPadded]
    cases l.fill? with
    | some fill => rfl
    | none =>
      cases l.width with
      | nil => rfl
      | cons c rest => by_cases zero : c = '0' <;> simp [Format.take?, zero]
  have number := number?_digits digit
  have noCoercion := take?_of_isDigit digit (show 'z'.isDigit = false by decide)
  have noMark := take?_of_isDigit digit (show '#'.isDigit = false by decide)
  unfold Format.read
  rw [alignment_written digit]
  cases width : l.width with
  | nil =>
    rw [width] at zero noCoercion noMark
    simp -zeta only [noCoercion, noMark, zero, number]
    split <;> rfl
  | cons c rest =>
    have first := noSign (width ▸ List.mem_cons_self)
    rw [width] at zero noCoercion noMark
    simp -zeta only [if_neg first, noCoercion, noMark, zero, number]
    split <;> rfl

theorem pad_format (cs : List Char) : l.format.pad .left cs = l.drawn cs := by
  have size : l.format.width.getD 0 = l.size := by
    rw [Layout.format]
    split
    · next nothing => rw [← ofDigitChars_digits, nothing, Nat.ofDigitChars_nil, Option.getD_none]
    · rfl
  rw [Format.pad, size]
  rfl

/-- A text is brought into a layout unless the layout is none for a text. -/
theorem text_written (digit : ∀ c ∈ l.width, c.isDigit = true) (cs : List Char) :
    Format.text l.written cs =
      if l.size < 0x8000000000000000 then
        if l.align? = some .inside then .error .textInside else .ok (l.drawn cs)
      else .error .tooManyDigits := by
  unfold Format.text
  split
  · next empty =>
    simp only [Layout.written, List.isEmpty_iff, List.append_eq_nil_iff, Option.toList_eq_nil_iff,
      Option.map_eq_none_iff] at empty
    rcases empty with ⟨⟨-, noSide⟩, noWidth⟩
    have size : l.size = 0 := by rw [Layout.size, noWidth, Nat.ofDigitChars_nil]
    simp [Layout.drawn, size, noSide, pure, Except.pure]
  · rw [read_written digit]
    split
    · by_cases inside : l.align? = some .inside
      · simp only [bind, Except.bind, Layout.format, inside]
        rfl
      · have other : (l.align? == some .inside) = false := beq_eq_false_iff_ne.mpr inside
        rw [if_neg inside, ← pad_format]
        simp only [bind, Except.bind, Layout.format, other]
        rfl
    · rfl

/-! ## Templates of texts and fields -/

/-- A part of a template: text, whose braces are doubled where it is written, or a
field with or without a layout. -/
inductive Part where
  | text (cs : List Char)
  | field (name : List Char) (layout : Option Layout)
  deriving DecidableEq

namespace Part

/-- A brace is written twice. -/
def doubled (c : Char) : List Char := if c = '{' ∨ c = '}' then [c, c] else [c]

def written : Part → List Char
  | text cs => cs.flatMap doubled
  | field name none => '{' :: (name ++ ['}'])
  | field name (some l) => '{' :: (name ++ ':' :: (l.written ++ ['}']))

/-- True if a template is read as this part where it is written. -/
def Proper : Part → Prop
  | text _ => True
  | field name layout => (name ≠ [] ∧ ∀ c ∈ name, c ∉ ['[', '{', '}', ':', '!']) ∧
      ∀ l ∈ layout, (∀ c ∈ l.width, c.isDigit = true) ∧ ∀ c ∈ l.fill?, c ≠ '{' ∧ c ≠ '}'

/-- The piece that a field is read as. -/
def slot (name : List Char) (layout : Option Layout) : Field :=
  ⟨name, none, (layout.map Layout.written).getD []⟩

/-- What a part comes to. -/
def filled (inner : List Char → Except Error (List Char)) (find : Lookup) :
    Part → Except Error (List Char)
  | text cs => .ok cs
  | field name layout => piece inner find (.field (slot name layout))

/-- What a part comes to if its field stands for a text and can be drawn. -/
def drawn (textOf : List Char → List Char) : Part → List Char
  | text cs => cs
  | field name none => textOf name
  | field name (some l) => l.drawn (textOf name)

def Drawable : Part → Prop
  | text _ => True
  | field _ layout => ∀ l ∈ layout, l.Drawable

instance : (part : Part) → Decidable part.Drawable
  | text _ => inferInstanceAs (Decidable True)
  | field _ layout => inferInstanceAs (Decidable (∀ l ∈ layout, l.Drawable))

end Part

theorem formatBody_of_plain {body rest : List Char} (plain : '{' ∉ body ∧ '}' ∉ body) :
    formatBody 0 (body ++ '}' :: rest) = some (body, rest) := by
  induction body with
  | nil => rfl
  | cons c body ih =>
    simp only [List.mem_cons, not_or] at plain
    rcases plain with ⟨⟨notOpening, noOpening⟩, notClosing, noClosing⟩
    rw [List.cons_append, formatBody, ih ⟨noOpening, noClosing⟩, Option.map_some]
    · exact fun same => notOpening same.symm
    · exact fun _ same => notClosing same.symm
    · exact fun _ impossible => nomatch impossible

/-- The name of a field ends with the colon in front of its format. -/
theorem fieldName_of_format {name rest : List Char}
    (letters : ∀ c ∈ name, c ∉ ['[', '{', '}', ':', '!']) :
    fieldName false (name ++ ':' :: rest) = (name, .format rest) := by
  induction name with
  | nil => rfl
  | cons c name ih =>
    rw [List.forall_mem_cons] at letters
    rcases letters with ⟨other, letters⟩
    simp only [List.mem_cons, List.not_mem_nil, or_false, not_or] at other
    rw [List.cons_append, fieldName]
    simp [other, ih letters]

theorem plain_written (digit : ∀ c ∈ l.width, c.isDigit = true)
    (fill : ∀ c ∈ l.fill?, c ≠ '{' ∧ c ≠ '}') : '{' ∉ l.written ∧ '}' ∉ l.written := by
  have letters (align : Align) : align.letter ≠ '{' ∧ align.letter ≠ '}' := by
    cases align <;> decide
  have each : ∀ c ∈ l.written, c ≠ '{' ∧ c ≠ '}' := by
    intro c inside
    simp only [Layout.written, List.mem_append, Option.mem_toList,
      Option.map_eq_some_iff] at inside
    rcases inside with (inside | ⟨align, -, rfl⟩) | inside
    · exact fill c inside
    · exact letters align
    · constructor <;> rintro rfl <;> exact absurd (digit _ inside) (by decide)
  exact ⟨fun inside => (each _ inside).1 rfl, fun inside => (each _ inside).2 rfl⟩

variable {inner : List Char → Except Error (List Char)} {find : Lookup} {fuel : Nat}
  {name rest : List Char} {layout : Option Layout} {part : Part} {parts : List Part}
  {textOf : List Char → List Char}

theorem piecesWithin_slot (proper : (Part.field name layout).Proper) :
    piecesWithin (fuel + 1) ((Part.field name layout).written ++ rest) =
      .field (Part.slot name layout) :: piecesWithin fuel rest := by
  rcases proper with ⟨⟨some, letters⟩, proper⟩
  cases layout with
  | none =>
    rw [Part.written, List.cons_append, List.append_assoc, List.singleton_append]
    exact piecesWithin_field some letters
  | some l =>
    rcases proper l rfl with ⟨digit, fill⟩
    have read : field (name ++ ':' :: (l.written ++ '}' :: rest)) =
        .ok (⟨name, none, l.written⟩, rest) := by
      rw [field, fieldName_of_format letters]
      dsimp only
      rw [formatBody_of_plain (plain_written digit fill)]
    rcases List.exists_cons_of_ne_nil some with ⟨c, name, rfl⟩
    have opens : c ≠ '{' := by
      rintro rfl
      exact letters _ List.mem_cons_self (by simp)
    simp only [Part.written, List.cons_append, List.append_assoc, List.nil_append]
    rw [piecesWithin]
    · rw [← List.cons_append, read]
      rfl
    · exact fun _ same => opens (List.cons.inj same).1
    · exact List.cons_ne_nil _ _

theorem piecesWithin_doubled (c : Char) :
    piecesWithin (fuel + 1) (Part.doubled c ++ rest) = Piece.pushFront c (piecesWithin fuel rest) := by
  rw [Part.doubled]
  by_cases opening : c = '{'
  · subst opening
    rfl
  · by_cases closing : c = '}'
    · subst closing
      rfl
    · rw [if_neg (not_or.mpr ⟨opening, closing⟩)]
      exact piecesWithin_cons opening closing

/-- A text whose braces are doubled is put in as it is. -/
theorem fillPieces_doubled (cs : List Char) (enough : (cs.flatMap Part.doubled ++ rest).length ≤ fuel) :
    ∃ left, rest.length ≤ left ∧ ∀ done,
      fillPieces inner find (piecesWithin fuel (cs.flatMap Part.doubled ++ rest)) done =
        fillPieces inner find (piecesWithin left rest) (done ++ cs) := by
  induction cs generalizing fuel with
  | nil => exact ⟨fuel, enough, fun done => by rw [List.append_nil]; rfl⟩
  | cons c cs ih =>
    have longer : 1 ≤ (Part.doubled c).length := by
      rw [Part.doubled]
      split <;> simp
    rw [List.flatMap_cons, List.append_assoc, List.length_append] at enough
    rcases Nat.exists_eq_add_of_le' (show 1 ≤ fuel by omega) with ⟨fuel, rfl⟩
    have shorter : (cs.flatMap Part.doubled ++ rest).length ≤ fuel := by omega
    rcases ih shorter with ⟨left, more, fills⟩
    refine ⟨left, more, fun done => ?_⟩
    rw [List.flatMap_cons, List.append_assoc, piecesWithin_doubled, fillPieces_pushFront, fills,
      List.append_assoc, List.singleton_append]

/-- A template is filled part by part. -/
theorem fillPieces_part (proper : part.Proper) (enough : (part.written ++ rest).length ≤ fuel) :
    ∃ left, rest.length ≤ left ∧ ∀ done,
      fillPieces inner find (piecesWithin fuel (part.written ++ rest)) done =
        (part.filled inner find >>= fun cs =>
          fillPieces inner find (piecesWithin left rest) (done ++ cs)) := by
  cases part with
  | text cs => exact fillPieces_doubled cs enough
  | field name layout =>
    have longer : 1 ≤ (Part.field name layout).written.length := by
      cases layout <;> simp [Part.written]
    rw [List.length_append] at enough
    rcases Nat.exists_eq_add_of_le' (show 1 ≤ fuel by omega) with ⟨fuel, rfl⟩
    refine ⟨fuel, by omega, fun done => ?_⟩
    rw [piecesWithin_slot proper, fillPieces, List.foldlM_cons, Part.filled]
    cases piece inner find (.field (Part.slot name layout)) <;> rfl

theorem piece_text (inner : List Char → Except Error (List Char)) {format : List Char}
    (plain : '{' ∉ format) {s : String} (known : find name = .ok (.text s)) :
    piece inner find (.field ⟨name, none, format⟩) =
      match Format.text format s.toList with
      | .ok cs => .ok cs
      | .error error => .error (.format error) := by
  have noField : format.contains '{' = false := by simpa using plain
  simp only [piece, known, noField]
  rfl

/-- A field that stands for a text comes to the text in its layout, or to nothing if
there is no such layout for texts. -/
theorem filled_cases (proper : part.Proper)
    (known : ∀ name layout, part = .field name layout →
      find name = .ok (.text (String.ofList (textOf name)))) :
    part.Drawable ∧ part.filled inner find = .ok (part.drawn textOf) ∨
      ¬ part.Drawable ∧ ∃ error, part.filled inner find = .error (.format error) := by
  cases part with
  | text cs => exact Or.inl ⟨trivial, rfl⟩
  | field name layout =>
    have there := known name layout rfl
    cases layout with
    | none =>
      refine Or.inl ⟨fun l none => (nomatch none), ?_⟩
      have filled := piece_text inner List.not_mem_nil there
      have plain (cs : List Char) : Format.text [] cs = .ok cs := rfl
      rw [plain, String.toList_ofList] at filled
      exact filled
    | some l =>
      rcases proper.2 l rfl with ⟨digit, fill⟩
      have drawable : (Part.field name (some l)).Drawable ↔ l.Drawable := by
        simp [Part.Drawable]
      have filled := piece_text inner (plain_written digit fill).1 there
      rw [text_written digit, String.toList_ofList] at filled
      rw [drawable, Layout.Drawable, Part.filled, Part.slot, Option.map_some, Option.getD_some,
        filled]
      by_cases fits : l.size < 0x8000000000000000
      · by_cases inside : l.align? = some .inside
        · exact Or.inr ⟨fun both => both.2 inside, _, by rw [if_pos fits, if_pos inside]⟩
        · exact Or.inl ⟨⟨fits, inside⟩, by rw [if_pos fits, if_neg inside]; rfl⟩
      · exact Or.inr ⟨fun both => fits both.1, _, by rw [if_neg fits]⟩

/-- A template is filled by the texts that its fields stand for, each in its layout,
or it is not filled because there is no such layout for texts. -/
theorem fillPieces_parts (proper : ∀ part ∈ parts, part.Proper)
    (known : ∀ name layout, .field name layout ∈ parts →
      find name = .ok (.text (String.ofList (textOf name))))
    (enough : (parts.flatMap Part.written).length ≤ fuel) (done : List Char) :
    (∀ part ∈ parts, part.Drawable) ∧
        fillPieces inner find (piecesWithin fuel (parts.flatMap Part.written)) done =
          .ok (done ++ parts.flatMap (Part.drawn textOf)) ∨
      (¬ ∀ part ∈ parts, part.Drawable) ∧ ∃ error,
        fillPieces inner find (piecesWithin fuel (parts.flatMap Part.written)) done =
          .error (.format error) := by
  induction parts generalizing fuel done with
  | nil =>
    have nothing : piecesWithin fuel [] = [] := by cases fuel <;> rfl
    refine Or.inl ⟨List.forall_mem_nil _, ?_⟩
    rw [List.flatMap_nil, nothing, List.flatMap_nil, List.append_nil]
    rfl
  | cons part parts ih =>
    rw [List.forall_mem_cons] at proper
    rw [List.flatMap_cons] at enough ⊢
    rcases fillPieces_part proper.1 enough with ⟨left, more, fills⟩
    rw [fills, List.forall_mem_cons]
    have here : ∀ name layout, part = .field name layout →
        find name = .ok (.text (String.ofList (textOf name))) :=
      fun name layout same => known name layout (same ▸ List.mem_cons_self)
    have later := fun name layout there => known name layout (List.mem_cons_of_mem part there)
    rcases filled_cases proper.1 here with ⟨drawable, filled⟩ | ⟨notDrawable, error, fails⟩
    · rw [filled]
      rcases ih proper.2 later more (done ++ part.drawn textOf) with
        ⟨others, filled⟩ | ⟨notOthers, error, fails⟩
      · refine Or.inl ⟨⟨drawable, others⟩, ?_⟩
        rw [List.flatMap_cons, ← List.append_assoc, ← filled]
        rfl
      · exact Or.inr ⟨fun all => notOthers all.2, error, fails⟩
    · exact Or.inr ⟨fun all => notDrawable all.1, error, by rw [fails]; rfl⟩

end Template

end Ratchet
