import Mathlib.Data.List.Infix
import Ratchet.Compiler.Diagnostic

namespace Ratchet

namespace Diagnostic

/-!
# The grammar of diagnostic headers

The part of a header that follows the file's name is called its tail: a place
in one of two forms, a category and a code.  `IsTail` says this as a grammar,
and the recognizer `startsTail` is shown to follow it.

The name in front of a tail is not marked off, and it may contain most of what
a tail consists of.  It is found because no tail can begin inside a name and
end in the tail behind it.  Where a place begins, a reader that is already
inside another tail cannot go on: it reads up to the parenthesis or the colon
as if the text ended there, or takes the colon for its own and then meets a
number where it needs something else.
-/

/-! ## Runs of characters -/

/-- One or more characters of a kind. -/
structure IsRun (kind : Char → Bool) (cs : List Char) : Prop where
  nonempty : cs ≠ []
  all : ∀ c ∈ cs, kind c = true

theorem isRun_of_all {kind : Char → Bool} {cs : List Char} (nonempty : cs ≠ [])
    (all : cs.all kind = true) : IsRun kind cs :=
  ⟨nonempty, List.all_eq_true.mp all⟩

/-- A text that does not continue a run of a kind of characters. -/
def Stops (kind : Char → Bool) (rest : List Char) : Prop :=
  ∀ c ∈ rest.head?, kind c = false

/-- The text after one or more characters of a kind. -/
def afterRun? (kind : Char → Bool) : List Char → Option (List Char)
  | [] => none
  | c :: rest => if kind c then some (rest.dropWhile kind) else none

theorem afterDigits?_eq (cs : List Char) : afterDigits? cs = afterRun? Digit.isDigit cs := by
  cases cs <;> rfl

theorem afterBlanks?_eq (cs : List Char) : afterBlanks? cs = afterRun? Blank.isBlank cs := by
  cases cs <;> rfl

theorem stops_cons {kind : Char → Bool} {c : Char} (other : kind c = false) (rest : List Char) :
    Stops kind (c :: rest) := by
  intro first starts
  cases starts
  exact other

theorem stops_dropWhile (kind : Char → Bool) (cs : List Char) : Stops kind (cs.dropWhile kind) := by
  intro c starts
  have other := List.head?_dropWhile_not kind cs
  rw [Option.mem_def.mp starts] at other
  exact other

theorem dropWhile_of_stops {kind : Char → Bool} {rest : List Char} (stops : Stops kind rest) :
    rest.dropWhile kind = rest := by
  cases rest with
  | nil => rfl
  | cons c more => exact List.dropWhile_cons_of_neg (Bool.eq_false_iff.mp (stops c rfl))

theorem dropWhile_append_of_stops {kind : Char → Bool} {rest : List Char}
    (stops : Stops kind rest) (cs : List Char) :
    (cs ++ rest).dropWhile kind = cs.dropWhile kind ++ rest := by
  rw [List.dropWhile_append, dropWhile_of_stops stops]
  split
  · rename_i nothing
    rw [List.isEmpty_iff.mp nothing, List.nil_append]
  · rfl

/-- A run is read up to where it stops. -/
theorem afterRun?_eq_some_iff {kind : Char → Bool} {cs rest : List Char} :
    afterRun? kind cs = some rest ↔ ∃ run, IsRun kind run ∧ Stops kind rest ∧ cs = run ++ rest := by
  constructor
  · intro found
    cases cs with
    | nil => cases found
    | cons c more =>
      by_cases inside : kind c = true
      · rw [afterRun?, if_pos inside] at found
        cases found
        refine ⟨c :: more.takeWhile kind, ⟨List.cons_ne_nil _ _, ?_⟩, stops_dropWhile kind more, ?_⟩
        · intro d member
          rcases List.mem_cons.mp member with rfl | later
          · exact inside
          · exact List.all_eq_true.mp List.all_takeWhile d later
        · rw [List.cons_append, List.takeWhile_append_dropWhile]
      · rw [afterRun?, if_neg inside] at found
        cases found
  · rintro ⟨run, ⟨nonempty, all⟩, stops, rfl⟩
    cases run with
    | nil => exact absurd rfl nonempty
    | cons c more =>
      have others : ∀ d ∈ more, kind d = true := fun d member =>
        all d (List.mem_cons_of_mem c member)
      rw [List.cons_append, afterRun?, if_pos (all c List.mem_cons_self),
        List.dropWhile_append_of_pos others, dropWhile_of_stops stops]

theorem after?_eq_some_iff {expected cs rest : List Char} :
    after? expected cs = some rest ↔ cs = expected ++ rest := by
  unfold after?
  constructor
  · intro found
    split at found
    · rename_i starts
      rcases List.isPrefixOf_iff_prefix.mp starts with ⟨more, rfl⟩
      rw [List.drop_left] at found
      cases found
      rfl
    · cases found
  · rintro rfl
    rw [if_pos (List.isPrefixOf_iff_prefix.mpr (List.prefix_append _ _)), List.drop_left]

theorem isSome_afterRun?_iff {kind : Char → Bool} {cs : List Char} :
    (afterRun? kind cs).isSome = true ↔ ∃ run rest, IsRun kind run ∧ cs = run ++ rest := by
  constructor
  · intro found
    rcases Option.isSome_iff_exists.mp found with ⟨rest, read⟩
    rcases afterRun?_eq_some_iff.mp read with ⟨run, isRun, _, whole⟩
    exact ⟨run, rest, isRun, whole⟩
  · rintro ⟨run, rest, isRun, rfl⟩
    cases run with
    | nil => exact absurd rfl isRun.nonempty
    | cons c more =>
      rw [List.cons_append, afterRun?, if_pos (isRun.all c List.mem_cons_self)]
      rfl

/-! ## The grammar -/

/-- A place in a file: `(3,5):` or `:3:5 -`. -/
inductive IsPlace : List Char → Prop where
  | plain {line column : List Char} (isLine : IsRun Digit.isDigit line)
      (isColumn : IsRun Digit.isDigit column) :
      IsPlace ('(' :: (line ++ ',' :: (column ++ [')', ':'])))
  | pretty {line column gap : List Char} (isLine : IsRun Digit.isDigit line)
      (isColumn : IsRun Digit.isDigit column) (isGap : IsRun Blank.isBlank gap) :
      IsPlace (':' :: (line ++ ':' :: (column ++ (gap ++ ['-']))))

/-- A category and a code, with any blanks in front. -/
inductive IsFinding : List Char → Prop where
  | mk {lead category gap number : List Char} (blank : ∀ c ∈ lead, Blank.isBlank c = true)
      (listed : category ∈ categories) (isGap : IsRun Blank.isBlank gap)
      (isNumber : IsRun Digit.isDigit number) :
      IsFinding (lead ++ (category ++ (gap ++ (['T', 'S'] ++ number))))

/-- What follows the file's name in a header. -/
inductive IsTail : List Char → Prop where
  | mk {place finding : List Char} (isPlace : IsPlace place) (isFinding : IsFinding finding) :
      IsTail (place ++ finding)

theorem isDigit_eq_false_of_isBlank {c : Char} (blank : Blank.isBlank c = true) :
    Digit.isDigit c = false := by
  simp only [Blank.isBlank, Bool.or_eq_true, Bool.and_eq_true, decide_eq_true_eq,
    beq_iff_eq] at blank
  simp only [Digit.isDigit, Digit.ranges, List.any_cons, List.any_nil, Bool.or_false,
    Bool.or_eq_false_iff, Bool.and_eq_false_iff, decide_eq_false_iff_not]
  omega

theorem stops_digits_of_gap {gap : List Char} (isGap : IsRun Blank.isBlank gap)
    (rest : List Char) : Stops Digit.isDigit (gap ++ rest) := by
  cases gap with
  | nil => exact absurd rfl isGap.nonempty
  | cons c more => exact stops_cons (isDigit_eq_false_of_isBlank (isGap.all c List.mem_cons_self)) _

theorem eq_of_mem_categories {category : List Char} (listed : category ∈ categories) :
    category = "error".toList ∨ category = "warning".toList ∨ category = "message".toList := by
  rw [categories, List.mem_cons, List.mem_cons, List.mem_singleton] at listed
  exact listed

theorem stops_category {kind : Char → Bool} (other : ['e', 'w', 'm'].any kind = false)
    {category : List Char} (listed : category ∈ categories) (rest : List Char) :
    Stops kind (category ++ rest) := by
  simp only [List.any_cons, List.any_nil, Bool.or_false, Bool.or_eq_false_iff] at other
  -- The letters are those that the categories begin with.
  rcases eq_of_mem_categories listed with rfl | rfl | rfl
  · exact stops_cons other.1 _
  · exact stops_cons other.2.1 _
  · exact stops_cons other.2.2 _

theorem afterPlace?_eq_some_iff {cs rest : List Char} :
    afterPlace? cs = some rest ↔ ∃ place, IsPlace place ∧ cs = place ++ rest := by
  constructor
  · intro found
    unfold afterPlace? at found
    split at found
    · simp only [Option.bind_eq_bind, Option.bind_eq_some_iff, afterDigits?_eq,
        afterRun?_eq_some_iff, after?_eq_some_iff] at found
      rcases found with ⟨_, ⟨line, isLine, _, rfl⟩, _, rfl, _, ⟨column, isColumn, _, rfl⟩, rfl⟩
      exact ⟨_, .plain isLine isColumn, by simp⟩
    · simp only [Option.bind_eq_bind, Option.bind_eq_some_iff, afterDigits?_eq, afterBlanks?_eq,
        afterRun?_eq_some_iff, after?_eq_some_iff] at found
      rcases found with ⟨_, ⟨line, isLine, _, rfl⟩, _, rfl, _, ⟨column, isColumn, _, rfl⟩, _,
        ⟨gap, isGap, _, rfl⟩, rfl⟩
      exact ⟨_, .pretty isLine isColumn isGap, by simp⟩
    · cases found
  · rintro ⟨place, isPlace, rfl⟩
    cases isPlace with
    | @plain line column isLine isColumn =>
      have readLine := afterRun?_eq_some_iff.mpr
        ⟨line, isLine, stops_cons (c := ',') rfl (column ++ ([')', ':'] ++ rest)), rfl⟩
      have readColumn := afterRun?_eq_some_iff.mpr
        ⟨column, isColumn, stops_cons (c := ')') rfl (':' :: rest), rfl⟩
      simp only [List.cons_append, List.append_assoc, List.nil_append] at readLine ⊢
      simp only [afterPlace?, Option.bind_eq_bind, Option.bind_eq_some_iff, afterDigits?_eq,
        after?_eq_some_iff]
      exact ⟨_, readLine, _, rfl, _, readColumn, rfl⟩
    | @pretty line column gap isLine isColumn isGap =>
      have readLine := afterRun?_eq_some_iff.mpr
        ⟨line, isLine, stops_cons (c := ':') rfl (column ++ (gap ++ ('-' :: rest))), rfl⟩
      have readColumn := afterRun?_eq_some_iff.mpr
        ⟨column, isColumn, stops_digits_of_gap isGap ('-' :: rest), rfl⟩
      have readGap := afterRun?_eq_some_iff.mpr
        ⟨gap, isGap, stops_cons (c := '-') rfl rest, rfl⟩
      simp only [List.cons_append, List.append_assoc, List.nil_append]
      simp only [afterPlace?, Option.bind_eq_bind, Option.bind_eq_some_iff, afterDigits?_eq,
        afterBlanks?_eq, after?_eq_some_iff]
      exact ⟨_, readLine, _, rfl, _, readColumn, _, readGap, rfl⟩

/-- What remains of a finding after its category: blanks, then a code. -/
def afterCode? (cs : List Char) : Option (List Char) :=
  (afterBlanks? cs).bind fun rest => (after? ['T', 'S'] rest).bind afterDigits?

theorem startsCode_eq (cs : List Char) :
    startsCode cs = categories.any fun category =>
      ((after? category (Blank.dropLeading cs)).bind afterCode?).isSome := by
  unfold startsCode
  dsimp only
  congr 1
  funext category
  cases after? category (Blank.dropLeading cs) <;> rfl

theorem isSome_afterCode?_iff {cs : List Char} :
    (afterCode? cs).isSome = true ↔ ∃ gap number rest, IsRun Blank.isBlank gap ∧
      IsRun Digit.isDigit number ∧ cs = gap ++ (['T', 'S'] ++ (number ++ rest)) := by
  constructor
  · intro found
    rcases Option.isSome_iff_exists.mp found with ⟨rest, read⟩
    simp only [afterCode?, Option.bind_eq_some_iff, afterBlanks?_eq, afterDigits?_eq,
      afterRun?_eq_some_iff, after?_eq_some_iff] at read
    rcases read with ⟨_, ⟨gap, isGap, _, rfl⟩, _, rfl, number, isNumber, _, rfl⟩
    exact ⟨gap, number, rest, isGap, isNumber, rfl⟩
  · rintro ⟨gap, number, rest, isGap, isNumber, rfl⟩
    have readGap := afterRun?_eq_some_iff.mpr
      ⟨gap, isGap, stops_cons (c := 'T') rfl ('S' :: (number ++ rest)), rfl⟩
    have readLetters := after?_eq_some_iff.mpr
      (Eq.refl (['T', 'S'] ++ (number ++ rest)))
    rw [afterCode?, afterBlanks?_eq]
    simp only [List.cons_append, List.nil_append] at readGap readLetters ⊢
    rw [readGap, Option.bind_some, readLetters, Option.bind_some, afterDigits?_eq]
    exact isSome_afterRun?_iff.mpr ⟨number, rest, isNumber, rfl⟩

theorem startsCode_iff {cs : List Char} :
    startsCode cs = true ↔ ∃ finding rest, IsFinding finding ∧ cs = finding ++ rest := by
  rw [startsCode_eq, List.any_eq_true]
  constructor
  · rintro ⟨category, listed, found⟩
    rcases Option.isSome_iff_exists.mp found with ⟨_, read⟩
    rcases Option.bind_eq_some_iff.mp read with ⟨more, named, coded⟩
    rcases isSome_afterCode?_iff.mp (Option.isSome_of_eq_some coded) with
      ⟨gap, number, rest, isGap, isNumber, rfl⟩
    have blank : ∀ c ∈ cs.takeWhile Blank.isBlank, Blank.isBlank c = true :=
      List.all_eq_true.mp List.all_takeWhile
    refine ⟨_, rest, .mk blank listed isGap isNumber, ?_⟩
    have whole : cs = cs.takeWhile Blank.isBlank ++ Blank.dropLeading cs :=
      List.takeWhile_append_dropWhile.symm
    rw [after?_eq_some_iff.mp named] at whole
    rw [List.append_assoc, List.append_assoc, List.append_assoc, List.append_assoc]
    exact whole
  · rintro ⟨_, rest, ⟨blank, listed, isGap, isNumber⟩, rfl⟩
    rename_i lead category gap number
    refine ⟨category, listed, ?_⟩
    have stops : Stops Blank.isBlank (category ++ (gap ++ (['T', 'S'] ++ (number ++ rest)))) :=
      stops_category rfl listed _
    have led : Blank.dropLeading (lead ++ (category ++ (gap ++ (['T', 'S'] ++ (number ++ rest))))) =
        category ++ (gap ++ (['T', 'S'] ++ (number ++ rest))) := by
      rw [Blank.dropLeading, List.dropWhile_append_of_pos blank, dropWhile_of_stops stops]
    rw [List.append_assoc, List.append_assoc, List.append_assoc, List.append_assoc, led,
      after?_eq_some_iff.mpr rfl, Option.bind_some]
    exact isSome_afterCode?_iff.mpr ⟨gap, number, rest, isGap, isNumber, rfl⟩

theorem startsTail_eq_true_iff {cs : List Char} :
    startsTail cs = true ↔ ∃ rest, afterPlace? cs = some rest ∧ startsCode rest = true := by
  unfold startsTail
  cases afterPlace? cs with
  | none => simp
  | some rest => simp

/-- The recognizer of tails follows the grammar. -/
theorem startsTail_iff {cs : List Char} :
    startsTail cs = true ↔ ∃ tail rest, IsTail tail ∧ cs = tail ++ rest := by
  rw [startsTail_eq_true_iff]
  constructor
  · rintro ⟨more, placed, coded⟩
    rcases afterPlace?_eq_some_iff.mp placed with ⟨place, isPlace, rfl⟩
    rcases startsCode_iff.mp coded with ⟨finding, rest, isFinding, rfl⟩
    exact ⟨place ++ finding, rest, .mk isPlace isFinding, (List.append_assoc ..).symm⟩
  · rintro ⟨_, rest, @⟨place, finding, isPlace, isFinding⟩, rfl⟩
    refine ⟨finding ++ rest, ?_, startsCode_iff.mpr ⟨finding, rest, isFinding, rfl⟩⟩
    exact afterPlace?_eq_some_iff.mpr ⟨place, isPlace, List.append_assoc ..⟩

/-! ## No tail across the end of a name -/

/-- Reading that does not get past the beginning of `rest`: what it reads off
a text in front of it, it reads off the text alone. -/
def StaysBefore (rest : List Char) (read? : List Char → Option (List Char)) : Prop :=
  ∀ cs more, read? (cs ++ rest) = some more →
    ∃ others, read? cs = some others ∧ more = others ++ rest

/-- What is expected is found in front of `rest`, or the end of it is found at
the beginning of `rest`. -/
theorem after?_append_cases {expected cs rest more : List Char}
    (found : after? expected (cs ++ rest) = some more) :
    (∃ others, after? expected cs = some others ∧ more = others ++ rest) ∨
      ∃ c beyond, expected = cs ++ c :: beyond ∧ rest = c :: beyond ++ more := by
  rcases List.append_eq_append_iff.mp (after?_eq_some_iff.mp found) with
    ⟨beyond, whole, reached⟩ | ⟨others, whole, remains⟩
  · cases beyond with
    | nil =>
      rw [List.append_nil] at whole
      refine Or.inl ⟨[], ?_, reached.symm⟩
      rw [after?_eq_some_iff, whole, List.append_nil]
    | cons c beyond => exact Or.inr ⟨c, beyond, whole, reached⟩
  · exact Or.inl ⟨others, after?_eq_some_iff.mpr whole, remains⟩

namespace StaysBefore

variable {c : Char} {rest : List Char}

theorem bind {first? second? : List Char → Option (List Char)} (first : StaysBefore rest first?)
    (second : StaysBefore rest second?) :
    StaysBefore rest fun cs => (first? cs).bind second? := by
  intro cs more found
  rcases Option.bind_eq_some_iff.mp found with ⟨between, foundFirst, foundSecond⟩
  rcases first cs between foundFirst with ⟨others, readFirst, rfl⟩
  rcases second others more foundSecond with ⟨remains, readSecond, rfl⟩
  exact ⟨remains, Option.bind_eq_some_iff.mpr ⟨others, readFirst, readSecond⟩, rfl⟩

theorem afterRun {kind : Char → Bool} (other : kind c = false) :
    StaysBefore (c :: rest) (afterRun? kind) := by
  intro cs more found
  cases cs with
  | nil =>
    rw [List.nil_append, afterRun?, if_neg (Bool.eq_false_iff.mp other)] at found
    cases found
  | cons d others =>
    by_cases inside : kind d = true
    · rw [List.cons_append, afterRun?, if_pos inside,
        dropWhile_append_of_stops (stops_cons other rest)] at found
      cases found
      exact ⟨_, if_pos inside, rfl⟩
    · rw [List.cons_append, afterRun?, if_neg inside] at found
      cases found

theorem after {expected : List Char} (foreign : c ∉ expected) :
    StaysBefore (c :: rest) (after? expected) := by
  intro cs more found
  rcases after?_append_cases found with inside | ⟨d, beyond, rfl, reached⟩
  · exact inside
  · cases reached
    exact absurd (List.mem_append_right cs List.mem_cons_self) foreign

theorem afterDigits (other : Digit.isDigit c = false) :
    StaysBefore (c :: rest) afterDigits? := by
  intro cs more
  rw [afterDigits?_eq, afterDigits?_eq]
  exact afterRun other cs more

theorem afterBlanks (other : Blank.isBlank c = false) :
    StaysBefore (c :: rest) afterBlanks? := by
  intro cs more
  rw [afterBlanks?_eq, afterBlanks?_eq]
  exact afterRun other cs more

end StaysBefore

/-- The characters that begin a place. -/
def IsOpening (c : Char) : Prop :=
  c = '(' ∨ c = ':'

instance : DecidablePred IsOpening := fun c => inferInstanceAs (Decidable (c = '(' ∨ c = ':'))

namespace IsOpening

variable {c : Char} (opening : IsOpening c)

include opening

theorem not_digit : Digit.isDigit c = false := by
  rcases opening with rfl | rfl <;> rfl

theorem not_blank : Blank.isBlank c = false := by
  rcases opening with rfl | rfl <;> rfl

theorem foreign {expected : List Char} (paren : '(' ∉ expected) (colon : ':' ∉ expected) :
    c ∉ expected := by
  rcases opening with rfl | rfl
  · exact paren
  · exact colon

theorem notMem_category {category : List Char} (listed : category ∈ categories) :
    c ∉ category := by
  rcases eq_of_mem_categories listed with rfl | rfl | rfl <;>
    exact opening.foreign (by decide) (by decide)

theorem startsCode_of_append {cs rest : List Char} (found : startsCode (cs ++ c :: rest) = true) :
    startsCode cs = true := by
  have stops : Stops Blank.isBlank (c :: rest) := stops_cons opening.not_blank rest
  have letters : StaysBefore (c :: rest) (after? ['T', 'S']) :=
    .after (opening.foreign (by decide) (by decide))
  have code : StaysBefore (c :: rest) afterCode? :=
    (StaysBefore.afterBlanks opening.not_blank).bind
      (letters.bind (.afterDigits opening.not_digit))
  rw [startsCode_eq, List.any_eq_true] at found ⊢
  rcases found with ⟨category, listed, coded⟩
  rcases Option.isSome_iff_exists.mp coded with ⟨more, read⟩
  rw [Blank.dropLeading, dropWhile_append_of_stops stops] at read
  have whole := (StaysBefore.after (opening.notMem_category listed)).bind code
  rcases whole _ more read with ⟨others, alone, _⟩
  exact ⟨category, listed, Option.isSome_of_eq_some alone⟩

end IsOpening

/-- A place begins with an opening, then comes a number and then something that
is neither a digit nor blank. -/
theorem IsPlace.opens {place : List Char} (isPlace : IsPlace place) :
    ∃ c line separator others, IsOpening c ∧ IsRun Digit.isDigit line ∧
      Digit.isDigit separator = false ∧ Blank.isBlank separator = false ∧
      place = c :: (line ++ separator :: others) := by
  cases isPlace with
  | plain isLine isColumn => exact ⟨'(', _, ',', _, Or.inl rfl, isLine, rfl, rfl, rfl⟩
  | pretty isLine isColumn isGap => exact ⟨':', _, ':', _, Or.inr rfl, isLine, rfl, rfl, rfl⟩

theorem stops_finding {finding : List Char} (isFinding : IsFinding finding) (rest : List Char) :
    Stops Digit.isDigit (finding ++ rest) := by
  cases isFinding with
  | @mk lead category gap number blank listed =>
    rw [List.append_assoc]
    cases lead with
    | nil =>
      rw [List.nil_append, List.append_assoc]
      exact stops_category rfl listed _
    | cons c others => exact stops_cons (isDigit_eq_false_of_isBlank (blank c List.mem_cons_self)) _

/-- What begins with a number is no finding. -/
theorem startsCode_number {number : List Char} (isNumber : IsRun Digit.isDigit number)
    (rest : List Char) : startsCode (number ++ rest) = false := by
  rw [Bool.eq_false_iff]
  intro found
  rcases startsCode_iff.mp found with ⟨finding, more, isFinding, whole⟩
  have stops := stops_finding isFinding more
  rw [← whole] at stops
  cases number with
  | nil => exact isNumber.nonempty rfl
  | cons d others =>
    have digit := isNumber.all d List.mem_cons_self
    rw [stops d rfl] at digit
    cases digit

/-- Two numbers with a separator between them. -/
def afterPair? (separator : Char) (cs : List Char) : Option (List Char) :=
  (afterDigits? cs).bind fun rest => (after? [separator] rest).bind afterDigits?

theorem afterPlace?_paren (cs : List Char) :
    afterPlace? ('(' :: cs) = (afterPair? ',' cs).bind (after? [')', ':']) := by
  simp only [afterPlace?, afterPair?, Option.bind_eq_bind, Option.bind_assoc]

theorem afterPlace?_colon (cs : List Char) :
    afterPlace? (':' :: cs) =
      (afterPair? ':' cs).bind fun rest => (afterBlanks? rest).bind (after? ['-']) := by
  simp only [afterPlace?, afterPair?, Option.bind_eq_bind, Option.bind_assoc]

theorem afterPlace?_of_ne {c : Char} (paren : c ≠ '(') (colon : c ≠ ':') (cs : List Char) :
    afterPlace? (c :: cs) = none := by
  unfold afterPlace?
  split
  · rename_i same
    exact absurd (List.cons.inj same).1 paren
  · rename_i same
    exact absurd (List.cons.inj same).1 colon
  · rfl

section Straddling

variable {c separator : Char} {line others : List Char} (opening : IsOpening c)
  (isLine : IsRun Digit.isDigit line)

include opening isLine

/-- After the first form of a place, what follows either is all in front of
the opening, or it begins with a number. -/
theorem afterPlace?_paren_append {cs more : List Char}
    (found : afterPlace? ('(' :: (cs ++ c :: (line ++ separator :: others))) = some more) :
    (∃ remains, afterPlace? ('(' :: cs) = some remains ∧
      more = remains ++ c :: (line ++ separator :: others)) ∨ startsCode more = false := by
  have digits : StaysBefore (c :: (line ++ separator :: others)) afterDigits? :=
    .afterDigits opening.not_digit
  have pair : StaysBefore (c :: (line ++ separator :: others)) (afterPair? ',') :=
    digits.bind ((StaysBefore.after (opening.foreign (by decide) (by decide))).bind digits)
  rw [afterPlace?_paren] at found ⊢
  rcases Option.bind_eq_some_iff.mp found with ⟨between, numbers, closed⟩
  rcases pair cs between numbers with ⟨inner, alone, rfl⟩
  rcases after?_append_cases closed with ⟨remains, inside, rfl⟩ | ⟨d, beyond, expected, reached⟩
  · exact Or.inl ⟨remains, Option.bind_eq_some_iff.mpr ⟨inner, alone, inside⟩, rfl⟩
  · -- The opening is the colon that the place ends in.
    rcases List.cons.inj reached with ⟨rfl, behind⟩
    rcases inner with _ | ⟨paren, _ | ⟨colon, inner⟩⟩
    · cases expected
      exact absurd opening (by decide)
    · cases expected
      have remains : more = line ++ separator :: others := behind.symm
      exact Or.inr (remains ▸ startsCode_number isLine _)
    · simp at expected

/-- The second form of a place does not get past the opening: the number behind
it would have to be followed by a blank. -/
theorem afterPlace?_colon_append (noDigit : Digit.isDigit separator = false)
    (noBlank : Blank.isBlank separator = false) {cs more : List Char}
    (found : afterPlace? (':' :: (cs ++ c :: (line ++ separator :: others))) = some more) :
    ∃ remains, afterPlace? (':' :: cs) = some remains ∧
      more = remains ++ c :: (line ++ separator :: others) := by
  have digits : StaysBefore (c :: (line ++ separator :: others)) afterDigits? :=
    .afterDigits opening.not_digit
  have blanks : StaysBefore (c :: (line ++ separator :: others))
      fun cs => (afterBlanks? cs).bind (after? ['-']) :=
    (StaysBefore.afterBlanks opening.not_blank).bind
      (.after (opening.foreign (by decide) (by decide)))
  rw [afterPlace?_colon] at found ⊢
  rcases Option.bind_eq_some_iff.mp found with ⟨second, numbers, closed⟩
  rcases Option.bind_eq_some_iff.mp numbers with ⟨first, number, parted⟩
  rcases digits cs first number with ⟨inner, readNumber, rfl⟩
  rcases Option.bind_eq_some_iff.mp parted with ⟨between, colon, otherNumber⟩
  rcases after?_append_cases colon with ⟨remains, readColon, rfl⟩ | ⟨d, beyond, expected, reached⟩
  · rcases digits remains second otherNumber with ⟨last, readOther, rfl⟩
    rcases blanks last more closed with ⟨result, readRest, rfl⟩
    refine ⟨result, Option.bind_eq_some_iff.mpr ⟨last, ?_, readRest⟩, rfl⟩
    exact Option.bind_eq_some_iff.mpr
      ⟨inner, readNumber, Option.bind_eq_some_iff.mpr ⟨remains, readColon, readOther⟩⟩
  · -- The opening is the colon between the numbers.
    rcases List.cons.inj reached with ⟨rfl, behind⟩
    rcases inner with _ | ⟨colon, inner⟩
    · cases expected
      have remains : between = line ++ separator :: others := behind.symm
      have stops : Stops Digit.isDigit (separator :: others) := stops_cons noDigit others
      rw [remains, afterDigits?_eq, afterRun?_eq_some_iff.mpr ⟨line, isLine, stops, rfl⟩]
        at otherNumber
      cases otherNumber
      rcases Option.bind_eq_some_iff.mp closed with ⟨_, blank, _⟩
      rw [afterBlanks?_eq, afterRun?, if_neg (Bool.eq_false_iff.mp noBlank)] at blank
      cases blank
    · simp at expected

end Straddling

/-- A tail that begins in front of a place ends in front of it. -/
theorem startsTail_of_append_place {c : Char} {cs place more : List Char}
    (isPlace : IsPlace place) (found : startsTail (c :: (cs ++ (place ++ more))) = true) :
    startsTail (c :: cs) = true := by
  rcases isPlace.opens with ⟨o, line, separator, others, opening, isLine, noDigit, noBlank, rfl⟩
  rw [List.cons_append, List.append_assoc, List.cons_append] at found
  rw [startsTail_eq_true_iff] at found ⊢
  rcases found with ⟨remains, placed, coded⟩
  by_cases paren : c = '('
  · subst paren
    rcases afterPlace?_paren_append opening isLine placed with ⟨inner, alone, rfl⟩ | uncoded
    · exact ⟨inner, alone, opening.startsCode_of_append coded⟩
    · rw [uncoded] at coded
      cases coded
  · by_cases colon : c = ':'
    · subst colon
      rcases afterPlace?_colon_append opening isLine noDigit noBlank placed with
        ⟨inner, alone, rfl⟩
      exact ⟨inner, alone, opening.startsCode_of_append coded⟩
    · rw [afterPlace?_of_ne paren colon] at placed
      cases placed

/-! ## Names in front of tails -/

/-- A text with no tail of a header in it. -/
def IsClear (cs : List Char) : Prop :=
  ∀ tail, IsTail tail → ¬ tail <:+: cs

theorem isClear_iff {cs : List Char} :
    IsClear cs ↔ ∀ after ∈ cs.tails, startsTail after = false := by
  constructor
  · intro clear after ends
    rw [Bool.eq_false_iff]
    intro found
    rcases startsTail_iff.mp found with ⟨tail, rest, isTail, rfl⟩
    have inside : tail <:+: tail ++ rest := (List.prefix_append tail rest).isInfix
    exact clear tail isTail (inside.trans ((List.mem_tails _ _).mp ends).isInfix)
  · rintro none tail isTail ⟨before, rest, rfl⟩
    have ends : tail ++ rest ∈ (before ++ tail ++ rest).tails := by
      rw [List.mem_tails, List.append_assoc]
      exact List.suffix_append before (tail ++ rest)
    have found := startsTail_iff.mpr ⟨tail, rest, isTail, rfl⟩
    rw [none _ ends] at found
    cases found

instance (cs : List Char) : Decidable (IsClear cs) :=
  decidable_of_iff _ isClear_iff.symm

/-- The scan stops at a tail, behind a name on one line. -/
theorem header?_sound {started : Bool} {line name : List Char}
    (found : header? started line = some name) :
    (started = true ∨ name ≠ []) ∧ '\n' ∉ name ∧
      ∃ after, startsTail after = true ∧ line = name ++ after := by
  induction line generalizing started name with
  | nil => cases found
  | cons c rest ih =>
    unfold header? at found
    split at found
    · next stops =>
      cases found
      rw [Bool.and_eq_true] at stops
      exact ⟨Or.inl stops.1, List.not_mem_nil, c :: rest, stops.2, rfl⟩
    · split at found
      · cases found
      · next sameLine =>
        rcases Option.map_eq_some_iff.mp found with ⟨others, later, rfl⟩
        rcases ih later with ⟨_, oneLine, after, starts, rfl⟩
        refine ⟨Or.inr (List.cons_ne_nil _ _), ?_, after, starts, rfl⟩
        rw [List.mem_cons, not_or]
        exact ⟨Ne.symm sameLine, oneLine⟩

/-- The scan passes no place where a name may end. -/
theorem header?_shortest {started : Bool} {other after : List Char}
    (begun : started = true ∨ other ≠ []) (oneLine : '\n' ∉ other)
    (starts : startsTail after = true) :
    ∃ name, header? started (other ++ after) = some name ∧ name <+: other := by
  induction other generalizing started with
  | nil =>
    have passed : started = true := begun.resolve_right fun impossible => impossible rfl
    refine ⟨[], ?_, List.nil_prefix⟩
    cases after with
    | nil => cases starts
    | cons c rest => rw [List.nil_append, header?, passed, starts, Bool.and_self, if_pos rfl]
  | cons c others ih =>
    rw [List.mem_cons, not_or] at oneLine
    rcases ih (Or.inl rfl) oneLine.2 with ⟨name, later, shorter⟩
    rw [List.cons_append, header?]
    split
    · exact ⟨[], rfl, List.nil_prefix⟩
    · rw [if_neg (Ne.symm oneLine.1), later]
      exact ⟨c :: name, rfl, List.cons_prefix_cons.mpr ⟨rfl, shorter⟩⟩

/-- A name ends where a tail begins for the first time. -/
theorem header?_append {name rest : List Char} (oneLine : '\n' ∉ name)
    (tail : startsTail rest = true)
    (first : ∀ c after, c :: after <:+ name → startsTail (c :: (after ++ rest)) = false) :
    header? true (name ++ rest) = some name := by
  rcases header?_shortest (Or.inl rfl) oneLine tail with ⟨found, scanned, remains, rfl⟩
  cases remains with
  | nil => rwa [List.append_nil] at scanned ⊢
  | cons c after =>
    rcases header?_sound scanned with ⟨_, _, others, starts, whole⟩
    rw [List.append_assoc] at whole
    rw [← List.append_cancel_left whole, List.cons_append,
      first c after (List.suffix_append found _)] at starts
    cases starts

/-- The name in front of a tail is found if no tail is inside it, its first
character apart. -/
theorem header?_of_tail {name place finding : List Char} (nonempty : name ≠ [])
    (oneLine : '\n' ∉ name) (clear : IsClear name.tail) (isPlace : IsPlace place)
    (isFinding : IsFinding finding) (rest : List Char) :
    header? false (name ++ (place ++ (finding ++ rest))) = some name := by
  cases name with
  | nil => exact absurd rfl nonempty
  | cons c others =>
    rw [List.mem_cons, not_or] at oneLine
    have tail : startsTail (place ++ (finding ++ rest)) = true :=
      startsTail_iff.mpr
        ⟨place ++ finding, rest, .mk isPlace isFinding, (List.append_assoc ..).symm⟩
    have found : header? true (others ++ (place ++ (finding ++ rest))) = some others := by
      apply header?_append oneLine.2 tail
      intro d after ends
      rw [Bool.eq_false_iff]
      intro across
      have inside := startsTail_of_append_place isPlace across
      rw [isClear_iff.mp clear _ ((List.mem_tails _ _).mpr ends)] at inside
      cases inside
    rw [List.cons_append, header?, Bool.false_and, if_neg Bool.false_ne_true,
      if_neg (Ne.symm oneLine.1), found]
    rfl

/-! ## Written headers -/

theorem isRun_blank : IsRun Blank.isBlank [' '] :=
  isRun_of_all (List.cons_ne_nil _ _) rfl

/-- What the header of a diagnostic says. -/
structure Header where
  name : String
  line : String
  column : String
  category : String
  code : String

namespace Header

/-- The form without decoration. -/
def plain (header : Header) : String :=
  header.name ++ "(" ++ header.line ++ "," ++ header.column ++ "): " ++ header.category ++ " TS" ++
    header.code

/-- The form for a terminal. -/
def pretty (header : Header) : String :=
  header.name ++ ":" ++ header.line ++ ":" ++ header.column ++ " - " ++ header.category ++ " TS" ++
    header.code

/-- A header that can be read back: its name is on one line and does not look
like a header itself, and the rest has the form of the grammar. -/
structure WellFormed (header : Header) : Prop where
  named : header.name ≠ ""
  oneLine : '\n' ∉ header.name.toList
  clear : IsClear header.name.toList.tail
  line : IsRun Digit.isDigit header.line.toList
  column : IsRun Digit.isDigit header.column.toList
  category : header.category.toList ∈ categories
  code : IsRun Digit.isDigit header.code.toList

variable {header : Header} (wellFormed : header.WellFormed)

include wellFormed

theorem finding : IsFinding ([' '] ++
    (header.category.toList ++ ([' '] ++ (['T', 'S'] ++ header.code.toList)))) :=
  .mk isRun_blank.all wellFormed.category isRun_blank wellFormed.code

theorem file?_of_place {place : List Char} (isPlace : IsPlace place) {text : String}
    (rest : List Char) (written : text.toList = header.name.toList ++ (place ++
      (([' '] ++ (header.category.toList ++ ([' '] ++ (['T', 'S'] ++ header.code.toList)))) ++
        rest))) :
    file? text = some (FileName.normalize header.name) := by
  have nonempty : header.name.toList ≠ [] := by
    intro empty
    exact wellFormed.named (String.toList_eq_nil_iff.mp empty)
  rw [file?, written, header?_of_tail nonempty wellFormed.oneLine wellFormed.clear isPlace
    (finding wellFormed) rest]
  rfl

end Header

/-- Reading a header that was written in either form gives the name in it,
whatever follows on the line. -/
theorem file?_written (header : Header) (wellFormed : header.WellFormed) (trailing : String) :
    file? (header.plain ++ trailing) = some (FileName.normalize header.name) ∧
      file? (header.pretty ++ trailing) = some (FileName.normalize header.name) := by
  constructor
  · apply Header.file?_of_place wellFormed (.plain wellFormed.line wellFormed.column)
      trailing.toList
    simp [Header.plain]
  · apply Header.file?_of_place wellFormed
      (.pretty wellFormed.line wellFormed.column isRun_blank) trailing.toList
    simp [Header.pretty]

/-- The name has fragments of both forms in it. -/
theorem file?_written_sample :
    let header : Header := ⟨"C:a(1,2): b:3:4 - c.ts", "10", "5", "error", "2322"⟩
    header.WellFormed ∧
      FileName.normalize header.name = "C:a(1,2): b:3:4 - c.ts" ∧
      file? (header.plain ++ ": Type") = some (FileName.normalize header.name) ∧
      file? (header.pretty ++ ": Type") = some (FileName.normalize header.name) := by
  intro header
  have wellFormed : header.WellFormed :=
    { named := by decide
      oneLine := by decide
      clear := by decide +kernel
      line := isRun_of_all (by decide) (by decide)
      column := isRun_of_all (by decide) (by decide)
      category := by decide
      code := isRun_of_all (by decide) (by decide) }
  exact ⟨wellFormed, by decide +kernel, file?_written header wellFormed ": Type"⟩

end Diagnostic

end Ratchet
