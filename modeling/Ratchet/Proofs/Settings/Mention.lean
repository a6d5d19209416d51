import Mathlib.Data.List.TakeWhile
import Ratchet.Settings.Reference

namespace Ratchet

namespace Reference

/-!
# Mentions

A text mentions every name that stands in it between braces.  Replacing its
references puts a text in the place of each mention that resolves and leaves
the others.  The result may mention what no part of it did: an opening brace
that was left and a text that was put in behind it can make a reference
together.  They cannot if every opened name comes to its end inside its own
text, and then the mentions of the result are those that were left and those
of the texts put in.
-/

/-- The form of names in references. -/
def IsName (name : List Char) : Prop :=
  name ≠ [] ∧ ∀ c ∈ name, isNameChar c = true

theorem not_isNameChar_brace : isNameChar '}' = false := by decide

theorem not_mem_of_name {name : List Char} (letters : ∀ c ∈ name, isNameChar c = true) :
    '{' ∉ name := fun inside => absurd (letters _ inside) (by decide)

theorem takeWhile_of_ends {name after : List Char} {c : Char}
    (letters : ∀ d ∈ name, isNameChar d = true) (ends : isNameChar c = false) :
    (name ++ c :: after).takeWhile isNameChar = name := by
  rw [List.takeWhile_append_of_pos letters, List.takeWhile_cons_of_neg (by simp [ends]),
    List.append_nil]

/-- Whether a name is closed depends on the character behind it alone. -/
theorem name?_of_ends {name after : List Char} {c : Char}
    (letters : ∀ d ∈ name, isNameChar d = true) (ends : isNameChar c = false) :
    name? (name ++ c :: after) = if c = '}' ∧ name ≠ [] then some (name, after) else none := by
  rw [name?, takeWhile_of_ends letters ends, List.drop_left]
  cases name with
  | nil => simp
  | cons d rest =>
    by_cases closed : c = '}'
    · simp [closed]
    · simp only [closed, List.isEmpty_cons]
      split
      · cases ‹false = true›
      · split
        · next same => exact absurd (List.cons.inj same).1 closed
        · simp

theorem name?_eq_some_iff {cs name after : List Char} :
    name? cs = some (name, after) ↔ IsName name ∧ cs = name ++ '}' :: after := by
  constructor
  · intro found
    unfold name? at found
    dsimp only at found
    split at found
    · cases found
    · next some =>
      split at found
      · next rest behind =>
        cases found
        refine ⟨⟨by simpa using some, fun c => List.mem_takeWhile_imp⟩, ?_⟩
        rw [← behind, List.prefix_iff_eq_append.mp (List.takeWhile_prefix _)]
      · cases found
  · rintro ⟨⟨some, letters⟩, rfl⟩
    rw [name?_of_ends letters not_isNameChar_brace, if_pos ⟨rfl, some⟩]

/-! ## The names that a text mentions -/

/-- The names between braces, in order. -/
def mentioned : List Char → List (List Char)
  | [] => []
  | c :: rest =>
    (if c = '{' then ((name? rest).map Prod.fst).toList else []) ++ mentioned rest

theorem mentioned_cons_of_ne {c : Char} (other : c ≠ '{') (rest : List Char) :
    mentioned (c :: rest) = mentioned rest := by
  rw [mentioned, if_neg other, List.nil_append]

theorem mentioned_brace (rest : List Char) :
    mentioned ('{' :: rest) = ((name? rest).map Prod.fst).toList ++ mentioned rest := by
  rw [mentioned, if_pos rfl]

theorem mentioned_append_of_not_mem {cs : List Char} (none : '{' ∉ cs) (rest : List Char) :
    mentioned (cs ++ rest) = mentioned rest := by
  induction cs with
  | nil => rfl
  | cons c cs ih =>
    rw [List.mem_cons, not_or] at none
    rw [List.cons_append, mentioned_cons_of_ne (Ne.symm none.1), ih none.2]

theorem mentioned_of_not_mem {cs : List Char} (none : '{' ∉ cs) : mentioned cs = [] := by
  rw [← List.append_nil cs, mentioned_append_of_not_mem none, mentioned]

theorem mentioned_reference {name : List Char} (isName : IsName name) (after : List Char) :
    mentioned ('{' :: (name ++ '}' :: after)) = name :: mentioned after := by
  rw [mentioned_brace, name?_eq_some_iff.mpr ⟨isName, rfl⟩,
    mentioned_append_of_not_mem (not_mem_of_name isName.2), mentioned_cons_of_ne (by decide)]
  rfl

theorem mem_mentioned_iff {name cs : List Char} :
    name ∈ mentioned cs ↔ IsName name ∧ '{' :: (name ++ ['}']) <:+: cs := by
  induction cs with
  | nil => simp [mentioned]
  | cons c rest ih =>
    rw [mentioned, List.mem_append, ih, List.infix_cons_iff, List.cons_prefix_cons]
    constructor
    · rintro (here | ⟨isName, behind⟩)
      · split at here
        · next brace =>
          obtain ⟨⟨found, after⟩, closed, rfl⟩ :=
            Option.map_eq_some_iff.mp (Option.mem_toList.mp here)
          obtain ⟨isName, rfl⟩ := name?_eq_some_iff.mp closed
          exact ⟨isName, Or.inl ⟨brace.symm, after, by simp⟩⟩
        · cases here
      · exact ⟨isName, Or.inr behind⟩
    · rintro ⟨isName, ⟨rfl, after, rfl⟩ | behind⟩
      · left
        rw [if_pos rfl, List.append_assoc, List.singleton_append,
          name?_eq_some_iff.mpr ⟨isName, rfl⟩]
        exact List.mem_singleton_self name
      · exact Or.inr ⟨isName, behind⟩

/-- What a part of a text mentions the text mentions. -/
theorem mentioned_subset {part cs : List Char} (inside : part <:+: cs) :
    mentioned part ⊆ mentioned cs := fun _ there =>
  have ⟨isName, found⟩ := mem_mentioned_iff.mp there
  mem_mentioned_iff.mpr ⟨isName, found.trans inside⟩

/-! ## Replacing -/

/-- A text and the same text with its references replaced. -/
inductive Expands (resolve : String → Except Failure (Option String)) :
    List Char → List Char → Prop
  | done : Expands resolve [] []
  | plain {c : Char} {rest out : List Char} (opens : c = '{' → name? rest = none)
      (behind : Expands resolve rest out) : Expands resolve (c :: rest) (c :: out)
  /-- A name that leads to nothing. -/
  | left {name after out : List Char} (isName : IsName name)
      (leads : resolve (String.ofList name) = .ok none) (behind : Expands resolve after out) :
      Expands resolve ('{' :: (name ++ '}' :: after)) ('{' :: (name ++ '}' :: out))
  | put {name after out : List Char} {text : String} (isName : IsName name)
      (leads : resolve (String.ofList name) = .ok (some text))
      (behind : Expands resolve after out) :
      Expands resolve ('{' :: (name ++ '}' :: after)) (text.toList ++ out)

variable {resolve : String → Except Failure (Option String)} {cs out : List Char}

theorem expandWithin_plain {c : Char} {rest : List Char} (opens : c = '{' → name? rest = none)
    (fuel : Nat) :
    expandWithin resolve (fuel + 1) (c :: rest) =
      (expandWithin resolve fuel rest).map (c :: ·) := by
  have none : (if c = '{' then name? rest else none) = none := by
    split
    · next brace => exact opens brace
    · rfl
  rw [expandWithin, none]

theorem expandWithin_reference {name : List Char} (isName : IsName name) (after : List Char)
    (fuel : Nat) :
    expandWithin resolve (fuel + 1) ('{' :: (name ++ '}' :: after)) =
      (resolve (String.ofList name) >>= fun replaced =>
        (expandWithin resolve fuel after).map fun tail =>
          (match replaced with
            | some text => text.toList
            | none => '{' :: (name ++ ['}'])) ++ tail) := by
  have found : (if '{' = '{' then name? (name ++ '}' :: after) else none) =
      some (name, after) := by
    rw [if_pos rfl, name?_eq_some_iff.mpr ⟨isName, rfl⟩]
  rw [expandWithin, found]
  rfl

theorem bind_eq_ok_iff {α β ε : Type} {x : Except ε α} {f : α → Except ε β} {b : β} :
    x >>= f = .ok b ↔ ∃ a, x = .ok a ∧ f a = .ok b := by
  cases x with
  | error fault => simp [bind, Except.bind]
  | ok a => simp [bind, Except.bind]

theorem map_eq_ok_iff {α β ε : Type} {x : Except ε α} {f : α → β} {b : β} :
    x.map f = .ok b ↔ ∃ a, x = .ok a ∧ f a = b := by
  cases x with
  | error fault => simp [Except.map]
  | ok a => simp [Except.map]

/-- Every text begins with a reference, or with a character that begins none. -/
theorem reference_or_plain (c : Char) (rest : List Char) :
    (∃ name after, IsName name ∧ c = '{' ∧ rest = name ++ '}' :: after) ∨
      (c = '{' → name? rest = none) := by
  cases found : name? rest with
  | none => exact Or.inr fun _ => rfl
  | some pair =>
    obtain ⟨isName, same⟩ := name?_eq_some_iff.mp found
    by_cases brace : c = '{'
    · exact Or.inl ⟨pair.1, pair.2, isName, brace, same⟩
    · exact Or.inr fun opens => absurd opens brace

theorem expands_of_expandWithin {fuel : Nat} (enough : cs.length ≤ fuel)
    (replaced : expandWithin resolve fuel cs = .ok out) : Expands resolve cs out := by
  induction fuel generalizing cs out with
  | zero =>
    cases List.length_eq_zero_iff.mp (Nat.le_zero.mp enough)
    cases replaced
    exact .done
  | succ fuel ih =>
    cases cs with
    | nil =>
      cases replaced
      exact .done
    | cons c rest =>
      rw [List.length_cons, Nat.succ_le_succ_iff] at enough
      rcases reference_or_plain c rest with ⟨name, after, isName, rfl, rfl⟩ | opens
      · rw [expandWithin_reference isName] at replaced
        obtain ⟨text, leads, replaced⟩ := bind_eq_ok_iff.mp replaced
        obtain ⟨tail, behind, rfl⟩ := map_eq_ok_iff.mp replaced
        have shorter : after.length ≤ fuel := by
          rw [List.length_append, List.length_cons] at enough
          omega
        cases text with
        | none =>
          simp only [List.cons_append, List.append_assoc, List.nil_append]
          exact .left isName leads (ih shorter behind)
        | some text => exact .put isName leads (ih shorter behind)
      · rw [expandWithin_plain opens] at replaced
        obtain ⟨tail, behind, rfl⟩ := map_eq_ok_iff.mp replaced
        exact .plain opens (ih enough behind)

theorem expandWithin_of_expands {fuel : Nat} (enough : cs.length ≤ fuel)
    (expands : Expands resolve cs out) : expandWithin resolve fuel cs = .ok out := by
  induction expands generalizing fuel with
  | done => cases fuel <;> rfl
  | plain opens behind ih =>
    obtain ⟨fuel, rfl⟩ := Nat.exists_eq_add_of_lt (Nat.lt_of_lt_of_le (Nat.succ_pos _) enough)
    rw [Nat.zero_add] at enough ⊢
    rw [expandWithin_plain opens, ih (Nat.le_of_succ_le_succ enough)]
    rfl
  | left isName leads behind ih =>
    rw [List.length_cons, List.length_append, List.length_cons] at enough
    obtain ⟨fuel, rfl⟩ := Nat.exists_eq_succ_of_ne_zero (show fuel ≠ 0 by omega)
    rw [expandWithin_reference isName, leads, ih (by omega)]
    simp [bind, Except.bind, Except.map]
  | put isName leads behind ih =>
    rw [List.length_cons, List.length_append, List.length_cons] at enough
    obtain ⟨fuel, rfl⟩ := Nat.exists_eq_succ_of_ne_zero (show fuel ≠ 0 by omega)
    rw [expandWithin_reference isName, leads, ih (by omega)]
    rfl

/-- Replacing the references of a text, step by step. -/
theorem expandBy_eq_ok_iff {s s' : String} :
    expandBy resolve s = .ok s' ↔ Expands resolve s.toList s'.toList := by
  rw [expandBy, map_eq_ok_iff]
  constructor
  · rintro ⟨out, replaced, rfl⟩
    rw [String.toList_ofList]
    exact expands_of_expandWithin s.length_toList.le replaced
  · intro expands
    exact ⟨s'.toList, expandWithin_of_expands s.length_toList.le expands, String.ofList_toList⟩

/-- Only the names that a text mentions count. -/
theorem Expands.congr {other : String → Except Failure (Option String)}
    (expands : Expands resolve cs out)
    (agree : ∀ name ∈ mentioned cs, resolve (String.ofList name) = other (String.ofList name)) :
    Expands other cs out := by
  induction expands with
  | done => exact .done
  | plain opens behind ih =>
    refine .plain opens (ih fun name there => agree name ?_)
    rw [mentioned]
    exact List.mem_append_right _ there
  | left isName leads behind ih =>
    rw [mentioned_reference isName, List.forall_mem_cons] at agree
    exact .left isName (agree.1 ▸ leads) (ih agree.2)
  | put isName leads behind ih =>
    rw [mentioned_reference isName, List.forall_mem_cons] at agree
    exact .put isName (agree.1 ▸ leads) (ih agree.2)

/-- A text none of whose names leads anywhere stays as it is. -/
theorem expands_self {cs : List Char}
    (settled : ∀ name ∈ mentioned cs, resolve (String.ofList name) = .ok none) :
    Expands resolve cs cs := by
  induction length : cs.length using Nat.strong_induction_on generalizing cs with
  | _ n ih =>
    cases cs with
    | nil => exact .done
    | cons c rest =>
      rw [← length] at ih
      rcases reference_or_plain c rest with ⟨name, after, isName, rfl, rfl⟩ | opens
      · rw [mentioned_reference isName, List.forall_mem_cons] at settled
        refine .left isName settled.1 (ih after.length ?_ settled.2 rfl)
        rw [List.length_cons, List.length_append, List.length_cons]
        omega
      · rw [mentioned, List.forall_mem_append] at settled
        exact .plain opens (ih rest.length (Nat.lt_succ_self _) settled.2 rfl)

/-- Whatever a text mentions that was put in, the result mentions. -/
theorem Expands.mentioned_of_put (expands : Expands resolve cs out) {name : List Char}
    (there : name ∈ mentioned cs) {text : String}
    (leads : resolve (String.ofList name) = .ok (some text)) :
    mentioned text.toList ⊆ mentioned out := by
  induction expands with
  | done => cases there
  | @plain c rest out opens behind ih =>
    have behind : name ∈ mentioned rest := by
      rcases List.mem_append.mp there with here | behind
      · split at here
        · next brace =>
          rw [opens brace] at here
          cases here
        · cases here
      · exact behind
    exact List.Subset.trans (ih behind) (mentioned_subset (List.suffix_cons _ _).isInfix)
  | left isName nowhere behind ih =>
    rw [mentioned_reference isName] at there ⊢
    rcases List.mem_cons.mp there with rfl | behind
    · cases leads.symm.trans nowhere
    · exact List.subset_cons_of_subset _ (ih behind)
  | put isName put behind ih =>
    rw [mentioned_reference isName] at there
    rcases List.mem_cons.mp there with rfl | behind
    · cases leads.symm.trans put
      exact mentioned_subset (List.prefix_append _ _).isInfix
    · exact List.Subset.trans (ih behind)
        (mentioned_subset (List.suffix_append _ _).isInfix)

/-! ## Texts whose opened names end -/

/-- True if something holds of the first character that is of no name and of what
follows it. -/
def EndsIn (p : Char → List Char → Prop) : List Char → Prop
  | [] => False
  | c :: rest => if isNameChar c then EndsIn p rest else p c rest

/-- True if something holds of what stands behind each opening brace. -/
def EachOpening (p : List Char → Prop) : List Char → Prop
  | [] => True
  | c :: rest => (c = '{' → p rest) ∧ EachOpening p rest

instance decidableEndsIn {p : Char → List Char → Prop} [∀ c rest, Decidable (p c rest)] :
    DecidablePred (EndsIn p)
  | [] => inferInstanceAs (Decidable False)
  | c :: rest =>
    have := decidableEndsIn (p := p) rest
    inferInstanceAs (Decidable (if isNameChar c then EndsIn p rest else p c rest))

instance decidableEachOpening {p : List Char → Prop} [DecidablePred p] :
    DecidablePred (EachOpening p)
  | [] => inferInstanceAs (Decidable True)
  | c :: rest =>
    have := decidableEachOpening (p := p) rest
    inferInstanceAs (Decidable ((c = '{' → p rest) ∧ EachOpening p rest))

/-- A text in which every opened name ends before the text does, and before the
next slash. -/
def Shut (cs : List Char) : Prop :=
  EachOpening (EndsIn fun c _ => c ≠ '/') cs

/-- A text that is shut and in which no reference that resolves stands directly
behind an opened name. -/
def Tidy (resolve : String → Except Failure (Option String)) (cs : List Char) : Prop :=
  EachOpening (EndsIn fun c after => c ≠ '/' ∧
    (c = '{' → ∀ pair ∈ name? after, resolve (String.ofList pair.1) = .ok none)) cs

instance (cs : List Char) : Decidable (Shut cs) := inferInstanceAs (Decidable (EachOpening _ _))

instance (resolve : String → Except Failure (Option String)) (cs : List Char) :
    Decidable (Tidy resolve cs) := inferInstanceAs (Decidable (EachOpening _ _))

theorem shut_cons {c : Char} :
    Shut (c :: cs) ↔ (c = '{' → EndsIn (fun d _ => d ≠ '/') cs) ∧ Shut cs := Iff.rfl

theorem endsIn_iff {p : Char → List Char → Prop} {cs : List Char} :
    EndsIn p cs ↔ ∃ name c after, cs = name ++ c :: after ∧
      (∀ d ∈ name, isNameChar d = true) ∧ isNameChar c = false ∧ p c after := by
  induction cs with
  | nil => simp [EndsIn]
  | cons d rest ih =>
    rw [EndsIn]
    cases letter : isNameChar d with
    | true =>
      rw [if_pos rfl, ih]
      constructor
      · rintro ⟨name, c, after, rfl, letters, ends, holds⟩
        exact ⟨d :: name, c, after, rfl, List.forall_mem_cons.mpr ⟨letter, letters⟩, ends, holds⟩
      · rintro ⟨_ | ⟨first, name⟩, c, after, same, letters, ends, holds⟩
        · cases same
          cases letter.symm.trans ends
        · cases same
          exact ⟨name, c, after, rfl, (List.forall_mem_cons.mp letters).2, ends, holds⟩
    | false =>
      rw [if_neg (by simp)]
      constructor
      · exact fun holds => ⟨[], d, rest, rfl, by simp, letter, holds⟩
      · rintro ⟨_ | ⟨first, name⟩, c, after, same, letters, ends, holds⟩
        · cases same
          exact holds
        · cases same
          cases letter.symm.trans (letters _ List.mem_cons_self)

theorem EndsIn.append {p : Char → List Char → Prop} (ends : EndsIn p cs)
    (later : ∀ c after more, p c after → p c (after ++ more)) (more : List Char) :
    EndsIn p (cs ++ more) := by
  obtain ⟨name, c, after, rfl, letters, other, holds⟩ := endsIn_iff.mp ends
  exact endsIn_iff.mpr ⟨name, c, after ++ more, by simp, letters, other, later c after more holds⟩

theorem shut_of_not_mem (none : '{' ∉ cs) : Shut cs := by
  induction cs with
  | nil => trivial
  | cons c rest ih =>
    rw [List.mem_cons, not_or] at none
    exact ⟨fun brace => absurd brace.symm none.1, ih none.2⟩

theorem Shut.append (first : Shut cs) (second : Shut out) : Shut (cs ++ out) := by
  induction cs with
  | nil => exact second
  | cons c rest ih =>
    exact ⟨fun brace => (first.1 brace).append (fun _ _ _ holds => holds) out, ih first.2⟩

theorem Tidy.shut (tidy : Tidy resolve cs) : Shut cs := by
  induction cs with
  | nil => trivial
  | cons c rest ih =>
    refine ⟨fun brace => ?_, ih tidy.2⟩
    obtain ⟨name, d, after, rfl, letters, ends, notSlash, -⟩ := endsIn_iff.mp (tidy.1 brace)
    exact endsIn_iff.mpr ⟨name, d, after, rfl, letters, ends, notSlash⟩

/-- For a tidy text it only counts which of its names lead nowhere. -/
theorem Tidy.mono {other : String → Except Failure (Option String)} (tidy : Tidy resolve cs)
    (still : ∀ name ∈ mentioned cs, resolve (String.ofList name) = .ok none →
      other (String.ofList name) = .ok none) : Tidy other cs := by
  induction cs with
  | nil => trivial
  | cons c rest ih =>
    have subset : mentioned rest ⊆ mentioned (c :: rest) :=
      mentioned_subset (List.suffix_cons _ _).isInfix
    refine ⟨fun brace => ?_, ih tidy.2 fun name there => still name (subset there)⟩
    obtain ⟨name, d, after, rfl, letters, ends, notSlash, stays⟩ := endsIn_iff.mp (tidy.1 brace)
    refine endsIn_iff.mpr
      ⟨name, d, after, rfl, letters, ends, notSlash, fun opens pair closed => ?_⟩
    refine still pair.1 (subset ?_) (stays opens pair closed)
    subst opens
    rw [mentioned_append_of_not_mem (not_mem_of_name letters), mentioned_brace, closed]
    exact List.mem_append_left _ List.mem_cons_self

theorem name?_append_of_endsIn {p : Char → List Char → Prop} (ends : EndsIn p cs)
    (more : List Char) : (name? (cs ++ more)).map Prod.fst = (name? cs).map Prod.fst := by
  obtain ⟨name, c, after, rfl, letters, other, -⟩ := endsIn_iff.mp ends
  rw [List.append_assoc, List.cons_append, name?_of_ends letters other, name?_of_ends letters other]
  split <;> rfl

/-- A shut text keeps what it mentions for itself. -/
theorem mentioned_append (shut : Shut cs) (more : List Char) :
    mentioned (cs ++ more) = mentioned cs ++ mentioned more := by
  induction cs with
  | nil => rfl
  | cons c rest ih =>
    rw [List.cons_append, mentioned, mentioned, ih shut.2, List.append_assoc]
    split
    · next brace => rw [name?_append_of_endsIn (shut.1 brace)]
    · rfl

theorem Shut.reference {name : List Char} (isName : IsName name) (shut : Shut cs) :
    Shut ('{' :: (name ++ '}' :: cs)) :=
  ⟨fun _ => endsIn_iff.mpr ⟨name, '}', cs, rfl, isName.2, not_isNameChar_brace, by decide⟩,
    (shut_of_not_mem (not_mem_of_name isName.2)).append
      ⟨fun brace => absurd brace (by decide), shut⟩⟩

theorem EachOpening.of_append {p : List Char → Prop} {before : List Char}
    (each : EachOpening p (before ++ cs)) : EachOpening p cs := by
  induction before with
  | nil => exact each
  | cons c rest ih => exact ih each.2

theorem Expands.exists_of_cons {c : Char} (expands : Expands resolve (c :: cs) out)
    (other : c ≠ '{') : ∃ rest, out = c :: rest ∧ Expands resolve cs rest := by
  cases expands with
  | plain opens behind => exact ⟨_, rfl, behind⟩
  | left | put => exact absurd rfl other

theorem Expands.exists_of_append {name : List Char} (expands : Expands resolve (name ++ cs) out)
    (none : '{' ∉ name) : ∃ rest, out = name ++ rest ∧ Expands resolve cs rest := by
  induction name generalizing out with
  | nil => exact ⟨out, rfl, expands⟩
  | cons c name ih =>
    rw [List.mem_cons, not_or] at none
    obtain ⟨behind, rfl, later⟩ := expands.exists_of_cons (Ne.symm none.1)
    obtain ⟨rest, rfl, last⟩ := ih later none.2
    exact ⟨rest, rfl, last⟩

/-- A reference is replaced by what it leads to, and left if it leads to
nothing. -/
theorem Expands.exists_of_reference {name after : List Char} (isName : IsName name)
    (expands : Expands resolve ('{' :: (name ++ '}' :: after)) out) :
    ∃ replaced rest, resolve (String.ofList name) = .ok replaced ∧ Expands resolve after rest ∧
      out = (replaced.map String.toList).getD ('{' :: (name ++ ['}'])) ++ rest := by
  have whole := expandWithin_of_expands (Nat.le_refl _) expands
  rw [List.length_cons, expandWithin_reference isName] at whole
  obtain ⟨replaced, leads, whole⟩ := bind_eq_ok_iff.mp whole
  obtain ⟨rest, behind, rfl⟩ := map_eq_ok_iff.mp whole
  refine ⟨replaced, rest, leads, expands_of_expandWithin ?_ behind, ?_⟩
  · rw [List.length_append, List.length_cons]
    omega
  · cases replaced <;> rfl

/-- The first character of a text stays unless a reference is replaced there. -/
theorem Expands.head {c : Char} (expands : Expands resolve (c :: cs) out)
    (stays : c = '{' → ∀ pair ∈ name? cs, resolve (String.ofList pair.1) = .ok none) :
    ∃ rest, out = c :: rest := by
  cases expands with
  | plain => exact ⟨_, rfl⟩
  | left => exact ⟨_, rfl⟩
  | put isName leads behind =>
    have closed := stays rfl _ (Option.mem_def.mpr (name?_eq_some_iff.mpr ⟨isName, rfl⟩))
    cases leads.symm.trans closed

theorem Tidy.behind {name : List Char} (tidy : Tidy resolve ('{' :: (name ++ '}' :: cs))) :
    Tidy resolve cs := by
  have inner : EachOpening _ (name ++ '}' :: cs) := tidy.2
  exact inner.of_append.2

/-- A name that a text mentions once its references are replaced: one that was
left, or one of a text that was put in. -/
inductive Remains (resolve : String → Except Failure (Option String)) (cs name : List Char) : Prop
  | left (there : name ∈ mentioned cs) (leads : resolve (String.ofList name) = .ok none)
  | put {other : List Char} {text : String} (there : other ∈ mentioned cs)
      (leads : resolve (String.ofList other) = .ok (some text))
      (inside : name ∈ mentioned text.toList)

theorem Remains.mono {more name : List Char} (remains : Remains resolve cs name)
    (subset : mentioned cs ⊆ mentioned more) : Remains resolve more name := by
  cases remains with
  | left there leads => exact .left (subset there) leads
  | put there leads inside => exact .put (subset there) leads inside

/-- If the texts put in are shut, so is the result, and it mentions no more than
what was left and what they mention. -/
theorem Expands.shut (expands : Expands resolve cs out) (tidy : Tidy resolve cs)
    (shut : ∀ name ∈ mentioned cs, ∀ text,
      resolve (String.ofList name) = .ok (some text) → Shut text.toList) :
    Shut out ∧ ∀ name ∈ mentioned out, Remains resolve cs name := by
  induction expands with
  | done => exact ⟨trivial, fun _ there => absurd there List.not_mem_nil⟩
  | @plain c rest out opens behind ih =>
    have subset : mentioned rest ⊆ mentioned (c :: rest) :=
      mentioned_subset (List.suffix_cons _ _).isInfix
    obtain ⟨shutBehind, remain⟩ := ih tidy.2 fun name there => shut name (subset there)
    by_cases brace : c = '{'
    · subst brace
      obtain ⟨name, d, after, rfl, letters, ends, notSlash, stays⟩ := endsIn_iff.mp (tidy.1 rfl)
      obtain ⟨tail, rfl, last⟩ := behind.exists_of_append (not_mem_of_name letters)
      obtain ⟨more, rfl⟩ := last.head stays
      -- What stands up to the end of the name is still there, so it is as little closed as it was.
      have notClosed : name? (name ++ d :: more) = none := by
        have before := opens rfl
        rw [name?_of_ends letters ends] at before ⊢
        split at before
        · cases before
        · next open' => rw [if_neg open']
      refine ⟨⟨fun _ => endsIn_iff.mpr ⟨name, d, more, rfl, letters, ends, notSlash⟩, shutBehind⟩,
        fun other there => ?_⟩
      rw [mentioned_brace, notClosed] at there
      exact (remain other there).mono subset
    · refine ⟨⟨fun same => absurd same brace, shutBehind⟩, fun name there => ?_⟩
      rw [mentioned_cons_of_ne brace] at there
      exact (remain name there).mono subset
  | @left name after out isName leads behind ih =>
    have names := mentioned_reference isName after
    rw [names] at shut
    obtain ⟨shutBehind, remain⟩ := ih tidy.behind (List.forall_mem_cons.mp shut).2
    refine ⟨shutBehind.reference isName, ?_⟩
    rw [mentioned_reference isName, List.forall_mem_cons]
    exact ⟨.left (names ▸ List.mem_cons_self) leads,
      fun other there => (remain other there).mono (names ▸ List.subset_cons_self _ _)⟩
  | @put name after out text isName leads behind ih =>
    have names := mentioned_reference isName after
    rw [names] at shut
    obtain ⟨shutBehind, remain⟩ := ih tidy.behind (List.forall_mem_cons.mp shut).2
    have shutText := shut name List.mem_cons_self text leads
    refine ⟨shutText.append shutBehind, fun other there => ?_⟩
    rw [mentioned_append shutText, List.mem_append] at there
    rcases there with inside | there
    · exact .put (names ▸ List.mem_cons_self) leads inside
    · exact (remain other there).mono (names ▸ List.subset_cons_self _ _)

/-! ## Paths -/

theorem endsIn_append_slash {rest : List Char} :
    EndsIn (fun c _ => c ≠ '/') (cs ++ '/' :: rest) ↔ EndsIn (fun c _ => c ≠ '/') cs := by
  induction cs with
  | nil => simp [EndsIn, isNameChar]
  | cons c cs ih =>
    rw [List.cons_append, EndsIn, EndsIn]
    split
    · exact ih
    · rfl

theorem shut_append_slash {rest : List Char} :
    Shut (cs ++ '/' :: rest) ↔ Shut cs ∧ Shut rest := by
  induction cs with
  | nil => simp [Shut, EachOpening]
  | cons c cs ih => rw [List.cons_append, shut_cons, shut_cons, ih, endsIn_append_slash, and_assoc]

theorem name?_append_slash (cs rest : List Char) :
    (name? (cs ++ '/' :: rest)).map Prod.fst = (name? cs).map Prod.fst := by
  by_cases ends : EndsIn (fun _ _ => True) cs
  · exact name?_append_of_endsIn ends _
  · have letters : ∀ c ∈ cs, isNameChar c = true := by
      induction cs with
      | nil => simp
      | cons c cs ih =>
        rw [EndsIn] at ends
        cases letter : isNameChar c with
        | true =>
          rw [if_pos letter] at ends
          exact List.forall_mem_cons.mpr ⟨letter, ih ends⟩
        | false => exact absurd trivial (by rwa [if_neg (by simp [letter])] at ends)
    have open' : name? cs = none := by
      cases found : name? cs with
      | none => rfl
      | some pair =>
        obtain ⟨-, rfl⟩ := name?_eq_some_iff.mp found
        exact absurd (letters '}' (by simp)) (by decide)
    rw [open', name?_of_ends letters (by decide), if_neg (by simp)]

/-- No name reaches over a slash. -/
theorem mentioned_append_slash (cs rest : List Char) :
    mentioned (cs ++ '/' :: rest) = mentioned cs ++ mentioned rest := by
  induction cs with
  | nil => exact mentioned_cons_of_ne (by decide) rest
  | cons c cs ih => rw [List.cons_append, mentioned, mentioned, ih, name?_append_slash,
      List.append_assoc]

theorem toList_join_cons (part : String) (parts : List String) (some : parts ≠ []) :
    (Text.join "/" (part :: parts)).toList =
      part.toList ++ '/' :: (Text.join "/" parts).toList :=
  Text.toList_join_cons "/" part some

theorem mentioned_join (parts : List String) :
    mentioned (Text.join "/" parts).toList = parts.flatMap fun part => mentioned part.toList := by
  induction parts with
  | nil => rfl
  | cons part parts ih =>
    by_cases some : parts = []
    · simp [some, Text.join]
    · rw [toList_join_cons part parts some, mentioned_append_slash, ih, List.flatMap_cons]

theorem shut_join {parts : List String} :
    Shut (Text.join "/" parts).toList ↔ ∀ part ∈ parts, Shut part.toList := by
  induction parts with
  | nil => simp [Text.join, Shut, EachOpening]
  | cons part parts ih =>
    by_cases some : parts = []
    · simp [some, Text.join]
    · rw [toList_join_cons part parts some, shut_append_slash, ih, List.forall_mem_cons]

theorem toList_join_pieces (cs : List Char) :
    (Text.join "/" ((Cut.pieces '/' cs).map String.ofList)).toList = cs := by
  induction cs with
  | nil => simp [Cut.pieces, Text.join]
  | cons c rest ih =>
    have some := Cut.pieces_ne_nil '/' rest
    unfold Cut.pieces
    split
    · next slash =>
      rw [List.map_cons, toList_join_cons _ _ (by simpa using some), ih, slash]
      simp
    · cases pieces : Cut.pieces '/' rest with
      | nil => exact absurd pieces some
      | cons piece others =>
        rw [pieces] at ih
        cases others with
        | nil => simpa [Text.join] using ih
        | cons other others =>
          rw [List.map_cons, toList_join_cons _ _ (by simp)] at ih ⊢
          rw [← ih]
          simp

theorem join_pieces (s : String) : Text.join "/" (Text.pieces '/' s) = s :=
  String.toList_inj.mp (toList_join_pieces s.toList)

/-- What stands before the components of a path opens no name. -/
theorem exists_front (p : Path) :
    ∃ front, '{' ∉ front ∧ p.text.toList = front ++ (Text.join "/" p.parts).toList := by
  obtain ⟨root, parts⟩ := p
  cases root with
  | single => exact ⟨['/'], by decide, by simp [Path.text, Path.Root.text]⟩
  | double => exact ⟨['/', '/'], by decide, by simp [Path.text, Path.Root.text]⟩
  | none =>
    cases parts with
    | nil => exact ⟨['.'], by decide, by simp [Path.text, Text.join]⟩
    | cons part parts => exact ⟨[], by decide, by simp [Path.text, Path.Root.text]⟩

theorem shut_append_of_not_mem {front : List Char} (none : '{' ∉ front) :
    Shut (front ++ cs) ↔ Shut cs :=
  ⟨EachOpening.of_append, (shut_of_not_mem none).append⟩

theorem mentioned_of_not_isPart {part : String} (dropped : Path.isPart part = false) :
    mentioned part.toList = [] := by
  have blank : part = "" ∨ part = "." := by
    simpa [Path.isPart, Classical.or_iff_not_imp_left] using dropped
  rcases blank with rfl | rfl <;> rfl

/-- The components that a path drops mention nothing. -/
theorem mentioned_ofText (s : String) :
    mentioned (Path.ofText s).text.toList = mentioned s.toList := by
  have dropped (parts : List String) :
      (parts.filter Path.isPart).flatMap (fun part => mentioned part.toList) =
        parts.flatMap fun part => mentioned part.toList := by
    induction parts with
    | nil => rfl
    | cons part parts ih =>
      rw [List.filter_cons, List.flatMap_cons]
      split
      · rw [List.flatMap_cons, ih]
      · next kept =>
        rw [ih, mentioned_of_not_isPart (Bool.eq_false_iff.mpr kept), List.nil_append]
  obtain ⟨front, none, same⟩ := exists_front (.ofText s)
  calc
    mentioned (Path.ofText s).text.toList
        = (Path.ofText s).parts.flatMap fun part => mentioned part.toList := by
      rw [same, mentioned_append_of_not_mem none, mentioned_join]
    _ = mentioned (Text.join "/" (Text.pieces '/' s)).toList := by
      rw [mentioned_join]
      exact dropped _
    _ = mentioned s.toList := by rw [join_pieces]

theorem shut_ofText {s : String} (shut : Shut s.toList) : Shut (Path.ofText s).text.toList := by
  obtain ⟨front, none, same⟩ := exists_front (.ofText s)
  rw [← join_pieces s, shut_join] at shut
  rw [same, shut_append_of_not_mem none, shut_join]
  exact fun part there => shut part (List.mem_filter.mp there).1

end Reference

end Ratchet
