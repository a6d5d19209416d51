import Ratchet.Proofs.Text.Unbroken
import Ratchet.Value.Display

namespace Ratchet

/-!
# Shown values are on one line

The only texts of unknown characters in a shown value are quoted, and quoting leaves
no boundary.  All else is digits and words of the program.
-/

open Text

theorem Date.unbroken_shown (d : Date) : Unbroken d.shown := by
  delta Date.shown
  simp only [unbroken_append, unbroken_integer, unbroken_natural, and_true]
  decide +kernel

namespace Moment

theorem unbroken_offsetShown (seconds : Int) : Unbroken (offsetShown seconds) := by
  have named (name : String) (n : Int) (letters : Unbroken name) : Unbroken (name ++ toString n) :=
    unbroken_append.mpr ⟨letters, unbroken_integer n⟩
  unfold offsetShown
  split
  · decide +kernel
  · extract_lets days left parts
    refine unbroken_append.mpr ⟨unbroken_append.mpr ⟨by decide +kernel, ?_⟩, by decide +kernel⟩
    refine unbroken_intercalate (by decide) fun part listed => ?_
    rcases List.mem_append.mp listed with listed | listed <;> split at listed <;>
      simp only [List.not_mem_nil, List.mem_singleton] at listed <;> subst listed <;>
      exact named _ _ (by decide +kernel)

theorem unbroken_shown (m : Moment) : Unbroken m.shown := by
  have optional {c : Prop} [Decidable c] (n : Nat) :
      ∀ part ∈ (if c then [] else [toString n]), Unbroken part := by
    split
    · exact List.forall_mem_nil _
    · exact List.forall_mem_singleton.mpr (unbroken_natural n)
  unfold shown
  extract_lets fields
  refine unbroken_append.mpr ⟨unbroken_append.mpr ⟨by decide +kernel, ?_⟩, by decide +kernel⟩
  refine unbroken_intercalate (by decide) ?_
  simp only [fields, List.forall_mem_append, List.forall_mem_cons, unbroken_integer,
    unbroken_natural, true_and]
  refine ⟨⟨⟨List.forall_mem_nil _, optional _⟩, optional _⟩, ?_⟩
  cases m.offset with
  | none => exact List.forall_mem_nil _
  | some seconds =>
    exact List.forall_mem_singleton.mpr
      (unbroken_append.mpr ⟨by decide +kernel, unbroken_offsetShown seconds⟩)

end Moment

namespace Binary

theorem unbroken_pointedDigits (d : Shortest.Decimal) : Lines.Unbroken (pointedDigits d).1 := by
  refine (Lines.unbroken_toDigits d.digits).of_subset fun c inside => ?_
  have kept := List.mem_reverse.mp inside
  exact List.mem_reverse.mp ((List.dropWhile_suffix _).subset kept)

theorem unbroken_text (x : Binary) : Unbroken x.text := by
  have sign : Unbroken (if x.isNegative then "-" else "") := by split <;> decide
  unfold text
  extract_lets sign'
  split
  · decide
  · split
    · exact unbroken_append.mpr ⟨sign, by decide⟩
    · split
      · exact unbroken_append.mpr ⟨sign, by decide⟩
      · have digits := unbroken_pointedDigits (Shortest.digits x)
        split
        next ds point same =>
        rw [same] at digits
        extract_lets e exponent body
        refine unbroken_append.mpr ⟨sign, unbroken_ofList.mpr ?_⟩
        have zeros (n : Nat) : Lines.Unbroken (List.replicate n '0') :=
          Lines.unbroken_replicate n (by decide)
        have first (n : Nat) : Lines.Unbroken (ds.take n) := digits.of_subset (List.take_subset n ds)
        have later (n : Nat) : Lines.Unbroken (ds.drop n) := digits.of_subset (List.drop_subset n ds)
        have tail : Lines.Unbroken (if ds.length ≤ 1 then [] else '.' :: ds.drop 1) := by
          split
          · exact Lines.unbroken_nil
          · exact Lines.unbroken_cons.mpr ⟨by decide, later 1⟩
        have marks : Lines.Unbroken ['e', if e < 0 then '-' else '+'] := by split <;> decide
        have power : Lines.Unbroken (if exponent.length < 2 then '0' :: exponent else exponent) := by
          have plain : Lines.Unbroken exponent := Lines.unbroken_toDigits e.natAbs
          split
          · exact Lines.unbroken_cons.mpr ⟨by decide, plain⟩
          · exact plain
        have joined {cs rest : List Char} (one : Lines.Unbroken cs) (other : Lines.Unbroken rest) :
            Lines.Unbroken (cs ++ rest) := Lines.unbroken_append.mpr ⟨one, other⟩
        unfold body
        split
        · split
          · exact joined (joined (by decide) (zeros _)) digits
          · split
            · exact joined (joined digits (zeros _)) (by decide)
            · exact joined (joined (first _) (by decide)) (later _)
        · exact joined (joined (joined (first 1) tail) marks) power

end Binary

theorem Scalar.unbroken_shown (s : Scalar) : Unbroken s.shown := by
  cases s with
  | null => decide
  | bool b => cases b <;> decide
  | int n => exact unbroken_integer n
  | float x => exact x.unbroken_text
  | text s => exact unbroken_quoted s
  | date d => exact d.unbroken_shown
  | moment m => exact m.unbroken_shown
  | bytes octets =>
    exact unbroken_append.mpr ⟨by decide, unbroken_ofList.mpr (Quoted.unbroken_quote true _)⟩

namespace Value

mutual

theorem unbroken_shown : ∀ v : Value, Unbroken v.shown
  | .scalar s => s.unbroken_shown
  | .list items => by
    rw [shown, unbroken_append, unbroken_append]
    exact ⟨⟨by decide, unbroken_shownItems items⟩, by decide⟩
  | .map entries => by
    rw [shown, unbroken_append, unbroken_append]
    exact ⟨⟨by decide, unbroken_shownEntries entries⟩, by decide⟩
  | .set members => by
    rw [shown]
    split
    · decide
    · rw [unbroken_append, unbroken_append]
      refine ⟨⟨by decide, unbroken_intercalate (by decide) ?_⟩, by decide⟩
      exact List.forall_mem_map.mpr fun member _ => member.unbroken_shown

theorem unbroken_shownItems : ∀ items : List Value, Unbroken (shownItems items)
  | [] => by decide
  | [item] => unbroken_shown item
  | item :: next :: rest => by
    rw [shownItems, unbroken_append, unbroken_append]
    · exact ⟨⟨unbroken_shown item, by decide⟩, unbroken_shownItems (next :: rest)⟩
    · exact List.cons_ne_nil next rest

theorem unbroken_shownEntries : ∀ entries : List (Scalar × Value), Unbroken (shownEntries entries)
  | [] => by decide
  | [(key, value)] => by
    rw [shownEntries, unbroken_append, unbroken_append]
    exact ⟨⟨key.unbroken_shown, by decide⟩, unbroken_shown value⟩
  | (key, value) :: next :: rest => by
    rw [shownEntries]
    · simp only [unbroken_append]
      exact ⟨⟨⟨⟨key.unbroken_shown, by decide⟩, unbroken_shown value⟩, by decide⟩,
        unbroken_shownEntries (next :: rest)⟩
    · exact List.cons_ne_nil next rest

end

end Value

end Ratchet
