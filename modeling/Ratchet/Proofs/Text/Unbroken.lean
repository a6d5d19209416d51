import Ratchet.Proofs.Text.Lines
import Ratchet.Text.Cut
import Ratchet.Text.Quoted

namespace Ratchet

/-!
# Texts on one line

A text without a boundary is at most one line, and a newline put behind it makes it
exactly one.  Quoting and escaping bring every text to this form, each for its own
reason.  Some boundaries have an escape with a letter; of the others escaping shows
none because they are not visible ASCII characters, and quoting shows none because
none of them is printable.
-/

namespace Lines

/-- True of a text without a boundary. -/
def Unbroken (cs : List Char) : Prop :=
  ∀ c ∈ cs, isBreak c = false

instance (cs : List Char) : Decidable (Unbroken cs) :=
  List.decidableBAll (fun c => isBreak c = false) cs

variable {cs rest : List Char} {c : Char}

@[simp] theorem unbroken_nil : Unbroken [] := List.forall_mem_nil _

@[simp] theorem unbroken_cons : Unbroken (c :: cs) ↔ isBreak c = false ∧ Unbroken cs :=
  List.forall_mem_cons

@[simp] theorem unbroken_append : Unbroken (cs ++ rest) ↔ Unbroken cs ∧ Unbroken rest :=
  List.forall_mem_append

theorem Unbroken.of_subset (unbroken : Unbroken cs) (subset : rest ⊆ cs) : Unbroken rest :=
  fun _ inside => unbroken _ (subset inside)

theorem unbroken_replicate (n : Nat) (letter : isBreak c = false) :
    Unbroken (List.replicate n c) := fun _ inside => List.eq_of_mem_replicate inside ▸ letter

theorem unbroken_flatMap {α : Type} {items : List α} {f : α → List Char}
    (each : ∀ item ∈ items, Unbroken (f item)) : Unbroken (items.flatMap f) := fun _ inside =>
  have ⟨item, listed, there⟩ := List.mem_flatMap.mp inside
  each item listed _ there

theorem isBreak_of_isDigit (digit : c.isDigit = true) : isBreak c = false := by
  have within : 48 ≤ c.toNat ∧ c.toNat ≤ 57 := Char.isDigit_iff_toNat.mp digit
  simp only [isBreak, Bool.or_eq_false_iff, Bool.and_eq_false_iff, decide_eq_false_iff_not,
    beq_eq_false_iff_ne]
  omega

theorem unbroken_toDigits (n : Nat) : Unbroken (Nat.toDigits 10 n) := fun _ inside =>
  isBreak_of_isDigit (Nat.isDigit_of_mem_toDigits (by decide) (by decide) inside)

/-- A text without a boundary and a newline behind it are one line. -/
theorem split_of_unbroken (unbroken : Unbroken cs) : split (cs ++ ['\n']) = [cs] := by
  induction cs with
  | nil => exact split_newline []
  | cons c rest ih =>
    rw [unbroken_cons] at unbroken
    rw [List.cons_append, split_letter unbroken.1, ih unbroken.2]

end Lines

namespace Printable

/-- No boundary has a visible form. -/
theorem isBreak_of_isPrintable {c : Char} (visible : isPrintable c = true) :
    Lines.isBreak c = false := by
  rw [Bool.eq_false_iff]
  intro breaks
  have hidden (range) (listed : range ∈ hiddenRanges) (low : range.1 ≤ c.toNat)
      (high : c.toNat ≤ range.2) : False := by
    rw [isPrintable, Bool.not_eq_true', List.any_eq_false] at visible
    exact visible range listed (by simp [low, high])
  simp only [Lines.isBreak, Bool.or_eq_true, Bool.and_eq_true, decide_eq_true_eq, beq_iff_eq,
    or_assoc] at breaks
  rcases breaks with ⟨low, high⟩ | ⟨low, high⟩ | nextLine | separator | separator
  · exact hidden (0x0, 0x1f) (by decide) (Nat.zero_le _) (by omega)
  · exact hidden (0x0, 0x1f) (by decide) (Nat.zero_le _) (by omega)
  · exact hidden (0x7f, 0xa0) (by decide) (by omega) (by omega)
  · exact hidden (0x2028, 0x202f) (by decide) (by omega) (by omega)
  · exact hidden (0x2028, 0x202f) (by decide) (by omega) (by omega)

end Printable

namespace Quoted

open Lines

theorem isBreak_hexDigit (n : Nat) : isBreak (hexDigit n) = false := by
  have each : ∀ k < 16, isBreak (if k < 10 then Char.ofNat (48 + k) else Char.ofNat (87 + k)) =
      false := by decide
  exact each (n % 16) (Nat.mod_lt n (by decide))

theorem unbroken_hex (width n : Nat) : Unbroken (hex width n) := by
  induction width generalizing n with
  | zero => exact unbroken_nil
  | succ width ih => simp [hex, ih, isBreak_hexDigit]

theorem unbroken_codePoint (c : Char) : Unbroken (codePoint c) := by
  have backslash : isBreak '\\' = false := by decide
  have letters : isBreak 'x' = false ∧ isBreak 'u' = false ∧ isBreak 'U' = false := by decide
  unfold codePoint
  extract_lets n
  split
  · simp [backslash, letters, unbroken_hex]
  · split <;> simp [backslash, letters, unbroken_hex]

theorem unbroken_of_lettered? {c : Char} {escape : List Char} (lettered : lettered? c = some escape) :
    Unbroken escape := by
  have each : ∀ escape ∈ [['\\', 'n'], ['\\', 'r'], ['\\', 't'], ['\\', '\\']], Unbroken escape := by
    decide
  refine each escape ?_
  unfold lettered? at lettered
  grind

/-- A boundary without a letter of its own is not printable, and so is written by its
code point. -/
theorem unbroken_quoteChar (ascii : Bool) {mark : Char} (marks : isBreak mark = false) (c : Char) :
    Unbroken (quoteChar ascii mark c) := by
  unfold quoteChar
  split
  · next lettered => exact unbroken_of_lettered? lettered
  · split
    · next same =>
      subst same
      simp [marks, show isBreak '\\' = false by decide]
    · split
      · next shown =>
        rw [Bool.and_eq_true] at shown
        simp [Printable.isBreak_of_isPrintable shown.1]
      · exact unbroken_codePoint c

theorem unbroken_quote (ascii : Bool) (cs : List Char) : Unbroken (quote ascii cs) := by
  have marks : isBreak (markFor cs) = false := by
    rw [markFor]
    split <;> decide
  simp only [quote, unbroken_cons, unbroken_append, marks, unbroken_nil, and_self, and_true, true_and]
  exact unbroken_flatMap fun c _ => unbroken_quoteChar ascii marks c

/-- A boundary without a letter of its own is no visible ASCII character, and so is
written by its code point. -/
theorem unbroken_escapeChar (c : Char) : Unbroken (escapeChar c) := by
  unfold escapeChar
  split
  · next lettered => exact unbroken_of_lettered? lettered
  · split
    · next visible =>
      simp only [Bool.and_eq_true, decide_eq_true_eq] at visible
      simp only [unbroken_cons, unbroken_nil, and_true, isBreak, Bool.or_eq_false_iff,
        Bool.and_eq_false_iff, decide_eq_false_iff_not, beq_eq_false_iff_ne]
      omega
    · exact unbroken_codePoint c

theorem unbroken_escape (cs : List Char) : Unbroken (escape cs) :=
  unbroken_flatMap fun c _ => unbroken_escapeChar c

end Quoted

namespace Text

/-- True of a text without a line boundary. -/
def Unbroken (s : String) : Prop :=
  Lines.Unbroken s.toList

instance (s : String) : Decidable (Unbroken s) :=
  inferInstanceAs (Decidable (Lines.Unbroken s.toList))

variable {s t : String}

@[simp] theorem unbroken_append : Unbroken (s ++ t) ↔ Unbroken s ∧ Unbroken t := by
  rw [Unbroken, String.toList_append, Lines.unbroken_append, Unbroken, Unbroken]

@[simp] theorem unbroken_ofList {cs : List Char} :
    Unbroken (String.ofList cs) ↔ Lines.Unbroken cs := by
  rw [Unbroken, String.toList_ofList]

theorem unbroken_quoted (s : String) : Unbroken (quoted s) :=
  unbroken_ofList.mpr (Quoted.unbroken_quote false s.toList)

theorem unbroken_escaped (s : String) : Unbroken (escaped s) :=
  unbroken_ofList.mpr (Quoted.unbroken_escape s.toList)

theorem unbroken_join {separator : String} {parts : List String} (between : Unbroken separator)
    (each : ∀ part ∈ parts, Unbroken part) : Unbroken (join separator parts) := by
  fun_induction join separator parts with
  | case1 => decide
  | case2 text => exact each text List.mem_cons_self
  | case3 text others _ ih =>
    rw [List.forall_mem_cons] at each
    rw [unbroken_append, unbroken_append]
    exact ⟨⟨each.1, between⟩, ih each.2⟩

theorem unbroken_intercalate {separator : String} {parts : List String}
    (between : Unbroken separator) (each : ∀ part ∈ parts, Unbroken part) :
    Unbroken (separator.intercalate parts) := by
  rw [Unbroken, String.toList_intercalate]
  induction parts with
  | nil => exact Lines.unbroken_nil
  | cons part others ih =>
    rw [List.forall_mem_cons] at each
    cases others with
    | nil =>
      rw [List.map_singleton, List.intercalate_singleton]
      exact each.1
    | cons next others =>
      rw [List.map_cons, List.map_cons, List.intercalate_cons_cons, Lines.unbroken_append,
        Lines.unbroken_append]
      exact ⟨⟨each.1, between⟩, ih each.2⟩

theorem unbroken_natural (n : Nat) : Unbroken (toString n) := by
  rw [Unbroken, Nat.toString_eq_repr, Nat.toList_repr]
  exact Lines.unbroken_toDigits n

theorem unbroken_integer (n : Int) : Unbroken (toString n) := by
  cases n with
  | ofNat n => exact unbroken_natural n
  | negSucc n => exact unbroken_append.mpr ⟨by decide, unbroken_natural n.succ⟩

/-- A text without a boundary and a newline behind it are one line. -/
theorem lines_of_unbroken (unbroken : Unbroken s) : lines (s ++ "\n") = [s] := by
  rw [lines, String.toList_append]
  have line := Lines.split_of_unbroken unbroken
  rw [show "\n".toList = ['\n'] from rfl, line, List.map_singleton, String.ofList_toList]

end Text

end Ratchet
