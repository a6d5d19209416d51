import Ratchet.Text.Lines

namespace Ratchet

/-!
# Lines of texts put together

Lines do not simply add up when one text is put behind another.  The first
text may leave its last line open, and then the first line of the second text
goes on with it.  The boundary between them may also be one that both have a
part in, a carriage return and the newline behind it.  In either case two
lines become one.  Otherwise each text gives its own lines, and that the first
one is empty or ends in a boundary is all that it takes.

A newline put behind a text is the text of one empty line.  It ends the line
that is left open, and it makes an empty line of its own if there is none.
-/

namespace Lines

/-! ## Cutting by the first character -/

theorem split_carriageReturn_newline (rest : List Char) :
    split ('\r' :: '\n' :: rest) = [] :: split rest := by
  rw [split]

/-- A boundary of one character, which a carriage return is too unless a newline
follows. -/
theorem split_break {c : Char} {rest : List Char} (breaks : isBreak c = true)
    (alone : c = '\r' → rest.head? ≠ some '\n') : split (c :: rest) = [] :: split rest := by
  rw [split, if_pos breaks]
  intro more returns continues
  apply alone returns
  rw [continues, List.head?_cons]

theorem split_newline (rest : List Char) : split ('\n' :: rest) = [] :: split rest :=
  split_break (by decide) fun returns => absurd returns (by decide)

theorem split_letter {c : Char} (letter : isBreak c = false) (rest : List Char) :
    split (c :: rest) =
      match split rest with
      | [] => [[c]]
      | line :: lines => (c :: line) :: lines := by
  have alone (more : List Char) (returns : c = '\x0d') (_ : rest = '\n' :: more) : False := by
    subst returns
    cases letter
  exact (split.eq_3 c rest alone).trans (if_neg (Bool.eq_false_iff.mp letter))

theorem split_eq_nil_iff {cs : List Char} : split cs = [] ↔ cs = [] := by
  constructor
  · intro nothing
    cases cs with
    | nil => rfl
    | cons c rest =>
      unfold split at nothing
      grind
  · rintro rfl
    rfl

/-- A line has no boundary in it. -/
theorem isBreak_of_mem_split {cs line : List Char} (member : line ∈ split cs) {c : Char}
    (inside : c ∈ line) : isBreak c = false := by
  fun_induction split cs generalizing line with
  | case1 => exact absurd member List.not_mem_nil
  | case2 rest ih | case3 _ rest _ _ ih =>
    rcases List.mem_cons.mp member with rfl | later
    · exact absurd inside List.not_mem_nil
    · exact ih later inside
  | case4 d rest _ letter _ _ =>
    rw [List.mem_singleton.mp member] at inside
    rw [List.mem_singleton.mp inside]
    exact Bool.eq_false_iff.mpr letter
  | case5 d rest _ letter first lines cut ih =>
    rw [cut] at ih
    rcases List.mem_cons.mp member with rfl | later
    · rcases List.mem_cons.mp inside with rfl | behind
      · exact Bool.eq_false_iff.mpr letter
      · exact ih List.mem_cons_self behind
    · exact ih (List.mem_cons_of_mem first later) inside

/-- A text that begins with no boundary begins as its first line does. -/
theorem head?_split_letter {c : Char} (letter : isBreak c = false) (rest : List Char) :
    ∃ others, (split (c :: rest)).head? = some (c :: others) := by
  rw [split_letter letter]
  cases split rest with
  | nil => exact ⟨[], rfl⟩
  | cons line lines => exact ⟨line, rfl⟩

/-! ## Where two texts meet -/

/-- No line goes on from the first text into the second, and no boundary is
made of characters of both. -/
def standApart (cs rest : List Char) : Bool :=
  rest.isEmpty ||
    cs.getLast?.all fun c => isBreak c && !(c == '\r' && rest.head? == some '\n')

theorem standApart_cons {cs : List Char} (more : cs ≠ []) (c : Char) (rest : List Char) :
    standApart (c :: cs) rest = standApart cs rest := by
  cases cs with
  | nil => contradiction
  | cons d others => rw [standApart, standApart, List.getLast?_cons_cons]

/-- The lines of one text and of another that is put behind it.  If the texts do
not stand apart, the last line of the one goes on with the first line of the
other. -/
def together (apart : Bool) (lines others : List (List Char)) : List (List Char) :=
  if apart then lines ++ others
  else lines.dropLast ++ (lines.getLastD [] ++ others.headD []) :: others.tail

theorem together_cons {lines : List (List Char)} (more : lines ≠ []) (apart : Bool)
    (line : List Char) (others : List (List Char)) :
    together apart (line :: lines) others = line :: together apart lines others := by
  cases lines with
  | nil => contradiction
  | cons next lines => cases apart <;> simp [together]

theorem together_cons_letter (apart : Bool) (c : Char) (line : List Char)
    (lines others : List (List Char)) :
    together apart ((c :: line) :: lines) others =
      match together apart (line :: lines) others with
      | [] => [[c]]
      | first :: more => (c :: first) :: more := by
  cases lines with
  | nil => cases apart <;> simp [together]
  | cons next lines => cases apart <;> simp [together]

theorem split_ne_nil {cs : List Char} (more : cs ≠ []) : split cs ≠ [] :=
  mt split_eq_nil_iff.mp more

/-- Two texts give their own lines if they stand apart, and otherwise two of
the lines become one. -/
theorem split_append (cs rest : List Char) :
    split (cs ++ rest) = together (standApart cs rest) (split cs) (split rest) := by
  fun_induction split cs with
  | case1 =>
    have apart : standApart [] rest = true := by simp [standApart]
    rw [apart]
    rfl
  | case2 more ih =>
    rw [List.cons_append, List.cons_append, split_carriageReturn_newline, ih]
    cases more with
    | nil =>
      have apart : standApart ['\r', '\n'] rest = true := by simp [standApart, isBreak]
      have alone : standApart [] rest = true := by simp [standApart]
      rw [apart, alone]
      rfl
    | cons d others =>
      have nonempty := List.cons_ne_nil d others
      rw [standApart_cons (List.cons_ne_nil _ _), standApart_cons nonempty,
        together_cons (split_ne_nil nonempty)]
  | case3 c more alone breaks ih =>
    cases more with
    | nil =>
      by_cases shared : c = '\r' ∧ rest.head? = some '\n'
      · -- The newline belongs to the carriage return.
        rcases shared with ⟨rfl, continues⟩
        rcases List.head?_eq_some_iff.mp continues with ⟨others, rfl⟩
        rw [List.singleton_append, split_carriageReturn_newline, split_newline]
        rfl
      · have apart : standApart [c] rest = true := by
          simpa [standApart, breaks] using Or.inr (Decidable.not_and_iff_or_not.mp shared)
        rw [List.singleton_append, split_break breaks fun same continues =>
          shared ⟨same, continues⟩, apart]
        rfl
    | cons d others =>
      have nonempty := List.cons_ne_nil d others
      have apart : c = '\r' → (d :: others ++ rest).head? ≠ some '\n' := by
        rintro rfl starts
        cases starts
        exact alone others rfl rfl
      rw [List.cons_append, split_break breaks apart, ih, standApart_cons nonempty,
        together_cons (split_ne_nil nonempty)]
  | case4 c more alone letter nothing ih =>
    rw [split_eq_nil_iff.mp nothing, List.singleton_append,
      split_letter (Bool.eq_false_iff.mpr letter)]
    cases rest with
    | nil => rfl
    | cons d others =>
      have joined : standApart [c] (d :: others) = false := by simp [standApart, letter]
      rw [joined]
      cases split (d :: others) <;> rfl
  | case5 c more alone letter line lines kept ih =>
    have some : more ≠ [] := by
      rintro rfl
      cases kept
    rw [List.cons_append, split_letter (Bool.eq_false_iff.mpr letter), ih, kept,
      standApart_cons some, together_cons_letter]

/-- Where texts do not stand apart, the last line of the first and the first
line of the second are one line. -/
theorem exists_joined {cs rest : List Char} (joined : standApart cs rest = false) :
    ∃ lines last first others, split cs = lines ++ [last] ∧ split rest = first :: others ∧
      split (cs ++ rest) = lines ++ (last ++ first) :: others := by
  have begun : cs ≠ [] := by
    rintro rfl
    simp [standApart] at joined
  have continued : rest ≠ [] := by
    rintro rfl
    simp [standApart] at joined
  rcases List.eq_nil_or_concat (split cs) with nothing | ⟨lines, last, whole⟩
  · exact absurd nothing (split_ne_nil begun)
  · rw [List.concat_eq_append] at whole
    rcases List.exists_cons_of_ne_nil (split_ne_nil continued) with ⟨first, others, wholeRest⟩
    refine ⟨lines, last, first, others, whole, wholeRest, ?_⟩
    rw [split_append, joined, whole, wholeRest]
    simp [together]

/-- A line is missing where texts do not stand apart. -/
theorem standApart_of_length {cs rest : List Char}
    (same : (split (cs ++ rest)).length = (split cs).length + (split rest).length) :
    standApart cs rest = true := by
  cases meeting : standApart cs rest with
  | true => rfl
  | false =>
    rcases exists_joined meeting with ⟨lines, last, first, others, whole, wholeRest, joined⟩
    rw [joined, whole, wholeRest] at same
    simp only [List.length_append, List.length_cons, List.length_nil] at same
    omega

theorem split_append_of_standApart {cs rest : List Char} (apart : standApart cs rest = true) :
    split (cs ++ rest) = split cs ++ split rest := by
  rw [split_append, apart]
  rfl

/-! ## A newline behind a text -/

/-- No line is open at the end of a text, and a newline behind it is a boundary
of its own. -/
def isClosed (cs : List Char) : Bool :=
  cs.getLast?.all fun c => isBreak c && c != '\r'

/-- The empty line that a newline behind a text makes. -/
def gap (cs : List Char) : List (List Char) :=
  if isClosed cs then [[]] else []

/-- Behind a newline, cutting begins afresh. -/
theorem split_append_newline (cs rest : List Char) :
    split (cs ++ '\n' :: rest) = split cs ++ gap cs ++ split rest := by
  have closed : standApart cs ('\n' :: rest) = isClosed cs := by
    simp [standApart, isClosed, bne]
  unfold gap
  split
  · next apart =>
    rw [split_append_of_standApart (closed.trans apart), split_newline, List.append_assoc]
    rfl
  · next joined =>
    rcases exists_joined (closed.trans (Bool.eq_false_iff.mpr joined)) with
      ⟨lines, last, first, others, whole, wholeRest, ends⟩
    rw [split_newline] at wholeRest
    rcases List.cons.inj wholeRest with ⟨rfl, rfl⟩
    rw [ends, whole]
    simp

/-- A text that ends in a newline leaves no line open. -/
theorem split_append_of_newline {cs : List Char} (ends : cs.getLast? = some '\n')
    (rest : List Char) : split (cs ++ rest) = split cs ++ split rest := by
  apply split_append_of_standApart
  rw [standApart, ends]
  simp [isBreak]

end Lines

namespace Text

/-- No line goes on from the first text into the second, and no boundary is
made of characters of both. -/
def standApart (s rest : String) : Bool :=
  Lines.standApart s.toList rest.toList

variable {s rest : String}

theorem lines_append_of_standApart (apart : standApart s rest = true) :
    lines (s ++ rest) = lines s ++ lines rest := by
  rw [lines, String.toList_append, Lines.split_append_of_standApart apart, List.map_append]
  rfl

theorem exists_joined_lines (joined : standApart s rest = false) :
    ∃ earlier last first later, lines s = earlier ++ [last] ∧ lines rest = first :: later ∧
      lines (s ++ rest) = earlier ++ (last ++ first) :: later := by
  rcases Lines.exists_joined joined with ⟨earlier, last, first, later, whole, wholeRest, both⟩
  refine ⟨earlier.map String.ofList, String.ofList last, String.ofList first,
    later.map String.ofList, ?_, ?_, ?_⟩
  · rw [lines, whole, List.map_append]
    rfl
  · rw [lines, wholeRest]
    rfl
  · rw [lines, String.toList_append, both, List.map_append, List.map_cons, String.ofList_append]

theorem standApart_of_length_lines
    (same : (lines (s ++ rest)).length = (lines s).length + (lines rest).length) :
    standApart s rest = true := by
  apply Lines.standApart_of_length
  simpa [lines] using same

end Text

end Ratchet
