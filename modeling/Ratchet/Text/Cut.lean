namespace Ratchet

/-!
# Cutting and searching

Cutting a text at every occurrence of one separator character, joining the
pieces again, and searching for one text inside another.  Cutting always
gives one piece more than there are separators, so it never loses the
difference between a text that ends in a separator and one that does not.
-/

namespace Cut

/-- The pieces between the occurrences of `separator`, of which there is
always at least one. -/
def pieces (separator : Char) : List Char → List (List Char)
  | [] => [[]]
  | c :: rest =>
    if c = separator then [] :: pieces separator rest
    else
      match pieces separator rest with
      | [] => [[c]]
      | piece :: others => (c :: piece) :: others

theorem pieces_ne_nil (separator : Char) (cs : List Char) : pieces separator cs ≠ [] := by
  cases cs with
  | nil => simp [pieces]
  | cons c rest =>
    simp only [pieces]
    split
    · simp
    · split <;> simp

/-- A piece without the separator, put in front of one, is cut off whole. -/
theorem pieces_append_separator (separator : Char) {piece : List Char}
    (apart : separator ∉ piece) (rest : List Char) :
    pieces separator (piece ++ separator :: rest) = piece :: pieces separator rest := by
  induction piece with
  | nil => simp [pieces]
  | cons c others ih =>
    simp only [List.mem_cons, not_or] at apart
    simp [pieces, Ne.symm apart.1, ih apart.2]

/-- A text without the separator is its own only piece. -/
theorem pieces_of_not_mem (separator : Char) {cs : List Char} (apart : separator ∉ cs) :
    pieces separator cs = [cs] := by
  induction cs with
  | nil => rfl
  | cons c others ih =>
    simp only [List.mem_cons, not_or] at apart
    simp [pieces, Ne.symm apart.1, ih apart.2]

/-- At most one cut: the text before and after the first `separator`. -/
def atFirst? (separator : Char) : List Char → Option (List Char × List Char)
  | [] => none
  | c :: rest =>
    if c = separator then some ([], rest)
    else (atFirst? separator rest).map fun (before, after) => (c :: before, after)

theorem eq_append_of_atFirst? {separator : Char} {cs before behind : List Char}
    (cut : atFirst? separator cs = some (before, behind)) :
    cs = before ++ separator :: behind := by
  induction cs generalizing before with
  | nil => cases cut
  | cons c rest ih =>
    rw [atFirst?] at cut
    split at cut
    · next here =>
      cases cut
      rw [here, List.nil_append]
    · rcases Option.map_eq_some_iff.mp cut with ⟨⟨front, back⟩, found, same⟩
      cases same
      rw [ih found, List.cons_append]

/-- The pieces between the occurrences of a separator of any length, found from
the left.  The first argument counts the characters of an occurrence that are
still to be passed. -/
def piecesBy (separator : List Char) : Nat → List Char → List (List Char)
  | _, [] => [[]]
  | passed + 1, _ :: rest => piecesBy separator passed rest
  | 0, c :: rest =>
    if separator.isPrefixOf (c :: rest) then
      [] :: piecesBy separator (separator.length - 1) rest
    else
      match piecesBy separator 0 rest with
      | piece :: others => (c :: piece) :: others
      | [] => [[c]]

/-- True when `needle` is found somewhere in the text. -/
def occurs (needle : List Char) : List Char → Bool
  | [] => needle.isEmpty
  | c :: rest => needle.isPrefixOf (c :: rest) || occurs needle rest

theorem occurs_iff_infix {needle cs : List Char} : occurs needle cs = true ↔ needle <:+: cs := by
  induction cs with
  | nil => simp [occurs]
  | cons c rest ih => simp [occurs, ih, List.infix_cons_iff]

end Cut

namespace Text

/-- True when `needle` is found somewhere in `s`; the empty text is found in
every text. -/
def contains (s needle : String) : Bool :=
  Cut.occurs needle.toList s.toList

/-- The pieces of `s` between the occurrences of `separator`. -/
def pieces (separator : Char) (s : String) : List String :=
  (Cut.pieces separator s.toList).map String.ofList

/-- The pieces of `s` between the occurrences of a longer separator. -/
def piecesBy (separator s : String) : List String :=
  (Cut.piecesBy separator.toList 0 s.toList).map String.ofList

/-- The texts one after another with `separator` between neighbours. -/
def join (separator : String) : List String → String
  | [] => ""
  | [text] => text
  | text :: others => text ++ separator ++ join separator others

theorem toList_join_cons (separator text : String) {others : List String} (more : others ≠ []) :
    (join separator (text :: others)).toList =
      text.toList ++ (separator.toList ++ (join separator others).toList) := by
  cases others with
  | nil => exact absurd rfl more
  | cons next rest => simp [join, String.toList_append]

/-- True when `s` begins with `start`. -/
def startsWith (s start : String) : Bool :=
  start.toList.isPrefixOf s.toList

/-- The text after `start`, if `s` begins with it. -/
def dropStart? (s start : String) : Option String :=
  if startsWith s start then some (String.ofList (s.toList.drop start.toList.length)) else none

end Text

end Ratchet
