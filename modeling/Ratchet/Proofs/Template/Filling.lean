import Ratchet.Template

namespace Ratchet

namespace Template

/-!
# Filling plain templates

Most templates are plain: their fields name a text and say nothing about its
form.  Such a template is filled by putting each text in its place, as it is.
In particular a brace in one of the texts is a brace of the result, and not the
beginning of another field.
-/

/-- The name in a field that names a thing, and neither a part nor a form of
it. -/
def Field.plainName? (field : Field) : Option String :=
  match field.conversion, field.format, splitName field.name with
  | none, [], (name, []) =>
    match position? name with
    | .ok none => if name.isEmpty then none else some (String.ofList name)
    | _ => none
  | _, _, _ => none

/-- What a piece comes to, if it is literal or a plain field for one of some
texts. -/
def Piece.plain? (texts : List (String × String)) : Piece → Option (List Char)
  | .literal cs => some cs
  | .field slot => (slot.plainName?.bind fun name => texts.lookup name).map String.toList
  | .fault _ => none

@[simp] theorem Piece.plain?_literal (texts : List (String × String)) (cs : List Char) :
    (Piece.literal cs).plain? texts = some cs := rfl

/-- What pieces come to, if they are all plain. -/
def plain? (texts : List (String × String)) : List Piece → Option (List Char)
  | [] => some []
  | piece :: rest => (piece.plain? texts).bind fun cs => (plain? texts rest).map (cs ++ ·)

/-- Texts as subjects of fields. -/
def ofTexts (texts : List (String × String)) : Names :=
  texts.map fun entry => (entry.1, .text entry.2)

variable {texts : List (String × String)}

/-- What stands under a name where every entry was changed. -/
theorem lookup_map {α β : Type} (f : α → β) (name : String) (entries : List (String × α)) :
    (entries.map fun entry => (entry.1, f entry.2)).lookup name = (entries.lookup name).map f := by
  induction entries with
  | nil => rfl
  | cons entry rest ih =>
    rw [List.map_cons, List.lookup_cons, List.lookup_cons]
    cases name == entry.1 with
    | true => rfl
    | false => exact ih

/-- A plain field is about the thing that it names. -/
theorem subject_of_plain {slot : Field} {name : String} (plain : slot.plainName? = some name)
    {names : Names} {thing : Subject} (known : names.lookup name = some thing) :
    slot.conversion = none ∧ slot.format = [] ∧ subject names slot.name = .ok thing := by
  unfold Field.plainName? at plain
  split at plain
  · next leading conversion format split =>
    split at plain
    · next position =>
      split at plain
      · cases plain
      · next named =>
        cases plain
        refine ⟨conversion, format, ?_⟩
        rw [subject, split]
        simp only [first, position, named, known]
        rfl
    · cases plain
  · cases plain

theorem piece_of_plain {p : Piece} {cs : List Char} (plain : p.plain? texts = some cs)
    (inner : List Char → Except Error (List Char)) :
    piece inner (subject (ofTexts texts)) p = .ok cs := by
  cases p with
  | literal text =>
    cases plain
    rfl
  | fault fault => cases plain
  | field slot =>
    rcases Option.map_eq_some_iff.mp plain with ⟨text, found, rfl⟩
    rcases Option.bind_eq_some_iff.mp found with ⟨name, named, known⟩
    have thing : (ofTexts texts).lookup name = some (.text text) := by
      rw [ofTexts, lookup_map, known]
      rfl
    rcases subject_of_plain named thing with ⟨conversion, format, found⟩
    simp only [piece, found, conversion, format]
    rfl

theorem foldlM_of_plain {ps : List Piece} {cs : List Char} (plain : plain? texts ps = some cs)
    (inner : List Char → Except Error (List Char)) (done : List Char) :
    ps.foldlM (fun done next =>
      (piece inner (subject (ofTexts texts)) next).map (done ++ ·)) done = .ok (done ++ cs) := by
  induction ps generalizing done cs with
  | nil =>
    cases plain
    rw [List.append_nil]
    rfl
  | cons p rest ih =>
    rcases Option.bind_eq_some_iff.mp plain with ⟨first, plainFirst, others⟩
    rcases Option.map_eq_some_iff.mp others with ⟨later, plainLater, rfl⟩
    rw [List.foldlM_cons, piece_of_plain plainFirst inner, ← List.append_assoc]
    exact ih plainLater (done ++ first)

/-- A plain template is filled by its texts, which are not looked at. -/
theorem fill_of_plain {template result : String}
    (plain : plain? texts (pieces template.toList) = some result.toList) :
    fill (ofTexts texts) template = .ok result := by
  rw [fill, fillWithin, foldlM_of_plain plain, List.nil_append, Except.map,
    String.ofList_toList]

/-- Two fields in a row, with a blank between them. -/
theorem plain_pair {lead left right : String} {one two : Field}
    (first : (Piece.field one).plain? texts = some left.toList)
    (second : (Piece.field two).plain? texts = some right.toList) :
    plain? texts [.literal lead.toList, .field one, .literal " ".toList, .field two] =
      some (lead ++ left ++ " " ++ right).toList := by
  simp only [plain?, Piece.plain?_literal, first, second, Option.bind_some, Option.map_some,
    String.toList_append, List.append_assoc, List.append_nil]

/-! ## Templates by their parts -/

/-- What pieces come to behind what there is already. -/
def fillPieces (inner : List Char → Except Error (List Char)) (find : Lookup) (ps : List Piece)
    (done : List Char) : Except Error (List Char) :=
  ps.foldlM (fun done next => (piece inner find next).map (done ++ ·)) done

variable {inner : List Char → Except Error (List Char)} {find : Lookup} {fuel : Nat}
  {name rest done : List Char}

theorem fillPieces_pushFront (c : Char) (ps : List Piece) :
    fillPieces inner find (Piece.pushFront c ps) done = fillPieces inner find ps (done ++ [c]) := by
  have joined (text : List Char) : done ++ [c] ++ text = done ++ c :: text := by simp
  cases ps with
  | nil => rfl
  | cons p ps =>
    cases p with
    | literal text =>
      rw [Piece.pushFront, fillPieces, fillPieces, List.foldlM_cons, List.foldlM_cons, piece, piece,
        Except.map, Except.map, joined]
    | field | fault => rfl

theorem piecesWithin_cons {c : Char} (notOpening : c ≠ '{') (notClosing : c ≠ '}') :
    piecesWithin (fuel + 1) (c :: rest) = Piece.pushFront c (piecesWithin fuel rest) := by
  rw [piecesWithin]
  · exact fun _ same _ => notOpening same
  · exact fun _ same _ => notClosing same
  · exact notClosing
  · exact fun same _ => notOpening same
  · exact notOpening

/-- Text without braces is put in as it is. -/
theorem fillPieces_text {cs : List Char} (plain : '{' ∉ cs ∧ '}' ∉ cs) :
    fillPieces inner find (piecesWithin (cs.length + fuel) (cs ++ rest)) done =
      fillPieces inner find (piecesWithin fuel rest) (done ++ cs) := by
  induction cs generalizing done with
  | nil => rw [List.append_nil, List.length_nil, Nat.zero_add, List.nil_append]
  | cons c cs ih =>
    simp only [List.mem_cons, not_or] at plain
    obtain ⟨⟨notOpening, noOpening⟩, notClosing, noClosing⟩ := plain
    rw [List.length_cons, Nat.add_right_comm, List.cons_append,
      piecesWithin_cons (Ne.symm notOpening) (Ne.symm notClosing), fillPieces_pushFront,
      ih ⟨noOpening, noClosing⟩, List.append_assoc, List.singleton_append]

/-- The name of a field ends with the brace that closes it. -/
theorem fieldName_of_letters (letters : ∀ c ∈ name, c ∉ ['[', '{', '}', ':', '!']) :
    fieldName false (name ++ '}' :: rest) = (name, .close rest) := by
  induction name with
  | nil => rfl
  | cons c name ih =>
    rw [List.forall_mem_cons] at letters
    obtain ⟨other, letters⟩ := letters
    simp only [List.mem_cons, List.not_mem_nil, or_false, not_or] at other
    rw [List.cons_append, fieldName]
    simp [other, ih letters]

theorem piecesWithin_field (some : name ≠ [])
    (letters : ∀ c ∈ name, c ∉ ['[', '{', '}', ':', '!']) :
    piecesWithin (fuel + 1) ('{' :: (name ++ '}' :: rest)) =
      .field ⟨name, none, []⟩ :: piecesWithin fuel rest := by
  have read : field (name ++ '}' :: rest) = .ok (⟨name, none, []⟩, rest) := by
    rw [field, fieldName_of_letters letters]
  obtain ⟨c, name, rfl⟩ := List.exists_cons_of_ne_nil some
  have opens : c ≠ '{' := by
    rintro rfl
    exact letters _ List.mem_cons_self (by simp)
  rw [List.cons_append, piecesWithin]
  · rw [← List.cons_append, read]
  · exact fun _ same => opens (List.cons.inj same).1
  · exact fun none => nomatch none

/-- A part of a template: text, or a field that names a thing and says nothing
about its form. -/
inductive Fragment where
  | text (cs : List Char)
  | field (name : List Char)

namespace Fragment

def written : Fragment → List Char
  | text cs => cs
  | field name => '{' :: (name ++ ['}'])

/-- True if a template is read as this part where it is written. -/
def Proper : Fragment → Prop
  | text cs => '{' ∉ cs ∧ '}' ∉ cs
  | field name => name ≠ [] ∧ ∀ c ∈ name, c ∉ ['[', '{', '}', ':', '!']

/-- What a part comes to. -/
def filled (inner : List Char → Except Error (List Char)) (find : Lookup) :
    Fragment → Except Error (List Char)
  | text cs => .ok cs
  | field name => piece inner find (.field ⟨name, none, []⟩)

end Fragment

/-- What parts come to, up to the first one that comes to nothing. -/
def fillParts (inner : List Char → Except Error (List Char)) (find : Lookup) :
    List Fragment → Except Error (List Char)
  | [] => .ok []
  | fragment :: rest => do
    let first ← fragment.filled inner find
    return first ++ (← fillParts inner find rest)

theorem map_fillParts_cons {fragment : Fragment} {first : List Char}
    (here : fragment.filled inner find = .ok first) (fragments : List Fragment)
    (done : List Char) :
    (fillParts inner find (fragment :: fragments)).map (done ++ ·) =
      (fillParts inner find fragments).map (done ++ first ++ ·) := by
  rw [fillParts, here]
  cases fillParts inner find fragments with
  | error => rfl
  | ok others => exact congrArg Except.ok (List.append_assoc _ _ _).symm

/-- A template is filled part by part. -/
theorem fillPieces_written (inner : List Char → Except Error (List Char)) (find : Lookup)
    {fragments : List Fragment} (proper : ∀ fragment ∈ fragments, fragment.Proper)
    (enough : (fragments.flatMap Fragment.written).length ≤ fuel) (done : List Char) :
    fillPieces inner find (piecesWithin fuel (fragments.flatMap Fragment.written)) done =
      (fillParts inner find fragments).map (done ++ ·) := by
  induction fragments generalizing fuel done with
  | nil =>
    have nothing : piecesWithin fuel [] = [] := by cases fuel <;> rfl
    rw [List.flatMap_nil, nothing, fillParts, Except.map, List.append_nil]
    rfl
  | cons fragment fragments ih =>
    rw [List.forall_mem_cons] at proper
    rw [List.flatMap_cons, List.length_append] at enough
    rw [List.flatMap_cons]
    cases fragment with
    | text cs =>
      obtain ⟨more, rfl⟩ := Nat.exists_eq_add_of_le (Nat.le_of_add_right_le enough)
      rw [Fragment.written, fillPieces_text proper.1, ih proper.2 (Nat.le_of_add_le_add_left enough)]
      exact (map_fillParts_cons rfl fragments done).symm
    | field name =>
      rw [Fragment.written, List.length_cons] at enough
      obtain ⟨more, rfl⟩ := Nat.exists_eq_add_of_le' (show 1 ≤ fuel by omega)
      rw [Fragment.written, List.cons_append, List.append_assoc, List.singleton_append,
        piecesWithin_field proper.1.1 proper.1.2, fillPieces, List.foldlM_cons]
      change ((Fragment.filled inner find (.field name)).map (done ++ ·) >>= _) = _
      cases here : Fragment.filled inner find (.field name) with
      | error =>
        rw [fillParts, here]
        rfl
      | ok first =>
        exact (ih proper.2 (by omega) (done ++ first)).trans
          (map_fillParts_cons here fragments done).symm

theorem fill_written {template : String} {fragments : List Fragment}
    (form : template.toList = fragments.flatMap Fragment.written)
    (proper : ∀ fragment ∈ fragments, fragment.Proper) (names : Names) :
    fill names template =
      (fillParts (fillWithin (subject names) 1) (subject names) fragments).map String.ofList := by
  have whole := fillPieces_written (fillWithin (subject names) 1) (subject names) proper
    (Nat.le_refl _) []
  rw [fill, fillWithin, form]
  refine (congrArg (Except.map String.ofList) whole).trans ?_
  cases fillParts (fillWithin (subject names) 1) (subject names) fragments <;> rfl

/-! ## Templates that come to themselves -/

theorem plain?_pushFront (c : Char) (ps : List Piece) :
    plain? texts (Piece.pushFront c ps) = (plain? texts ps).map (c :: ·) := by
  cases ps with
  | nil => rfl
  | cons p ps =>
    cases p with
    | literal text =>
      rw [Piece.pushFront, plain?, plain?, Piece.plain?_literal, Piece.plain?_literal]
      cases plain? texts ps <;> rfl
    | field slot =>
      rw [Piece.pushFront]
      · rw [plain?, Piece.plain?_literal]
        cases plain? texts (.field slot :: ps) <;> rfl
      · intro text others impossible
        cases impossible
    | fault fault =>
      rw [Piece.pushFront]
      · rfl
      · intro text others impossible
        cases impossible

theorem subject_nil (name : List Char) : ∃ error, subject [] name = .error error := by
  rw [subject]
  dsimp only
  have nowhere : ∃ error, first [] (splitName name).1 = .error error := by
    rw [first]
    split
    · exact ⟨_, rfl⟩
    · exact ⟨_, rfl⟩
    · split
      · exact ⟨_, rfl⟩
      · exact ⟨_, rfl⟩
  obtain ⟨error, fails⟩ := nowhere
  rw [fails]
  exact ⟨error, rfl⟩

/-- Where nothing has a name, only literal pieces come to anything. -/
theorem plain?_of_fillPieces {ps : List Piece} {out : List Char}
    (fills : fillPieces inner (subject []) ps done = .ok out) :
    ∃ cs, plain? [] ps = some cs ∧ out = done ++ cs := by
  induction ps generalizing done with
  | nil =>
    cases fills
    exact ⟨[], rfl, (List.append_nil _).symm⟩
  | cons p ps ih =>
    rw [fillPieces, List.foldlM_cons] at fills
    cases p with
    | literal text =>
      obtain ⟨cs, plain, rfl⟩ := ih fills
      refine ⟨text ++ cs, ?_, List.append_assoc ..⟩
      rw [plain?, Piece.plain?_literal, plain]
      rfl
    | field slot =>
      obtain ⟨error, fails⟩ := subject_nil slot.name
      rw [piece, fails] at fills
      cases fills
    | fault fault => cases fills

theorem plain?_field_nil (slot : Field) : (Piece.field slot).plain? [] = none := by
  rw [Piece.plain?]
  cases slot.plainName? <;> rfl

/-- A text that is made of literal pieces is shorter than what they were read
from, unless there are no braces. -/
theorem length_of_plain? {cs out : List Char} (enough : cs.length ≤ fuel)
    (plain : plain? [] (piecesWithin fuel cs) = some out) :
    out.length ≤ cs.length ∧ (out.length = cs.length → '{' ∉ cs ∧ '}' ∉ cs) := by
  fun_induction piecesWithin fuel cs generalizing out with
  | case1 cs =>
    cases List.length_eq_zero_iff.mp (Nat.le_zero.mp enough)
    cases plain
    simp
  | case2 fuel =>
    cases plain
    simp
  | case3 fuel rest ih =>
    rw [plain?_pushFront] at plain
    obtain ⟨others, later, rfl⟩ := Option.map_eq_some_iff.mp plain
    simp only [List.length_cons] at enough ⊢
    have shorter := (ih (by omega) later).1
    omega
  | case4 fuel rest ih =>
    rw [plain?_pushFront] at plain
    obtain ⟨others, later, rfl⟩ := Option.map_eq_some_iff.mp plain
    simp only [List.length_cons] at enough ⊢
    have shorter := (ih (by omega) later).1
    omega
  | case5 | case6 | case8 => cases plain
  | case7 fuel rest _ _ slot after =>
    rw [plain?, plain?_field_nil] at plain
    cases plain
  | case9 fuel c rest _ _ notClosing _ notOpening ih =>
    rw [plain?_pushFront] at plain
    obtain ⟨others, later, rfl⟩ := Option.map_eq_some_iff.mp plain
    rw [List.length_cons, Nat.succ_le_succ_iff] at enough
    obtain ⟨shorter, same⟩ := ih enough later
    rw [List.length_cons, List.length_cons, Nat.succ_le_succ_iff, Nat.succ_inj]
    refine ⟨shorter, fun equal => ?_⟩
    rw [List.mem_cons, List.mem_cons, not_or, not_or]
    exact ⟨⟨Ne.symm notOpening, (same equal).1⟩, Ne.symm notClosing, (same equal).2⟩

/-- Where nothing has a name, a text comes to itself as a template exactly if it
has no braces. -/
theorem fill_nil_eq_self_iff {s : String} :
    fill [] s = .ok s ↔ '{' ∉ s.toList ∧ '}' ∉ s.toList := by
  constructor
  · intro fills
    have whole : (fillPieces (fillWithin (subject []) 1) (subject []) (pieces s.toList) []).map
        String.ofList = .ok s := fills
    cases filled : fillPieces (fillWithin (subject []) 1) (subject []) (pieces s.toList) [] with
    | error fault =>
      rw [filled] at whole
      cases whole
    | ok out =>
      rw [filled] at whole
      have same : String.ofList out = s := Except.ok.inj whole
      obtain ⟨_, plain, rfl⟩ := plain?_of_fillPieces filled
      have equal : out.length = s.toList.length := by rw [← same, String.toList_ofList]
      exact (length_of_plain? (Nat.le_refl _) plain).2 equal
  · intro plain
    have form : s.toList = [Fragment.text s.toList].flatMap Fragment.written :=
      (List.append_nil _).symm
    have proper : ∀ fragment ∈ [Fragment.text s.toList], fragment.Proper :=
      List.forall_mem_singleton.mpr plain
    have come : fillParts (fillWithin (subject []) 1) (subject []) [.text s.toList] =
        .ok (s.toList ++ []) := rfl
    rw [fill_written form proper [], come, List.append_nil, Except.map, String.ofList_toList]

end Template

end Ratchet
